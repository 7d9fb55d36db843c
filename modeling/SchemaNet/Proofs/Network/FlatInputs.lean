import SchemaNet.Proofs.Network.BatchRows
import SchemaNet.Proofs.Network.FeatureStacks

/-!
The flat inputs that an encoder makes for a network. The columns of an input have names, and
each entry shows what its column says of the state and the history. Cut apart again by the
layout of the network, a batch of such inputs is the stack of its masks, features and truths, so
the network gives for the batch what it gives for the stack.
-/

namespace SchemaNet
open Memory (bind_eq_ok)

variable {α : Type}

section Places

variable {β γ : Type}

theorem map_zipIdx (f : β → γ) (xs : List β) :
    xs.zipIdx.map (fun entry => f entry.1) = xs.map f := by
  conv_rhs => rw [← List.zipIdx_map_fst 0 xs, List.map_map]
  rfl

theorem map_place (f : Nat → γ) (xs : List β) :
    xs.zipIdx.map (fun entry => f entry.2) = (List.range xs.length).map f := by
  rw [List.range_eq_range', ← List.zipIdx_map_snd 0 xs, List.map_map]
  rfl

end Places

/-! ## Rows and their parts -/

namespace InputLayout

variable {layout : InputLayout} {mask props row : List α} {extra : Grid α}

/-- A row that holds a mask, features and truths of the sizes of a layout. -/
structure Encodes (layout : InputLayout) (mask : List α) (extra : Grid α) (props row : List α) :
    Prop where
  length_eq : row.length = layout.width
  mask_eq : row.take layout.numActions = mask
  extra_eq : layout.extraOf row = extra.rows
  props_eq : (row.drop (layout.numActions * (1 + layout.extraDim))).take layout.numProps = props

theorem encode_eq_ok : layout.encode mask extra props = .ok row ↔
    layout.numActions = mask.length ∧ [layout.numActions, layout.extraDim] = extra.dims ∧
      layout.numProps = props.length ∧ mask ++ extra.flat ++ props = row := by
  rw [encode, check_bind_eq_ok, check_bind_eq_ok, check_bind_eq_ok, checkDims_eq_ok,
    checkDims_eq_ok, checkDims_eq_ok, List.cons.injEq, List.cons.injEq, and_iff_left rfl, and_iff_left rfl,
    pure_eq_ok, Except.ok.injEq]

theorem encodes_of_encode (h : layout.encode mask extra props = .ok row) :
    layout.Encodes mask extra props row := by
  obtain ⟨maskSize, extraSize, propsSize, rfl⟩ := encode_eq_ok.1 h
  rw [Grid.dims, List.cons.injEq, List.cons.injEq, and_iff_left rfl] at extraSize
  obtain ⟨height, channels⟩ := extraSize
  have features : extra.flat.length = layout.numActions * layout.extraDim := by
    rw [extra.size, height, channels]
  have before : (mask ++ extra.flat).length = layout.numActions * (1 + layout.extraDim) := by
    rw [List.length_append, features, ← maskSize, Nat.mul_add, Nat.mul_one]
  refine ⟨?_, ?_, ?_, ?_⟩
  · rw [List.length_append, before, ← propsSize, width, Nat.mul_add, Nat.mul_one]
  · rw [List.append_assoc, List.take_left' maskSize.symm]
  · rw [extraOf, List.append_assoc, List.drop_left' maskSize.symm, List.take_left' features,
      Grid.rows, ← height, ← channels]
  · rw [List.drop_left' before, List.take_of_length_le (Nat.le_of_eq propsSize.symm)]

/-- Rows of the right widths are stacked. -/
theorem exists_batch {rows : List (List α)} (fits : ∀ row ∈ rows, row.length = layout.width) :
    ∃ flat, layout.batch rows = .ok flat ∧ flat.height = rows.length ∧ flat.width = layout.width ∧
      flat.rows = rows := by
  rw [batch, dif_pos fits]
  exact ⟨_, rfl, rfl, rfl, Grid.rows_build _⟩

end InputLayout

namespace ObservationEncoder

variable [Scalar α] {encoder : ObservationEncoder α}

/-- The masks, the features and the truths of several states, each of them stacked. -/
structure Stacks (encoder : ObservationEncoder α)
    (observations : List (CanonicalState × List ActId)) (input : MaskedInput α) : Prop where
  mask_dims : input.mask.dims = [observations.length, encoder.problem.numActions]
  mask_rows : input.mask.rows = observations.map fun seen => seen.1.maskVector
  extra_dims : input.extra.dims =
    [observations.length, encoder.problem.numActions, encoder.features.dim]
  extra_rows : List.Forall₂ (fun seen rows =>
    ∃ data, encoder.extraData seen.1 seen.2 = .ok data ∧ data.rows = rows)
    observations input.extra.rows
  props_dims : input.props.dims = [observations.length, encoder.problem.numProps]
  props_rows : input.props.rows = observations.map fun seen => seen.1.propsVector

theorem encodes_of_encode {state : CanonicalState} {history : List ActId} {row : List α}
    (h : encoder.encode state history = .ok row) :
    ∃ data, encoder.extraData state history = .ok data ∧
      encoder.layout.Encodes state.maskVector data state.propsVector row := by
  obtain ⟨data, ran, made⟩ := bind_eq_ok.1 h
  exact ⟨data, ran, InputLayout.encodes_of_encode made⟩

/-- The layout cuts a batch of flat inputs into the stacked parts. -/
theorem exists_split_encodeBatch {observations : List (CanonicalState × List ActId)}
    (each : ∀ seen ∈ observations, ∃ row, encoder.encode seen.1 seen.2 = .ok row) :
    ∃ flat stacked, encoder.encodeBatch observations = .ok flat ∧
      encoder.layout.split flat = .ok stacked ∧ encoder.Stacks observations stacked := by
  obtain ⟨rows, encoded⟩ := exists_mapM_iff.2 each
  have beside := mapM_eq_ok.1 encoded
  have cut : List.Forall₂ (fun (seen : CanonicalState × List ActId) row =>
      ∃ data, encoder.extraData seen.1 seen.2 = .ok data ∧
        encoder.layout.Encodes seen.1.maskVector data seen.1.propsVector row) observations rows :=
    beside.imp fun seen row h => encodes_of_encode h
  have fits : ∀ row ∈ rows, row.length = encoder.layout.width := by
    intro row mem
    obtain ⟨seen, -, data, -, own⟩ := forall₂_mem_right cut mem
    exact own.length_eq
  obtain ⟨flat, stacked, height, width, rows_eq⟩ := InputLayout.exists_batch fits
  obtain ⟨parts, split, own⟩ := InputLayout.exists_parts width
  have count : flat.height = observations.length := height.trans cut.length_eq.symm
  refine ⟨flat, parts, ?_, split, ?_, ?_, ?_, ?_, ?_, ?_⟩
  · rw [encodeBatch, encoded, ok_bind]
    exact stacked
  · rw [own.mask_dims, count]
    rfl
  · rw [own.mask_rows, rows_eq]
    exact (map_eq_map_of_forall₂ cut fun seen row ⟨_, _, h⟩ => h.mask_eq.symm).symm
  · rw [own.extra_dims, count]
    rfl
  · rw [own.extra_rows, rows_eq, List.forall₂_map_right_iff]
    exact cut.imp fun seen row ⟨data, ran, h⟩ => ⟨data, ran, h.extra_eq.symm⟩
  · rw [own.props_dims, count]
    rfl
  · rw [own.props_rows, rows_eq]
    exact (map_eq_map_of_forall₂ cut fun seen row ⟨_, _, h⟩ => h.props_eq.symm).symm

end ObservationEncoder

/-! ## Columns -/

/-- A column of a flat input, about the action or the proposition of that number. -/
inductive Column where
  | mask (action : GroundAction) (id : ActId)
  | feature (action : GroundAction) (id : ActId) (feature : Feature)
  | prop (atom : GroundAtom) (id : PropId)

namespace Column

def name : Column → String
  | mask action _ => s!"enabled({action.ident})"
  | feature action _ told => s!"{told.name}({action.ident})"
  | prop atom _ => s!"({atom.ident})"

/-- First the mask, then the features action by action, then the propositions. -/
def all (problem : Problem) (features : List Feature) : List Column :=
  problem.actions.zipIdx.map (fun (action, id) => mask action id)
    ++ problem.actions.zipIdx.flatMap (fun (action, id) => features.map (feature action id))
    ++ problem.props.zipIdx.map (fun (atom, id) => prop atom id)

variable [Scalar α]

def value (state : CanonicalState) (history : List ActId) : Column → α
  | mask _ id => Scalar.indicator (state.isEnabled id)
  | feature _ id told => told.value state history id
  | prop _ id => Scalar.indicator (state.propsTrue.getD id false)

theorem map_name (encoder : ObservationEncoder α) {features : List Feature}
    (provides : encoder.features.Provides features) :
    (all encoder.problem features).map name = encoder.columnNames := by
  have mask := map_zipIdx (fun (action : GroundAction) => s!"enabled({action.ident})")
    encoder.problem.actions
  have extra := map_zipIdx (fun (action : GroundAction) => features.map fun told =>
    s!"{told.name}({action.ident})") encoder.problem.actions
  have props := map_zipIdx (fun (atom : GroundAtom) => s!"({atom.ident})") encoder.problem.props
  simp only [all, ObservationEncoder.columnNames, provides.names_eq, List.map_append, List.map_map,
    List.map_flatMap, List.flatMap_map, Function.comp_def, name]
  rw [mask, props, List.flatMap_def, extra, ← List.flatMap_def]

theorem map_value {problem : Problem} {features : List Feature} {state : CanonicalState}
    {history : List ActId} (describes : state.Describes problem) {data : Grid α}
    (table : data.Tabulates problem.numActions features fun id told =>
      told.value state history id) :
    (all problem features).map (value state history) =
      state.maskVector ++ data.flat ++ state.propsVector := by
  have mask := map_place (fun id => (Scalar.indicator (state.isEnabled id) : α)) problem.actions
  have extra := map_place (fun id => features.map fun told => (told.value state history id : α))
    problem.actions
  have props := map_place (fun id => (Scalar.indicator (state.propsTrue.getD id false) : α))
    problem.props
  have rows : data.rows = (List.range problem.actions.length).map fun id => features.map fun told =>
    told.value state history id := table.rows_eq
  simp only [all, List.map_append, List.map_map, List.map_flatMap, Function.comp_def, value]
  rw [mask, props, List.flatMap_def, extra, ← rows, data.flatten_rows, describes.maskVector_eq,
    describes.propsVector_eq]
  rfl

/-- An entry is one or zero as a flag says. -/
def Flags (x : α) (flag : Bool) : Prop :=
  x = Scalar.indicator flag ∧ (x = Scalar.one ↔ flag = true)

/-- What an entry of a column says: whether an action is enabled or a proposition is true, or how
often an action was taken as long as it can be counted. -/
def Shows (state : CanonicalState) (history : List ActId) : Column → α → Prop
  | mask _ id, x => Flags x (state.isEnabled id)
  | feature _ id .enabled, x => Flags x (state.isEnabled id)
  | feature _ id .count, x =>
    history.count id ≤ Nat.pow 2 24 → x = Scalar.ofNat (history.count id)
  | prop _ id, x => Flags x (state.propsTrue.getD id false)

theorem shows_value [CountingScalar α] (state : CanonicalState) (history : List ActId)
    (column : Column) : column.Shows state history (column.value state history : α) := by
  match column with
  | mask _ id => exact ⟨rfl, Scalar.indicator_eq_one⟩
  | feature _ id .enabled => exact ⟨rfl, Scalar.indicator_eq_one⟩
  | feature _ id .count => exact Feature.tally_eq_ofNat
  | prop _ id => exact ⟨rfl, Scalar.indicator_eq_one⟩

end Column

/-! ## Encoders of the built-in features -/

namespace ObservationEncoder

variable [Scalar α] {encoder : ObservationEncoder α} {features : List Feature}
  {state : CanonicalState} {history : List ActId}

theorem encode_eq_ok (provides : encoder.features.Provides features)
    (describes : state.Describes encoder.problem)
    (known : .count ∈ features → encoder.problem.Knows history) :
    encoder.encode state history =
      .ok ((Column.all encoder.problem features).map (Column.value state history)) := by
  obtain ⟨data, ran, table⟩ := provides.data_ok describes fun counted =>
    Problem.foreignAction?_eq_none.2 (known counted)
  have mask : encoder.problem.numActions = (state.maskVector : List α).length := by
    rw [CanonicalState.maskVector, List.length_map, describes.enabled]
  have extra : [encoder.problem.numActions, encoder.features.dim] = data.dims := by
    rw [Grid.dims, table.height_eq, table.width_eq, provides.dim_eq]
  have props : encoder.problem.numProps = (state.propsVector : List α).length := by
    rw [CanonicalState.propsVector, List.length_map, describes.props]
  rw [encode, extraData, ran, ok_bind, Column.map_value describes table]
  exact InputLayout.encode_eq_ok.2 ⟨mask, extra, props, rfl⟩

theorem encode_eq_error (provides : encoder.features.Provides features)
    (describes : state.Describes encoder.problem) (counted : .count ∈ features) {id : ActId}
    (foreign : encoder.problem.foreignAction? history = some id) :
    encoder.encode state history = .error (.config (.foreignAction id encoder.problem.name)) := by
  rw [encode, extraData, provides.data_error describes counted foreign]
  rfl

end ObservationEncoder

end SchemaNet

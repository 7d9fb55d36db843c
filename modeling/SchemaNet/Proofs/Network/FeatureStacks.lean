import SchemaNet.Network.Observation
import SchemaNet.Proofs.Network.Views
import SchemaNet.Proofs.Scalar.Counting

/-!
The features that the built-in sources give, alone or stacked. A stack describes every action by
the features of its leaves from the first to the last, however the leaves are nested. Only a
leaf that counts reads the history, and it refuses actions that the problem does not have.
-/

namespace SchemaNet

/-- A state of a problem has a flag for each proposition and each action. -/
structure CanonicalState.Describes (state : CanonicalState) (problem : Problem) : Prop where
  props : state.propsTrue.length = problem.numProps
  enabled : state.enabled.length = problem.numActions

/-- The first action of a history that a problem does not have. -/
def Problem.foreignAction? (problem : Problem) (history : List ActId) : Option ActId :=
  history.find? fun id => problem.numActions ≤ id

/-- All actions of a history are actions of the problem. -/
def Problem.Knows (problem : Problem) (history : List ActId) : Prop :=
  ∀ id ∈ history, id < problem.numActions

instance {problem : Problem} {history : List ActId} : Decidable (problem.Knows history) :=
  inferInstanceAs (Decidable (∀ id ∈ history, id < problem.numActions))

theorem Problem.foreignAction?_eq_none {problem : Problem} {history : List ActId} :
    problem.foreignAction? history = none ↔ problem.Knows history := by
  simp [foreignAction?, Knows]

variable {α : Type}

/-! ## Matrices beside each other -/

namespace Grid

variable {β : Type} {batch : Nat} {value : Nat → β → α}

theorem Tabulates.append {left right : Grid α} {xs ys : List β}
    (h : left.Tabulates batch xs value) (h' : right.Tabulates batch ys value) :
    (left.append right).Tabulates batch (xs ++ ys) value := by
  refine ⟨?_, ?_, ?_⟩
  · show min left.height right.height = batch
    rw [h.height_eq, h'.height_eq, Nat.min_self]
  · show left.width + right.width = _
    rw [h.width_eq, h'.width_eq, List.length_append]
  · rw [Grid.append, rows_build, h.rows_eq, h'.rows_eq, List.zipWith_map]
    simp

theorem tabulates_nil (batch : Nat) (value : Nat → β → α) :
    (⟨batch, 0, [], rfl⟩ : Grid α).Tabulates batch [] value := by
  have shape := (⟨batch, 0, [], rfl⟩ : Grid α).rows_shape
  refine ⟨rfl, rfl, ?_⟩
  simp only [List.map_nil, List.map_const', List.length_range, List.eq_replicate_iff]
  exact ⟨shape.count, fun row mem => List.eq_nil_of_length_eq_zero (shape.each row mem)⟩

theorem Tabulates.foldl_append {start : Grid α} {xs : List β}
    (first : start.Tabulates batch xs value) {parts : List (Grid α)} {lists : List (List β)}
    (h : List.Forall₂ (fun part own => part.Tabulates batch own value) parts lists) :
    (parts.foldl Grid.append start).Tabulates batch (xs ++ lists.flatten) value := by
  induction h generalizing start xs with
  | nil => simpa using first
  | cons own _ ih =>
    have later := ih (first.append own)
    rw [List.append_assoc] at later
    exact later

theorem tabulates_column (value : Nat → β → α) (x : β) :
    (Grid.column ((List.range batch).map (value · x))).Tabulates batch [x] value := by
  refine ⟨by simp [column], rfl, ?_⟩
  have single : ∀ row ∈ (List.range batch).map fun b => [value b x], row.length = 1 := by simp
  have rows := chunks_flatten single
  rw [← List.flatMap_def, ← List.map_eq_flatMap, List.length_map] at rows
  rw [Grid.rows]
  simpa [column] using rows

end Grid

/-! ## States -/

variable [Scalar α]

theorem map_indicator (flags : List Bool) : flags.map (Scalar.indicator : Bool → α) =
    (List.range flags.length).map fun id => Scalar.indicator (flags.getD id false) := by
  conv_lhs => rw [← map_range_getD flags false]
  rw [List.map_map]
  rfl

namespace CanonicalState.Describes

variable {state : CanonicalState} {problem : Problem}

theorem maskVector_eq (h : state.Describes problem) : (state.maskVector : List α) =
    (List.range problem.numActions).map fun id => Scalar.indicator (state.isEnabled id) := by
  rw [← h.enabled]
  exact map_indicator state.enabled

theorem propsVector_eq (h : state.Describes problem) : (state.propsVector : List α) =
    (List.range problem.numProps).map fun id =>
      Scalar.indicator (state.propsTrue.getD id false) := by
  rw [← h.props]
  exact map_indicator state.propsTrue

end CanonicalState.Describes

/-! ## Features -/

/-- What a built-in source tells about an action. -/
inductive Feature where
  | enabled
  | count
  deriving DecidableEq, Repr

namespace Feature

def name : Feature → String
  | enabled => "enabled"
  | count => "count"

/-- The number of times that an action was taken, counted in steps of one. -/
def tally (history : List ActId) (id : ActId) : α :=
  history.foldl (fun times taken => if taken = id then times + Scalar.one else times) Scalar.zero

def value (state : CanonicalState) (history : List ActId) (id : ActId) : Feature → α
  | enabled => Scalar.indicator (state.isEnabled id)
  | count => tally history id

end Feature

theorem Scalar.indicator_eq_one [CountingScalar α] {flag : Bool} :
    (indicator flag : α) = one ↔ flag = true := by
  cases flag with
  | true => simp [indicator]
  | false => simpa [indicator] using fun same => CountingScalar.one_ne_zero (α := α) same.symm

theorem Feature.tally_eq_ofNat [CountingScalar α] {history : List ActId} {id : ActId}
    (small : history.count id ≤ Nat.pow 2 24) :
    (tally history id : α) = Scalar.ofNat (history.count id) := by
  have counted : ∀ start, start + history.count id ≤ Nat.pow 2 24 →
      history.foldl (fun times taken => if taken = id then times + Scalar.one else times)
        (Scalar.ofNat start : α) = Scalar.ofNat (start + history.count id) := by
    clear small
    induction history with
    | nil => simp
    | cons taken rest ih =>
      intro start small
      rw [List.count_cons] at small ⊢
      rw [List.foldl_cons]
      by_cases same : taken = id
      · simp only [same, if_true, beq_self_eq_true] at small ⊢
        rw [CountingScalar.add_one start (by omega), ih (start + 1) (by omega), Nat.add_right_comm,
          Nat.add_assoc]
      · simp only [same, if_false, beq_iff_eq, Nat.add_zero] at small ⊢
        exact ih start small
  have whole := counted 0 (by omega)
  rw [Nat.zero_add] at whole
  exact whole

namespace FeatureSource

/-- A source of these features. It fails on a foreign action if it counts, and never otherwise. -/
structure Provides (source : FeatureSource α) (features : List Feature) : Prop where
  dim_eq : source.dim = features.length
  names_eq : source.names.get = features.map Feature.name
  data_ok : ∀ {problem : Problem} {state : CanonicalState} {history : List ActId},
    state.Describes problem →
      (.count ∈ features → problem.foreignAction? history = none) →
        ∃ data, source.data problem state history = .ok data ∧
          data.Tabulates problem.numActions features fun id feature =>
            feature.value state history id
  data_error : ∀ {problem : Problem} {state : CanonicalState} {history : List ActId} {id : ActId},
    state.Describes problem → .count ∈ features → problem.foreignAction? history = some id →
      source.data problem state history = .error (.config (.foreignAction id problem.name))

theorem provides_enabled : (enabled : FeatureSource α).Provides [.enabled] where
  dim_eq := rfl
  names_eq := rfl
  data_ok {problem state history} describes _ := by
    refine ⟨_, if_pos describes.enabled, ?_⟩
    rw [describes.maskVector_eq]
    exact Grid.tabulates_column (fun id feature => (feature.value state history id : α))
      Feature.enabled
  data_error _ counted := by simp at counted

theorem provides_count : (count : FeatureSource α).Provides [.count] where
  dim_eq := rfl
  names_eq := rfl
  data_ok {problem state history} _ own := by
    have none : history.find? (fun id => problem.numActions ≤ id) = none := own (by simp)
    refine ⟨_, by rw [count]; dsimp only; rw [none], ?_⟩
    exact Grid.tabulates_column (fun id feature => (feature.value state history id : α))
      Feature.count
  data_error {problem state history id} _ _ foreign := by
    have first : history.find? (fun id => problem.numActions ≤ id) = some id := foreign
    rw [count]
    dsimp only
    rw [first]

theorem Provides.checkedData_ok {source : FeatureSource α} {features : List Feature}
    (h : source.Provides features) {problem : Problem} {state : CanonicalState}
    {history : List ActId} (describes : state.Describes problem)
    (own : .count ∈ features → problem.foreignAction? history = none) :
    ∃ data, source.checkedData problem state history = .ok data ∧
      data.Tabulates problem.numActions features fun id feature =>
        feature.value state history id := by
  obtain ⟨data, ran, tabulates⟩ := h.data_ok describes own
  refine ⟨data, ?_, tabulates⟩
  rw [checkedData, ran, ok_bind, checkDims, if_pos, ok_bind]
  · rfl
  · rw [h.dim_eq, Grid.dims, tabulates.height_eq, tabulates.width_eq]

theorem Provides.checkedData_error {source : FeatureSource α} {features : List Feature}
    (h : source.Provides features) {problem : Problem} {state : CanonicalState}
    {history : List ActId} {id : ActId} (describes : state.Describes problem)
    (counted : .count ∈ features) (foreign : problem.foreignAction? history = some id) :
    source.checkedData problem state history =
      .error (.config (.foreignAction id problem.name)) := by
  rw [checkedData, h.data_error describes counted foreign]
  rfl

section Stacks

variable {sources : List (FeatureSource α)} {lists : List (List Feature)} {problem : Problem}
  {state : CanonicalState} {history : List ActId}

theorem mapM_checkedData_ok (each : List.Forall₂ Provides sources lists)
    (describes : state.Describes problem)
    (own : .count ∈ lists.flatten → problem.foreignAction? history = none) :
    ∃ parts, (sources.mapM fun source => source.checkedData problem state history) = .ok parts ∧
      List.Forall₂ (fun part features =>
        part.Tabulates problem.numActions features fun id feature =>
          feature.value state history id) parts lists := by
  induction each with
  | nil => exact ⟨[], rfl, .nil⟩
  | cons first _ ih =>
    rw [List.flatten_cons] at own
    obtain ⟨part, ran, table⟩ := first.checkedData_ok describes fun counted =>
      own (List.mem_append_left _ counted)
    obtain ⟨parts, rest, tables⟩ := ih fun counted => own (List.mem_append_right _ counted)
    exact ⟨part :: parts, by rw [List.mapM_cons, ran, ok_bind, rest]; rfl, .cons table tables⟩

/-- The sources before the first one that counts have their data. -/
theorem mapM_checkedData_error (each : List.Forall₂ Provides sources lists)
    (describes : state.Describes problem) (counted : .count ∈ lists.flatten) {id : ActId}
    (foreign : problem.foreignAction? history = some id) :
    (sources.mapM fun source => source.checkedData problem state history) =
      .error (.config (.foreignAction id problem.name)) := by
  induction each with
  | nil => simp at counted
  | @cons source features sources lists first _ ih =>
    rw [List.mapM_cons]
    by_cases now : .count ∈ features
    · rw [first.checkedData_error describes now foreign]
      rfl
    · obtain ⟨part, ran, -⟩ := first.checkedData_ok describes fun own => absurd own now
      rw [List.flatten_cons, List.mem_append] at counted
      rw [ran, ok_bind, ih (counted.resolve_left now)]
      rfl

theorem provides_stack (each : List.Forall₂ Provides sources lists) :
    (stack sources).Provides lists.flatten where
  dim_eq := by
    show Size.total (sources.map fun source => source.dim) = _
    induction each with
    | nil => rfl
    | cons first _ ih =>
      rw [List.map_cons, Size.total_cons, ih, List.flatten_cons, List.length_append, first.dim_eq]
  names_eq := by
    show (sources.flatMap fun source => source.names.get) = _
    induction each with
    | nil => rfl
    | cons first _ ih =>
      rw [List.flatMap_cons, ih, List.flatten_cons, List.map_append, first.names_eq]
  data_ok {problem state history} describes own := by
    obtain ⟨parts, ran, tables⟩ := mapM_checkedData_ok each describes own
    refine ⟨_, by rw [stack]; dsimp only; rw [ran, ok_bind]; rfl, ?_⟩
    simpa using (Grid.tabulates_nil problem.numActions _).foldl_append tables
  data_error describes counted foreign := by
    rw [stack]
    dsimp only
    rw [mapM_checkedData_error each describes counted foreign]
    rfl

end Stacks

end FeatureSource

/-! ## Trees of sources -/

/-- A built-in source, or a stack of such trees. -/
inductive FeatureTree where
  | leaf (feature : Feature)
  | stack (parts : List FeatureTree)

def Feature.source : Feature → FeatureSource α
  | enabled => .enabled
  | count => .count

theorem Feature.provides_source (feature : Feature) :
    (feature.source : FeatureSource α).Provides [feature] := by
  cases feature with
  | enabled => exact FeatureSource.provides_enabled
  | count => exact FeatureSource.provides_count

namespace FeatureTree

mutual

/-- The leaves from the first to the last. -/
def features : FeatureTree → List Feature
  | leaf feature => [feature]
  | stack parts => (partFeatures parts).flatten

def partFeatures : List FeatureTree → List (List Feature)
  | [] => []
  | part :: rest => part.features :: partFeatures rest

end

mutual

def source : FeatureTree → FeatureSource α
  | leaf feature => feature.source
  | stack parts => .stack (sources parts)

def sources : List FeatureTree → List (FeatureSource α)
  | [] => []
  | part :: rest => part.source :: sources rest

end

mutual

theorem provides_source : (tree : FeatureTree) →
    (tree.source : FeatureSource α).Provides tree.features
  | leaf feature => by
    rw [source, features]
    exact feature.provides_source
  | stack parts => by
    rw [source, features]
    exact FeatureSource.provides_stack (provides_sources parts)

theorem provides_sources : (parts : List FeatureTree) →
    List.Forall₂ FeatureSource.Provides (sources parts : List (FeatureSource α))
      (partFeatures parts)
  | [] => .nil
  | part :: rest => .cons (provides_source part) (provides_sources rest)

end

end FeatureTree

end SchemaNet

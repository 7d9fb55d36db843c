import SchemaNet.Planning.Instance
import SchemaNet.Proofs.Planning.Extraction

/-!
Instances that are accepted. Their entities stand in the problem in canonical order, and each
flag that a proposition is listed with is found at the place of this proposition, whatever the
order of the list.
-/

namespace SchemaNet

open Memory (bind_eq_ok)

namespace Problem

variable (problem : Problem)

/-- The truth of the propositions of a problem if the given ones are true. -/
def truthOf (atoms : List GroundAtom) : List Bool :=
  problem.props.map fun prop => decide (prop.ident ∈ atoms.map GroundAtom.ident)

theorem goalFlags_eq : problem.goalFlags = problem.truthOf problem.goals := by
  simp [goalFlags, truthOf, problem.index_eq, Index.ofEntities]

end Problem

namespace Instance

/-- The propositions that are listed with a flag. -/
def listedWith (inst : Instance) (flag : PropListing → Bool) : List GroundAtom :=
  (inst.problem.props.filter flag).map PropListing.atom

theorem grounding_props (inst : Instance) :
    inst.grounding.props.map (·.1) = inst.problem.props.map PropListing.atom := by
  simp [grounding, Function.comp_def]

theorem grounding_goals (inst : Instance) :
    inst.grounding.goals = inst.listedWith PropListing.goal := by
  simp [grounding, Grounding.goals, listedWith, List.filter_map, Function.comp_def]

/-! ## The initial state -/

/-- Truth by position, if the given positions are those of the true propositions. -/
def truthAt (n : Nat) (ids : List PropId) : List Bool :=
  (List.range n).map fun id => decide (id ∈ ids)

/-- Makes a proposition true that is listed as true initially. -/
def mark (problem : Problem) (truth : List Bool) (listing : PropListing) :
    Except Halt (List Bool) := do
  let id ← Indexing.refuse (problem.propIndex listing.atom.ident)
  Table.write truth id true

/-- The initial state, found in one pass over the propositions that are listed as true. -/
def markAll (inst : Instance) (problem : Problem) : Except Halt (List Bool) :=
  (inst.problem.props.filter PropListing.init).foldlM (mark problem)
    (List.replicate problem.numProps false)

section InitialState

variable {problem : Problem}

theorem mark_eq (ids : List PropId) (listing : PropListing) :
    mark problem (truthAt problem.numProps ids) listing =
      Indexing.refuse (do
        let id ← problem.propIndex listing.atom.ident
        return truthAt problem.numProps (ids ++ [id])) := by
  unfold mark
  cases found : problem.propIndex listing.atom.ident with
  | error fault => rfl
  | ok id =>
    obtain ⟨prop, place, -⟩ := Problem.propIndex_eq_ok.1 found
    have inside : id < problem.numProps := (List.getElem?_eq_some_iff.1 place).1
    refine (Table.revise_map List.nodup_range (List.getElem?_range inside) true rfl).trans ?_
    refine congrArg Except.ok (List.map_congr_left fun other _ => ?_)
    by_cases own : other = id <;> simp [own]

theorem marks_eq (ids : List PropId) (listings : List PropListing) :
    listings.foldlM (mark problem) (truthAt problem.numProps ids) =
      Indexing.refuse (do
        let more ← listings.mapM fun listing => problem.propIndex listing.atom.ident
        return truthAt problem.numProps (ids ++ more)) := by
  induction listings generalizing ids with
  | nil =>
    rw [List.foldlM_nil, List.mapM_nil, pure_eq_ok, pure_eq_ok, ok_bind, List.append_nil]
    rfl
  | cons listing rest ih =>
    rw [List.foldlM_cons, mark_eq, List.mapM_cons]
    cases problem.propIndex listing.atom.ident with
    | error fault => rfl
    | ok id =>
      refine (ih (ids ++ [id])).trans (congrArg Indexing.refuse ?_)
      rw [ok_bind]
      cases rest.mapM fun listing => problem.propIndex listing.atom.ident with
      | error fault => rfl
      | ok more =>
        rw [ok_bind, ok_bind, pure_eq_ok, List.append_assoc]
        rfl

/-- The pass ends with the initial state, or it is refused for the same proposition. -/
theorem markAll_eq (inst : Instance) (problem : Problem) :
    inst.markAll problem = Indexing.refuse (inst.initialState problem) := by
  have start : truthAt problem.numProps [] = List.replicate problem.numProps false := by
    simp [truthAt]
  rw [markAll, ← start, marks_eq]
  rfl

theorem truthAt_eq {listings : List PropListing} {ids : List PropId}
    (found : List.Forall₂ (fun listing id => problem.propIndex listing.atom.ident = .ok id)
      listings ids) :
    truthAt problem.numProps ids = problem.truthOf (listings.map PropListing.atom) := by
  refine map_range_eq_map fun i prop place => decide_eq_decide.2 ?_
  rw [List.map_map, List.mem_map]
  constructor
  · intro mem
    obtain ⟨listing, among, own⟩ := forall₂_mem_right found mem
    obtain ⟨other, place', same⟩ := Problem.propIndex_eq_ok.1 own
    obtain rfl := Option.some.inj (place.symm.trans place')
    exact ⟨listing, among, same.symm⟩
  · rintro ⟨listing, among, same⟩
    obtain ⟨id, mem, own⟩ := forall₂_mem_left found among
    have index := Problem.propIndex_eq_ok.2 ⟨prop, place, same.symm⟩
    obtain rfl := Except.ok.inj (own.symm.trans index)
    exact mem

theorem exists_initialState_iff {inst : Instance} :
    (∃ truth, inst.initialState problem = .ok truth) ↔
      ∀ listing ∈ inst.problem.props, listing.init = true →
        ∃ prop ∈ problem.props, prop.ident = listing.atom.ident := by
  have each : ∀ ident, (∃ id, problem.propIndex ident = .ok id) ↔
      ∃ prop ∈ problem.props, prop.ident = ident := fun ident => by
    simp only [Problem.propIndex_eq_ok, List.mem_iff_getElem?]
    grind
  simp only [initialState, exists_bind_iff, pure_eq_ok, Except.ok.injEq, exists_eq', and_true,
    exists_mapM_iff, each, List.mem_filter, and_imp]

theorem truth_of_initialState {inst : Instance} {truth : List Bool}
    (h : inst.initialState problem = .ok truth) :
    truth = problem.truthOf (inst.listedWith PropListing.init) := by
  obtain ⟨ids, found, made⟩ := bind_eq_ok.1 h
  rw [← Except.ok.inj made]
  exact truthAt_eq (mapM_eq_ok.1 found)

end InitialState

/-! ## Accepted instances -/

/-- The truth values by position of the propositions that are listed with a flag. -/
structure CarriesFlag (inst : Instance) (problem : Problem) (flag : PropListing → Bool)
    (truth : List Bool) : Prop where
  length : truth.length = problem.numProps
  flagged : ∀ (id : PropId) (prop : GroundAtom), problem.props[id]? = some prop →
    (truth[id]? = some true ↔ ∃ listing ∈ inst.problem.props, listing.atom = prop ∧ flag listing)

/-- The problem of an instance has the entities that the instance lists, and their flags. -/
structure Represented (inst : Instance) (domain : Domain) (problem : Problem) : Prop where
  domain_eq : problem.domain = domain
  props : problem.props.Perm (inst.problem.props.map PropListing.atom)
  props_increasing : problem.props.Pairwise fun a b => a.ident < b.ident
  actions : ∃ bound, List.Forall₂ (Problem.BoundBy domain) inst.problem.actions bound ∧
    problem.actions.Perm bound
  actions_increasing : problem.actions.Pairwise fun a b => a.ident < b.ident
  goalFlags : inst.CarriesFlag problem PropListing.goal problem.goalFlags
  goals : problem.goals.Perm (inst.listedWith PropListing.goal)
  initial : ∃ truth, inst.initialState problem = .ok truth ∧ inst.markAll problem = .ok truth ∧
    inst.CarriesFlag problem PropListing.init truth

section Accepted

variable {inst : Instance} {problem : Problem}

/-- A proposition is listed once, so its flag does not depend on which of its listings is read. -/
theorem carriesFlag_truthOf (listed : problem.props.Perm (inst.problem.props.map PropListing.atom))
    (flag : PropListing → Bool) :
    inst.CarriesFlag problem flag (problem.truthOf (inst.listedWith flag)) where
  length := List.length_map _
  flagged id prop place := by
    have own := List.mem_of_getElem? place
    rw [Problem.truthOf, List.getElem?_map, place, Option.map_some, Option.some_inj,
      decide_eq_true_eq]
    simp only [listedWith, List.mem_map, List.mem_filter, exists_exists_and_eq_and]
    constructor
    · rintro ⟨listing, ⟨among, flagged⟩, same⟩
      have mem : listing.atom ∈ problem.props := listed.mem_iff.2 (List.mem_map_of_mem among)
      exact ⟨listing, among, List.inj_on_of_nodup_map problem.props_distinct mem own same, flagged⟩
    · rintro ⟨listing, among, rfl, flagged⟩
      exact ⟨listing, ⟨among, flagged⟩, rfl⟩

theorem goals_perm {name : Symbol} {domain : Domain} {actions : List GroundAction}
    {props goals : List GroundAtom}
    (built : Problem.build name domain actions props goals = .ok problem)
    (once : (goals.map GroundAtom.ident).Nodup) : problem.goals.Perm goals := by
  obtain ⟨-, -, -, goalsEq⟩ := Problem.fields_of_build built
  have sorted := canonical_perm GroundAtom.ident goals
  rw [goalsEq, distinctBy_eq_self ((sorted.map _).nodup_iff.2 once)]
  exact sorted

theorem represented {domain : Domain} (h : Problem.extract inst.grounding domain = .ok problem) :
    inst.Represented domain problem := by
  obtain ⟨-, bound, grounded, built⟩ := Problem.extract_eq_ok.1 h
  rw [grounding_props, grounding_goals] at built
  obtain ⟨domainEq, actions, props, -⟩ := Problem.build_lists built
  have once : ((inst.problem.props.map PropListing.atom).map GroundAtom.ident).Nodup :=
    (props.map _).nodup_iff.1 problem.props_distinct
  -- No goal is listed twice, so none is dropped.
  have goals : problem.goals.Perm (inst.listedWith PropListing.goal) :=
    goals_perm built (once.sublist ((List.filter_sublist.map _).map _))
  have flags : problem.goalFlags = problem.truthOf (inst.listedWith PropListing.goal) := by
    rw [Problem.goalFlags_eq, Problem.truthOf, Problem.truthOf]
    simp only [(goals.map GroundAtom.ident).mem_iff]
  obtain ⟨truth, initial⟩ : ∃ truth, inst.initialState problem = .ok truth :=
    exists_initialState_iff.2 fun listing among _ =>
      ⟨listing.atom, props.mem_iff.2 (List.mem_map_of_mem among), rfl⟩
  have carried := carriesFlag_truthOf props PropListing.init
  rw [← truth_of_initialState initial] at carried
  exact
    { domain_eq := domainEq
      props
      props_increasing := increasing_of_distinct problem.props_sorted problem.props_distinct
      actions := ⟨bound, (mapM_eq_ok.1 grounded).imp fun _ _ => Problem.ground_eq_ok.1, actions⟩
      actions_increasing := increasing_of_distinct problem.actions_sorted problem.actions_distinct
      goalFlags := flags ▸ carriesFlag_truthOf props PropListing.goal
      goals
      initial := ⟨truth, initial, by rw [markAll_eq, initial]; rfl, carried⟩ }

/-- The problem extracted from an instance represents it. Another instance has an initial state
in this problem if all that it lists as true is known there by identifier. -/
theorem represented_by_problem (inst : Instance) (domain : Domain) (problem : Problem)
    (extracted : Problem.extract inst.grounding domain = .ok problem) :
    inst.Represented domain problem ∧ ∀ other : Instance,
      (∃ truth, other.initialState problem = .ok truth) ↔
        ∀ listing ∈ other.problem.props, listing.init = true →
          ∃ prop ∈ problem.props, prop.ident = listing.atom.ident :=
  ⟨represented extracted, fun _ => exists_initialState_iff⟩

/-- The short walk, listed backwards. It begins where the first walk does. -/
def walkInstance : Instance where
  domain := Problem.walkListing
  problem :=
    { name := "short"
      props := WalkDomain.props.reverse.map fun prop =>
        ⟨prop.predicate, prop.args, decide (prop ∈ WalkDomain.goals), decide (prop.args = ["a"])⟩
      actions := WalkDomain.actions.reverse.map fun action => ⟨action.schema, action.args⟩ }

/-- An instance that begins at a place that the short walk does not know. -/
def strayInstance : Instance :=
  { walkInstance with problem := ⟨"stray", [⟨"at", ["d"], false, true⟩], []⟩ }

theorem walk_represented :
    ∃ problem, Domain.extract walkInstance.domain = .ok WalkDomain.domain ∧
      Problem.extract walkInstance.grounding WalkDomain.domain = .ok problem ∧
      walkInstance.Represented WalkDomain.domain problem ∧
      ¬∃ truth, strayInstance.initialState problem = .ok truth := by
  have own : Domain.extract walkInstance.domain = .ok WalkDomain.domain := by decide
  obtain ⟨problem, built⟩ : ∃ problem, Problem.build "short" WalkDomain.domain
      WalkDomain.actions.reverse WalkDomain.props.reverse WalkDomain.goals = .ok problem :=
    Problem.exists_build_iff.2 (WalkDomain.problem.accepted.of_perm (List.reverse_perm _)
      (List.reverse_perm _) fun _ => Iff.rfl)
  have extracted : Problem.extract walkInstance.grounding WalkDomain.domain = .ok problem :=
    Problem.extract_eq_ok.2 ⟨own, WalkDomain.actions.reverse, by decide, built⟩
  obtain ⟨represented, others⟩ := represented_by_problem _ _ _ extracted
  refine ⟨problem, own, extracted, represented, fun started => ?_⟩
  obtain ⟨prop, listed, same⟩ := (others strayInstance).1 started _ (List.mem_singleton_self _) rfl
  have unknown : ∀ prop ∈ WalkDomain.props.reverse, prop.ident ≠ "at d" := by decide
  exact unknown prop ((Problem.build_lists built).props.mem_iff.1 listed) same

end Accepted

end Instance

end SchemaNet

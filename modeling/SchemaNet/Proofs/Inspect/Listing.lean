import SchemaNet.Inspect.Report
import SchemaNet.Proofs.Network.GreedyPolicy
import SchemaNet.Proofs.Planning.Construction
import SchemaNet.Proofs.Scalar.Binary32Order

/-!
The listing of a policy beside its greedy action. The listing is sorted and keeps the canonical
order of actions with the same probability, so its first line is the first one of the most
probable actions. The greedy action is the last of them.
-/

namespace SchemaNet

/-- Elements with a property come first in a list if none follows an element without it. -/
theorem eq_filter_append_filter_not {β : Type} {p : β → Bool} {xs : List β}
    (h : xs.Pairwise fun a b => p b → p a) : xs = xs.filter p ++ xs.filter fun x => !p x := by
  induction xs with
  | nil => rfl
  | cons x rest ih =>
    rw [List.pairwise_cons] at h
    cases own : p x with
    | true =>
      rw [List.filter_cons_of_pos own, List.filter_cons_of_neg (by simp [own]), List.cons_append,
        ← ih h.2]
    | false =>
      have none_later : ∀ y ∈ rest, ¬p y := fun y mem later => by simpa [own] using h.1 y mem later
      rw [List.filter_cons_of_neg (by simp [own]), List.filter_cons_of_pos (by simp [own]),
        List.filter_eq_nil_iff.2 none_later, List.nil_append,
        List.filter_eq_self.2 fun y mem => by simpa using none_later y mem]

namespace Inspect.Report

variable {problem : Problem} {row : List Float32}

/-! ## The listing -/

theorem precedes_iff {p q : Float32} :
    (Scalar.order q p != .gt) = true ↔ Binary32.rank q ≤ Binary32.rank p := by
  rw [bne_iff_ne, ne_eq, ← not_lt]
  exact not_congr Int.compare_eq_gt

theorem mem_ranking {entry : GroundAction × Float32} :
    entry ∈ ranking problem row ↔
      entry ∈ problem.actions.zip row ∧ Scalar.lt Scalar.zero entry.2 = true := by
  rw [ranking, List.mem_filter, List.mem_mergeSort]

theorem ranking_perm : (ranking problem row).Perm
    ((problem.actions.zip row).filter fun entry => Scalar.lt Scalar.zero entry.2) :=
  (List.mergeSort_perm _ _).filter _

/-- The order of the listing is transitive and total. -/
theorem precedes_trans (a b c : GroundAction × Float32)
    (ab : (Scalar.order b.2 a.2 != .gt) = true) (bc : (Scalar.order c.2 b.2 != .gt) = true) :
    (Scalar.order c.2 a.2 != .gt) = true :=
  precedes_iff.2 ((precedes_iff.1 bc).trans (precedes_iff.1 ab))

theorem precedes_total (a b : GroundAction × Float32) :
    ((Scalar.order b.2 a.2 != .gt) || (Scalar.order a.2 b.2 != .gt)) = true := by
  rw [Bool.or_eq_true, precedes_iff, precedes_iff]
  exact le_total _ _

theorem ranking_sorted : (ranking problem row).Pairwise
    fun a b => Binary32.rank b.2 ≤ Binary32.rank a.2 := by
  have sorted := List.pairwise_mergeSort precedes_trans precedes_total (problem.actions.zip row)
  exact (sorted.imp fun h => precedes_iff.1 h).filter _

/-- The sort is stable: the actions of one probability are in canonical order. -/
theorem ranking_filter {p : Float32} (positive : Scalar.lt Scalar.zero p = true) :
    (ranking problem row).filter (fun entry => entry.2 = p) =
      (problem.actions.zip row).filter fun entry => entry.2 = p := by
  have same_rank : ((problem.actions.zip row).filter fun entry => entry.2 = p).Pairwise
      fun a b => (Scalar.order b.2 a.2 != .gt) = true := by
    refine List.pairwise_of_forall_mem_list fun a ha b hb => precedes_iff.2 (le_of_eq ?_)
    rw [of_decide_eq_true (List.mem_filter.1 ha).2, of_decide_eq_true (List.mem_filter.1 hb).2]
  have kept : (ranking problem row).filter (fun entry => entry.2 = p) =
      ((problem.actions.zip row).mergeSort fun a b => Scalar.order b.2 a.2 != .gt).filter
        fun entry => entry.2 = p := by
    rw [ranking, List.filter_filter]
    refine List.filter_congr fun entry _ => ?_
    by_cases own : entry.2 = p <;> simp [own, positive]
  have stays := (List.sublist_mergeSort precedes_trans precedes_total same_rank
    List.filter_sublist).filter fun entry => entry.2 = p
  rw [List.filter_filter, List.filter_congr fun entry _ => Bool.and_self _] at stays
  have size := ((List.mergeSort_perm (problem.actions.zip row)
    fun a b => Scalar.order b.2 a.2 != .gt).filter fun entry => entry.2 = p).length_eq
  rw [kept]
  exact (stays.eq_of_length size.symm).symm

section Sized

variable (sized : row.length = problem.numActions)

include sized

theorem zip_increasing :
    (problem.actions.zip row).Pairwise fun a b => a.1.ident < b.1.ident := by
  have increasing := increasing_of_distinct problem.actions_sorted problem.actions_distinct
  have front : (problem.actions.zip row).map Prod.fst = problem.actions :=
    List.map_fst_zip (Nat.le_of_eq sized.symm)
  rw [← front, List.pairwise_map] at increasing
  exact increasing

theorem ranking_ties : (ranking problem row).Pairwise
    fun a b => a.2 = b.2 → a.1.ident < b.1.ident := by
  refine List.pairwise_iff_forall_sublist.2 fun {a b} pair same => ?_
  have positive : Scalar.lt Scalar.zero a.2 = true := (mem_ranking.1 (pair.subset (by simp))).2
  have equals : [a, b] = [a, b].filter fun entry => entry.2 = a.2 := by simp [same]
  have stays := pair.filter fun entry => decide (entry.2 = a.2)
  rw [ranking_filter positive, ← equals] at stays
  exact List.pairwise_iff_forall_sublist.1 (zip_increasing sized)
    (stays.trans List.filter_sublist)

end Sized

/-! ## The greedy action -/

theorem rankedBy_rank (entries : List (Nat × Float32)) :
    Greedy.RankedBy Binary32.rank entries :=
  fun _ _ _ _ => Int.compare_eq_gt

/-- A row with a positive probability has a greedy position: the last one of its greatest
probability. -/
theorem exists_greedy (positive : ∃ p ∈ row, Scalar.lt Scalar.zero p = true) :
    ∃ i top, Greedy.choice row = some i ∧ row[i]? = some top ∧
      Scalar.lt Scalar.zero top = true ∧
      (∀ q ∈ row, Scalar.lt Scalar.zero q = true → Binary32.rank q ≤ Binary32.rank top) ∧
      ∀ j, row[j]? = some top → j ≤ i := by
  obtain ⟨i, chosen⟩ : ∃ i, Greedy.choice row = some i := by
    refine Option.ne_none_iff_exists'.1 fun absent => ?_
    obtain ⟨p, mem, above⟩ := positive
    obtain ⟨i, read⟩ := List.getElem?_of_mem mem
    exact Greedy.choice_eq_none.1 absent i p read above
  obtain ⟨top, read, above, greatest⟩ := Greedy.choice_greatest (rankedBy_rank _) chosen
  refine ⟨i, top, chosen, read, above, fun q mem pos => ?_,
    fun j own => (greatest j top own above).2 le_rfl⟩
  obtain ⟨j, own⟩ := List.getElem?_of_mem mem
  exact (greatest j q own pos).1

/-- The chosen action is the last one of those with its probability. -/
theorem zip_filter_choice {i : Nat} {action : GroundAction} {top : Float32}
    (place : problem.actions[i]? = some action) (read : row[i]? = some top)
    (last : ∀ j, row[j]? = some top → j ≤ i) :
    (problem.actions.zip row).filter (fun entry => entry.2 = top) =
      ((problem.actions.zip row).take i).filter (fun entry => entry.2 = top) ++
        [(action, top)] := by
  have own : (problem.actions.zip row)[i]? = some (action, top) :=
    List.getElem?_zip_eq_some.2 ⟨place, read⟩
  obtain ⟨inside, here⟩ := List.getElem?_eq_some_iff.1 own
  have none_later : ∀ entry ∈ (problem.actions.zip row).drop (i + 1),
      ¬decide (entry.2 = top) = true := by
    intro entry mem same
    obtain ⟨k, later⟩ := List.getElem?_of_mem mem
    rw [List.getElem?_drop] at later
    have again := (List.getElem?_zip_eq_some.1 later).2
    rw [of_decide_eq_true same] at again
    have before := last _ again
    omega
  conv_lhs => rw [← List.take_append_drop i (problem.actions.zip row),
    List.drop_eq_getElem_cons inside, here]
  rw [List.filter_append, List.filter_cons_of_pos (by simp), List.filter_eq_nil_iff.2 none_later]

/-- The most probable actions of the listing, then the others. -/
theorem ranking_split {top : Float32} (positive : Scalar.lt Scalar.zero top = true)
    (greatest : ∀ q ∈ row, Scalar.lt Scalar.zero q = true → Binary32.rank q ≤ Binary32.rank top) :
    ranking problem row =
      (problem.actions.zip row).filter (fun entry => entry.2 = top) ++
        (ranking problem row).filter fun entry => !decide (entry.2 = top) := by
  rw [← ranking_filter positive]
  refine eq_filter_append_filter_not (ranking_sorted.imp_of_mem fun {a b} ha _ sorted same => ?_)
  obtain ⟨listed, above⟩ := mem_ranking.1 ha
  have below := greatest a.2 (List.of_mem_zip listed).2 above
  rw [of_decide_eq_true same] at sorted
  exact decide_eq_true (Binary32.rank_inj (le_antisymm below sorted))

theorem lt_of_not_top {top : Float32} (positive : Scalar.lt Scalar.zero top = true)
    (greatest : ∀ q ∈ row, Scalar.lt Scalar.zero q = true → Binary32.rank q ≤ Binary32.rank top)
    {entry : GroundAction × Float32} (listed : entry ∈ ranking problem row)
    (apart : entry.2 ≠ top) : Scalar.lt entry.2 top = true := by
  obtain ⟨among, above⟩ := mem_ranking.1 listed
  have atMost := greatest entry.2 (List.of_mem_zip among).2 above
  have differs : Binary32.rank entry.2 ≠ Binary32.rank top :=
    fun same => apart (Binary32.rank_inj same)
  exact (Binary32.lt_iff_rank (of_decide_eq_true above) (of_decide_eq_true positive)).2
    (lt_of_le_of_ne atMost differs)

/-- Entries of one probability before another have smaller identifiers, so it is only first if
there are none. -/
theorem head_eq_iff_alone {others rest : List (GroundAction × Float32)} {greedy : GroundAction}
    {top : Float32} (ties : ∀ entry ∈ others, entry.2 = top)
    (ordered : (others ++ (greedy, top) :: rest).Pairwise
      fun a b => a.2 = b.2 → a.1.ident < b.1.ident) :
    (others ++ (greedy, top) :: rest).head?.map Prod.fst = some greedy ↔ others = [] := by
  constructor
  · intro same
    cases others with
    | nil => rfl
    | cons leader others =>
      obtain rfl : leader.1 = greedy := Option.some.inj same
      have before := (List.pairwise_cons.1 ordered).1 (leader.1, top) (by simp)
      exact absurd (before (ties leader List.mem_cons_self)) (String.lt_irrefl _)
  · rintro rfl
    rfl

theorem policy_eq {probs : Grid Float32} (first : probs.rows.head? = some row) {i : Nat}
    (chosen : Greedy.choice row = some i) {action : GroundAction}
    (place : problem.actions[i]? = some action) :
    policy problem probs = String.join ((ranking problem row).map rankingLine) ++
      s!"greedy action: {action.display}\n" := by
  have greedy : (greedyActions probs).head? = some (some i) := by
    rw [greedyActions, List.head?_map, first, Option.map_some, chosen]
  rw [policy, greedyLine, greedy, List.headD_eq_head?_getD, first]
  simp only [place, Option.getD_some]

/-- The listing holds the actions of positive probability, the more probable ones first and those
of equal probability in canonical order. The greedy action closes the most probable ones, so it
is on the first line only if no other action is as probable. -/
theorem greedy_action_closes_leaders {probs : Grid Float32}
    (first : probs.rows.head? = some row) (sized : row.length = problem.numActions)
    (positive : ∃ p ∈ row, Scalar.lt Scalar.zero p = true) :
    (ranking problem row).Perm
        ((problem.actions.zip row).filter fun entry => Scalar.lt Scalar.zero entry.2) ∧
      ((ranking problem row).Pairwise fun a b =>
        Scalar.le b.2 a.2 = true ∧ (a.2 = b.2 → a.1.ident < b.1.ident)) ∧
      ∃ others greedy top rest,
        ranking problem row = others ++ (greedy, top) :: rest ∧
        (∀ entry ∈ others, entry.2 = top) ∧ (∀ entry ∈ rest, Scalar.lt entry.2 top = true) ∧
        policy problem probs = String.join ((ranking problem row).map rankingLine) ++
          s!"greedy action: {greedy.display}\n" ∧
        ((ranking problem row).head?.map Prod.fst = some greedy ↔ others = []) := by
  obtain ⟨i, top, chosen, read, above, greatest, last⟩ := exists_greedy positive
  have inside : i < problem.actions.length := by
    have bound := (List.getElem?_eq_some_iff.1 read).1
    rwa [sized] at bound
  obtain ⟨greedy, place⟩ : ∃ greedy, problem.actions[i]? = some greedy :=
    ⟨_, List.getElem?_eq_getElem inside⟩
  have split : ranking problem row = _ := ranking_split above greatest
  rw [zip_filter_choice place read last, List.append_assoc, List.singleton_append] at split
  have ties : ∀ entry ∈ ((problem.actions.zip row).take i).filter fun entry => entry.2 = top,
      entry.2 = top := fun entry mem => of_decide_eq_true (List.mem_filter.1 mem).2
  have ordered : (ranking problem row).Pairwise fun a b =>
      Scalar.le b.2 a.2 = true ∧ (a.2 = b.2 → a.1.ident < b.1.ident) := by
    refine (ranking_sorted.and (ranking_ties sized)).imp_of_mem fun ha hb h => ⟨?_, h.2⟩
    exact (Binary32.le_iff_rank (of_decide_eq_true (mem_ranking.1 hb).2)
      (of_decide_eq_true (mem_ranking.1 ha).2)).2 h.1
  refine ⟨ranking_perm, ordered, _, greedy, top, _, split, ties, fun entry mem => ?_,
    policy_eq first chosen place, ?_⟩
  · obtain ⟨listed, apart⟩ := List.mem_filter.1 mem
    exact lt_of_not_top above greatest listed (by simpa using apart)
  · have identsOrdered := ranking_ties sized
    rw [split] at identsOrdered ⊢
    exact head_eq_iff_alone ties identsOrdered

end Inspect.Report

namespace Twins

open Inspect.Report

def schemas : List Schema := [⟨"go", ["?x"], [⟨"at", ["?x"]⟩]⟩]

def domain : Domain := ⟨"fork", schemas, ["at"], by decide⟩

def left : GroundAction := ⟨"go", ["left"], [⟨"at", ["left"]⟩]⟩

def right : GroundAction := ⟨"go", ["right"], [⟨"at", ["right"]⟩]⟩

def props : List GroundAtom := [⟨"at", ["left"]⟩, ⟨"at", ["right"]⟩]

def goals : List GroundAtom := []

/-- Two actions of one schema, which a network tells apart by their propositions only. -/
def problem : Problem where
  name := "twins"
  domain := domain
  actions := [left, right]
  props := props
  goals := goals
  index := Problem.Index.ofEntities domain [left, right] props goals
  actions_sorted := by decide
  props_sorted := by decide
  goals_sorted := by decide
  faultless := by decide
  index_eq := rfl

/-- One half, by its bits. -/
def half : Float32 := Float32.ofBits 0x3f000000

theorem right_listed_alone :
    [Scalar.zero, half].length = problem.numActions ∧
      (∃ p ∈ [Scalar.zero, half], Scalar.lt Scalar.zero p = true) ∧
      ranking problem [Scalar.zero, half] = [(right, half)] ∧
      policy problem ⟨1, 2, [Scalar.zero, half], rfl⟩ =
        rankingLine (right, half) ++ "greedy action: (go right)\n" := by
  have positive : ∃ p ∈ [Scalar.zero, half], Scalar.lt Scalar.zero p = true := by decide +kernel
  have first : (Grid.mk 1 2 [Scalar.zero, half] rfl).rows.head? = some [Scalar.zero, half] := rfl
  obtain ⟨same, -, others, greedy, top, rest, split, -, -, text, -⟩ :=
    @greedy_action_closes_leaders problem _ _ first rfl positive
  have single : (problem.actions.zip [Scalar.zero, half]).filter
      (fun entry => Scalar.lt Scalar.zero entry.2) = [(right, half)] := by decide +kernel
  rw [single, List.perm_singleton] at same
  rw [same] at split text
  obtain ⟨rfl, last⟩ : others = [] ∧ [(right, half)] = (greedy, top) :: rest := by
    cases others with
    | nil => exact ⟨rfl, split⟩
    | cons leader others => simp at split
  obtain rfl : right = greedy := (Prod.mk.inj (List.cons.inj last).1).1
  exact ⟨rfl, positive, same, text⟩

/-- With equal probabilities the first line and the greedy action differ. -/
theorem left_listed_first :
    (ranking problem [half, half]).head?.map Prod.fst = some left ∧
      policy problem ⟨1, 2, [half, half], rfl⟩ =
        "  0.5000  (go left)\n  0.5000  (go right)\ngreedy action: (go right)\n" := by
  have sorted : (problem.actions.zip [half, half]).Pairwise
      fun a b => (Scalar.order b.2 a.2 != .gt) = true := by decide +kernel
  have listed : ranking problem [half, half] = [(left, half), (right, half)] := by
    rw [ranking, List.mergeSort_of_pairwise sorted]
    decide +kernel
  refine ⟨by rw [listed]; rfl, ?_⟩
  have shown : ranking problem ((Grid.mk 1 2 [half, half] rfl).rows.headD []) = _ := listed
  rw [policy, shown]
  decide +kernel

end Twins

end SchemaNet

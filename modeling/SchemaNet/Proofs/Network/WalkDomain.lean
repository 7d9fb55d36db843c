import SchemaNet.Proofs.Network.Widths

/-!
An exact arithmetic and a small domain in which networks can be evaluated by computation.
One schema has two slots of one predicate, one has a constant in its slot, and one has no
ground instance.
-/

namespace SchemaNet

/-- Whole numbers as the numbers of a network; the transcendental functions are constant. -/
structure Whole where
  int : Int
  deriving DecidableEq, Repr

namespace Whole

instance : Scalar Whole where
  add a b := ⟨a.int + b.int⟩
  sub a b := ⟨a.int - b.int⟩
  mul a b := ⟨a.int * b.int⟩
  div a b := ⟨a.int / b.int⟩
  neg a := ⟨-a.int⟩
  ofNat n := ⟨n⟩
  negInf := ⟨-1⟩
  max a b := ⟨max a.int b.int⟩
  abs a := ⟨a.int.natAbs⟩
  sqrt a := ⟨a.int.toNat.sqrt⟩
  exp _ := ⟨1⟩
  expm1 _ := ⟨0⟩
  log1p _ := ⟨0⟩
  tanh _ := ⟨0⟩
  lt a b := a.int < b.int
  le a b := a.int ≤ b.int
  eq a b := a.int == b.int
  isFinite _ := true
  order a b := compare a.int b.int
  display a := toString a.int

instance : Std.Associative (Scalar.max : Whole → Whole → Whole) :=
  ⟨fun a b c => congrArg Whole.mk (Int.max_assoc a.int b.int c.int)⟩

instance : Std.Commutative (Scalar.max : Whole → Whole → Whole) :=
  ⟨fun a b => congrArg Whole.mk (Int.max_comm a.int b.int)⟩

end Whole

namespace WalkDomain

set_option maxRecDepth 8000

def schemas : List Schema :=
  [⟨"walk", ["?x", "?y"], [⟨"at", ["?x"]⟩, ⟨"at", ["?y"]⟩]⟩, ⟨"ring", [], [⟨"at", ["depot"]⟩]⟩,
    ⟨"wait", ["?x"], [⟨"at", ["?x"]⟩]⟩]

def domain : Domain := ⟨"walks", schemas, ["at"], by decide⟩

def actions : List GroundAction :=
  [⟨"ring", [], [⟨"at", ["depot"]⟩]⟩, ⟨"walk", ["a", "b"], [⟨"at", ["a"]⟩, ⟨"at", ["b"]⟩]⟩,
    ⟨"walk", ["b", "c"], [⟨"at", ["b"]⟩, ⟨"at", ["c"]⟩]⟩]

def props : List GroundAtom := [⟨"at", ["a"]⟩, ⟨"at", ["b"]⟩, ⟨"at", ["c"]⟩, ⟨"at", ["depot"]⟩]

def goals : List GroundAtom := [⟨"at", ["c"]⟩]

/-- Two walks, one after the other, and a ring at the depot, where nobody walks. -/
def problem : Problem where
  name := "short"
  domain := domain
  actions := actions
  props := props
  goals := goals
  index := Problem.Index.ofEntities domain actions props goals
  actions_sorted := by decide
  props_sorted := by decide
  goals_sorted := by decide
  faultless := by decide
  index_eq := rfl

def arch : Architecture := ⟨[⟨1, 1⟩], 1, true⟩

/-- A block with a single output, from its weights and its bias. -/
def block (weights : List Int) (bias : Int) : WeightBlock Whole :=
  ⟨⟨weights.length, 1, weights.map Whole.mk, by rw [List.length_map, Nat.mul_one]⟩, [⟨bias⟩]⟩

def weights : Weights Whole where
  domain := domain
  arch := arch
  blocks := [block [1, 2, 3, 4, 5] 1, block [1, 1, 2] 0, block [1, 1, 1] 0, block [1, 2, 1, 1] (-1),
    block [2, 3, 1] 0, block [1, 1] 2, block [1, 1] 0]
  aligned := by decide

theorem weights_wellShaped : weights.WellShaped :=
  Weights.wellShaped_of_entries (by decide) (by decide) (by decide)

def config : ModuleConfig Whole := ⟨.relu, ⟨0⟩, ⟨0⟩⟩

/-- Two states and the features of the three actions in each. -/
def input : PolicyInput Whole :=
  { props := ⟨2, 4, [1, 0, 0, 1, 0, 1, 0, 0].map Whole.mk, rfl⟩
    extra := ⟨2, 3, 1, [1, 0, 2, 0, 1, 0].map Whole.mk, rfl⟩ }

end WalkDomain

end SchemaNet

/-!
The shape of a network. With `n` hidden layers there are `n + 1` action layers, the
last of which gives one score per action, and `n` proposition layers.
-/

namespace SchemaNet

/-- The output widths of the modules of one hidden layer. -/
structure LayerSizes where
  act : Nat
  prop : Nat
  deriving DecidableEq, Repr

def LayerSizes.text (sizes : LayerSizes) : String :=
  s!"LayerSizes \x7b act: {sizes.act}, prop: {sizes.prop} \x7d"

structure Architecture where
  hidden : List LayerSizes
  /-- The number of exogenous features of each action. -/
  extraDim : Nat
  /-- Whether a module also sees the output of its entity at the previous layer. -/
  skip : Bool
  deriving DecidableEq, Repr

namespace Architecture

def numHidden (arch : Architecture) : Nat := arch.hidden.length

def final (arch : Architecture) : Nat := arch.hidden.length

/-- The output width of an action module; layers past the last one have none. -/
def actWidth? (arch : Architecture) (layer : Nat) : Option Nat :=
  if layer = arch.final then some 1 else (arch.hidden[layer]?).map LayerSizes.act

/-- The output width of a proposition module; only hidden layers have one. -/
def propWidth? (arch : Architecture) (layer : Nat) : Option Nat :=
  (arch.hidden[layer]?).map LayerSizes.prop

def text (arch : Architecture) : String :=
  "ArchConfig \x7b hidden: [" ++ String.intercalate ", " (arch.hidden.map LayerSizes.text)
    ++ s!"], extra_dim: {arch.extraDim}, skip: {arch.skip} \x7d"

end Architecture

end SchemaNet

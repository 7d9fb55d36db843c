import SchemaNet.Network.Error

/-!
Checks of an architecture and of the behaviour of its modules. A pooling pad may not
exceed any value of the nonlinearity, or an empty pool could look better than a real
one.
-/

namespace SchemaNet

/-- Every hidden layer has modules of both kinds with at least one output; the first
layer that has not is reported. -/
def Architecture.validate {α : Type} (arch : Architecture) : Except (NetworkError α) Unit :=
  match arch.hidden.zipIdx.find? fun (sizes, _) => sizes.act == 0 || sizes.prop == 0 with
  | some (sizes, layer) => .error (.config (.zeroWidth layer sizes))
  | none => .ok ()

/-- The nonlinearity, the value of an empty pool and the dropout probability. -/
structure ModuleConfig (α : Type) where
  activation : Activation
  pad : α
  dropout : α
  deriving Repr

namespace ModuleConfig

variable {α : Type} [Scalar α]

open Scalar

def default : ModuleConfig α := ⟨.elu, -one, zero⟩

/-- The dropout is looked at first, then the pad, then the bound on the values. -/
def fault? (config : ModuleConfig α) : Option (ConfigFault α) :=
  if !(le zero config.dropout && lt config.dropout one) then
    some (.dropoutOutOfRange config.dropout)
  else if !isFinite config.pad then
    some (.padNotFinite config.pad)
  else
    match (config.activation.lowerBound? : Option α) with
    | none => some (.unboundedActivation config.activation)
    | some bound =>
      if lt bound config.pad then some (.padAboveBound config.pad bound config.activation)
      else none

def validate (config : ModuleConfig α) : Except (NetworkError α) Unit :=
  match config.fault? with
  | some fault => .error (.config fault)
  | none => .ok ()

end ModuleConfig

end SchemaNet

import SchemaNet.Scalar.Basic
import SchemaNet.Text.Blank

/-!
The nonlinearities that a module applies after its affine transform, with their names
and the greatest lower bounds of their values.
-/

namespace SchemaNet

inductive Activation where
  | elu
  | relu
  | tanh
  | sigmoid
  | softplus
  | leakyRelu
  | identity
  deriving DecidableEq, Repr

namespace Activation

def all : List Activation := [elu, relu, tanh, sigmoid, softplus, leakyRelu, identity]

def label : Activation → String
  | elu => "elu"
  | relu => "relu"
  | tanh => "tanh"
  | sigmoid => "sigmoid"
  | softplus => "softplus"
  | leakyRelu => "leaky_relu"
  | identity => "identity"

def ofLabel? (label : String) : Option Activation := all.find? fun a => a.label == label

/-- Reads a name in any case, with white space around it. -/
def parse? (text : String) : Option Activation :=
  ofLabel? (String.ofList ((Text.trim text.toList).map Text.lowerAscii))

def unknownMessage (text : String) : String := s!"unknown activation function: \"{text}\""

variable {α : Type} [Scalar α]

open Scalar

/-- The slope of `leakyRelu` below zero, one hundredth. -/
def leakySlope : α := one / Scalar.ofNat 100

/-- The softplus is the logarithm of `1 + exp x`, in a form that is stable for large `x`
of either sign. -/
def apply (activation : Activation) (x : α) : α :=
  match activation with
  | elu => if lt zero x then x else expm1 x
  | relu => Scalar.max x zero
  | tanh => Scalar.tanh x
  | sigmoid => one / (one + exp (-x))
  | softplus => Scalar.max x zero + log1p (exp (-(abs x)))
  | leakyRelu => if lt zero x then x else leakySlope * x
  | identity => x

/-- The greatest lower bound of the values, if they have one. -/
def lowerBound? : Activation → Option α
  | elu => some (-one)
  | tanh => some (-one)
  | relu => some zero
  | sigmoid => some zero
  | softplus => some zero
  | leakyRelu => none
  | identity => none

end Activation

end SchemaNet

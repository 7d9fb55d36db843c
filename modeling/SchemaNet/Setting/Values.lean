import SchemaNet.Network.Activation
import SchemaNet.Network.ModuleConfig
import SchemaNet.Scalar.Binary32
import SchemaNet.Setting.Basic

/-!
The types of settings, and the settings of a network.
-/

namespace SchemaNet

namespace SettingType

/-- An optional plus sign and digits, for a number of at most `bits` bits. -/
def natural (bits : Nat) : SettingType Nat :=
  { parse? := fun text =>
      let digits := match text.toList with
        | '+' :: rest => rest
        | digits => digits
      (Numeral.digits? digits).bind fun n => if n < Nat.pow 2 bits then some n else none
    display := toString }

/-- An optional sign and digits, for a number of at most `bits` bits with its sign. -/
def integer (bits : Nat) : SettingType Int :=
  { parse? := fun text =>
      let (negative, digits) := Numeral.splitSign text.toList
      (Numeral.digits? digits).bind fun n =>
        let value : Int := if negative then -n else n
        let bound : Int := Nat.pow 2 (bits - 1)
        if -bound ≤ value ∧ value < bound then some value else none
    display := toString }

def flag : SettingType Bool :=
  { parse? := fun text => if text = "true" then some true else if text = "false" then some false else none
    display := toString }

def text : SettingType String := ⟨some, id⟩

def activation : SettingType Activation := ⟨Activation.parse?, Activation.label⟩

def binary32 : SettingType Float32 :=
  { parse? := fun text => (Numeral.parse? text).map Binary32.ofNumeral
    display := Scalar.display }

end SettingType

namespace Setting

def activation : Setting Activation := ⟨"ASNETS_ACTIVATION", "elu", .activation⟩

def poolPad : Setting Float32 := ⟨"ASNETS_POOL_PAD", "-1", .binary32⟩

def dropout : Setting Float32 := ⟨"ASNETS_DROPOUT", "0", .binary32⟩

def initSeed : Setting Nat := ⟨"ASNETS_INIT_SEED", "0", .natural 64⟩

end Setting

/-- The behaviour of modules that the environment asks for. -/
def ModuleConfig.fromEnv (env : String → EnvValue) :
    Logged (NetworkError Float32) (ModuleConfig Float32) := do
  let read {β : Type} (setting : Setting β) : Logged (NetworkError Float32) β :=
    Logged.mapError .setting (setting.read (env setting.name))
  let config := ⟨← read Setting.activation, ← read Setting.poolPad, ← read Setting.dropout⟩
  Logged.ofExcept config.validate fun _ => []
  return config

end SchemaNet

/-!
Events that the library reports while it works: a level, a message and named
fields. They are values like any other; nothing here prints.
-/

namespace SchemaNet

inductive Level where
  | trace
  | debug
  | info
  | warn
  | error
  deriving DecidableEq, Repr

def Level.label : Level → String
  | .trace => "TRACE"
  | .debug => "DEBUG"
  | .info => "INFO"
  | .warn => "WARN"
  | .error => "ERROR"

/-- The gravest level comes first. -/
def Level.severity : Level → Nat
  | .error => 0
  | .warn => 1
  | .info => 2
  | .debug => 3
  | .trace => 4

structure Event where
  level : Level
  message : String
  fields : List (String × String)
  deriving DecidableEq, Repr

namespace Event

def debug (message : String) : Event := ⟨.debug, message, []⟩

def warn (message : String) : Event := ⟨.warn, message, []⟩

/-- One line: the level, the message, then each field as `name=value`. -/
def line (event : Event) : String :=
  event.fields.foldl (fun text field => text ++ " " ++ field.1 ++ "=" ++ field.2)
    (event.level.label ++ " " ++ event.message)

end Event

/-- A computation that may fail and that leaves its events behind either way. -/
abbrev Logged (ε α : Type) := ExceptT ε (StateM (List Event)) α

namespace Logged

variable {ε δ α β : Type}

def note (events : List Event) : Logged ε Unit :=
  modify (· ++ events)

/-- The events of a success are reported, a failure is silent. -/
def ofExcept (result : Except ε α) (events : α → List Event := fun _ => []) : Logged ε α := do
  match result with
  | .ok value =>
    note (events value)
    return value
  | .error fault => throw fault

def mapError (f : ε → δ) (action : Logged ε α) : Logged δ α :=
  ExceptT.adapt f action

/-- The outcome and the events in the order in which they were reported. -/
def outcome (action : Logged ε α) : Except ε α × List Event :=
  (ExceptT.run action).run []

theorem ofExcept_run (result : Except ε α) (events : α → List Event) (log : List Event) :
    ((ExceptT.run (ofExcept result events)).run log).1 = result := by
  cases result <;> rfl

/-- The second of two computations runs on the events of the first. -/
theorem bind_outcome (first : Logged ε α) (next : α → Logged ε β) :
    (first >>= next).outcome = match first.outcome with
      | (.ok value, events) => (ExceptT.run (next value)).run events
      | (.error fault, events) => (.error fault, events) := by
  rcases h : first.outcome with ⟨_ | _, _⟩
  all_goals
    simp only [outcome, ExceptT.run, StateT.run] at h
    simp [outcome, bind, ExceptT.bind, ExceptT.bindCont, StateT.bind, ExceptT.run, StateT.run,
      ExceptT.mk, h]
  all_goals rfl

end Logged

end SchemaNet

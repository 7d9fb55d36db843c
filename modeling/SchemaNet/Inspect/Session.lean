import SchemaNet.Inspect.Report
import SchemaNet.Inspect.Usage
import SchemaNet.Network.Observation
import SchemaNet.Network.SnapshotFile
import SchemaNet.Planning.InstanceFile

/-!
The program: it loads an instance, gives its network new or stored weights, and prints the
policy in the initial state. It runs in any monad that has files, and what it prints is a
part of its result.
-/

namespace SchemaNet.Inspect

inductive Output where
  | text (text : String)
  | event (event : Event)
  deriving DecidableEq, Repr

def Output.render : Output → String
  | .text shown => shown
  | .event shown => shown.line ++ "\n"

/-- Why a run ended early, and what that came from. -/
structure Failure where
  message : String
  causes : List String
  exitCode : Nat
  deriving DecidableEq, Repr

namespace Failure

def causeLines (causes : List String) : List String :=
  match causes with
  | [cause] => ["    " ++ cause]
  | causes => causes.zipIdx.map fun (cause, i) => s!"    {i}: {cause}"

def text (failure : Failure) : String :=
  Usage.lines (s!"Error: {failure.message}" ::
    if failure.causes.isEmpty then [] else "" :: "Caused by:" :: causeLines failure.causes)

/-- The exit code of a run that meets a fault of its input. -/
def refused : Nat := 1

/-- The exit code of a run that is broken off because no memory could hold what it needs. -/
def brokenOff : Nat := 101

def plain (message : String) : Failure := ⟨message, [], refused⟩

def ofPlanning (fault : PlanningError) : Failure := plain fault.message

def ofInstance (fault : InstanceError) : Failure :=
  ⟨fault.message, match fault with | .file _ fault => [fault.message] | .malformed => [], refused⟩

def ofNetwork (fault : NetworkError Float32) : Failure :=
  match fault with
  | .file _ cause => ⟨fault.message, [cause.message], refused⟩
  | .outOfRange => ⟨fault.message, [], brokenOff⟩
  | _ => plain fault.message

/-- The same failure as the cause of another one. -/
def within (context : String) (failure : Failure) : Failure :=
  ⟨context, failure.message :: failure.causes, failure.exitCode⟩

end Failure

abbrev Session (m : Type → Type) (β : Type) := ExceptT Failure (StateT (List Output) m) β

namespace Session

variable {m : Type → Type} [Monad m] {ε β : Type}

def print (text : String) : Session m Unit := modify (· ++ [.text text])

/-- Prints the events that matter enough. -/
def note (level : Level) (events : List Event) : Session m Unit :=
  modify (· ++ (events.filter fun event => event.level.severity ≤ level.severity).map .event)

def require (failure : ε → Failure) (result : Except ε β) : Session m β :=
  ExceptT.mk (pure (result.mapError failure))

def lift (action : m β) : Session m β := ExceptT.lift (StateT.lift action)

def await (failure : ε → Failure) (action : m (Except ε β)) : Session m β := do
  require failure (← lift action)

/-- The outcome of a computation, after its events. -/
def logged (level : Level) (failure : ε → Failure) (action : Logged ε β) : Session m β := do
  note level action.outcome.2
  require failure action.outcome.1

end Session

section Steps

variable {m : Type → Type} [Monad m]

def encoder (options : Options) (problem : Problem) : ObservationEncoder Float32 :=
  ⟨problem, .stack (if options.countFeature then [.enabled, .count] else [.enabled])⟩

/-- The weights of the file that is named, or new ones. -/
def chooseWeights (files : FileAccess m) (env : String → EnvValue) (options : Options)
    (domain : Domain) (extraDim : Nat) : Session m (Weights Float32) := do
  match options.weights with
  | some path =>
    let reading ← Session.lift (Snapshot.load files path)
    let snapshot ← Session.logged options.level
      (fun fault => (Failure.ofNetwork fault).within s!"loading {path}") reading
    let weights ← Session.require .ofNetwork (snapshot.restore domain snapshot.arch)
    Session.note options.level (Snapshot.notices weights)
    return weights
  | none =>
    let seed ← match options.seed with
      | some seed => pure seed
      | none =>
        Session.logged options.level (fun fault => .ofNetwork (.setting fault))
          (Setting.initSeed.read (env Setting.initSeed.name))
    let weights ← Session.require .ofNetwork
      (Weights.allocate domain ⟨options.hidden, extraDim, options.skip⟩ seed.toUInt64)
    Session.note options.level weights.notices
    return weights

/-- The initial state, with the named actions enabled. -/
def startState (inst : Instance) (problem : Problem) (enable : List String) :
    Except Failure CanonicalState := do
  let props ← (inst.initialState problem).mapError .ofPlanning
  let enabled ← if enable.isEmpty then pure (List.replicate problem.numActions true) else
    (CanonicalState.flagsOf problem.numActions problem.actIndex enable).mapError .ofNetwork
  let state ← (CanonicalState.ofFlags problem props enabled).mapError .ofNetwork
  if state.numEnabled = 0 then throw (.plain "no action is enabled in the initial state")
  return state

def save (files : FileAccess m) (level : Level) (snapshot : Snapshot Float32) (path : String) :
    Session m Unit := do
  Session.note level (snapshot.savingNotices path)
  Session.await (fun fault => (Failure.ofNetwork fault).within s!"saving weights to {path}")
    (snapshot.save files path)
  Session.note level [⟨.info, s!"weights written to {path}", []⟩]

def inspect (files : FileAccess m) (env : String → EnvValue) (options : Options) :
    Session m Unit := do
  let level := options.level
  let inst ← Session.await .ofInstance (Instance.load files options.instancePath)
  let domain ← Session.require .ofPlanning (Domain.extract inst.domain)
  Session.note level domain.notices
  let problem ← Session.logged level .ofPlanning (Problem.extractLogged inst.grounding domain)
  Session.note level [⟨.info, problem.display, []⟩]
  let encoder := encoder options problem
  let weights ← chooseWeights files env options domain encoder.layout.extraDim
  Session.require .ofNetwork (encoder.checkArch weights.arch)
  let config ← Session.logged level .ofNetwork (ModuleConfig.fromEnv env)
  let net ← Session.logged level .ofNetwork
    (PolicyNetwork.forWeightsLogged problem weights config)
  Session.print (Report.weights weights ++ "\n" ++ Report.sizes net)
  let state ← Session.require id (startState inst problem options.enable)
  let batch ← Session.require .ofNetwork (encoder.encodeBatch [(state, [])])
  let probs ← Session.require .ofNetwork (net.forwardFlat weights batch)
  Session.print ("\n" ++ Report.policy problem probs)
  if let some path := options.save then
    save files level (.ofWeights weights) path

end Steps

/-- What a run leaves behind. -/
structure Outcome where
  exitCode : Nat
  output : List Output
  /-- The text about what went wrong. -/
  complaint : String
  deriving DecidableEq, Repr

def Outcome.text (outcome : Outcome) : String := String.join (outcome.output.map Output.render)

/-- The first line of what is said about a failure. A carriage return may belong to the end of
the line. -/
def Outcome.firstComplaint (outcome : Outcome) : String :=
  let line := outcome.complaint.toList.takeWhile (· ≠ '\n')
  String.ofList (if line.getLast? = some '\r' then line.dropLast else line)

/-- A call with its arguments. -/
def run {m : Type → Type} [Monad m] (files : FileAccess m) (env : String → EnvValue)
    (arguments : List String) : m Outcome := do
  match Request.ofArguments arguments with
  | .error fault => return ⟨2, [], fault.text⟩
  | .ok (.help long) => return ⟨0, [.text (Usage.help long)], ""⟩
  | .ok (.inspect options) =>
    let (result, output) ← (ExceptT.run (inspect files env options)).run []
    match result with
    | .ok () => return ⟨0, output, ""⟩
    | .error failure => return ⟨failure.exitCode, output, failure.text⟩

end SchemaNet.Inspect

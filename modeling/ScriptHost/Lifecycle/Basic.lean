import ScriptHost.Engine.Basic

/-!
# The lifecycle

Drives an engine through its phases. Every operation is a function from a lifecycle to its
result and the lifecycle after it; an operation in the wrong phase is refused and changes
nothing.

**Startup** arms signals, registers the descriptor, then runs the descriptor's `startup` slot.
A failure there leaves the host table registered for good.

**Requests** open when startup is done or the last request is over. A request that the runtime
refuses leaves the lifecycle idle.

**Shutdown** undoes what startup did, in the opposite order, skips what startup never did, and
releases the interned strings last. A lifecycle that goes out of use without it is shut down
then, unless a request is still open.
-/
namespace ScriptHost

/-- mirrors `meta_sapi::lifecycle::Lifecycle` -/
structure Lifecycle (σ : Type) where
  host : Host
  engine : σ
  phase : Phase

/-- A line as the body of a closure that is called at once, so that it can be evaluated as one
expression.
mirrors `meta_sapi::lifecycle::wrap_inline` -/
def asExpression (line : String) : String :=
  "(function() \x7b\n" ++ line ++ ";\n\x7d)()"

/-- The type name of a result that is not worth a dump. -/
def nullTypeName : String := "null"

namespace Lifecycle

variable {σ : Type}

/-- A lifecycle of an engine that nothing has been called on. The second component is what is
reported when the configuration cannot be interned.
mirrors `meta_sapi::lifecycle::Lifecycle::new` -/
def create (engine : σ) (config : Host.Config) : Except Error (Lifecycle σ) × List Event :=
  match Host.create config with
  | (.ok host, events) => (.ok ⟨host, engine, .unstarted⟩, events)
  | (.error cause, events) => (.error (.arena cause), events)

def log (l : Lifecycle σ) (e : Event) : Lifecycle σ :=
  { l with host := l.host.log e }

/-- mirrors `meta_sapi::lifecycle::Lifecycle::transition` -/
def moveTo (l : Lifecycle σ) (target : Phase) : Lifecycle σ :=
  { l.log (.transition l.phase target) with phase := target }

/-- Lets the host answer the hooks of an activity that ends in a state of the engine. -/
def perform {α : Type} (l : Lifecycle σ) (activity : Activity (α × σ)) : α × Lifecycle σ :=
  let r := activity.run l.host
  (r.1.1, { l with host := r.2, engine := r.1.2 })

/-- Calls an entry point. -/
def call (e : Engine σ) (l : Lifecycle σ) (c : Call) : c.Answer × Lifecycle σ :=
  l.perform (e.respond c l.host l.engine)

/-- The descriptor's `startup` slot: interns the ini entries, then calls the runtime's module
startup.
mirrors `meta_sapi::adapter::startup_hook` -/
def runStartupSlot (e : Engine σ) (l : Lifecycle σ) : Int × Lifecycle σ :=
  match l.host.exposeIni with
  | (none, host) => (failureStatus, { l with host })
  | (some _, host) => call e { l with host } .moduleStartup

/-- mirrors `meta_sapi::lifecycle::Lifecycle::startup` -/
def startup (e : Engine σ) (l : Lifecycle σ) : Except Error Unit × Lifecycle σ :=
  if l.phase ≠ .unstarted then (.error (.outOfPhase l.phase .signalsArmed), l)
  else
    let l := (l.call e .armSignals).2.moveTo .signalsArmed
    let l := (l.call e .registerHost).2.moveTo .hostTableRegistered
    let (status, l) := l.runStartupSlot e
    if status ≠ successStatus then (.error .moduleFailed, l.log (.moduleStartupFailed status))
    else (.ok (), l.moveTo .globalStartupDone)

/-- Whether a request may be opened. -/
def isReady (p : Phase) : Bool :=
  p = .globalStartupDone || p = .requestIdle

/-- mirrors `meta_sapi::lifecycle::Lifecycle::begin_request` -/
def openRequest (e : Engine σ) (l : Lifecycle σ) : Except Error Unit × Lifecycle σ :=
  if !isReady l.phase then (.error (.outOfPhase l.phase .requestActive), l)
  else
    let (status, l) := l.call e .openRequest
    if status ≠ successStatus then
      (.error .requestRefused, (l.log (.requestStartupFailed status)).moveTo .requestIdle)
    else (.ok (), l.moveTo .requestActive)

/-- mirrors the drop of `meta_sapi::lifecycle::Request` -/
def closeRequest (e : Engine σ) (l : Lifecycle σ) : Lifecycle σ :=
  (l.call e .closeRequest).2.moveTo .requestIdle

/-- Runs the script at `path` in the open request; the result is whether it completed. The file
handle is destroyed either way.
mirrors `meta_sapi::lifecycle::Request::execute_file` -/
def runScript (e : Engine σ) (l : Lifecycle σ) (path : Bytes) : Except Error Bool × Lifecycle σ :=
  if 0 ∈ path then (.error (.nulInPath path), l)
  else
    let l := (l.call e (.openScript path)).2
    let (completed, l) := l.call e .runScript
    let l := (l.call e .closeScript).2
    (.ok completed, l.log (.executedScript path completed))

/-- The name of inline code as the runtime reads it.
mirrors `meta_sapi::lifecycle::Lifecycle::eval_name` -/
def evalName (l : Lifecycle σ) : Bytes :=
  l.host.arena.read l.host.evalName

/-- Evaluates a line in the open request and has a result that is not null dumped.
mirrors `meta_sapi::lifecycle::Request::eval` -/
def evaluate (e : Engine σ) (l : Lifecycle σ) (line : String) : Evaluation × Lifecycle σ :=
  let (status, l) := l.call e (.evaluate (Utf8.encode (asExpression line)) l.evalName)
  if status ≠ successStatus then (⟨false, none, false⟩, l.log (.evaluationFailed status))
  else
    let (typeName, l) := l.call e .typeName
    if typeName = nullTypeName then (⟨true, some typeName, false⟩, l)
    else (⟨true, some typeName, true⟩, (l.call e .dump).2)

/-- mirrors `meta_sapi::lifecycle::Lifecycle::shutdown` -/
def shutdown (e : Engine σ) (l : Lifecycle σ) : Except Error Unit × Lifecycle σ :=
  if l.phase = .globalShutdownDone || l.phase = .requestActive then
    (.error (.outOfPhase l.phase .globalShutdownDone), l)
  else
    let started := l.phase
    let l := if isReady started then (l.call e .moduleShutdown).2 else l
    let l :=
      if started = .unstarted || started = .signalsArmed then l else (l.call e .unregisterHost).2
    let l := { l with host := l.host.release }
    (.ok (), l.moveTo .globalShutdownDone)

/-- The lifecycle goes out of use.
mirrors the drop of `meta_sapi::lifecycle::Lifecycle` -/
def drop (e : Engine σ) (l : Lifecycle σ) : Lifecycle σ :=
  let l :=
    if l.phase = .globalShutdownDone then l
    else match l.shutdown e with
      | (.ok (), l) => l
      | (.error cause, l) => l.log (.shutdownOnDropFailed cause)
  { l with host := l.host.drop }

end Lifecycle

end ScriptHost

import ScriptHost.Engine.Bound

/-!
# The scripted runtime

A runtime whose entry points play out a script. Eight of them have a queue of turns: a call takes
the next turn of its queue, makes the hook calls of that turn, and answers with its status. With
an empty queue a call makes no hook calls and succeeds. Every call and every hook call is
recorded, a hook call once it has returned.

Hooks go through the descriptor that was registered; before that there is none, and a hook call
comes to nothing. The `startup` and `shutdown` slots lead back into the runtime, so a turn may
take further turns. Each of those uses up a turn, which bounds how deep this goes.
-/
namespace ScriptHost.Scripted

inductive Queue where
  | moduleStartup
  | openRequest
  | execute
  | eval
  | closeRequest
  | moduleShutdown
  | unregisterHost
  | shutdownWrapper
  deriving DecidableEq, Repr

/-- A hook call as a script writes it. A missing text is a null pointer; a text that is written
is as long as the script says, or as its bytes are. -/
inductive HookCall where
  | write (text : Option Bytes) (length : Option Nat)
  | readPost (count : Nat)
  | readCookies
  | startup
  | startupWithoutModule
  | shutdown
  | flush
  | sendHeader
  | registerServerVariables
  | error (kind : Int) (message : Option Bytes)
  | logMessage (message : Option Bytes) (kind : Int)
  deriving DecidableEq, Repr

structure Turn where
  status : Int
  /-- The type name of the value that an evaluation leaves; none is a null pointer. -/
  type : Option Bytes := none
  /-- How that value is dumped; none writes nothing. -/
  dump : Option Bytes := none
  hooks : List HookCall := []
  deriving DecidableEq, Repr

/-- The status of success. -/
def Queue.defaultStatus : Queue → Int
  | .execute => 1
  | _ => 0

/-- The turn of an empty queue. -/
def Queue.idle (q : Queue) : Turn where
  status := q.defaultStatus
  type := some (Utf8.encode "null")

inductive Argument where
  | null
  | number (n : Int)
  | bytes (b : Bytes)
  deriving DecidableEq, Repr

def Argument.ofBytes? : Option Bytes → Argument
  | none => .null
  | some b => .bytes b

structure Record where
  name : String
  arguments : List Argument := []
  deriving DecidableEq, Repr

structure State where
  /-- The turns to come, each with its queue. -/
  pending : List (Queue × Turn) := []
  log : List Record := []
  /-- A descriptor has been registered. -/
  registered : Bool := false
  /-- The turn whose value the last successful evaluation left. -/
  value : Turn := Queue.eval.idle
  deriving DecidableEq, Repr

/-- The first turn of a queue, and the turns without it. -/
def takeTurn (q : Queue) : List (Queue × Turn) → Turn × List (Queue × Turn)
  | [] => (q.idle, [])
  | (owner, turn) :: rest =>
    if owner = q then (turn, rest)
    else
      let (found, rest) := takeTurn q rest
      (found, (owner, turn) :: rest)

abbrev Play (α : Type) := StateT State Activity α

def record (name : String) (arguments : List Argument) : Play Unit :=
  modify fun s => { s with log := s.log ++ [⟨name, arguments⟩] }

def next (q : Queue) : Play Turn :=
  modifyGet fun s =>
    let (turn, pending) := takeTurn q s.pending
    (turn, { s with pending })

def ask (hook : Hook) : Play hook.Result :=
  liftM (Activity.ask hook)

/-- The bytes that a script has written. -/
def written (text : Option Bytes) (length : Option Nat) : Bytes :=
  match text with
  | none => []
  | some bytes => bytes.take (length.getD bytes.length)

/-- Makes a hook call. `depth` bounds how many times the hooks may lead back into the runtime. -/
def makeCall (depth : Nat) (call : HookCall) : Play Unit := do
  if !(← get).registered then record "no_module" []
  else match call, depth with
    | .write text length, _ =>
      let count ← ask (.write (written text length))
      record "hook:ub_write" [.number count]
    | .readPost count, _ =>
      let read ← ask (.readPost count)
      record "hook:read_post" [.number read]
    | .readCookies, _ =>
      let cookies ← ask .readCookies
      record "hook:read_cookies" [.ofBytes? cookies]
    | .startupWithoutModule, _ =>
      let status ← ask .startupWithoutModule
      record "hook:startup_null" [.number status]
    | .flush, _ =>
      ask .flush
      record "hook:flush" []
    | .sendHeader, _ =>
      ask .sendHeader
      record "hook:send_header" []
    | .registerServerVariables, _ =>
      ask .registerServerVariables
      record "hook:register_server_variables" []
    | .error kind message, _ =>
      ask (.error kind (message.getD []))
      record "hook:sapi_error" []
    | .logMessage message kind, _ =>
      ask (.logMessage (message.getD []) kind)
      record "hook:log_message" []
    | .startup, 0 | .shutdown, 0 => pure ()
    | .startup, depth + 1 =>
      match ← ask .startup with
      | none => record "hook:startup" [.number failureStatus]
      | some ini =>
        record "php_module_startup" [.bytes ini]
        let turn ← next .moduleStartup
        turn.hooks.forM (makeCall depth)
        record "hook:startup" [.number turn.status]
    | .shutdown, depth + 1 =>
      record "php_module_shutdown_wrapper" []
      let turn ← next .shutdownWrapper
      turn.hooks.forM (makeCall depth)
      record "hook:shutdown" [.number turn.status]

/-- Makes a hook call as deep as the turns to come allow. -/
def hook (call : HookCall) : Play Unit := do
  makeCall ((← get).pending.length + 1) call

/-- A call of an entry point that takes a turn. -/
def enter (name : String) (arguments : List Argument) (q : Queue) : Play Turn := do
  record name arguments
  let turn ← next q
  turn.hooks.forM hook
  pure turn

/-- The two strings of the descriptor that the shutdown calls still read. -/
def registration (h : Host) : List Argument :=
  [.ofBytes? (h.read h.descriptor.name), .ofBytes? h.iniEntries]

def respond : (c : Call) → Host → Play c.Returned
  | .armSignals, _ => record "zend_signal_startup" []
  | .registerHost, h => do
    record "sapi_startup" [.ofBytes? (h.read h.descriptor.name),
      .ofBytes? (h.read h.descriptor.prettyName),
      .bytes (Utf8.encode (",".intercalate h.descriptor.filledFields))]
    modify fun s => { s with registered := true }
  | .moduleStartup, h => do
    let turn ← enter "php_module_startup" [.ofBytes? h.iniEntries] .moduleStartup
    pure turn.status
  | .moduleShutdown, h => discard (enter "php_module_shutdown" (registration h) .moduleShutdown)
  | .unregisterHost, h => discard (enter "sapi_shutdown" (registration h) .unregisterHost)
  | .openRequest, _ => do
    let turn ← enter "php_request_startup" [] .openRequest
    pure turn.status
  | .closeRequest, _ => discard (enter "php_request_shutdown" [] .closeRequest)
  | .openScript path, _ => record "zend_stream_init_filename" [.bytes path]
  | .runScript, _ => do
    let turn ← enter "php_execute_script" [] .execute
    pure (turn.status ≠ 0)
  | .closeScript, _ => record "zend_destroy_file_handle" []
  | .evaluate code name, _ => do
    let turn ← enter "zend_eval_stringl_ex" [.bytes code, .bytes name, .number 1] .eval
    if turn.status = 0 then modify fun s => { s with value := turn }
    pure turn.status
  | .typeName, _ => do
    record "zend_zval_type_name" []
    pure (← get).value.type
  | .dump, _ => do
    record "php_var_dump" []
    match (← get).value.dump with
    | none => pure ()
    | some text => hook (.write (some text) none)

def runtime : Runtime State where
  enter c h s := respond c h s

def engine : Engine State :=
  runtime.engine

/-- Adds turns behind those to come. -/
def State.extend (s : State) (turns : List (Queue × Turn)) : State :=
  { s with pending := s.pending ++ turns }

end ScriptHost.Scripted

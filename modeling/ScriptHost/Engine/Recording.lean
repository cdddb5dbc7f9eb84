import ScriptHost.Engine.Basic

/-!
# The recording engine

An engine that runs nothing. It records every call and answers as it is told to. At the two
shutdown calls it also records whether the host's strings can still be read through the
descriptor it was registered with.
-/
namespace ScriptHost.Recording

/-- mirrors `meta_sapi::testing::Call` -/
inductive Entry where
  | armSignals
  | registerHost
  | unregisterHost (arenaLive : Bool)
  | moduleStartup (iniEntries : String)
  | moduleShutdown (arenaLive : Bool)
  | openRequest
  | closeRequest
  | openScript (path : String)
  | runScript
  | closeScript
  | evaluate (code name : String)
  | typeName
  | dump
  deriving DecidableEq, Repr

def Entry.callName : Entry → String
  | .armSignals => "SignalStartup"
  | .registerHost => "SapiStartup"
  | .unregisterHost _ => "SapiShutdown"
  | .moduleStartup _ => "ModuleStartup"
  | .moduleShutdown _ => "ModuleShutdown"
  | .openRequest => "RequestStartup"
  | .closeRequest => "RequestShutdown"
  | .openScript _ => "StreamInitFilename"
  | .runScript => "ExecuteScript"
  | .closeScript => "DestroyFileHandle"
  | .evaluate _ _ => "EvalString"
  | .typeName => "TypeName"
  | .dump => "VarDump"

/-- What the engine answers.
mirrors `meta_sapi::testing::RecordingEngine` -/
structure Answers where
  moduleStartup : Int := successStatus
  openRequest : Int := successStatus
  executeCompletes : Bool := true
  eval : Int := successStatus
  resultType : String := "int"
  dumpRendering : String := "int(2)\n"
  deriving DecidableEq, Repr

structure State where
  log : List Entry := []
  /-- Everything dumped so far. -/
  output : String := ""
  /-- A descriptor has been registered. -/
  registered : Bool := false
  deriving DecidableEq, Repr

namespace State

/-- mirrors `meta_sapi::testing::RecordingEngine::record` -/
def record (s : State) (e : Entry) : State :=
  { s with log := s.log ++ [e] }

/-- mirrors `meta_sapi::testing::RecordingEngine::clear` -/
def clear (s : State) : State :=
  { s with log := [] }

/-- The recorded calls of the entry point with this name.
mirrors `meta_sapi::testing::RecordingEngine::count` -/
def count (s : State) (name : String) : Nat :=
  s.log.countP (·.callName = name)

end State

/-- The strings of the registered descriptor read back what was interned.
mirrors `meta_sapi::testing::RecordingEngine::arena_live` -/
def arenaLive (h : Host) (s : State) : Bool :=
  s.registered && !h.arena.isReleased &&
    h.read h.descriptor.name = some (Utf8.encode moduleName) &&
    (h.iniEntries = none || h.iniEntries = some (Utf8.encode h.iniText))

/-- mirrors `meta_sapi::engine::Engine` for `meta_sapi::testing::RecordingEngine` -/
def respond (answers : Answers) : (c : Call) → Host → State → c.Answer × State
  | .armSignals, _, s => ((), s.record .armSignals)
  | .registerHost, _, s => ((), { s with registered := true }.record .registerHost)
  | .unregisterHost, h, s => ((), s.record (.unregisterHost (arenaLive h s)))
  | .moduleStartup, h, s =>
    (answers.moduleStartup, s.record (.moduleStartup (Utf8.lossy (h.iniEntries.getD []))))
  | .moduleShutdown, h, s => ((), s.record (.moduleShutdown (arenaLive h s)))
  | .openRequest, _, s => (answers.openRequest, s.record .openRequest)
  | .closeRequest, _, s => ((), s.record .closeRequest)
  | .openScript path, _, s => ((), s.record (.openScript (Utf8.lossy path)))
  | .runScript, _, s => (answers.executeCompletes, s.record .runScript)
  | .closeScript, _, s => ((), s.record .closeScript)
  | .evaluate code name, _, s =>
    (answers.eval, s.record (.evaluate (Utf8.lossy code) (Utf8.lossy name)))
  | .typeName, _, s => (answers.resultType, s.record .typeName)
  | .dump, _, s =>
    ((), { s with output := s.output ++ answers.dumpRendering }.record .dump)

/-- The recording engine calls no hooks. -/
def engine (answers : Answers) : Engine State where
  respond c h s := .done (respond answers c h s)

end ScriptHost.Recording

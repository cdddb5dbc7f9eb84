import ScriptHost.Engine.Basic

/-!
# The bound library

A runtime whose entry points were looked up in a native library, as an engine. Code is passed with
its length, the path of a script and the name of inline code as NUL-terminated strings. The name of
a type comes back as a pointer to such a string, or as a null pointer.
-/
namespace ScriptHost

/-- A call as the entry point gets it. -/
def Call.passed : Call → Call
  | .openScript path => .openScript (untilNul path)
  | .evaluate code name => .evaluate code (untilNul name)
  | c => c

/-- What an entry point returns; for the name of a type, the bytes at the pointer, if there is
one. -/
@[reducible] def Call.Returned : Call → Type
  | .typeName => Option Bytes
  | c => c.Answer

/-- What the host makes of it. -/
def Call.answer : (c : Call) → c.passed.Returned → c.Answer
  | .typeName, name => Utf8.lossy (untilNul (name.getD []))
  | .moduleStartup, status | .openRequest, status | .evaluate _ _, status => status
  | .runScript, completed => completed
  | .armSignals, _ | .registerHost, _ | .unregisterHost, _ | .moduleShutdown, _
  | .closeRequest, _ | .openScript _, _ | .closeScript, _ | .dump, _ => ()

/-- A native library with states `ρ`: what it does when one of its entry points is called.
mirrors `meta_ffi::library::PhpApi` -/
structure Runtime (ρ : Type) where
  enter : (c : Call) → Host → ρ → Activity (c.Returned × ρ)

/-- The library leaves the `startup` slot to the host. -/
def Runtime.LeavesSlot {ρ : Type} (r : Runtime ρ) : Prop :=
  ∀ c host s, (r.enter c host s).LeavesSlot

/-- The engine that calls the entry points of a library.
mirrors `meta_sapi::engine::Engine` for `meta_ffi::library::PhpLibrary` -/
def Runtime.engine {ρ : Type} (r : Runtime ρ) : Engine ρ where
  respond c h s := (r.enter c.passed h s).bind fun (returned, s) => .done (c.answer returned, s)

end ScriptHost

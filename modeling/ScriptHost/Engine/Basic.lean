import ScriptHost.Host.Hook

/-!
# Engines

An engine is a runtime seen from the host: what it does and answers when one of its entry points
is called. It may keep a state of its own, read the host's memory, and call hooks before it
returns; it changes the host in no other way.

What an engine does during one call is an `Activity`, a finite tree: each hook call is followed
by what the engine does next, for every result the hook may have. `Activity.run` lets the host
answer those hooks.

**The contract of the `startup` slot (`Engine.LeavesSlot`).** The slot is in the descriptor for the
host: it is only ever run by the host, once, in its own startup, and nothing but the slot calls the
engine's module startup. An engine that kept the descriptor could still run the slot by itself. The
host's half of it would be the same then (`Hook.startup`), but the module startup that follows
would belong to the call the engine is in, and would not be listed among the calls of a traced
engine. What is said of the calls of module startup, or of the number of strings, is said of
engines that keep the contract.
-/
namespace ScriptHost

/-- What an engine does before it returns an answer. -/
inductive Activity (α : Type) where
  | done (answer : α)
  | call (hook : Hook) (next : hook.Result → Activity α)

namespace Activity

def bind {α β : Type} : Activity α → (α → Activity β) → Activity β
  | done a, f => f a
  | call hook next, f => call hook fun r => (next r).bind f

instance : Monad Activity where
  pure := done
  bind := bind

/-- A single hook call. -/
def ask (hook : Hook) : Activity hook.Result :=
  call hook done

def run {α : Type} : Activity α → Host → α × Host
  | done a, h => (a, h)
  | call hook next, h => (next (h.answer hook).1).run (h.answer hook).2

/-- The `startup` slot is not run. -/
def LeavesSlot {α : Type} : Activity α → Prop
  | done _ => True
  | call hook next => hook ≠ .startup ∧ ∀ result, (next result).LeavesSlot

end Activity

/-- The entry points that the host calls.
mirrors the methods of `meta_sapi::engine::Engine` -/
inductive Call where
  | armSignals
  | registerHost
  | unregisterHost
  | moduleStartup
  | moduleShutdown
  | openRequest
  | closeRequest
  | openScript (path : Bytes)
  | runScript
  | closeScript
  | evaluate (code name : Bytes)
  | typeName
  | dump
  deriving DecidableEq, Repr

/-- What the host learns from a call: a status, whether the script completed, or the name of a
type. -/
@[reducible] def Call.Answer : Call → Type
  | .moduleStartup | .openRequest | .evaluate _ _ => Int
  | .runScript => Bool
  | .typeName => String
  | .armSignals | .registerHost | .unregisterHost | .moduleShutdown | .closeRequest
  | .openScript _ | .closeScript | .dump => Unit

/-- A runtime with states `σ`: what it does when it is called in a state.
mirrors `meta_sapi::engine::Engine` -/
structure Engine (σ : Type) where
  respond : (c : Call) → Host → σ → Activity (c.Answer × σ)

/-- The contract of the `startup` slot: it is only ever run by the host. -/
def Engine.LeavesSlot {σ : Type} (e : Engine σ) : Prop :=
  ∀ c host s, (e.respond c host s).LeavesSlot

end ScriptHost

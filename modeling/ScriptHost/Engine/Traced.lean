import ScriptHost.Engine.Basic

/-!
# Traced engines

An engine that does what another one does and keeps a list of its calls: each with the host's
memory as it was when the call was made, with the answer, and with the state that the engine was
in when it had answered. The calls are those that the host makes by itself; a module startup in a
`startup` slot that an engine ran is part of the call it ran the slot in.
-/
namespace ScriptHost

/-- A call with what it met, what it was answered, and what it left of the engine. -/
structure Exchange (σ : Type) where
  call : Call
  host : Host
  answer : call.Answer
  after : σ

/-- The state of a traced engine. -/
structure Traced (σ : Type) where
  state : σ
  exchanges : List (Exchange σ) := []

namespace Traced

variable {σ : Type}

def note (t : Traced σ) (c : Call) (h : Host) (answer : c.Answer) (state : σ) : Traced σ :=
  ⟨state, t.exchanges ++ [⟨c, h, answer, state⟩]⟩

def calls (t : Traced σ) : List Call :=
  t.exchanges.map (·.call)

end Traced

/-- The engine `e`, traced. -/
def Engine.traced {σ : Type} (e : Engine σ) : Engine (Traced σ) where
  respond c h t := (e.respond c h t.state).bind fun (answer, state) =>
    .done (answer, t.note c h answer state)

/-- A call together with its answer. -/
abbrev Answered := (c : Call) × c.Answer

def Exchange.answered {σ : Type} (x : Exchange σ) : Answered :=
  ⟨x.call, x.answer⟩

/-- The calls of a traced engine with their answers, in order. -/
def Traced.answered {σ : Type} (t : Traced σ) : List Answered :=
  t.exchanges.map (·.answered)

end ScriptHost

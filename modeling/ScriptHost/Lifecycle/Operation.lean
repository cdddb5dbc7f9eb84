import ScriptHost.Lifecycle.Basic

/-!
# Runs of the lifecycle

The operations as data, so that a run is a list of them. A request is one operation: what is
done inside it cannot outlive it, unless its guard is forgotten, and then it is never closed.
-/
namespace ScriptHost

/-- Something done in an open request. -/
inductive Action where
  | evaluate (line : String)
  | runScript (path : Bytes)
  deriving DecidableEq, Repr

inductive Action.Outcome where
  | evaluated (result : Evaluation)
  | executed (completed : Bool)
  | refused (cause : Lifecycle.Error)
  deriving DecidableEq, Repr

/-- What becomes of an open request after its actions. -/
inductive Closing where
  | dropped
  | forgotten
  deriving DecidableEq, Repr

inductive Operation where
  | startup
  | shutdown
  | request (actions : List Action) (closing : Closing)
  deriving DecidableEq, Repr

namespace Lifecycle

variable {σ : Type}

def act (e : Engine σ) (l : Lifecycle σ) : Action → Action.Outcome × Lifecycle σ
  | .evaluate line =>
    let (result, l) := l.evaluate e line
    (.evaluated result, l)
  | .runScript path =>
    match l.runScript e path with
    | (.ok completed, l) => (.executed completed, l)
    | (.error cause, l) => (.refused cause, l)

def actAll (e : Engine σ) (l : Lifecycle σ) : List Action → List Action.Outcome × Lifecycle σ
  | [] => ([], l)
  | a :: rest =>
    let (outcome, l) := l.act e a
    let (outcomes, l) := l.actAll e rest
    (outcome :: outcomes, l)

/-- One operation, with the outcomes of its actions. -/
def operate (e : Engine σ) (l : Lifecycle σ) :
    Operation → Except Error (List Action.Outcome) × Lifecycle σ
  | .startup =>
    let (result, l) := l.startup e
    (result.map fun _ => [], l)
  | .shutdown =>
    let (result, l) := l.shutdown e
    (result.map fun _ => [], l)
  | .request actions closing =>
    match l.openRequest e with
    | (.error cause, l) => (.error cause, l)
    | (.ok (), l) =>
      let (outcomes, l) := l.actAll e actions
      match closing with
      | .dropped => (.ok outcomes, l.closeRequest e)
      | .forgotten => (.ok outcomes, l)

/-- The lifecycle after a run of operations. -/
def operateAll (e : Engine σ) (l : Lifecycle σ) (ops : List Operation) : Lifecycle σ :=
  ops.foldl (fun l op => (l.operate e op).2) l

end Lifecycle

end ScriptHost

import ScriptHost.Repl.Basic

/-!
# Sessions

A session is a lifecycle with a history and the files. Its steps are the operations of the
lifecycle, loops over some source of lines, and saves of the history.
-/
namespace ScriptHost

/-- What is asked of a loop: to handle one given line, or to run over its source. -/
inductive Repl.Act where
  | step (line : String)
  | run
  deriving DecidableEq, Repr

inductive Repl.Outcome where
  | handled (result : LineResult)
  | stopped (reason : StopReason)
  | failed (cause : Lifecycle.Error)
  deriving DecidableEq, Repr

namespace Repl

variable {σ : Type}

/-- One act, on a source with these readings. The second component is what the source has left. -/
def act (e : Engine σ) (view : σ → FileSystem) (r : Repl σ) (readings : List Reading) :
    Act → Outcome × List Reading × Repl σ
  | .step line =>
    match r.step e view line with
    | (.ok result, r) => (.handled result, readings, r)
    | (.error cause, r) => (.failed cause, readings, r)
  | .run =>
    match r.run e view readings with
    | (.ok reason, readings, r) => (.stopped reason, readings, r)
    | (.error cause, readings, r) => (.failed cause, readings, r)

/-- The acts in order, each outcome with the number of lines handled by then. -/
def actAll (e : Engine σ) (view : σ → FileSystem) (r : Repl σ) (readings : List Reading) :
    List Act → List (Outcome × Nat) × Repl σ
  | [] => ([], r)
  | a :: rest =>
    let (outcome, readings, r) := r.act e view readings a
    let (outcomes, last) := r.actAll e view readings rest
    ((outcome, r.linesHandled) :: outcomes, last)

end Repl

/-- A loop that is to be opened: its prompt, its source, and what is asked of it. -/
structure Loop where
  prompt : String
  showsPrompt : Bool := false
  readings : List Reading
  acts : List Repl.Act

structure Session (σ : Type) where
  lifecycle : Lifecycle σ
  history : History
  files : FileSystem

inductive Session.Step where
  | operate (op : Operation)
  | loop (l : Loop)
  | save

namespace Session

variable {σ : Type}

def operate (e : Engine σ) (s : Session σ) (op : Operation) :
    Except Lifecycle.Error (List Action.Outcome) × Session σ :=
  let (result, lifecycle) := s.lifecycle.operate e op
  (result, { s with lifecycle })

/-- Opens a loop on the session's lifecycle and history. The loop as it ended tells what the
source was asked for. -/
def loop (e : Engine σ) (s : Session σ) (l : Loop) :
    List (Repl.Outcome × Nat) × Repl σ × Session σ :=
  let repl : Repl σ := {
    lifecycle := s.lifecycle
    history := s.history
    prompt := l.prompt
    showsPrompt := l.showsPrompt }
  let (outcomes, r) := repl.actAll e (fun _ => s.files) l.readings l.acts
  (outcomes, r, { s with lifecycle := r.lifecycle, history := r.history })

def save (s : Session σ) : Except History.Error Unit × Session σ :=
  let (result, history, files) := s.history.save s.files
  (result, { s with history, files })

/-- The session after a step. -/
def step (e : Engine σ) (s : Session σ) : Step → Session σ
  | .operate op => (s.operate e op).2
  | .loop l => (s.loop e l).2.2
  | .save => s.save.2

/-- The session after all steps. -/
def run (e : Engine σ) (s : Session σ) (steps : List Step) : Session σ :=
  steps.foldl (step e) s

end Session

end ScriptHost

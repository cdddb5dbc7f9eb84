import ScriptHost.Proofs.LiveStrings
import ScriptHost.Proofs.PhaseMoves

/-!
# What loops are made of

A loop handles each line in a request of its own, and may write its prompt before it reads. So the
lifecycle that it works on takes steps of the kinds that operations are made of, and prints between
them (`Turn`). What all turns preserve is preserved however a lifecycle is used.

**Results.**
* `Repl.step_steps`: a line is a sequence of steps.
* `Repl.run_turns`, `Repl.actAll_turns`, `Lifecycle.useAll_turns`: a loop, and any use of a
  lifecycle, is a sequence of turns.
* `Lifecycle.turns_tracks`: the strings stay alive and shown at every call of such a sequence.
-/
namespace ScriptHost

namespace Lifecycle

variable {σ : Type}

/-- A step, or a print of the host's own. -/
inductive Turn (e : Engine σ) (l : Lifecycle σ) : Lifecycle σ → Prop
  | step {l' : Lifecycle σ} : Step e l l' → Turn e l l'
  | print (text : String) :
      Turn e l { l with host := { l.host with console := l.host.console.print text } }

/-- Any number of turns. -/
abbrev Turns (e : Engine σ) : Lifecycle σ → Lifecycle σ → Prop :=
  Relation.ReflTransGen (Turn e)

theorem Steps.turns {e : Engine σ} {l l' : Lifecycle σ} (h : Steps e l l') : Turns e l l' :=
  Relation.ReflTransGen.mono (fun _ _ => Turn.step) _ _ h

end Lifecycle

/-! ## Loops -/

namespace Repl

open Lifecycle

variable {σ : Type} {r : Repl σ} (e : Engine σ) (view : σ → FileSystem)

theorem runAs_steps {l : Lifecycle σ} (h : l.phase = .requestActive) (kind : LineKind) :
    Steps e l (runAs e l kind).2 := by
  cases kind with
  | script path => exact runScript_steps e h path
  | inline code => exact evaluate_steps e h code

/-- A line is handled in a request of its own, or refused by the runtime or for the phase. -/
theorem step_steps (r : Repl σ) (line : String) :
    Steps e r.lifecycle (r.step e view line).2.lifecycle := by
  cases hr : isReady r.lifecycle.phase with
  | false =>
    rw [step_unready e view hr]
  | true =>
    have ho := openRequest_steps e hr
    have hp := phase_of_openRequest (l := r.lifecycle) (e := e)
    rcases step_cases e view hr line with ⟨l, hl, -, hs⟩ | ⟨l, outcome, l', hl, hk, hs⟩
    · rw [hs]
      rwa [hl] at ho
    · rw [hl] at ho hp
      have ha := runAs_steps e (hp rfl) (.ofLine (view l.engine) line)
      have hq := phase_runAs e l (.ofLine (view l.engine) line)
      rw [hk] at ha hq
      have hq : l'.phase = .requestActive := hq.trans (hp rfl)
      rw [hs]
      have hlog : Steps e r.lifecycle (l'.log (.handledLine (r.linesHandled + 1) outcome)) :=
        (ho.trans ha).tail (.log trivial)
      exact (hlog.tail (.call (c := .closeRequest) hq)).tail (.move (hq ▸ .close))

theorem ask_turns (r : Repl σ) : Turns e r.lifecycle r.ask.lifecycle := by
  unfold ask
  dsimp only
  split
  · exact .single (.print r.prompt)
  · exact .refl

theorem run_turns (r : Repl σ) (readings : List Reading) :
    Turns e r.lifecycle (r.run e view readings).2.2.lifecycle := by
  induction readings generalizing r with
  | nil => exact ask_turns e r
  | cons reading rest ih =>
    have ha := ask_turns e r
    cases reading with
    | line line =>
      have hs := ha.trans (step_steps e view r.ask line).turns
      simp only [run]
      split
      · exact ha
      · split <;> rename_i hx <;> rw [hx] at hs
        · exact hs
        · exact hs.trans (ih _)
    | failed reason => exact ha.tail (.step (.log trivial))
    | _ => exact ha

theorem actAll_turns (r : Repl σ) (readings : List Reading) (acts : List Act) :
    Turns e r.lifecycle (r.actAll e view readings acts).2.lifecycle := by
  induction acts generalizing r readings with
  | nil => exact .refl
  | cons a rest ih =>
    refine Relation.ReflTransGen.trans ?_ (ih (r.act e view readings a).2.2 _)
    cases a with
    | step line =>
      rw [act_step]
      exact (step_steps e view r line).turns
    | run =>
      rw [act_run]
      exact run_turns e view r readings

end Repl

/-! ## Every use -/

namespace Lifecycle

variable {σ : Type} {e : Engine σ}

theorem use_turns (l : Lifecycle (Traced σ)) (u : Use σ) : Turns e.traced l (l.use e u) := by
  cases u with
  | operate op => exact (operate_steps e.traced l op).turns
  | loop loop history view =>
    exact Repl.actAll_turns e.traced (view ·.state)
      ⟨l, history, loop.prompt, loop.showsPrompt, 0, 0, []⟩ loop.readings loop.acts

theorem useAll_turns (l : Lifecycle (Traced σ)) (uses : List (Use σ)) :
    Turns e.traced l (l.useAll e uses) := by
  induction uses generalizing l with
  | nil => exact .refl
  | cons u rest ih => exact (use_turns l u).trans (ih _)

section
variable {s : σ} {config : Host.Config} {l l' : Lifecycle (Traced σ)}

theorem turn_tracks (ha : Alive config l) (h : Tracks e s config l) (ht : Turn e.traced l l') :
    Alive config l' ∧ Tracks e s config l' := by
  cases ht with
  | step hs => exact ⟨step_alive ha hs, step_tracks ha h hs⟩
  | print text =>
    exact ⟨⟨fun hp => (ha.shows hp).console _, ha.released⟩, h.state, h.live, h.ini⟩

/-- Turns keep the strings alive, and call the engine with everything shown. -/
theorem turns_tracks (ha : Alive config l) (h : Tracks e s config l) (ht : Turns e.traced l l') :
    Alive config l' ∧ Tracks e s config l' := by
  induction ht with
  | refl => exact ⟨ha, h⟩
  | tail _ ht ih => exact turn_tracks ih.1 ih.2 ht

end

end Lifecycle

end ScriptHost

import ScriptHost.Engine.Traced
import ScriptHost.Proofs.ReplRun

/-!
# When a loop fails

No input makes a loop fail, only a lifecycle that may not open requests does.

**What the first reading decides (`Reading.first`).** Such a lifecycle refuses the first line that
is not a keyword, and the loop fails on it. A reading that stops the loop ends it before the
lifecycle is asked.

**What a failure leaves alone (`Untouched`).** Of the lifecycle only the console may change, by
the prompt and by events, so the engine was not called; the history and what the source was asked
to remember stay.

**Results.**
* `runAs_ne_refused`: a line that is run is not a refused one.
* `step_unready`, `run_unready`: what a line, and a run, comes to when requests may not be opened.
* `run_fails_iff`: a run fails only there, and no line ever for a NUL in it.
-/
namespace ScriptHost

/-- The reading that a source yields first. -/
def Reading.first (readings : List Reading) : Reading :=
  readings.head?.getD .endOfInput

namespace Repl

variable {σ : Type}

/-- The engine was not called, and nothing was kept. -/
structure Untouched (r r' : Repl σ) : Prop where
  lifecycle : ∃ console, r'.lifecycle =
    { r.lifecycle with host := { r.lifecycle.host with console } }
  history : r'.history = r.history
  remembered : r'.remembered = r.remembered

theorem untouched_ask (r : Repl σ) : r.Untouched r.ask := by
  unfold ask
  dsimp only
  split <;> exact ⟨⟨_, rfl⟩, rfl, rfl⟩

theorem Untouched.log {r r' : Repl σ} (h : r.Untouched r') (event : Event) :
    r.Untouched (r'.log event) := by
  obtain ⟨⟨console, hl⟩, hh, hm⟩ := h
  refine ⟨⟨console.log event, ?_⟩, hh, hm⟩
  simp only [Repl.log, Lifecycle.log, Host.log, hl]

/-- A line that is run is not a refused one. -/
theorem runAs_ne_refused {e : Engine σ} {l l' : Lifecycle σ} {kind : LineKind}
    {outcome : LineResult} (h : runAs e l kind = (.ok outcome, l')) : outcome ≠ .refused := by
  rintro rfl
  cases kind with
  | script path =>
    simp only [runAs] at h
    cases hr : (l.runScript e path).1 <;> simp [hr, Except.map] at h
  | inline code => simp [runAs] at h

/-- A line is refused exactly when the runtime refuses its request. -/
theorem step_refused_iff (e : Engine σ) (view : σ → FileSystem) {r : Repl σ}
    (h : Lifecycle.isReady r.lifecycle.phase = true) (line : String) :
    ∃ outcome, (r.step e view line).1 = .ok outcome ∧
      (outcome = .refused ↔ (r.lifecycle.openRequest e).1 = .error .requestRefused) := by
  rcases step_cases e view h line with ⟨l, ho, -, hs⟩ | ⟨l, outcome, l', ho, hk, hs⟩
  · exact ⟨.refused, by rw [hs], by simp [ho]⟩
  · exact ⟨outcome, by rw [hs], by simp [ho, runAs_ne_refused hk]⟩

section
variable (e : Engine σ) (view : σ → FileSystem) {r : Repl σ}
  (h : Lifecycle.isReady r.lifecycle.phase = false)
include h

theorem step_unready (line : String) :
    r.step e view line =
      (.error (.outOfPhase r.lifecycle.phase .requestActive),
        { r with linesHandled := r.linesHandled + 1 }) := by
  unfold step
  simp only [Lifecycle.openRequest_refused _ _ h]

/-- The first reading is the only one. It stops the loop, or the loop fails on it. -/
theorem run_unready (readings : List Reading) :
    ∃ r', r.run e view readings =
        (if (Reading.first readings).stops then .ok (Reading.first readings).stopReason
          else .error (.outOfPhase r.lifecycle.phase .requestActive), readings.tail, r') ∧
      r'.reads = r.reads + 1 ∧ r.Untouched r' := by
  cases readings with
  | nil => exact ⟨r.ask, rfl, reads_ask r, untouched_ask r⟩
  | cons x rest =>
    have hf : Reading.first (x :: rest) = x := rfl
    rw [hf]
    cases hx : x.stops with
    | true =>
      obtain ⟨r', hr, hr'⟩ := run_stops e view r hx rest
      refine ⟨r', by rw [hr]; rfl, ?_⟩
      rcases hr' with rfl | ⟨reason, -, rfl⟩
      · exact ⟨reads_ask r, untouched_ask r⟩
      · exact ⟨reads_ask r, (untouched_ask r).log _⟩
    | false =>
      cases x with
      | line line =>
        have hl : endsLoop line = false := hx
        have hu := untouched_ask r
        rw [← phase_ask] at h
        refine ⟨{ r.ask with linesHandled := r.ask.linesHandled + 1 }, ?_, reads_ask r,
          hu.lifecycle, hu.history, hu.remembered⟩
        simp only [run, hl, Bool.false_eq_true, if_false, step_unready e view h, phase_ask]
        rfl
      | _ => cases hx

end

/-- **When a loop fails.** On a lifecycle that may open requests a run ends well on every input,
and every line has an outcome, which tells when its request was refused. On any other lifecycle a
run reads once: a reading that stops the loop ends it well, and any other line is refused for the
phase; either way the engine and the phase stay as they are, so a traced engine notes no call, and
so do the history and what the source was asked to remember. No line is ever refused for a NUL in
its path. -/
theorem run_fails_iff (e : Engine σ) (view : σ → FileSystem) (r : Repl σ)
    (readings : List Reading) :
    (Lifecycle.isReady r.lifecycle.phase = true →
        (r.run e view readings).1 = .ok (Reading.last readings).stopReason ∧
        ∀ line, ∃ outcome, (r.step e view line).1 = .ok outcome ∧
          (outcome = .refused ↔
            (r.lifecycle.openRequest e).1 = .error .requestRefused)) ∧
      (Lifecycle.isReady r.lifecycle.phase = false →
        ∃ r', r.run e view readings =
            (if (Reading.first readings).stops then .ok (Reading.first readings).stopReason
              else .error (.outOfPhase r.lifecycle.phase .requestActive), readings.tail, r') ∧
          r'.reads = r.reads + 1 ∧ r'.lifecycle.engine = r.lifecycle.engine ∧
          r'.lifecycle.phase = r.lifecycle.phase ∧ r'.history = r.history ∧
          r'.remembered = r.remembered) ∧
      ∀ line path, (r.step e view line).1 ≠ .error (.nulInPath path) := by
  refine ⟨fun h => ⟨?_, step_refused_iff e view h⟩, fun h => ?_, fun line path => ?_⟩
  · obtain ⟨r', hr, -⟩ := run_reads e view h readings
    rw [hr]
  · obtain ⟨r', hr, hn, ⟨console, hl⟩, hh, hm⟩ := run_unready e view h readings
    exact ⟨r', hr, hn, by rw [hl], by rw [hl], hh, hm⟩
  · cases h : Lifecycle.isReady r.lifecycle.phase with
    | true =>
      obtain ⟨outcome, ho, -⟩ := step_refused_iff e view h line
      rw [ho]
      simp
    | false =>
      rw [step_unready e view h]
      simp

theorem run_fails_unstarted :
    ∃ l, (Lifecycle.create (⟨{}, []⟩ : Traced Recording.State) .default).1 = .ok l ∧
      let r : Repl (Traced Recording.State) := ⟨l, .empty [], "> ", false, 0, 0, []⟩
      Lifecycle.isReady r.lifecycle.phase = false ∧
        ∃ r', r.run (Recording.engine {}).traced (fun _ => ⟨[], []⟩) [.line "a\x00", .line "b"] =
            (.error (.outOfPhase .unstarted .requestActive), [.line "b"], r') ∧
          r'.lifecycle.engine.calls = [] ∧ r'.remembered = [] := by
  have hc : ∃ l, (Lifecycle.create (⟨{}, []⟩ : Traced Recording.State) .default).1 = .ok l :=
    ⟨_, rfl⟩
  obtain ⟨l, hl⟩ := hc
  obtain ⟨hp, he, -⟩ := Lifecycle.create_ok hl
  have hu : Lifecycle.isReady l.phase = false := by rw [hp]; rfl
  obtain ⟨r', hr, -, he', -, -, hm⟩ := (run_fails_iff (Recording.engine {}).traced
    (fun _ => ⟨[], []⟩) ⟨l, .empty [], "> ", false, 0, 0, []⟩
    [.line "a\x00", .line "b"]).2.1 hu
  rw [hp] at hr
  exact ⟨l, hl, hu, r', hr, by rw [he', he]; rfl, hm⟩

end Repl

end ScriptHost

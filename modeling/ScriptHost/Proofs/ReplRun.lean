import ScriptHost.Engine.Recording
import ScriptHost.Proofs.LifecycleCalls
import ScriptHost.Repl.Basic

/-!
# How a run of the loop ends and what it keeps

On a lifecycle that may open requests, over any source of lines, any engine and any files.

**The source (`Reading.handled`, `Reading.last`, `Reading.unread`).** The readings before the
first one that stops the loop are lines, and these are handled; the first that stops the loop is
the last one read; everything behind it stays unread. A source that never stops the loop is read
to its end.

**What is kept (`Keeps`).** Since an earlier state of the loop, so many lines were handled, and
those of them that are not blank went to the history and to the source's memory, as they are and
in order. `Keeps.trans` composes stretches of a run.

**Results.**
* `step_cases`: what one line can do: its request is refused, or it is run and the request closed.
* `step_keeps`: either way the line is handled and kept once, and requests may be opened again.
* `run_invariant`: what every line preserves, a run preserves.
* `run_keeps`: a run stops at the first reading that stops it, keeps the lines before it, and
  leaves the keyword that stopped it alone.
-/
namespace ScriptHost

namespace FileSystem

/-- A path with a NUL names nothing. -/
theorem contains_of_nul (fs : FileSystem) {path : Bytes} (h : 0 ∈ path) :
    fs.contains path = false := by
  unfold contains find locate
  rw [if_pos h]
  rfl

end FileSystem

/-! ## What a source yields -/

namespace Reading

/-- Whether the loop stops at a reading. -/
def stops : Reading → Bool
  | .line text => Repl.endsLoop text
  | .endOfInput | .interrupted | .failed _ => true

def text? : Reading → Option String
  | .line text => some text
  | .endOfInput | .interrupted | .failed _ => none

/-- Why the loop stops at a reading. -/
def stopReason : Reading → StopReason
  | .line word => .keyword word
  | .endOfInput => .endOfInput
  | .interrupted => .interrupted
  | .failed reason => .readFailed reason

/-- The readings before the first that stops the loop. -/
def beforeStop (readings : List Reading) : List Reading :=
  readings.takeWhile (!·.stops)

/-- The lines that are handled. -/
def handled (readings : List Reading) : List String :=
  (beforeStop readings).filterMap text?

/-- The reading that stops the loop. -/
def last (readings : List Reading) : Reading :=
  (readings.find? stops).getD .endOfInput

/-- The readings behind the one that stops the loop. -/
def unread (readings : List Reading) : List Reading :=
  (readings.dropWhile (!·.stops)).drop 1

theorem handled_cons_of_stops {x : Reading} (h : x.stops = true) (rest : List Reading) :
    handled (x :: rest) = [] := by
  simp [handled, beforeStop, h]

theorem last_cons_of_stops {x : Reading} (h : x.stops = true) (rest : List Reading) :
    last (x :: rest) = x := by
  simp [last, h]

theorem unread_cons_of_stops {x : Reading} (h : x.stops = true) (rest : List Reading) :
    unread (x :: rest) = rest := by
  simp [unread, h]

section
variable {line : String} (h : Repl.endsLoop line = false) (rest : List Reading)
include h

theorem beforeStop_cons_line :
    beforeStop (.line line :: rest) = .line line :: beforeStop rest := by
  simp [beforeStop, stops, h]

theorem handled_cons_line : handled (.line line :: rest) = line :: handled rest := by
  simp [handled, beforeStop_cons_line h, text?]

theorem last_cons_line : last (.line line :: rest) = last rest := by
  simp [last, stops, h]

theorem unread_cons_line : unread (.line line :: rest) = unread rest := by
  simp [unread, stops, h]

end

end Reading

namespace Repl

variable {σ : Type}

/-! ## What is kept -/

/-- The lines with a character that is not blank. -/
def worthKeeping (lines : List String) : List String :=
  lines.filter fun line => line.toList.any (!Text.isBlank ·)

theorem worthKeeping_append (xs ys : List String) :
    worthKeeping (xs ++ ys) = worthKeeping xs ++ worthKeeping ys :=
  List.filter_append ..

/-- Since `r`, the loop `r'` has handled `lines` and kept those that are worth it. -/
structure Keeps (r r' : Repl σ) (lines : List String) : Prop where
  linesHandled : r'.linesHandled = r.linesHandled + lines.length
  history : r'.history = { r.history with entries := r.history.entries ++ worthKeeping lines }
  remembered : r'.remembered = r.remembered ++ worthKeeping lines

theorem Keeps.refl (r : Repl σ) : r.Keeps r [] :=
  ⟨rfl, by simp [worthKeeping], by simp [worthKeeping]⟩

theorem Keeps.trans {r r' r'' : Repl σ} {xs ys : List String} (a : r.Keeps r' xs)
    (b : r'.Keeps r'' ys) : r.Keeps r'' (xs ++ ys) := by
  refine ⟨?_, ?_, ?_⟩
  · rw [b.linesHandled, a.linesHandled, List.length_append, Nat.add_assoc]
  · simp only [b.history, a.history, worthKeeping_append, List.append_assoc]
  · rw [b.remembered, a.remembered, worthKeeping_append, List.append_assoc]

/-! ## Parts of a step -/

theorem isBlankText_eq (line : String) :
    Text.isBlankText line = !line.toList.any (!Text.isBlank ·) := by
  rw [Text.isBlankText, List.all_eq_not_any_not]

theorem reads_record (r : Repl σ) (line : String) : (r.record line).reads = r.reads := by
  unfold record
  split <;> rfl

theorem record_kept (r : Repl σ) (line : String) :
    (r.record line).history =
        { r.history with entries := r.history.entries ++ worthKeeping [line] } ∧
      (r.record line).remembered = r.remembered ++ worthKeeping [line] := by
  unfold record
  rw [isBlankText_eq]
  cases hb : line.toList.any (!Text.isBlank ·) <;> simp [worthKeeping, hb, History.add]

/-- A line never names a path that cannot be run: one with a NUL does not exist. -/
theorem runAs_ofLine (e : Engine σ) (l : Lifecycle σ) (fs : FileSystem) (line : String) :
    ∃ outcome, (runAs e l (.ofLine fs line)).1 = .ok outcome := by
  unfold LineKind.ofLine
  split
  · rename_i hc
    have h0 : 0 ∉ Utf8.encode line := by
      intro h0
      simp [fs.contains_of_nul h0] at hc
    exact ⟨_, by simp only [runAs, Lifecycle.runScript, if_neg h0]; rfl⟩
  · exact ⟨_, rfl⟩

/-! ## One line -/

section
variable {r : Repl σ}

/-- What one line can do. -/
theorem step_cases (e : Engine σ) (view : σ → FileSystem)
    (h : Lifecycle.isReady r.lifecycle.phase = true) (line : String) :
    (∃ l, r.lifecycle.openRequest e = (.error .requestRefused, l) ∧ l.phase = .requestIdle ∧
        r.step e view line =
          (.ok .refused, { r.record line with
            linesHandled := r.linesHandled + 1
            lifecycle := l })) ∨
      ∃ l outcome l', r.lifecycle.openRequest e = (.ok (), l) ∧
        runAs e l (.ofLine (view l.engine) line) = (.ok outcome, l') ∧
        r.step e view line =
          (.ok outcome, { r.record line with
            linesHandled := r.linesHandled + 1
            lifecycle :=
              (l'.log (.handledLine (r.linesHandled + 1) outcome)).closeRequest e }) := by
  have hr := Lifecycle.openRequest_ready e r.lifecycle h
  unfold step
  cases ho : r.lifecycle.openRequest e with
  | mk result l =>
    rw [ho] at hr
    rcases hr with ⟨rfl, -⟩ | ⟨rfl, hp⟩
    · obtain ⟨outcome, hk⟩ := runAs_ofLine e l (view l.engine) line
      cases hx : runAs e l (.ofLine (view l.engine) line) with
      | mk result l' =>
        rw [hx] at hk
        subst hk
        refine Or.inr ⟨l, outcome, l', rfl, hx, ?_⟩
        simp only [ho, hx]
        unfold record
        split <;> rfl
    · refine Or.inl ⟨l, rfl, hp, ?_⟩
      simp only [ho]
      unfold record
      split <;> rfl

/-- A line is handled and kept once, whatever becomes of it, and requests may be opened again. -/
theorem step_keeps (e : Engine σ) (view : σ → FileSystem)
    (h : Lifecycle.isReady r.lifecycle.phase = true) (line : String) :
    (∃ outcome, (r.step e view line).1 = .ok outcome) ∧
      (r.step e view line).2.lifecycle.phase = .requestIdle ∧
      (r.step e view line).2.reads = r.reads ∧ r.Keeps (r.step e view line).2 [line] := by
  obtain ⟨hh, hm⟩ := record_kept r line
  rcases step_cases e view h line with ⟨l, -, hp, hs⟩ | ⟨l, outcome, l', -, -, hs⟩
  · rw [hs]
    exact ⟨⟨_, rfl⟩, hp, reads_record r line, rfl, hh, hm⟩
  · rw [hs]
    exact ⟨⟨_, rfl⟩, rfl, reads_record r line, rfl, hh, hm⟩

/-! ## The whole run -/

theorem ask_keeps (r : Repl σ) : r.Keeps r.ask [] := by
  have hk := Keeps.refl r
  unfold ask
  dsimp only
  split <;> exact ⟨hk.linesHandled, hk.history, hk.remembered⟩

theorem phase_ask (r : Repl σ) : r.ask.lifecycle.phase = r.lifecycle.phase := by
  unfold ask
  dsimp only
  split <;> rfl

theorem reads_ask (r : Repl σ) : r.ask.reads = r.reads + 1 := by
  unfold ask
  dsimp only
  split <;> rfl

/-- At a reading that stops it, the loop was asked once more, and reports a failure at most. -/
theorem run_stops (e : Engine σ) (view : σ → FileSystem) (r : Repl σ) {x : Reading}
    (h : x.stops = true) (rest : List Reading) :
    ∃ r', r.run e view (x :: rest) = (.ok x.stopReason, rest, r') ∧
      (r' = r.ask ∨ ∃ reason, x = .failed reason ∧ r' = r.ask.log (.readingFailed reason)) := by
  cases x with
  | line text =>
    refine ⟨r.ask, ?_, Or.inl rfl⟩
    have h : endsLoop text = true := h
    simp only [run, h, if_true, Reading.stopReason]
  | failed reason => exact ⟨_, rfl, Or.inr ⟨reason, rfl, rfl⟩⟩
  | _ => exact ⟨r.ask, rfl, Or.inl rfl⟩

theorem isReady_requestIdle {p : Phase} (h : p = .requestIdle) : Lifecycle.isReady p = true := by
  rw [h]
  rfl

/-- A line that does not stop the loop is one step of it. -/
theorem run_line (e : Engine σ) (view : σ → FileSystem)
    (h : Lifecycle.isReady r.lifecycle.phase = true) {line : String}
    (hl : endsLoop line = false) (rest : List Reading) :
    r.run e view (.line line :: rest) = (r.ask.step e view line).2.run e view rest := by
  rw [← phase_ask] at h
  obtain ⟨⟨outcome, ho⟩, -⟩ := step_keeps e view h line
  simp only [run, hl, Bool.false_eq_true, if_false]
  cases hs : r.ask.step e view line with
  | mk result r' =>
    rw [hs] at ho
    subst ho
    rfl

/-- What asking, reporting and every line preserve, a run preserves. -/
theorem run_invariant {P : List String → Repl σ → Prop} (e : Engine σ) (view : σ → FileSystem)
    (hask : ∀ {lines r}, P lines r → P lines r.ask)
    (hlog : ∀ {lines r} event, P lines r → P lines (r.log event))
    (hstep : ∀ {lines r} line, Lifecycle.isReady r.lifecycle.phase = true → P lines r →
      P (lines ++ [line]) (r.step e view line).2)
    (h : Lifecycle.isReady r.lifecycle.phase = true) (lines : List String) (hp : P lines r)
    (readings : List Reading) :
    P (lines ++ Reading.handled readings) (r.run e view readings).2.2 := by
  induction readings generalizing r lines with
  | nil =>
    rw [Reading.handled, Reading.beforeStop, List.takeWhile_nil, List.filterMap_nil,
      List.append_nil]
    exact hask hp
  | cons x rest ih =>
    cases hx : x.stops with
    | true =>
      obtain ⟨r', hr, hr'⟩ := run_stops e view r hx rest
      rw [hr, Reading.handled_cons_of_stops hx, List.append_nil]
      rcases hr' with rfl | ⟨reason, -, rfl⟩
      · exact hask hp
      · exact hlog _ (hask hp)
    | false =>
      cases x with
      | line line =>
        -- The line leaves the lifecycle idle, so the rest of the run starts ready as well.
        have hr : Lifecycle.isReady r.ask.lifecycle.phase = true := phase_ask r ▸ h
        obtain ⟨-, hi, -⟩ := step_keeps e view hr line
        rw [run_line e view h hx, Reading.handled_cons_line hx, List.append_cons]
        exact ih (isReady_requestIdle hi) _ (hstep line hr (hask hp))
      | _ => cases hx

/-- A run reads as far as the first reading that stops it, and ends for the reason of that
reading. A keyword that stops it has no effect but that. -/
theorem run_reads (e : Engine σ) (view : σ → FileSystem)
    (h : Lifecycle.isReady r.lifecycle.phase = true) (readings : List Reading) :
    ∃ r', r.run e view readings =
        (.ok (Reading.last readings).stopReason, Reading.unread readings, r') ∧
      r'.reads = r.reads + (Reading.handled readings).length + 1 ∧
      ∀ word, Reading.last readings = .line word →
        r' = (r.run e view (Reading.beforeStop readings)).2.2 := by
  induction readings generalizing r with
  | nil => exact ⟨r.ask, rfl, reads_ask r, fun _ _ => rfl⟩
  | cons x rest ih =>
    cases hx : x.stops with
    | true =>
      obtain ⟨r', hr, hr'⟩ := run_stops e view r hx rest
      rw [Reading.handled_cons_of_stops hx, Reading.last_cons_of_stops hx,
        Reading.unread_cons_of_stops hx, Reading.beforeStop,
        List.takeWhile_cons_of_neg (by simp [hx])]
      refine ⟨r', hr, ?_, fun word hw => ?_⟩
      · rcases hr' with rfl | ⟨reason, -, rfl⟩ <;> exact reads_ask r
      · rcases hr' with rfl | ⟨reason, rfl, -⟩
        · rfl
        · cases hw
    | false =>
      cases x with
      | line line =>
        have hx : endsLoop line = false := hx
        obtain ⟨-, hp, hn, -⟩ := step_keeps e view (r := r.ask) (phase_ask r ▸ h) line
        obtain ⟨r', hr, hm, hw⟩ := ih (isReady_requestIdle hp)
        rw [Reading.handled_cons_line hx, Reading.last_cons_line hx, Reading.unread_cons_line hx,
          Reading.beforeStop_cons_line hx, run_line e view h hx, run_line e view h hx]
        refine ⟨r', hr, ?_, hw⟩
        rw [hm, hn, reads_ask, List.length_cons]
        omega
      | _ => cases hx

/-- Behind a run requests may be opened again. -/
theorem isReady_run (e : Engine σ) (view : σ → FileSystem)
    (h : Lifecycle.isReady r.lifecycle.phase = true) (readings : List Reading) :
    Lifecycle.isReady (r.run e view readings).2.2.lifecycle.phase = true :=
  run_invariant (P := fun _ r' => Lifecycle.isReady r'.lifecycle.phase = true) e view
    (fun hp => by rw [phase_ask]; exact hp)
    (fun _ hp => hp)
    (fun line hp _ => isReady_requestIdle (step_keeps e view hp line).2.1)
    h [] h readings

/-- A run keeps the lines it handles. -/
theorem run_keeps_lines (e : Engine σ) (view : σ → FileSystem)
    (h : Lifecycle.isReady r.lifecycle.phase = true) (readings : List Reading) :
    r.Keeps (r.run e view readings).2.2 (Reading.handled readings) :=
  run_invariant (P := fun lines r' => r.Keeps r' lines) e view
    (fun hk => by simpa using hk.trans (ask_keeps _))
    (fun _ hk => ⟨hk.linesHandled, hk.history, hk.remembered⟩)
    (fun line hp hk => hk.trans (step_keeps e view hp line).2.2.2)
    h [] (Keeps.refl r) readings

/-- **How a run ends and what it keeps.** A run reads as far as the first reading that stops it,
ends for the reason of that reading, handles the lines before it, and keeps those that are not
blank, whatever the engine answers and whatever files there are. A keyword that stops it has no
effect but that: the run is one over the lines before it. -/
theorem run_keeps (e : Engine σ) (view : σ → FileSystem) (r : Repl σ)
    (h : Lifecycle.isReady r.lifecycle.phase = true) (readings : List Reading) :
    ∃ r', r.run e view readings =
        (.ok (Reading.last readings).stopReason, Reading.unread readings, r') ∧
      r'.reads = r.reads + (Reading.handled readings).length + 1 ∧
      r.Keeps r' (Reading.handled readings) ∧
      ∀ word, Reading.last readings = .line word →
        r' = (r.run e view (Reading.beforeStop readings)).2.2 := by
  obtain ⟨r', hr, hn, hw⟩ := run_reads e view h readings
  have hk := run_keeps_lines e view h readings
  rw [hr] at hk
  exact ⟨r', hr, hn, hk, hw⟩

theorem run_keeps_keyword :
    ∃ l, (Lifecycle.create ({} : Recording.State) .default).1 = .ok l ∧
      let r : Repl Recording.State :=
        ⟨(l.startup (Recording.engine {})).2, .empty [], "> ", false, 0, 0, []⟩
      Lifecycle.isReady r.lifecycle.phase = true ∧
        ∃ r', r.run (Recording.engine {}) (fun _ => ⟨[([Utf8.encode "exit"], .file [])], []⟩)
            [.line " 1 ", .line "\t", .line "exit", .line "2"] =
              (.ok (.keyword "exit"), [.line "2"], r') ∧
          r'.reads = 3 ∧ r'.linesHandled = 2 ∧ r'.remembered = [" 1 "] := by
  refine ⟨_, rfl, ?_⟩
  intro r
  refine ⟨rfl, ?_⟩
  obtain ⟨r', hr, hn, hk, -⟩ := run_keeps (Recording.engine {})
    (fun _ => ⟨[([Utf8.encode "exit"], .file [])], []⟩) r rfl
    [.line " 1 ", .line "\t", .line "exit", .line "2"]
  exact ⟨r', hr, hn, hk.linesHandled, hk.remembered⟩

end

end Repl

end ScriptHost

import ScriptHost.Proofs.LoopSteps

/-!
# Two engines in lockstep

The same use of two lifecycles, each with an engine of its own. When the answers at every call are
the same, so is everything that the host can tell from them. What has to be shown of two engines
for that is collected in `Lockstep`: a relation of their lifecycles that every step of the host
preserves, with the same answer where there is one. It looks at one step at a time. What follows
is that whole operations and loops have the same results and end related.

**Steps.** The steps are those that operations and loops are made of (`Lifecycle.Step`), up to the
end of the host module, and the host's own prints. A path reaches an engine without a NUL in it
(`Call.IsWhole`).

**As far as it goes (`T`).** The second engine need not answer like the first at every call that
could ever be made, only at those that are. So a call has to be preserved only if `T` holds of the
second engine behind it, and `T` must have held before a call if it holds behind it. What follows
for a whole operation or loop then needs `T` only at its end (`told_of_steps`).

**Results.**
* `Lockstep.agree_startup`, `Lockstep.agree_evaluate`, ...: every piece gives the same result.
* `Lockstep.agree_operate`: so does an operation.
* `Lockstep.alike_actAll`: so do the acts of a loop, which ends with the same history.
-/
namespace ScriptHost

/-- The path in a call, if there is one, holds no NUL. -/
def Call.IsWhole : Call → Prop
  | .openScript path => 0 ∉ path
  | _ => True

namespace Lifecycle

variable {σ τ α β : Type}

/-- The same result, and related lifecycles. -/
structure Agree (R : Lifecycle σ → Lifecycle τ → Prop) (x : α × Lifecycle σ)
    (y : α × Lifecycle τ) : Prop where
  result : x.1 = y.1
  later : R x.2 y.2

theorem Agree.map {R : Lifecycle σ → Lifecycle τ → Prop} {x : α × Lifecycle σ}
    {y : α × Lifecycle τ} (f : α → β) (h : Agree R x y) : Agree R (f x.1, x.2) (f y.1, y.2) :=
  ⟨congrArg f h.result, h.later⟩

/-- A relation that every step of the host preserves, on the same terms on both sides, as long as
`T` holds of the second engine. -/
structure Lockstep (e : Engine σ) (d : Engine τ) (T : τ → Prop)
    (R : Lifecycle σ → Lifecycle τ → Prop) : Prop where
  back {m : Lifecycle τ} {c : Call} : T (m.call d c).2.engine → T m.engine
  phase {l m} : R l m → l.phase = m.phase
  evalName {l m} : R l m → l.phase = .requestActive → l.evalName = m.evalName
  call {l m} {c : Call} : R l m → Due l c → c.IsWhole → T (m.call d c).2.engine →
    Agree R (l.call e c) (m.call d c)
  register {l m} : R l m → l.phase = .signalsArmed → T (m.call d .registerHost).2.engine →
    R ((l.call e .registerHost).2.moveTo .hostTableRegistered)
      ((m.call d .registerHost).2.moveTo .hostTableRegistered)
  runSlot {l m} : R l m → l.phase = .hostTableRegistered → T (m.runStartupSlot d).2.engine →
    Agree R (l.runStartupSlot e) (m.runStartupSlot d)
  log {l m} {event : Event} : R l m → event.IsRemark → R (l.log event) (m.log event)
  move {l m} {p : Phase} : R l m → Next l.phase p → R (l.moveTo p) (m.moveTo p)
  finish {l m} : R l m → refusesShutdown l.phase = false →
    R ({ l with host := l.host.release }.moveTo .globalShutdownDone)
      ({ m with host := m.host.release }.moveTo .globalShutdownDone)
  print {l m} (text : String) : R l m →
    R { l with host := { l.host with console := l.host.console.print text } }
      { m with host := { m.host with console := m.host.console.print text } }

namespace Lockstep

variable {e : Engine σ} {d : Engine τ} {T : τ → Prop} {R : Lifecycle σ → Lifecycle τ → Prop}
  {l : Lifecycle σ} {m m' : Lifecycle τ} (k : Lockstep e d T R)
include k

/-! ## As far as it goes -/

theorem told_of_runStartupSlot (ht : T (m.runStartupSlot d).2.engine) : T m.engine := by
  unfold runStartupSlot at ht
  split at ht
  · exact ht
  · rename_i host _
    exact k.back (m := { m with host }) ht

theorem told_of_steps (hs : Steps d m m') (ht : T m'.engine) : T m.engine := by
  induction hs with
  | refl => exact ht
  | tail _ hstep ih =>
    refine ih ?_
    cases hstep with
    | call | register => exact k.back ht
    | runSlot => exact k.told_of_runStartupSlot ht
    | log | move | finish => exact ht

theorem told_of_turns (hs : Turns d m m') (ht : T m'.engine) : T m.engine := by
  induction hs with
  | refl => exact ht
  | tail _ hturn ih =>
    cases hturn with
    | step hstep => exact ih (k.told_of_steps (.single hstep) ht)
    | print => exact ih ht

/-! ## Startup and shutdown -/

theorem registered (h : R l m) (hp : l.phase = .unstarted) (ht : T (m.registered d).engine) :
    R (l.registered e) (m.registered d) := by
  have harm := k.back (m := (m.call d .armSignals).2.moveTo .signalsArmed) ht
  have ha := (k.call (c := .armSignals) h hp trivial harm).later
  exact k.register (k.move ha (by rw [phase_call, hp]; exact .arm)) rfl ht

theorem agree_startup (h : R l m) (ht : T (m.startup d).2.engine) :
    Agree R (l.startup e) (m.startup d) := by
  by_cases hp : l.phase = .unstarted
  · have hq : m.phase = .unstarted := (k.phase h).symm.trans hp
    have ht : T ((m.registered d).runStartupSlot d).2.engine := by
      rw [startup_unstarted d m hq] at ht
      dsimp only at ht
      split at ht <;> exact ht
    have hs := k.runSlot (k.registered h hp (k.told_of_runStartupSlot ht)) rfl ht
    have hphase := phase_runStartupSlot e (l.registered e)
    rw [startup_unstarted e l hp, startup_unstarted d m hq]
    dsimp only
    rw [hs.result]
    split
    · exact ⟨rfl, k.log hs.later trivial⟩
    · exact ⟨rfl, k.move hs.later (hphase ▸ .start)⟩
  · rw [startup_refused e l hp, startup_refused d m (k.phase h ▸ hp), k.phase h]
    exact ⟨rfl, h⟩

theorem undo (h : R l m) (hr : refusesShutdown l.phase = false) (ht : T (m.undo d).engine) :
    R (l.undo e) (m.undo d) := by
  unfold Lifecycle.undo at ht ⊢
  dsimp only at ht ⊢
  rw [← k.phase h] at ht ⊢
  have hm : T (if isReady l.phase then (m.call d .moduleShutdown).2 else m).engine →
      R (if isReady l.phase then (l.call e .moduleShutdown).2 else l)
        (if isReady l.phase then (m.call d .moduleShutdown).2 else m) := by
    split
    · rename_i hp
      exact fun ht => (k.call (c := .moduleShutdown) h hp trivial ht).later
    · exact fun _ => h
  split
  · rename_i hp
    rw [if_pos hp] at ht
    exact hm ht
  · rename_i hp
    rw [if_neg hp] at ht
    refine (k.call (c := .unregisterHost) (hm (k.back ht)) ?_ trivial ht).later
    have hq : (if isReady l.phase then (l.call e .moduleShutdown).2 else l).phase = l.phase := by
      split <;> rfl
    rw [Due, hq]
    revert hp hr
    cases l.phase <;> decide

theorem agree_shutdown (h : R l m) (ht : T (m.shutdown d).2.engine) :
    Agree R (l.shutdown e) (m.shutdown d) := by
  cases hr : refusesShutdown l.phase with
  | true =>
    rw [shutdown_refused e l hr, shutdown_refused d m (k.phase h ▸ hr), k.phase h]
    exact ⟨rfl, h⟩
  | false =>
    rw [shutdown_eq d m (k.phase h ▸ hr)] at ht
    have hu := k.undo h hr ht
    rw [shutdown_eq e l hr, shutdown_eq d m (k.phase h ▸ hr)]
    exact ⟨rfl, k.finish hu ((phase_undo e l).symm ▸ hr)⟩

/-- Lifecycles go out of use related, up to the end of their host modules. -/
theorem drop (h : R l m) (ht : T (m.drop d).engine) :
    ∃ l' m', R l' m' ∧ l.drop e = { l' with host := l'.host.drop } ∧
      m.drop d = { m' with host := m'.host.drop } := by
  have hs := k.agree_shutdown h
  unfold Lifecycle.drop at ht ⊢
  rw [← k.phase h] at ht ⊢
  split
  · exact ⟨l, m, h, rfl, rfl⟩
  · rename_i hp
    rw [if_neg hp] at ht
    cases hl : l.shutdown e with
    | mk result l' =>
      cases hm : m.shutdown d with
      | mk result' m' =>
        rw [hm] at ht
        rw [hl, hm] at hs
        have hs := hs (by cases result' <;> exact ht)
        obtain rfl := hs.result
        cases result with
        | ok _ => exact ⟨l', m', hs.later, rfl, rfl⟩
        | error cause => exact ⟨_, _, k.log hs.later (by trivial), rfl, rfl⟩

/-! ## Requests -/

theorem agree_openRequest (h : R l m) (ht : T (m.openRequest d).2.engine) :
    Agree R (l.openRequest e) (m.openRequest d) := by
  cases hr : isReady l.phase with
  | false =>
    rw [openRequest_refused e l hr, openRequest_refused d m (k.phase h ▸ hr), k.phase h]
    exact ⟨rfl, h⟩
  | true =>
    unfold openRequest at ht ⊢
    rw [← k.phase h, hr] at ht ⊢
    simp only [Bool.not_true, Bool.false_eq_true, if_false] at ht ⊢
    have hc := k.call (c := .openRequest) h hr trivial (by split at ht <;> exact ht)
    rw [hc.result]
    split
    · exact ⟨rfl, k.move (k.log hc.later trivial) (.refuse hr)⟩
    · exact ⟨rfl, k.move hc.later (.open hr)⟩

theorem closeRequest (h : R l m) (hp : l.phase = .requestActive)
    (ht : T (m.closeRequest d).engine) : R (l.closeRequest e) (m.closeRequest d) := by
  refine k.move (k.call (c := .closeRequest) h hp trivial ht).later ?_
  rw [phase_call, hp]
  exact .close

theorem agree_evaluate (h : R l m) (hp : l.phase = .requestActive) (line : String)
    (ht : T (m.evaluate d line).2.engine) : Agree R (l.evaluate e line) (m.evaluate d line) := by
  unfold evaluate at ht ⊢
  dsimp only at ht ⊢
  rw [← k.evalName h hp] at ht ⊢
  -- Each call was made on the way to what `T` holds of, unless the result stopped before it.
  have hc := k.call (c := .evaluate (Utf8.encode (asExpression line)) l.evalName) h ⟨hp, rfl⟩
    trivial <| by
      split at ht
      · exact ht
      · split at ht
        · exact k.back ht
        · exact k.back (k.back ht)
  rw [hc.result]
  split
  · exact ⟨rfl, k.log hc.later trivial⟩
  · rename_i hs
    rw [if_neg hs] at ht
    have hn := k.call (c := .typeName) hc.later hp trivial <| by
      split at ht
      · exact ht
      · exact k.back ht
    rw [hn.result]
    split
    · exact ⟨rfl, hn.later⟩
    · rename_i hnull
      rw [if_neg hnull] at ht
      exact ⟨rfl, (k.call (c := .dump) hn.later hp trivial ht).later⟩

theorem agree_runScript (h : R l m) (hp : l.phase = .requestActive) (path : Bytes)
    (ht : T (m.runScript d path).2.engine) : Agree R (l.runScript e path) (m.runScript d path) := by
  unfold runScript at ht ⊢
  split
  · exact ⟨rfl, h⟩
  · rename_i h0
    rw [if_neg h0] at ht
    have htr : T (((m.call d (.openScript path)).2.call d .runScript).2).engine := k.back ht
    have ho := k.call (c := .openScript path) h hp h0 (k.back htr)
    have hr := k.call (c := .runScript) ho.later hp trivial htr
    have hc := k.call (c := .closeScript) hr.later hp trivial ht
    dsimp only
    rw [hr.result]
    exact ⟨rfl, k.log hc.later (by trivial)⟩

theorem agree_act (h : R l m) (hp : l.phase = .requestActive) (a : Action)
    (ht : T (m.act d a).2.engine) : Agree R (l.act e a) (m.act d a) := by
  cases a with
  | evaluate line => exact (k.agree_evaluate h hp line ht).map Action.Outcome.evaluated
  | runScript path =>
    have ha := k.agree_runScript h hp path
    cases hl : l.runScript e path with
    | mk result l' =>
      cases hm : m.runScript d path with
      | mk result' m' =>
        rw [hl, hm] at ha
        simp only [act, hl, hm] at ht ⊢
        have ha := ha (by cases result' <;> exact ht)
        obtain rfl := ha.result
        cases result <;> exact ⟨rfl, ha.later⟩

theorem agree_actAll (h : R l m) (hp : l.phase = .requestActive) (actions : List Action)
    (ht : T (m.actAll d actions).2.engine) : Agree R (l.actAll e actions) (m.actAll d actions) := by
  induction actions generalizing l m with
  | nil => exact ⟨rfl, h⟩
  | cons a rest ih =>
    have hq : m.phase = .requestActive := (k.phase h).symm.trans hp
    have hsteps := actAll_steps d ((phase_act d m a).trans hq) rest
    have ha := k.agree_act h hp a (k.told_of_steps hsteps ht)
    have hrest := ih ha.later ((phase_act e l a).trans hp) ht
    refine ⟨?_, hrest.later⟩
    simp only [actAll]
    rw [ha.result, hrest.result]

/-! ## Operations -/

theorem agree_operate (h : R l m) (op : Operation) (ht : T (m.operate d op).2.engine) :
    Agree R (l.operate e op) (m.operate d op) := by
  cases op with
  | startup => exact (k.agree_startup h ht).map (Except.map fun _ => [])
  | shutdown => exact (k.agree_shutdown h ht).map (Except.map fun _ => [])
  | request actions closing =>
    have ho := k.agree_openRequest h
    have hp := phase_of_openRequest (l := l) (e := e)
    have hp' := phase_of_openRequest (l := m) (e := d)
    simp only [operate] at ht ⊢
    cases hl : l.openRequest e with
    | mk result l' =>
      cases hm : m.openRequest d with
      | mk result' m' =>
        rw [hl] at hp
        rw [hm] at ht hp'
        rw [hl, hm] at ho
        cases result' with
        | error cause =>
          have ho := ho ht
          obtain rfl := ho.result
          exact ⟨rfl, ho.later⟩
        | ok _ =>
          have hta : T (m'.actAll d actions).2.engine := by
            cases closing with
            | dropped => exact k.back ht
            | forgotten => exact ht
          have ho := ho (k.told_of_steps (actAll_steps d (hp' rfl) actions) hta)
          obtain rfl := ho.result
          have ha := k.agree_actAll ho.later (hp rfl) actions hta
          have hq := (phase_actAll e l' actions).trans (hp rfl)
          cases closing with
          | dropped => exact ⟨congrArg Except.ok ha.result, k.closeRequest ha.later hq ht⟩
          | forgotten => exact ha.map Except.ok

end Lockstep

end Lifecycle

/-! ## Loops -/

/-- Loops on related lifecycles that have come equally far. -/
structure Repl.Alike {σ τ : Type} (R : Lifecycle σ → Lifecycle τ → Prop) (r : Repl σ)
    (q : Repl τ) : Prop where
  lifecycle : R r.lifecycle q.lifecycle
  history : r.history = q.history
  prompt : r.prompt = q.prompt
  showsPrompt : r.showsPrompt = q.showsPrompt
  linesHandled : r.linesHandled = q.linesHandled
  reads : r.reads = q.reads
  remembered : r.remembered = q.remembered

namespace Lifecycle.Lockstep

open Repl

variable {σ τ : Type} {e : Engine σ} {d : Engine τ} {T : τ → Prop}
  {R : Lifecycle σ → Lifecycle τ → Prop} {r : Repl σ} {q : Repl τ} {view : σ → FileSystem}
  {sight : τ → FileSystem}

/-- Further on, equally far, and on lifecycles that are related again. -/
theorem alike_at (h : r.Alike R q) {l : Lifecycle σ} {m : Lifecycle τ} (hl : R l m) {n n' : Nat}
    (hn : n = n') :
    { r with linesHandled := n, lifecycle := l }.Alike R
      { q with linesHandled := n', lifecycle := m } :=
  ⟨hl, h.history, h.prompt, h.showsPrompt, hn, h.reads, h.remembered⟩

theorem alike_record (h : r.Alike R q) (line : String) :
    (r.record line).Alike R (q.record line) := by
  obtain ⟨hl, hh, hp, hs, hn, hr, hm⟩ := h
  unfold record
  split
  · exact ⟨hl, hh, hp, hs, hn, hr, hm⟩
  · exact ⟨hl, by rw [hh], hp, hs, hn, hr, by rw [hm]⟩

variable (k : Lockstep e d T R)
include k

theorem alike_ask (h : r.Alike R q) : r.ask.Alike R q.ask := by
  obtain ⟨hl, hh, hp, hs, hn, hr, hm⟩ := h
  unfold ask
  dsimp only
  rw [← hs, ← hp, ← hr]
  split
  · exact ⟨k.print _ hl, hh, rfl, rfl, hn, rfl, hm⟩
  · exact ⟨hl, hh, rfl, rfl, hn, rfl, hm⟩

theorem agree_runAs {l : Lifecycle σ} {m : Lifecycle τ} (h : R l m)
    (hp : l.phase = .requestActive) (kind : LineKind) (ht : T (runAs d m kind).2.engine) :
    Agree R (runAs e l kind) (runAs d m kind) := by
  cases kind with
  | script path => exact (k.agree_runScript h hp path ht).map (Except.map LineResult.script)
  | inline code => exact (k.agree_evaluate h hp code ht).map (Except.ok ∘ LineResult.inline)

section
variable (hv : ∀ {l m}, R l m → view l.engine = sight m.engine)
include hv

/-- A line has the same outcome, and leaves the loops alike. -/
theorem alike_step (h : r.Alike R q) (line : String)
    (ht : T (q.step d sight line).2.lifecycle.engine) :
    (r.step e view line).1 = (q.step d sight line).1 ∧
      (r.step e view line).2.Alike R (q.step d sight line).2 := by
  have hphase := k.phase h.lifecycle
  have hn : r.linesHandled + 1 = q.linesHandled + 1 := congrArg (· + 1) h.linesHandled
  cases hr : isReady r.lifecycle.phase with
  | false =>
    rw [step_unready e view hr, step_unready d sight (hphase ▸ hr), hphase]
    exact ⟨rfl, alike_at h h.lifecycle hn⟩
  | true =>
    have ho := k.agree_openRequest h.lifecycle
    have hp := phase_of_openRequest (l := r.lifecycle) (e := e)
    have hp' := phase_of_openRequest (l := q.lifecycle) (e := d)
    have hrecord := alike_record h line
    -- The runtime refuses the request on both sides, or on neither.
    rcases step_cases d sight (hphase ▸ hr) line with
      ⟨m, hm, -, hs'⟩ | ⟨m, outcome', m', hm, hj, hs'⟩ <;> rw [hs'] at ht <;> rw [hm] at ho hp'
    · have ho := ho ht
      rcases step_cases e view hr line with ⟨l, hl, -, hs⟩ | ⟨l, -, -, hl, -⟩ <;> rw [hl] at ho
      · rw [hs, hs']
        exact ⟨rfl, alike_at hrecord ho.later hn⟩
      · cases ho.result
    · have hta : T (runAs d m (.ofLine (sight m.engine) line)).2.engine := by
        rw [hj]
        exact k.back (m := m'.log (.handledLine (q.linesHandled + 1) outcome')) ht
      have ho := ho (k.told_of_steps (runAs_steps d (hp' rfl) _) hta)
      rcases step_cases e view hr line with ⟨l, hl, -, -⟩ | ⟨l, outcome, l', hl, hk, hs⟩ <;>
        rw [hl] at ho hp
      · cases ho.result
      · rw [← hv ho.later] at hj hta
        have ha := k.agree_runAs ho.later (hp rfl) (.ofLine (view l.engine) line) hta
        have hq := (phase_runAs e l (.ofLine (view l.engine) line)).trans (hp rfl)
        rw [hk] at hq
        rw [hk, hj] at ha
        obtain rfl : outcome = outcome' := Except.ok.inj ha.result
        rw [hs, hs']
        refine ⟨rfl, alike_at hrecord ?_ hn⟩
        rw [hn]
        exact k.closeRequest (k.log ha.later (by trivial)) hq ht

/-- A run over the same readings ends for the same reason, with the same readings left. -/
theorem alike_run (h : r.Alike R q) (readings : List Reading)
    (ht : T (q.run d sight readings).2.2.lifecycle.engine) :
    (r.run e view readings).1 = (q.run d sight readings).1 ∧
      (r.run e view readings).2.1 = (q.run d sight readings).2.1 ∧
      (r.run e view readings).2.2.Alike R (q.run d sight readings).2.2 := by
  induction readings generalizing r q with
  | nil => exact ⟨rfl, rfl, k.alike_ask h⟩
  | cons reading rest ih =>
    have ha := k.alike_ask h
    cases reading with
    | line line =>
      have hs := k.alike_step hv ha line
      simp only [run] at ht ⊢
      split
      · exact ⟨rfl, rfl, ha⟩
      · rename_i hstop
        rw [if_neg hstop] at ht
        cases hx : r.ask.step e view line with
        | mk result r' =>
          cases hy : q.ask.step d sight line with
          | mk result' q' =>
            rw [hy] at ht
            rw [hx, hy] at hs
            cases result' with
            | error cause =>
              obtain ⟨rfl, hs⟩ := hs ht
              exact ⟨rfl, rfl, hs⟩
            | ok outcome =>
              obtain ⟨rfl, hs⟩ := hs (k.told_of_turns (run_turns d sight q' rest) ht)
              exact ih hs ht
    | failed reason =>
      have hl : R (r.ask.lifecycle.log (.readingFailed reason))
          (q.ask.lifecycle.log (.readingFailed reason)) := k.log ha.lifecycle trivial
      exact ⟨rfl, rfl, alike_at ha hl ha.linesHandled⟩
    | _ => exact ⟨rfl, rfl, ha⟩

theorem alike_act (h : r.Alike R q) (readings : List Reading) (a : Act)
    (ht : T (q.act d sight readings a).2.2.lifecycle.engine) :
    (r.act e view readings a).1 = (q.act d sight readings a).1 ∧
      (r.act e view readings a).2.1 = (q.act d sight readings a).2.1 ∧
      (r.act e view readings a).2.2.Alike R (q.act d sight readings a).2.2 := by
  cases a with
  | step line =>
    rw [act_step] at ht
    have hs := k.alike_step hv h line ht
    cases hx : r.step e view line with
    | mk result r' =>
      cases hy : q.step d sight line with
      | mk result' q' =>
        rw [hx, hy] at hs
        obtain ⟨rfl, hs⟩ := hs
        simp only [Repl.act, hx, hy]
        cases result <;> exact ⟨rfl, rfl, hs⟩
  | run =>
    rw [act_run] at ht
    have hs := k.alike_run hv h readings ht
    cases hx : r.run e view readings with
    | mk result x =>
      cases hy : q.run d sight readings with
      | mk result' y =>
        rw [hx, hy] at hs
        obtain ⟨rfl, hrest, hs⟩ := hs
        simp only [Repl.act, hx, hy]
        cases result <;> exact ⟨rfl, hrest, hs⟩

/-- The same outcomes, each after the same number of lines. -/
theorem alike_actAll (h : r.Alike R q) (readings : List Reading) (acts : List Act)
    (ht : T (q.actAll d sight readings acts).2.lifecycle.engine) :
    (r.actAll e view readings acts).1 = (q.actAll d sight readings acts).1 ∧
      (r.actAll e view readings acts).2.Alike R (q.actAll d sight readings acts).2 := by
  induction acts generalizing r q readings with
  | nil => exact ⟨rfl, h⟩
  | cons a rest ih =>
    have hturns := actAll_turns d sight (q.act d sight readings a).2.2
      (q.act d sight readings a).2.1 rest
    obtain ⟨hres, hleft, hs⟩ := k.alike_act hv h readings a (k.told_of_turns hturns ht)
    obtain ⟨hrest, hs'⟩ := ih hs (r.act e view readings a).2.1 (hleft ▸ ht)
    simp only [Repl.actAll]
    rw [← hres, ← hleft, ← hs.linesHandled, hrest]
    exact ⟨rfl, hs'⟩

end

end Lifecycle.Lockstep

end ScriptHost

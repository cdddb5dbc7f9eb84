import ScriptHost.Proofs.HostReports
import ScriptHost.Proofs.ReplCalls

/-!
# The moves of the lifecycle

Every change of the phase is reported, so the log of a lifecycle tells which way it took. It is
written from many places: by the operations, by the loop, when a request is closed, when the
lifecycle goes out of use; and the runtime has a say in some of them.

**The way (`Trail`).** The reported moves lead from `unstarted` to the phase of the lifecycle, each
from where the one before led, along the edges of the state machine (`Edge`).

**Requests (`request?`, `verdict?`).** Two edges are chosen by the runtime's answer to
`openRequest`. The moves along them are its answers, in order.

**The invariant (`Charted`).** Both together. `AtRest` adds what only holds between operations:
`signalsArmed` is never the phase.

**Results.**
* `Trail.eq_nil_of_done`: no move leads on from the last phase.
* `charted_startup`, `charted_openRequest`, `charted_shutdown`, ...: what every piece preserves.
* `atRest_operate`, `Repl.atRest_step`, `Repl.atRest_run`: what operations and loops preserve.
* `moves_follow`: the moves of every run of operations and loops.
-/
namespace ScriptHost

/-- The move that an event reports: the phases before and behind it. -/
def Event.move? : Event → Option (Phase × Phase)
  | .transition source target => some (source, target)
  | _ => none

theorem Event.move?_of_isRemark {event : Event} (h : event.IsRemark) : event.move? = none := by
  cases event <;> first | rfl | cases h

namespace Lifecycle

variable {σ : Type}

/-- The moves that a lifecycle has reported. -/
def moves (l : Lifecycle σ) : List (Phase × Phase) :=
  l.host.console.events.filterMap Event.move?

/-! ## The state machine -/

/-- The edges of the state machine. -/
inductive Edge : Phase → Phase → Prop
  | arm : Edge .unstarted .signalsArmed
  | register : Edge .signalsArmed .hostTableRegistered
  | start : Edge .hostTableRegistered .globalStartupDone
  | open {p : Phase} : isReady p = true → Edge p .requestActive
  | refuse {p : Phase} : isReady p = true → Edge p .requestIdle
  | close : Edge .requestActive .requestIdle
  | finish {p : Phase} : p = .unstarted ∨ p = .hostTableRegistered ∨ isReady p = true →
      Edge p .globalShutdownDone

/-- Moves that lead from `unstarted` to a phase, each from where the one before led. -/
inductive Trail : List (Phase × Phase) → Phase → Prop
  | start : Trail [] .unstarted
  | snoc {ms : List (Phase × Phase)} {p q : Phase} :
      Trail ms p → Edge p q → Trail (ms ++ [(p, q)]) q

theorem Edge.ne_done {p q : Phase} (h : Edge p q) : p ≠ .globalShutdownDone := by
  rintro rfl
  cases h with
  | «open» hp | refuse hp => cases hp
  | finish hp => simp [isReady] at hp

/-- The last move leads to the phase. -/
theorem Trail.eq_of_snoc {ms : List (Phase × Phase)} {p q r : Phase}
    (h : Trail (ms ++ [(p, q)]) r) : r = q := by
  generalize hx : ms ++ [(p, q)] = xs at h
  cases h with
  | start => simp at hx
  | snoc _ _ =>
    obtain ⟨-, hm⟩ := List.append_inj' hx rfl
    simp only [List.cons.injEq, Prod.mk.injEq] at hm
    exact hm.1.2.symm

/-- No move leads on from the last phase. -/
theorem Trail.eq_nil_of_done {ms front back : List (Phase × Phase)} {p q : Phase}
    (h : Trail ms q) (hm : ms = front ++ (p, .globalShutdownDone) :: back) : back = [] := by
  induction h generalizing back with
  | start => simp at hm
  | @snoc ms q r ht he ih =>
    rcases List.eq_nil_or_concat back with rfl | ⟨back, m, rfl⟩
    · rfl
    · have hc : ms ++ [(q, r)] = (front ++ (p, .globalShutdownDone) :: back) ++ [m] := by
        simpa using hm
      have hms := List.append_inj_left' hc rfl
      obtain rfl := ih hms
      rw [hms] at ht
      exact absurd ht.eq_of_snoc he.ne_done

/-! ## Requests -/

/-- Whether a request was opened, if that is what a call was for. -/
def verdict? : Answered → Option Bool
  | ⟨.openRequest, status⟩ => some (status = successStatus)
  | _ => none

/-- Whether a request was opened, if that is what a move is about. -/
def request? : Phase × Phase → Option Bool
  | (_, .requestActive) => some true
  | (p, .requestIdle) => if isReady p then some false else none
  | _ => none

theorem verdict?_of_ne {c : Call} (hc : c ≠ .openRequest) (answer : c.Answer) :
    verdict? ⟨c, answer⟩ = none := by
  cases c <;> first | rfl | exact absurd rfl hc

/-! ## The invariant -/

/-- The reported moves lead to the phase, and they are as the runtime answered. -/
structure Charted (l : Lifecycle (Traced σ)) : Prop where
  trail : Trail l.moves l.phase
  requests : l.moves.filterMap request? = l.engine.answered.filterMap verdict?

/-- A charted lifecycle between two operations. -/
structure AtRest (l : Lifecycle (Traced σ)) : Prop extends Charted l where
  phase_ne : l.phase ≠ .signalsArmed

section
variable {e : Engine σ} {l l' : Lifecycle (Traced σ)}

/-- As many moves open a request as calls that were answered with success. -/
theorem Charted.opened (h : Charted l) :
    l.moves.countP (·.2 = .requestActive) =
      l.engine.answered.countP (verdict? · = some true) := by
  have hm : l.moves.countP (·.2 = .requestActive) = (l.moves.filterMap request?).countP id := by
    rw [List.countP_filterMap]
    congr 1
    funext ⟨p, q⟩
    cases q <;> simp [request?]
    split <;> rfl
  rw [hm, h.requests, List.countP_filterMap]
  congr 1
  funext x
  cases verdict? x with
  | none => rfl
  | some opened => simp

theorem moves_of_noted {l l' : Lifecycle σ} (h : l.host.Noted l'.host) : l'.moves = l.moves :=
  h.filterMap_eq fun _ he => Event.move?_of_isRemark he

@[simp] theorem moves_moveTo (l : Lifecycle σ) (p : Phase) :
    (l.moveTo p).moves = l.moves ++ [(l.phase, p)] := by
  simp [moves, moveTo, log, Host.log, Console.log, Event.move?]

theorem moves_release (l : Lifecycle σ) : moves { l with host := l.host.release } = l.moves := by
  simp only [moves, Host.release, Console.logAll, Arena.releaseEvents, List.filterMap_append]
  split <;> simp [Event.move?]

theorem moves_drop (l : Lifecycle σ) : moves { l with host := l.host.drop } = l.moves := by
  simp only [moves, Host.drop, Console.logAll, Arena.dropEvents, Arena.releaseEvents,
    List.filterMap_append]
  split
  · simp
  · split <;> simp [Event.move?]

/-- What adds no moves and asks for no request keeps the chart. -/
theorem Charted.extend (h : Charted l) (hm : l'.moves = l.moves) (hp : l'.phase = l.phase)
    (hx : l'.engine.answered.filterMap verdict? = l.engine.answered.filterMap verdict?) :
    Charted l' := by
  refine ⟨?_, ?_⟩
  · rw [hm, hp]
    exact h.trail
  · rw [hm, hx]
    exact h.requests

theorem Charted.noted (h : Charted l) (host : Host) (hn : l.host.Noted host) :
    Charted { l with host } :=
  h.extend (moves_of_noted hn) rfl rfl

theorem Charted.log (h : Charted l) {event : Event} (he : event.IsRemark) :
    Charted (l.log event) :=
  h.noted _ (l.host.noted_log he)

theorem Charted.moveTo (h : Charted l) {p : Phase} (he : Edge l.phase p)
    (hr : request? (l.phase, p) = none) : Charted (l.moveTo p) := by
  refine ⟨?_, ?_⟩
  · rw [moves_moveTo]
    exact h.trail.snoc he
  · rw [moves_moveTo, List.filterMap_append, h.requests]
    simp [hr]
    rfl

theorem answered_call (e : Engine σ) (l : Lifecycle (Traced σ)) (c : Call) :
    (l.call e.traced c).2.engine.answered =
      l.engine.answered ++ [⟨c, (l.call e.traced c).1⟩] := by
  cases hc : l.call e.traced c with
  | mk answer l' =>
    obtain ⟨-, x, hx, -, -, hf⟩ := call_follows hc
    rw [hf.answered, List.map_singleton, hx]

theorem Charted.call (h : Charted l) {c : Call} (hc : c ≠ .openRequest) :
    Charted (l.call e.traced c).2 := by
  refine h.extend (moves_of_noted (noted_call e.traced l c)) rfl ?_
  rw [answered_call, List.filterMap_append]
  simp [verdict?_of_ne hc]

/-! ## Startup -/

theorem charted_runStartupSlot (h : Charted l) : Charted (l.runStartupSlot e.traced).2 := by
  have hn := l.host.noted_exposeIni
  unfold runStartupSlot
  split <;> rename_i hx <;> rw [hx] at hn
  · exact h.noted _ hn
  · exact (h.noted _ hn).call (by simp)

theorem charted_startup (h : Charted l) : Charted (l.startup e.traced).2 := by
  by_cases hp : l.phase = .unstarted
  · have ha : Charted ((l.call e.traced .armSignals).2.moveTo .signalsArmed) :=
      (h.call (by simp)).moveTo (by rw [phase_call, hp]; exact .arm) rfl
    -- `signalsArmed` is left before anything can fail.
    have hr : Charted (l.registered e.traced) := (ha.call (by simp)).moveTo .register rfl
    have hs : Charted ((l.registered e.traced).runStartupSlot e.traced).2 :=
      charted_runStartupSlot hr
    rw [startup_unstarted e.traced l hp]
    dsimp only
    split
    · exact hs.log (by trivial)
    · refine hs.moveTo ?_ rfl
      rw [phase_runStartupSlot]
      exact .start
  · rw [startup_refused e.traced l hp]
    exact h

/-! ## Requests, opened and closed -/

/-- A move behind a call that it is about. -/
theorem Charted.answer (h : Charted l) (hn : l.host.Noted l'.host) (hp : l'.phase = l.phase)
    {x : Answered} (hx : l'.engine.answered = l.engine.answered ++ [x]) {p : Phase}
    (he : Edge l.phase p) (hr : request? (l.phase, p) = verdict? x) : Charted (l'.moveTo p) := by
  have hm : (l'.moveTo p).moves = l.moves ++ [(l.phase, p)] := by
    rw [moves_moveTo, moves_of_noted hn, hp]
  refine ⟨?_, ?_⟩
  · rw [hm]
    exact h.trail.snoc he
  · change _ = l'.engine.answered.filterMap verdict?
    rw [hm, hx, List.filterMap_append, List.filterMap_append, h.requests]
    simp only [List.filterMap_cons, hr, List.filterMap_nil]

/-- Which way the lifecycle moves is the runtime's answer. -/
theorem charted_openRequest (h : Charted l) : Charted (l.openRequest e.traced).2 := by
  cases hr : isReady l.phase with
  | false =>
    rw [openRequest_refused e.traced l hr]
    exact h
  | true =>
    have hn := noted_call e.traced l .openRequest
    have hx := answered_call e l .openRequest
    unfold openRequest
    rw [hr]
    dsimp only
    split
    · contradiction
    split <;> rename_i hs
    · have hl : l.host.Noted ((l.call e.traced .openRequest).2.log
          (.requestStartupFailed (l.call e.traced .openRequest).1)).host :=
        hn.trans (Host.noted_log _ trivial)
      refine h.answer hl rfl hx (.refuse hr) ?_
      simp [request?, verdict?, hr, hs]
    · refine h.answer hn rfl hx (.open hr) ?_
      simp [request?, verdict?, Decidable.of_not_not hs]

theorem charted_closeRequest (h : Charted l) (hp : l.phase = .requestActive) :
    Charted (l.closeRequest e.traced) := by
  refine (h.call (by simp)).moveTo ?_ ?_ <;> rw [phase_call, hp]
  · exact .close
  · rfl

theorem charted_evaluate (h : Charted l) (line : String) :
    Charted (l.evaluate e.traced line).2 := by
  unfold evaluate
  dsimp only
  split
  · exact (h.call (by simp)).log trivial
  · split
    · exact (h.call (by simp)).call (by simp)
    · exact ((h.call (by simp)).call (by simp)).call (by simp)

theorem charted_runScript (h : Charted l) (path : Bytes) :
    Charted (l.runScript e.traced path).2 := by
  unfold runScript
  split
  · exact h
  · exact (((h.call (by simp)).call (by simp)).call (by simp)).log (by trivial)

theorem charted_act (h : Charted l) (a : Action) : Charted (l.act e.traced a).2 := by
  cases a with
  | evaluate line => exact charted_evaluate h line
  | runScript path =>
    have hs := charted_runScript (e := e) h path
    unfold act
    cases hr : l.runScript e.traced path with
    | mk result l' =>
      rw [hr] at hs
      cases result <;> simpa only [hr] using hs

theorem charted_actAll (h : Charted l) (actions : List Action) :
    Charted (l.actAll e.traced actions).2 := by
  induction actions generalizing l with
  | nil => exact h
  | cons a rest ih => exact ih (charted_act h a)

/-! ## Shutdown -/

theorem charted_undo (h : Charted l) : Charted (l.undo e.traced) := by
  have hm : Charted (if isReady l.phase then (l.call e.traced .moduleShutdown).2 else l) := by
    split
    · exact h.call (by simp)
    · exact h
  unfold undo
  dsimp only
  split
  · exact hm
  · exact hm.call (by simp)

theorem charted_shutdown (h : AtRest l) : Charted (l.shutdown e.traced).2 := by
  cases hr : refusesShutdown l.phase with
  | true =>
    rw [shutdown_refused e.traced l hr]
    exact h.toCharted
  | false =>
    have hu : Charted { l.undo e.traced with host := (l.undo e.traced).host.release } :=
      (charted_undo h.toCharted).extend (moves_release _) rfl rfl
    -- A shutdown would be done in `signalsArmed` too, if that could be the phase.
    have he : Edge l.phase .globalShutdownDone := by
      refine .finish ?_
      have hp := h.phase_ne
      revert hp hr
      cases l.phase <;> decide
    rw [shutdown_eq e.traced l hr]
    exact hu.moveTo ((phase_undo e.traced l).symm ▸ he) rfl

/-! ## Operations -/

theorem atRest_startup (h : AtRest l) : AtRest (l.startup e.traced).2 := by
  refine ⟨charted_startup h.toCharted, ?_⟩
  by_cases hp : l.phase = .unstarted
  · rcases startup_result e.traced l hp with ⟨-, hq⟩ | ⟨-, hq⟩ <;> simp [hq]
  · rw [startup_refused e.traced l hp]
    exact h.phase_ne

theorem atRest_openRequest (h : AtRest l) : AtRest (l.openRequest e.traced).2 := by
  refine ⟨charted_openRequest h.toCharted, ?_⟩
  cases hr : isReady l.phase with
  | false =>
    rw [openRequest_refused e.traced l hr]
    exact h.phase_ne
  | true => rcases openRequest_ready e.traced l hr with ⟨-, hq⟩ | ⟨-, hq⟩ <;> simp [hq]

/-- A request that was opened is closed, or stays open for good. -/
theorem atRest_request (h : AtRest l) (actions : List Action) (closing : Closing) :
    AtRest (l.operate e.traced (.request actions closing)).2 := by
  have ho := atRest_openRequest (e := e) h
  have hp := phase_of_openRequest (l := l) (e := e.traced)
  cases hx : l.openRequest e.traced with
  | mk result l₁ =>
    rw [hx] at ho hp
    simp only [operate, hx]
    cases result with
    | error cause => exact ho
    | ok _ =>
      have ha := charted_actAll (e := e) ho.toCharted actions
      have hq := (phase_actAll e.traced l₁ actions).trans (hp rfl)
      cases closing with
      | dropped => exact ⟨charted_closeRequest ha hq, by simp⟩
      | forgotten => exact ⟨ha, by simp [hq]⟩

theorem atRest_shutdown (h : AtRest l) : AtRest (l.shutdown e.traced).2 := by
  refine ⟨charted_shutdown h, ?_⟩
  cases hr : refusesShutdown l.phase with
  | true =>
    rw [shutdown_refused e.traced l hr]
    exact h.phase_ne
  | false => simp [shutdown_eq e.traced l hr]

theorem atRest_operate (h : AtRest l) (op : Operation) :
    AtRest (l.operate e.traced op).2 := by
  cases op with
  | startup => exact atRest_startup h
  | shutdown => exact atRest_shutdown h
  | request actions closing => exact atRest_request h actions closing

theorem atRest_drop (h : AtRest l) : AtRest (l.drop e.traced) := by
  have hs := atRest_shutdown (e := e) h
  -- The end of the host module reports a release at most, and that is no move.
  have hd : ∀ {l : Lifecycle (Traced σ)}, AtRest l → AtRest { l with host := l.host.drop } :=
    fun h => ⟨h.toCharted.extend (moves_drop _) rfl rfl, h.phase_ne⟩
  unfold drop
  split
  · exact hd h
  · cases hx : l.shutdown e.traced with
    | mk result l' =>
      rw [hx] at hs
      cases result with
      | ok _ => exact hd hs
      | error cause => exact hd ⟨hs.toCharted.log (by trivial), hs.phase_ne⟩

theorem atRest_create {s : σ} {config : Host.Config}
    (hc : (create ⟨s, []⟩ config).1 = .ok l) : AtRest l := by
  obtain ⟨hp, he, -⟩ := create_ok hc
  have hm : l.moves = [] := by
    rw [moves, Host.console_create (host_create hc)]
    rfl
  refine ⟨⟨?_, ?_⟩, by simp [hp]⟩
  · rw [hm, hp]
    exact .start
  · rw [hm, he]
    rfl

end

end Lifecycle

/-! ## Loops -/

namespace Repl

variable {σ : Type} {e : Engine σ} {r : Repl (Traced σ)} (view : σ → FileSystem)

open Lifecycle

theorem charted_runAs {l : Lifecycle (Traced σ)} (h : Charted l) (kind : LineKind) :
    Charted (runAs e.traced l kind).2 := by
  cases kind with
  | script path => exact charted_runScript h path
  | inline code => exact charted_evaluate h code

theorem phase_runAs (e : Engine σ) (l : Lifecycle σ) (kind : LineKind) :
    (runAs e l kind).2.phase = l.phase := by
  cases kind with
  | script path => exact phase_runScript e l path
  | inline code => exact phase_evaluate e l code

theorem atRest_ask (h : AtRest r.lifecycle) : AtRest r.ask.lifecycle := by
  unfold ask
  dsimp only
  split
  · exact ⟨h.toCharted.noted _ (.of_events_eq rfl), h.phase_ne⟩
  · exact h

/-- A line is handled in a request of its own, or refused by the runtime or for the phase. -/
theorem atRest_step (h : AtRest r.lifecycle) (line : String) :
    AtRest (r.step e.traced (view ·.state) line).2.lifecycle := by
  have ho := atRest_openRequest (e := e) h
  cases hr : isReady r.lifecycle.phase with
  | false =>
    rw [step_unready _ _ hr]
    exact h
  | true =>
    have hp := phase_of_openRequest (l := r.lifecycle) (e := e.traced)
    rcases step_cases e.traced (view ·.state) hr line with
      ⟨l, hl, -, hs⟩ | ⟨l, outcome, l', hl, hk, hs⟩
    · rw [hs]
      rwa [hl] at ho
    · rw [hl] at ho hp
      have hc := charted_runAs (e := e) ho.toCharted (.ofLine (view l.engine.state) line)
      have hq := phase_runAs e.traced l (.ofLine (view l.engine.state) line)
      rw [hk] at hc hq
      rw [hs]
      exact ⟨charted_closeRequest (hc.log (by trivial)) (hq.trans (hp rfl)), by simp⟩

theorem atRest_run (h : AtRest r.lifecycle) (readings : List Reading) :
    AtRest (r.run e.traced (view ·.state) readings).2.2.lifecycle := by
  induction readings generalizing r with
  | nil => exact atRest_ask h
  | cons reading rest ih =>
    have ha := atRest_ask h
    cases reading with
    | line line =>
      have hs := atRest_step (e := e) view ha line
      simp only [run]
      split
      · exact ha
      · split <;> rename_i hx <;> rw [hx] at hs
        · exact hs
        · exact ih hs
    | failed reason => exact ⟨ha.toCharted.log (by trivial), ha.phase_ne⟩
    | _ => exact ha

theorem atRest_act (h : AtRest r.lifecycle) (readings : List Reading) (a : Act) :
    AtRest (r.act e.traced (view ·.state) readings a).2.2.lifecycle := by
  cases a with
  | step line =>
    rw [act_step]
    exact atRest_step view h line
  | run =>
    rw [act_run]
    exact atRest_run view h readings

theorem atRest_actAll (h : AtRest r.lifecycle) (readings : List Reading) (acts : List Act) :
    AtRest (r.actAll e.traced (view ·.state) readings acts).2.lifecycle := by
  induction acts generalizing r readings with
  | nil => exact h
  | cons a rest ih => exact ih (atRest_act view h readings a) _

end Repl

/-! ## Every run -/

namespace Lifecycle

variable {σ : Type}

/-- What a lifecycle can be used for: an operation, or a loop that keeps some history and sees
files that depend on the state of the engine. -/
inductive Use (σ : Type) where
  | operate (op : Operation)
  | loop (loop : Loop) (history : History) (view : σ → FileSystem)

/-- The lifecycle after a use. -/
def use (e : Engine σ) (l : Lifecycle (Traced σ)) : Use σ → Lifecycle (Traced σ)
  | .operate op => (l.operate e.traced op).2
  | .loop loop history view =>
    let repl : Repl (Traced σ) := {
      lifecycle := l
      history := history
      prompt := loop.prompt
      showsPrompt := loop.showsPrompt }
    (repl.actAll e.traced (view ·.state) loop.readings loop.acts).2.lifecycle

def useAll (e : Engine σ) (l : Lifecycle (Traced σ)) (uses : List (Use σ)) :
    Lifecycle (Traced σ) :=
  uses.foldl (use e) l

theorem atRest_use {e : Engine σ} {l : Lifecycle (Traced σ)} (h : AtRest l) (u : Use σ) :
    AtRest (l.use e u) := by
  cases u with
  | operate op => exact atRest_operate h op
  | loop loop history view => exact Repl.atRest_actAll view h _ _

theorem atRest_useAll {e : Engine σ} {l : Lifecycle (Traced σ)} (h : AtRest l)
    (uses : List (Use σ)) : AtRest (l.useAll e uses) := by
  induction uses generalizing l with
  | nil => exact h
  | cons u rest ih => exact ih (atRest_use h u)

/-- **The moves of a run.** However a lifecycle was used, by operations and by loops, and whether
it is still in use or went out of use, the moves it has reported lead from `unstarted` to its
phase along the edges of the state machine, none leads on from the last phase, and `signalsArmed`
is not the phase. A request was opened, or refused by the runtime, by one move for each call that
the runtime answered, in order and as it answered; so as many moves lead to `requestActive` as
calls of `openRequest` succeeded. -/
theorem moves_follow (e : Engine σ) (s : σ) (config : Host.Config) (l : Lifecycle (Traced σ))
    (hc : (create ⟨s, []⟩ config).1 = .ok l) (uses : List (Use σ)) :
    let run := l.useAll e uses
    ∀ last, last = run ∨ last = run.drop e.traced →
      Trail last.moves last.phase ∧
        (∀ front p back, last.moves = front ++ (p, .globalShutdownDone) :: back → back = []) ∧
        last.phase ≠ .signalsArmed ∧
        last.moves.filterMap request? = last.engine.answered.filterMap verdict? ∧
        last.moves.countP (·.2 = .requestActive) =
          last.engine.answered.countP (verdict? · = some true) := by
  intro run last hl
  have hrun : AtRest run := atRest_useAll (atRest_create hc) uses
  have h : AtRest last := by
    rcases hl with rfl | rfl
    · exact hrun
    · exact atRest_drop hrun
  exact ⟨h.trail, fun _ _ _ hm => h.trail.eq_nil_of_done hm, h.phase_ne, h.requests,
    h.toCharted.opened⟩

theorem moves_follow_recorded :
    let e := Recording.engine { openRequest := failureStatus }
    let uses : List (Use Recording.State) := [.operate .startup, .operate (.request [] .dropped),
      .loop ⟨"> ", false, [.line "1+1", .line "exit"], [.run]⟩ (.empty []) fun _ => ⟨[], []⟩]
    ∃ l, (create (⟨{}, []⟩ : Traced Recording.State) .default).1 = .ok l ∧
      Trail ((l.useAll e uses).drop e.traced).moves .globalShutdownDone ∧
        ((l.useAll e uses).drop e.traced).engine.answered.filterMap verdict? =
          [false, false] := by
  intro e uses
  have hc : ∃ l, (create (⟨{}, []⟩ : Traced Recording.State) .default).1 = .ok l ∧
      ((l.useAll e uses).drop e.traced).phase = .globalShutdownDone ∧
      ((l.useAll e uses).drop e.traced).moves.filterMap request? = [false, false] :=
    ⟨_, rfl, by decide +kernel, by decide +kernel⟩
  obtain ⟨l, hl, hp, hr⟩ := hc
  obtain ⟨ht, -, -, hv, -⟩ := moves_follow e {} .default l hl uses _ (.inr rfl)
  rw [hp] at ht
  exact ⟨l, hl, ht, hv.symm.trans hr⟩

end Lifecycle

end ScriptHost

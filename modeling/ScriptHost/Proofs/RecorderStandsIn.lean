import ScriptHost.Engine.Bound
import ScriptHost.Engine.Scripted
import ScriptHost.Proofs.ConfigDelivery
import ScriptHost.Proofs.HookEffects
import ScriptHost.Proofs.Lockstep

/-!
# The recording engine stands in for a library

The recording engine runs nothing, and a library behind its entry points may run anything. Yet the
host cannot tell them apart as long as the entry points return what the recording engine is told to
answer: everything that it does follows from the answers.

**Same answers (`GivesIn`).** The library returns the answers at the calls of the session in
question, whatever hooks it calls in between. For the name of a type that is a pointer to the same
NUL-terminated string. A library that returns them whatever it is called for (`Runtime.Gives`)
returns them in every session.

**Alike (`Lifecycle.Alike`).** What two lifecycles have in common, one on each engine: the phase,
what is in memory for the runtime to read, the calls so far, and the events of the host's own.

**Sessions (`Ask`, `Report`).** A session is a list of operations and loops, and each is reported
with its results, the phase, and the history. What exists may change with every call.

**The library's own doings.** What a library prints through the hooks is its own. The `startup` slot
it has to leave to the host (`Engine.LeavesSlot`), and then all events are the same but for messages
printed without their arguments. For a library that runs the slot by itself, the ini entries are
interned once more than with the recording engine, which the events of the host's own do not show;
and the module startup that such a slot goes on to is not among the calls compared here.

**Results.**
* `alike_call`: one call is answered alike, and passed on as it was made.
* `lockstep`: so is every step of the host, as long as the library returns the answers.
* `givesIn_of_gives`: a library that always returns them returns them in every session.
* `sessions_alike`: so a session has the same reports.
* `recorder_stands_in`: with its end, and what the recording engine has noted.
-/
namespace ScriptHost

/-! ## The same answers -/

namespace Recording

/-- What an entry point returned is what the recording engine is told to answer. -/
def Answers.Match (answers : Answers) : (c : Call) → c.Returned → Prop
  | .moduleStartup, status => status = answers.moduleStartup
  | .openRequest, status => status = answers.openRequest
  | .evaluate _ _, status => status = answers.eval
  | .runScript, completed => completed = answers.executeCompletes
  | .typeName, name => untilNul (name.getD []) = untilNul (Utf8.encode answers.resultType)
  | _, _ => True

/-- How a call is recorded when the host's strings can be read. -/
def noted : Call → Host → Entry
  | .armSignals, _ => .armSignals
  | .registerHost, _ => .registerHost
  | .unregisterHost, _ => .unregisterHost true
  | .moduleStartup, h => .moduleStartup (Utf8.lossy (h.iniEntries.getD []))
  | .moduleShutdown, _ => .moduleShutdown true
  | .openRequest, _ => .openRequest
  | .closeRequest, _ => .closeRequest
  | .openScript path, _ => .openScript (Utf8.lossy path)
  | .runScript, _ => .runScript
  | .closeScript, _ => .closeScript
  | .evaluate code name, _ => .evaluate (Utf8.lossy code) (Utf8.lossy name)
  | .typeName, _ => .typeName
  | .dump, _ => .dump

/-- Only module startup is recorded with what the host shows. -/
theorem noted_of_ne {c : Call} (hc : c ≠ .moduleStartup) (h h' : Host) :
    noted c h = noted c h' := by
  cases c <;> first | rfl | exact absurd rfl hc

section
variable {answers : Answers} {h : Host} {s : State}

/-- A returned value is understood as the answer that it matches. -/
theorem answer_of_match (hn : 0 ∉ Utf8.encode answers.resultType) {c : Call}
    {returned : c.passed.Returned} (hm : answers.Match c.passed returned) :
    c.answer returned = (respond answers c h s).1 := by
  cases c with
  | typeName =>
    have hm : untilNul (Option.getD returned []) = untilNul (Utf8.encode answers.resultType) := hm
    change Utf8.lossy (untilNul (Option.getD returned [])) = answers.resultType
    rw [hm, untilNul_of_no_nul hn, Utf8.lossy_encode]
  | moduleStartup | openRequest | evaluate code name | runScript => exact hm
  | _ => rfl

theorem log_respond {config : Host.Config} (hs : h.Shows config) {c : Call}
    (hr : c = .moduleShutdown ∨ c = .unregisterHost → s.registered = true) :
    (respond answers c h s).2.log = s.log ++ [noted c h] := by
  cases c with
  | moduleShutdown | unregisterHost =>
    simp [respond, State.record, noted, arenaLive_of_shows hs (hr (by simp))]
  | _ => rfl

end

end Recording

namespace Runtime

variable {ρ : Type}

/-- In these exchanges, the entry points of a library that was in state `t` before them returned
what the recording engine is told to answer. -/
def Gave (r : Runtime ρ) (answers : Recording.Answers) (t : ρ) : List (Exchange ρ) → Prop
  | [] => True
  | x :: rest =>
    answers.Match x.call.passed ((r.enter x.call.passed x.host t).run x.host).1.1 ∧
      r.Gave answers x.after rest

theorem gave_append_iff {r : Runtime ρ} {answers : Recording.Answers} {t : ρ}
    {xs ys : List (Exchange ρ)} :
    r.Gave answers t (xs ++ ys) ↔
      r.Gave answers t xs ∧ r.Gave answers (Lifecycle.stateAfter t xs) ys := by
  induction xs generalizing t with
  | nil => simp [Gave, Lifecycle.stateAfter]
  | cons x rest ih => simp only [List.cons_append, Gave, Lifecycle.stateAfter, ih, and_assoc]

/-- From the state `t` on, the entry points return what the recording engine is told to answer,
whatever they are called for. -/
def Gives (r : Runtime ρ) (answers : Recording.Answers) (t : ρ) : Prop :=
  ∃ good : ρ → Prop, good t ∧ ∀ c h s, good s →
    answers.Match c ((r.enter c h s).run h).1.1 ∧ good ((r.enter c h s).run h).1.2

end Runtime

/-! ## Lifecycles that are alike -/

namespace Lifecycle

section
variable {ρ : Type} {r : Runtime ρ} {answers : Recording.Answers} {config : Host.Config} {t : ρ}

/-- A lifecycle on the recording engine and one on a library, which was in state `t` at first, have
come equally far. -/
structure Alike (r : Runtime ρ) (config : Host.Config) (t : ρ)
    (l : Lifecycle (Traced Recording.State)) (m : Lifecycle (Traced ρ)) : Prop where
  phase : l.phase = m.phase
  left : Alive config l
  right : Alive config m
  registered : hasHost l.phase = true → l.engine.state.registered = true
  state : m.engine.state = stateAfter t m.engine.exchanges
  calls : l.engine.calls = m.engine.calls
  passed : ∀ c ∈ m.engine.calls, c.passed = c
  log : l.engine.state.log = m.engine.exchanges.map fun x => Recording.noted x.call x.host
  events : l.host.ownEvents = m.host.ownEvents
  twin : r.LeavesSlot → l.host.Twin m.host

theorem Alike.write {l : Lifecycle (Traced Recording.State)} {m : Lifecycle (Traced ρ)}
    (h : Alike r config t l m) {c c' : Console}
    (he : { l.host with console := c }.ownEvents = { m.host with console := c' }.ownEvents)
    (ht : r.LeavesSlot → { l.host with console := c }.Twin { m.host with console := c' }) :
    Alike r config t { l with host := { l.host with console := c } }
      { m with host := { m.host with console := c' } } where
  phase := h.phase
  left := ⟨fun hp => (h.left.shows hp).console _, h.left.released⟩
  right := ⟨fun hp => (h.right.shows hp).console _, h.right.released⟩
  registered := h.registered
  state := h.state
  calls := h.calls
  passed := h.passed
  log := h.log
  events := he
  twin := ht

variable {l : Lifecycle (Traced Recording.State)} {m : Lifecycle (Traced ρ)}

theorem Alike.log_event (h : Alike r config t l m) (event : Event) :
    Alike r config t (l.log event) (m.log event) := by
  refine h.write ?_ fun hs => (h.twin hs).log event
  change (l.host.log event).ownEvents = (m.host.log event).ownEvents
  rw [Host.ownEvents_log, Host.ownEvents_log, h.events]

theorem Alike.moveTo (h : Alike r config t l m) {p : Phase} (hl : l.phase ≠ .globalShutdownDone)
    (hp : p ≠ .globalShutdownDone) (hr : hasHost p = true → l.engine.state.registered = true) :
    Alike r config t (l.moveTo p) (m.moveTo p) := by
  have hx := h.log_event (.transition l.phase p)
  have hm : m.moveTo p = { m.log (.transition l.phase p) with phase := p } := by
    rw [h.phase]
    rfl
  rw [hm]
  exact {
    phase := rfl
    left := .of_shows (hx.left.shows hl) hp
    right := .of_shows (hx.right.shows (h.phase ▸ hl)) hp
    registered := hr
    state := hx.state
    calls := hx.calls
    passed := hx.passed
    log := hx.log
    events := hx.events
    twin := hx.twin }

/-- The strings are released on both sides. -/
theorem Alike.finish (h : Alike r config t l m) :
    Alike r config t ({ l with host := l.host.release }.moveTo .globalShutdownDone)
      ({ m with host := m.host.release }.moveTo .globalShutdownDone) := by
  have hm : { m with host := m.host.release }.moveTo .globalShutdownDone =
      { { m with host := m.host.release }.log (.transition l.phase .globalShutdownDone) with
        phase := .globalShutdownDone } := by
    rw [h.phase]
    rfl
  rw [hm]
  exact {
    phase := rfl
    left := ⟨fun hp => absurd rfl hp, fun _ => rfl⟩
    right := ⟨fun hp => absurd rfl hp, fun _ => rfl⟩
    registered := fun hh => by cases hh
    state := h.state
    calls := h.calls
    passed := h.passed
    log := h.log
    events := by
      change (l.host.release.log _).ownEvents = (m.host.release.log _).ownEvents
      rw [Host.ownEvents_log, Host.ownEvents_log, Host.ownEvents_release, Host.ownEvents_release,
        h.events]
    twin := fun hs => (h.twin hs).release.log _ }

theorem call_engine (r : Runtime ρ) (m : Lifecycle (Traced ρ)) (c : Call) :
    let x := (r.enter c.passed m.host m.engine.state).run m.host
    m.call r.engine.traced c =
      (c.answer x.1.1,
        { m with host := x.2, engine := m.engine.note c m.host (c.answer x.1.1) x.1.2 }) := by
  simp only [call, perform, Engine.traced, Runtime.engine, Activity.run_bind, Activity.run]

theorem calls_note {σ : Type} (t : Traced σ) (c : Call) (h : Host) (answer : c.Answer)
    (state : σ) : (t.note c h answer state).calls = t.calls ++ [c] := by
  simp [Traced.calls, Traced.note]

/-- The slot is run alike: the ini entries are interned on both sides, or on neither. -/
theorem Alike.exposeIni (h : Alike r config t l m) (hp : l.phase ≠ .globalShutdownDone) :
    l.host.exposeIni.1 = m.host.exposeIni.1 ∧
      Alike r config t { l with host := l.host.exposeIni.2 }
        { m with host := m.host.exposeIni.2 } := by
  have hq : m.phase ≠ .globalShutdownDone := h.phase ▸ hp
  have hl := h.left.shows hp
  have hm := h.right.shows hq
  refine ⟨?_, ?_⟩
  · rw [(Host.exposeIni_of_shows hl).1, (Host.exposeIni_of_shows hm).1]
  · exact {
      phase := h.phase
      left := .of_shows (Host.shows_exposeIni hl) hp
      right := .of_shows (Host.shows_exposeIni hm) hq
      registered := h.registered
      state := h.state
      calls := h.calls
      passed := h.passed
      log := h.log
      events := by
        rw [Host.ownEvents_exposeIni, Host.ownEvents_exposeIni]
        exact h.events
      twin := fun hs => (h.twin hs).exposeIni }

/-- What was returned before a call, and at the call. -/
theorem gave_call_iff (r : Runtime ρ) (m : Lifecycle (Traced ρ)) (c : Call) :
    r.Gave answers t (m.call r.engine.traced c).2.engine.exchanges ↔
      r.Gave answers t m.engine.exchanges ∧
        answers.Match c.passed
          ((r.enter c.passed m.host (stateAfter t m.engine.exchanges)).run m.host).1.1 := by
  rw [call_engine]
  simp only [Traced.note, Runtime.gave_append_iff, Runtime.Gave, and_true]

variable (hn : 0 ∉ Utf8.encode answers.resultType)
include hn

/-- A call is answered alike, and recorded by the one as it was passed on by the other. -/
theorem alike_call (h : Alike r config t l m) (hp : l.phase ≠ .globalShutdownDone) {c : Call}
    (hg : r.Gave answers t (m.call r.engine.traced c).2.engine.exchanges)
    (hc : c.passed = c) (hnote : Recording.noted c l.host = Recording.noted c m.host)
    (hr : c = .moduleShutdown ∨ c = .unregisterHost → l.engine.state.registered = true) :
    Agree (Alike r config t) (l.call (Recording.engine answers).traced c)
      (m.call r.engine.traced c) := by
  have hq : m.phase ≠ .globalShutdownDone := h.phase ▸ hp
  have hl := h.left.shows hp
  have hm := h.right.shows hq
  have hmatch := ((gave_call_iff r m c).1 hg).2
  rw [← h.state] at hmatch
  have hshows : (m.call r.engine.traced c).2.host.Shows config := shows_call hm c
  have hown := Host.ownEvents_run (r.enter c.passed m.host m.engine.state) m.host
  obtain ⟨hreg, -⟩ := Recording.respond_noted answers c l.host l.engine.state
  rw [call_engine] at hshows ⊢
  refine ⟨(Recording.answer_of_match hn hmatch).symm, ?_⟩
  exact {
    phase := h.phase
    left := .of_shows hl hp
    right := .of_shows hshows hq
    registered := fun hh => hreg (h.registered hh)
    state := by simp [Traced.note, stateAfter_append, stateAfter]
    calls := by
      rw [calls_note, ← h.calls]
      exact calls_note _ _ _ _ _
    passed := by
      rw [calls_note, List.forall_mem_append, List.forall_mem_singleton]
      exact ⟨h.passed, hc⟩
    log := by
      refine (Recording.log_respond hl hr).trans ?_
      rw [h.log, hnote]
      simp [Traced.note]
    events := h.events.trans hown.symm
    twin := fun hs => (h.twin hs).trans (Host.twin_run (hs _ _ _) _) }

theorem alike_runStartupSlot (h : Alike r config t l m) (hp : l.phase ≠ .globalShutdownDone)
    (hg : r.Gave answers t (m.runStartupSlot r.engine.traced).2.engine.exchanges) :
    Agree (Alike r config t) (l.runStartupSlot (Recording.engine answers).traced)
      (m.runStartupSlot r.engine.traced) := by
  obtain ⟨hi, hx⟩ := h.exposeIni hp
  have hl := (Host.exposeIni_of_shows (h.left.shows hp)).2
  have hm := (Host.exposeIni_of_shows (h.right.shows (h.phase ▸ hp))).2
  unfold runStartupSlot at hg ⊢
  cases ha : l.host.exposeIni with
  | mk ini host =>
    cases hb : m.host.exposeIni with
    | mk ini' host' =>
      rw [ha, hb] at hi hx
      rw [hb] at hg
      obtain rfl := hi
      cases ini with
      | none => exact ⟨rfl, hx⟩
      | some ini =>
        refine alike_call hn hx hp hg rfl ?_ (by simp)
        rw [ha] at hl
        rw [hb] at hm
        simp only [Recording.noted, hl ini rfl, hm ini rfl]

/-- Every step of the host is taken alike, as long as the library returns the answers. -/
theorem lockstep : Lockstep (Recording.engine answers).traced r.engine.traced
    (fun x => r.Gave answers t x.exchanges) (Alike r config t) where
  back {m c} hg := ((gave_call_iff r m c).1 hg).1
  phase h := h.phase
  evalName h hp := by
    have hl := h.left.shows (by simp [hp])
    have hm := h.right.shows (by simp [← h.phase, hp])
    rw [evalName_of_serves hl.serves, evalName_of_serves hm.serves]
  call {l m c} h hd hw hg := by
    have hl := h.left.shows hd.phase_ne
    refine alike_call hn h hd.phase_ne hg ?_ (Recording.noted_of_ne hd.ne_moduleStartup _ _)
      fun hc => h.registered (hd.hasHost hc)
    cases c with
    | openScript path => exact congrArg Call.openScript (untilNul_of_no_nul hw)
    | evaluate code name =>
      have h0 := hl.serves.evalName.1
      rw [hd.2, evalName_of_serves hl.serves]
      exact congrArg (Call.evaluate code) (untilNul_of_no_nul h0)
    | _ => rfl
  register {l m} h hp hg := by
    have hx := (alike_call hn h (c := .registerHost) (by simp [hp]) hg rfl rfl (by simp)).later
    exact hx.moveTo (by simp [hp]) (by simp) fun _ => rfl
  runSlot h hp hg := alike_runStartupSlot hn h (by simp [hp]) hg
  log h _ := h.log_event _
  move h hm := h.moveTo hm.phase_ne.1 hm.phase_ne.2 fun hq => h.registered (hm.hasHost hq)
  finish h _ := h.finish
  print text h := h.write h.events fun hs => (h.twin hs).print text

end

end Lifecycle

/-! ## Sessions -/

/-- What is asked for in a session: an operation, or a loop that sees files which may change with
every call. -/
inductive Ask where
  | operate (op : Operation)
  | loop (loop : Loop) (files : List Call → FileSystem)

/-- What the host can tell about it. -/
inductive Report where
  | operated (result : Except Lifecycle.Error (List Action.Outcome)) (phase : Phase)
  | looped (outcomes : List (Repl.Outcome × Nat)) (reads : Nat) (remembered : List String)
      (history : History) (phase : Phase)

namespace Lifecycle

section
variable {σ : Type}

/-- Does what is asked for, with the history that the loops share. -/
def serve (e : Engine σ) (l : Lifecycle (Traced σ)) (history : History) :
    Ask → Report × History × Lifecycle (Traced σ)
  | .operate op =>
    let (result, l) := l.operate e.traced op
    (.operated result l.phase, history, l)
  | .loop loop files =>
    let repl : Repl (Traced σ) := {
      lifecycle := l
      history := history
      prompt := loop.prompt
      showsPrompt := loop.showsPrompt }
    let (outcomes, r) := repl.actAll e.traced (fun t => files t.calls) loop.readings loop.acts
    (.looped outcomes r.reads r.remembered r.history r.lifecycle.phase, r.history, r.lifecycle)

def serveAll (e : Engine σ) (l : Lifecycle (Traced σ)) (history : History) :
    List Ask → List Report × History × Lifecycle (Traced σ)
  | [] => ([], history, l)
  | ask :: rest =>
    let (report, history, l) := l.serve e history ask
    let (reports, last) := l.serveAll e history rest
    (report :: reports, last)

theorem serve_turns (e : Engine σ) (l : Lifecycle (Traced σ)) (history : History) (ask : Ask) :
    Turns e.traced l (l.serve e history ask).2.2 := by
  cases ask with
  | operate op => exact (operate_steps e.traced l op).turns
  | loop loop files =>
    exact Repl.actAll_turns e.traced (fun t => files t.calls)
      ⟨l, history, loop.prompt, loop.showsPrompt, 0, 0, []⟩ loop.readings loop.acts

theorem serveAll_turns (e : Engine σ) (l : Lifecycle (Traced σ)) (history : History)
    (asks : List Ask) : Turns e.traced l (l.serveAll e history asks).2.2 := by
  induction asks generalizing l history with
  | nil => exact .refl
  | cons ask rest ih => exact (serve_turns e l history ask).trans (ih _ _)

end

section
variable {ρ : Type} {r : Runtime ρ} {answers : Recording.Answers} {config : Host.Config} {t : ρ}
  {l : Lifecycle (Traced Recording.State)} {m m' : Lifecycle (Traced ρ)}

/-! ### The library in a session -/

/-- What holds of a library that returns the answers, as far as it was called. -/
structure Giving (r : Runtime ρ) (answers : Recording.Answers) (t : ρ) (good : ρ → Prop)
    (m : Lifecycle (Traced ρ)) : Prop where
  good : good m.engine.state
  state : m.engine.state = stateAfter t m.engine.exchanges
  gave : r.Gave answers t m.engine.exchanges

section
variable {good : ρ → Prop} (hg : ∀ c h s, good s →
  answers.Match c ((r.enter c h s).run h).1.1 ∧ good ((r.enter c h s).run h).1.2)
include hg

theorem giving_call (h : Giving r answers t good m) (c : Call) :
    Giving r answers t good (m.call r.engine.traced c).2 := by
  obtain ⟨hmatch, hgood⟩ := hg c.passed m.host m.engine.state h.good
  refine ⟨?_, ?_, (gave_call_iff r m c).2 ⟨h.gave, h.state ▸ hmatch⟩⟩
  · rw [call_engine]
    exact hgood
  · rw [call_engine]
    simp [Traced.note, stateAfter_append, stateAfter]

theorem giving_turn (h : Giving r answers t good m) (ht : Turn r.engine.traced m m') :
    Giving r answers t good m' := by
  cases ht with
  | print => exact ⟨h.good, h.state, h.gave⟩
  | step hs =>
    cases hs with
    | call | register => exact ⟨(giving_call hg h _).good, (giving_call hg h _).state,
        (giving_call hg h _).gave⟩
    | runSlot =>
      unfold runStartupSlot
      split
      · exact ⟨h.good, h.state, h.gave⟩
      · rename_i host _
        exact giving_call hg (m := { m with host }) ⟨h.good, h.state, h.gave⟩ .moduleStartup
    | log | move | finish => exact ⟨h.good, h.state, h.gave⟩

theorem giving_turns (h : Giving r answers t good m) (ht : Turns r.engine.traced m m') :
    Giving r answers t good m' := by
  induction ht with
  | refl => exact h
  | tail _ hturn ih => exact giving_turn hg ih hturn

end

/-- At the calls of a session, up to the end of the lifecycle, the entry points of a library return
what the recording engine is told to answer. -/
def GivesIn (r : Runtime ρ) (answers : Recording.Answers) (t : ρ) (config : Host.Config)
    (history : History) (asks : List Ask) : Prop :=
  ∀ m, (create (⟨t, []⟩ : Traced ρ) config).1 = .ok m →
    r.Gave answers t
      ((m.serveAll r.engine history asks).2.2.drop r.engine.traced).engine.exchanges

/-- A library that returns the answers whatever it is called for returns them in every session. -/
theorem givesIn_of_gives (h : r.Gives answers t) (config : Host.Config) (history : History)
    (asks : List Ask) : GivesIn r answers t config history asks := by
  obtain ⟨good, ht, hg⟩ := h
  intro m hm
  obtain ⟨-, he, -⟩ := create_ok hm
  have hm : Giving r answers t good m := by
    refine ⟨?_, ?_, ?_⟩ <;> rw [he]
    exacts [ht, rfl, trivial]
  obtain ⟨m', hs, hd⟩ := drop_steps r.engine.traced (m.serveAll r.engine history asks).2.2
  rw [hd]
  exact (giving_turns hg hm ((serveAll_turns r.engine m history asks).trans hs.turns)).gave

/-! ### Both in a session -/

section
variable (k : Lockstep (Recording.engine answers).traced r.engine.traced
  (fun x => r.Gave answers t x.exchanges) (Alike r config t))
include k

theorem serve_alike (h : Alike r config t l m) (history : History) (ask : Ask)
    (hg : r.Gave answers t (m.serve r.engine history ask).2.2.engine.exchanges) :
    (l.serve (Recording.engine answers) history ask).1 = (m.serve r.engine history ask).1 ∧
      (l.serve (Recording.engine answers) history ask).2.1 =
        (m.serve r.engine history ask).2.1 ∧
      Alike r config t (l.serve (Recording.engine answers) history ask).2.2
        (m.serve r.engine history ask).2.2 := by
  cases ask with
  | operate op =>
    have ho := k.agree_operate h op hg
    exact ⟨congrArg₂ Report.operated ho.result ho.later.phase, rfl, ho.later⟩
  | loop loop files =>
    have hstart : Repl.Alike (Alike r config t)
        ⟨l, history, loop.prompt, loop.showsPrompt, 0, 0, []⟩
        ⟨m, history, loop.prompt, loop.showsPrompt, 0, 0, []⟩ := ⟨h, rfl, rfl, rfl, rfl, rfl, rfl⟩
    let sees {σ : Type} (t : Traced σ) : FileSystem := files t.calls
    have hsees : ∀ {l m}, Alike r config t l m → sees l.engine = sees m.engine :=
      fun hx => congrArg files hx.calls
    obtain ⟨hres, ha⟩ := k.alike_actAll hsees hstart loop.readings loop.acts hg
    simp only [serve]
    rw [hres, ha.reads, ha.remembered, ha.history, ha.lifecycle.phase]
    exact ⟨rfl, rfl, ha.lifecycle⟩

/-- A session has the same reports. -/
theorem sessions_alike (h : Alike r config t l m) (history : History) (asks : List Ask)
    (hg : r.Gave answers t (m.serveAll r.engine history asks).2.2.engine.exchanges) :
    (l.serveAll (Recording.engine answers) history asks).1 =
        (m.serveAll r.engine history asks).1 ∧
      (l.serveAll (Recording.engine answers) history asks).2.1 =
        (m.serveAll r.engine history asks).2.1 ∧
      Alike r config t (l.serveAll (Recording.engine answers) history asks).2.2
        (m.serveAll r.engine history asks).2.2 := by
  induction asks generalizing l m history with
  | nil => exact ⟨rfl, rfl, h⟩
  | cons ask rest ih =>
    have hturns := serveAll_turns r.engine (m.serve r.engine history ask).2.2
      (m.serve r.engine history ask).2.1 rest
    obtain ⟨hr, hh, ha⟩ := serve_alike k h history ask (k.told_of_turns hturns hg)
    obtain ⟨hrs, hhs, has⟩ :=
      ih ha (l.serve (Recording.engine answers) history ask).2.1 (hh ▸ hg)
    simp only [serveAll, ← hh]
    exact ⟨by rw [hr, hrs], hhs, has⟩

end

/-- A lifecycle is created on both sides with the same host. -/
theorem create_alike (r : Runtime ρ) (t : ρ)
    (hl : (create (⟨{}, []⟩ : Traced Recording.State) config).1 = .ok l) :
    ∃ m, (create (⟨t, []⟩ : Traced ρ) config).1 = .ok m ∧ Alike r config t l m := by
  have hm : (create (⟨t, []⟩ : Traced ρ) config).1 = .ok ⟨l.host, ⟨t, []⟩, .unstarted⟩ := by
    have hh := host_create hl
    unfold create
    cases hc : Host.create config with
    | mk result events =>
      rw [hc] at hh
      obtain rfl : result = .ok l.host := hh
      rfl
  obtain ⟨hp, he, -⟩ := create_ok hl
  refine ⟨_, hm, ?_⟩
  exact {
    phase := hp
    left := alive_create hl
    right := alive_create hm
    registered := by simp [hp, hasHost]
    state := rfl
    calls := by rw [he]; rfl
    passed := by simp [Traced.calls]
    log := by rw [he]; rfl
    events := rfl
    twin := fun _ => Host.Twin.refl _ }

/-- **The recorder stands in.** Take a session on the recording engine, whose type name has no NUL,
and the same session on a library whose entry points, at the calls of that session, return what the
recording engine answers. Both lifecycles are refused alike or created alike. The sessions then have
the same reports and leave the same history. Gone out of use, the lifecycles are in the same phase
and have reported the same events of the host's own; if the library leaves the `startup` slot to the
host, all events are the same but for messages printed without their arguments. The same calls were
made, in the same order and with the same code, names and paths; all reached the library as they
were made; and the recording engine has recorded just these. -/
theorem recorder_stands_in (r : Runtime ρ) (t : ρ) (answers : Recording.Answers)
    (config : Host.Config) (history : History) (asks : List Ask)
    (hn : 0 ∉ Utf8.encode answers.resultType)
    (hg : GivesIn r answers t config history asks) :
    let recorder : Traced Recording.State := ⟨{}, []⟩
    let library : Traced ρ := ⟨t, []⟩
    (create recorder config).2 = (create library config).2 ∧
      (∀ cause, (create recorder config).1 = .error cause ↔
        (create library config).1 = .error cause) ∧
      ∀ l, (create recorder config).1 = .ok l → ∃ m, (create library config).1 = .ok m ∧
        let left := l.serveAll (Recording.engine answers) history asks
        let right := m.serveAll r.engine history asks
        left.1 = right.1 ∧ left.2.1 = right.2.1 ∧
          let l' := left.2.2.drop (Recording.engine answers).traced
          let m' := right.2.2.drop r.engine.traced
          l'.phase = m'.phase ∧
            l'.host.ownEvents = m'.host.ownEvents ∧
            (r.LeavesSlot → l'.host.plainEvents = m'.host.plainEvents) ∧
            l'.engine.calls = m'.engine.calls ∧
            (∀ c ∈ m'.engine.calls, c.passed = c) ∧
            l'.engine.state.log =
              m'.engine.exchanges.map fun x => Recording.noted x.call x.host := by
  intro recorder library
  refine ⟨?_, ?_, fun l hl => ?_⟩
  · unfold create
    cases Host.create config with
    | mk result events => cases result <;> rfl
  · unfold create
    cases Host.create config with
    | mk result events => cases result <;> simp
  · obtain ⟨m, hm, h⟩ := create_alike r t hl
    have k : Lockstep (Recording.engine answers).traced r.engine.traced
      (fun x => r.Gave answers t x.exchanges) (Alike r config t) := lockstep hn
    have hended := hg m hm
    obtain ⟨m', hsteps, hd⟩ := drop_steps r.engine.traced (m.serveAll r.engine history asks).2.2
    have hserved : r.Gave answers t (m.serveAll r.engine history asks).2.2.engine.exchanges := by
      rw [hd] at hended
      exact k.told_of_steps hsteps hended
    obtain ⟨hreports, hhistory, hlast⟩ := sessions_alike k h history asks hserved
    obtain ⟨l', m', h', hdl, hdm⟩ := k.drop hlast hended
    refine ⟨m, hm, hreports, hhistory, ?_⟩
    rw [hdl, hdm]
    exact ⟨h'.phase, by rw [Host.ownEvents_drop, Host.ownEvents_drop, h'.events],
      fun hs => (h'.twin hs).drop.plainEvents, h'.calls, h'.passed, h'.log⟩

end

/-- A scripted runtime without turns succeeds at everything and evaluates to null. -/
theorem gives_idle : Scripted.runtime.Gives { resultType := "null" } {} := by
  refine ⟨fun s => s.pending = [] ∧ s.value = Scripted.Queue.eval.idle, ⟨rfl, rfl⟩, ?_⟩
  rintro c h ⟨-, log, registered, -⟩ ⟨rfl, rfl⟩
  cases c <;> exact ⟨by first | rfl | trivial, rfl, rfl⟩

theorem recorder_stands_in_idle :
    let asks : List Ask := [.operate .startup,
      .operate (.request [.evaluate "1+1", .runScript (Utf8.encode "a")] .dropped),
      .loop ⟨"> ", false, [.line "", .line "exit"], [.run]⟩ fun _ => ⟨[], []⟩,
      .operate .shutdown]
    ∃ l m, (create (⟨{}, []⟩ : Traced Recording.State) .default).1 = .ok l ∧
      (create (⟨{}, []⟩ : Traced Scripted.State) .default).1 = .ok m ∧
      let left := l.serveAll (Recording.engine { resultType := "null" }) (.empty []) asks
      let right := m.serveAll Scripted.runtime.engine (.empty []) asks
      left.1 = right.1 ∧
        (right.2.2.drop Scripted.runtime.engine.traced).engine.calls =
          [.armSignals, .registerHost, .moduleStartup, .openRequest,
            .evaluate (Utf8.encode (asExpression "1+1")) (Utf8.encode defaultEvalName), .typeName,
            .openScript (Utf8.encode "a"), .runScript, .closeScript, .closeRequest, .openRequest,
            .evaluate (Utf8.encode (asExpression "")) (Utf8.encode defaultEvalName), .typeName,
            .closeRequest, .moduleShutdown, .unregisterHost] ∧
        (left.2.2.drop (Recording.engine { resultType := "null" }).traced).engine.state.log =
          [.armSignals, .registerHost, .moduleStartup defaultIniEntries, .openRequest,
            .evaluate (asExpression "1+1") defaultEvalName, .typeName,
            .openScript "a", .runScript, .closeScript, .closeRequest, .openRequest,
            .evaluate (asExpression "") defaultEvalName, .typeName,
            .closeRequest, .moduleShutdown true, .unregisterHost true] := by
  intro asks
  have hc : ∃ l, (create (⟨{}, []⟩ : Traced Recording.State) .default).1 = .ok l := ⟨_, rfl⟩
  obtain ⟨l, hl⟩ := hc
  obtain ⟨-, -, hsame⟩ := recorder_stands_in Scripted.runtime {} { resultType := "null" } .default
    (.empty []) asks (by decide) (givesIn_of_gives gives_idle _ _ _)
  obtain ⟨m, hm, hreports, -, -, -, -, hcalls, -⟩ := hsame l hl
  refine ⟨l, m, hl, hm, hreports, hcalls.symm.trans ?_, ?_⟩ <;> cases hl
  · decide +kernel
  · -- The recorded texts are those that were encoded for the calls.
    rw [← Utf8.lossy_encode defaultIniEntries, ← Utf8.lossy_encode (asExpression "1+1"),
      ← Utf8.lossy_encode (asExpression ""), ← Utf8.lossy_encode defaultEvalName,
      ← Utf8.lossy_encode "a"]
    rfl

end Lifecycle

end ScriptHost

import Mathlib.Data.List.TakeWhile
import ScriptHost.Engine.Recording
import ScriptHost.Proofs.LifecycleCalls

/-!
# The order of the runtime's calls over a whole run

A run creates a lifecycle, makes any operations in any order, and ends when the lifecycle goes
out of use. The runtime answers as it likes at every call. It leaves the `startup` slot to the host
(`Engine.LeavesSlot`): a module startup in a slot that it ran by itself would be part of the call
that it is in.

**The grammar (`Whole`).** Everything the runtime is called for is one of four sequences:
nothing at all; a startup that failed, undone at once; a startup, one cycle for each request that
is served, and the shutdown; or the same cut off in the last request, whose guard was forgotten.
A cycle is a request that the runtime refused, or an open request, the calls of its actions, and
its close. The requests served are those between the first startup and the first shutdown.

**The invariant (`Stage`).** For each phase, the calls that lead to it. `signalsArmed` is never
the phase between two operations.

**Results.**
* `stage_whole`: from every stage, dropping the lifecycle completes a word of the grammar.
* `reached_operate`, `reached_operateAll`: every operation, refused or not, goes from stage to
  stage, and so does every run.
* `whole_run`: the calls of every run that ends are a word of the grammar.
-/
namespace ScriptHost

/-! ## The grammar -/

def Operation.request? : Operation → Option (List Action × Closing)
  | .request actions closing => some (actions, closing)
  | .startup | .shutdown => none

namespace Lifecycle

/-- The operations before the first shutdown. -/
def beforeShutdown (ops : List Operation) : List Operation :=
  ops.takeWhile (· ≠ .shutdown)

/-- The requests between the first startup and the first shutdown. -/
def served (ops : List Operation) : List (List Action × Closing) :=
  ((beforeShutdown ops).dropWhile (· ≠ .startup)).filterMap Operation.request?

/-- The calls of requests one after the other, for a host whose inline code is called `name`. A
request that was opened is closed behind its actions. -/
inductive Cycles (name : Bytes) : List (List Action × Closing) → List Answered → Prop
  | nil : Cycles name [] []
  | refused {request : List Action × Closing} {rest : List (List Action × Closing)}
      {status : Int} {xs : List Answered} :
      status ≠ successStatus → Cycles name rest xs →
      Cycles name (request :: rest) (⟨.openRequest, status⟩ :: xs)
  | closed {actions : List Action} {rest : List (List Action × Closing)}
      {outcomes : List Action.Outcome} {xs ys : List Answered} :
      Action.AllMade name actions outcomes xs → Cycles name rest ys →
      Cycles name ((actions, .dropped) :: rest)
        (⟨.openRequest, successStatus⟩ :: xs ++ ⟨.closeRequest, ()⟩ :: ys)

/-- The calls of a startup that succeeded. -/
def starting : List Answered :=
  arming ++ [⟨.moduleStartup, successStatus⟩]

/-- All calls of a run of `ops` that ended, for a host with this configuration. -/
inductive Whole (config : Host.Config) (ops : List Operation) : List Answered → Prop
  | unused : .startup ∉ beforeShutdown ops → Whole config ops []
  | failed {xs : List Answered} :
      .startup ∈ beforeShutdown ops → ModuleRefused config.iniEntries xs →
      Whole config ops (arming ++ xs ++ [⟨.unregisterHost, ()⟩])
  | complete {xs : List Answered} :
      .startup ∈ beforeShutdown ops → 0 ∉ Utf8.encode config.iniEntries →
      Cycles (Utf8.encode config.evalName) (served ops) xs →
      Whole config ops (starting ++ xs ++ [⟨.moduleShutdown, ()⟩, ⟨.unregisterHost, ()⟩])
  | abandoned {front back : List (List Action × Closing)} {actions : List Action}
      {outcomes : List Action.Outcome} {xs ys : List Answered} :
      0 ∉ Utf8.encode config.iniEntries → served ops = front ++ (actions, .forgotten) :: back →
      Cycles (Utf8.encode config.evalName) front xs →
      Action.AllMade (Utf8.encode config.evalName) actions outcomes ys →
      Whole config ops (starting ++ xs ++ ⟨.openRequest, successStatus⟩ :: ys)

theorem Cycles.append {name : Bytes} {front back : List (List Action × Closing)}
    {xs ys : List Answered} (h : Cycles name front xs) (g : Cycles name back ys) :
    Cycles name (front ++ back) (xs ++ ys) := by
  induction h with
  | nil => exact g
  | refused hs _ ih => exact .refused hs ih
  | closed ha _ ih =>
    rw [List.append_assoc]
    exact .closed ha ih

/-! ## Operations behind a run -/

theorem beforeShutdown_of_not_mem {ops : List Operation} (h : .shutdown ∉ ops) :
    beforeShutdown ops = ops := by
  rw [beforeShutdown, List.takeWhile_eq_self_iff]
  intro op hop
  have : op ≠ .shutdown := fun e => h (e ▸ hop)
  simpa using this

theorem beforeShutdown_append_of_not_mem {ops : List Operation} (h : .shutdown ∉ ops)
    (more : List Operation) : beforeShutdown (ops ++ more) = ops ++ beforeShutdown more := by
  have hb := beforeShutdown_of_not_mem h
  unfold beforeShutdown at hb ⊢
  rw [List.takeWhile_append, hb, if_pos rfl]

theorem beforeShutdown_append_of_mem {ops : List Operation} (h : .shutdown ∈ ops)
    (more : List Operation) : beforeShutdown (ops ++ more) = beforeShutdown ops := by
  unfold beforeShutdown
  rw [List.takeWhile_append, if_neg]
  intro hl
  have hb := List.takeWhile_eq_self_iff.1 (List.takeWhile_sublist _ |>.eq_of_length hl)
  have := hb _ h
  simp at this

theorem startup_not_mem_iff {ops : List Operation} :
    .startup ∉ ops ↔ ops.dropWhile (· ≠ .startup) = [] := by
  rw [List.dropWhile_eq_nil_iff]
  constructor
  · intro h op hop
    have : op ≠ .startup := fun e => h (e ▸ hop)
    simpa using this
  · intro h hm
    have := h _ hm
    simp at this

theorem served_append_of_shutdown {ops : List Operation} (h : .shutdown ∈ ops)
    (more : List Operation) : served (ops ++ more) = served ops := by
  unfold served
  rw [beforeShutdown_append_of_mem h]

/-- Behind a startup without a shutdown, all requests up to the next shutdown are served. -/
theorem served_append {ops : List Operation} (hs : .startup ∈ ops) (h : .shutdown ∉ ops)
    (more : List Operation) :
    served (ops ++ more) = served ops ++ (beforeShutdown more).filterMap Operation.request? := by
  have hd : (ops.dropWhile (· ≠ .startup)).isEmpty ≠ true := by
    rw [ne_eq, List.isEmpty_iff]
    exact fun e => startup_not_mem_iff.2 e hs
  unfold served
  rw [beforeShutdown_append_of_not_mem h, beforeShutdown_of_not_mem h, List.dropWhile_append,
    if_neg hd, List.filterMap_append]

/-- What a run serves, a longer run serves first. -/
theorem served_prefix {ops : List Operation} (hs : .startup ∈ ops) (more : List Operation) :
    served ops <+: served (ops ++ more) := by
  by_cases h : .shutdown ∈ ops
  · exact ⟨[], (List.append_nil _).trans (served_append_of_shutdown h more).symm⟩
  · rw [served_append hs h]
    exact List.prefix_append _ _

/-- A startup serves nothing yet. -/
theorem served_startup {ops : List Operation} (hs : .startup ∉ ops) (h : .shutdown ∉ ops) :
    served (ops ++ [.startup]) = [] := by
  unfold served
  rw [beforeShutdown_append_of_not_mem h, List.dropWhile_append, startup_not_mem_iff.1 hs]
  rfl

theorem beforeShutdown_append_shutdown (ops : List Operation) :
    beforeShutdown (ops ++ [.shutdown]) = beforeShutdown ops := by
  by_cases h : .shutdown ∈ ops
  · rw [beforeShutdown_append_of_mem h]
  · rw [beforeShutdown_append_of_not_mem h, beforeShutdown_of_not_mem h]
    exact List.append_nil ops

/-- The grammar looks at nothing behind the first shutdown. -/
theorem Whole.congr {config : Host.Config} {ops ops' : List Operation} {xs : List Answered}
    (h : Whole config ops xs) (hb : beforeShutdown ops' = beforeShutdown ops) :
    Whole config ops' xs := by
  have hv : served ops' = served ops := by unfold served; rw [hb]
  cases h with
  | unused hs => exact .unused (hb ▸ hs)
  | failed hs hm => exact .failed (hb ▸ hs) hm
  | complete hs h0 hc => exact .complete (hb ▸ hs) h0 (hv ▸ hc)
  | abandoned h0 hf hc ha => exact .abandoned h0 (hv.trans hf) hc ha

/-! ## The invariant -/

/-- The calls made when a phase is reached by the operations `ops`. -/
inductive Stage (config : Host.Config) (ops : List Operation) : Phase → List Answered → Prop
  | unstarted : .startup ∉ ops → .shutdown ∉ ops → Stage config ops .unstarted []
  | refused {xs : List Answered} :
      .startup ∈ ops → .shutdown ∉ ops → ModuleRefused config.iniEntries xs →
      Stage config ops .hostTableRegistered (arming ++ xs)
  | ready {p : Phase} {xs : List Answered} :
      isReady p = true → .startup ∈ ops → .shutdown ∉ ops →
      0 ∉ Utf8.encode config.iniEntries →
      Cycles (Utf8.encode config.evalName) (served ops) xs → Stage config ops p (starting ++ xs)
  | abandoned {front back : List (List Action × Closing)} {actions : List Action}
      {outcomes : List Action.Outcome} {xs ys : List Answered} :
      .startup ∈ ops → 0 ∉ Utf8.encode config.iniEntries →
      served ops = front ++ (actions, .forgotten) :: back →
      Cycles (Utf8.encode config.evalName) front xs →
      Action.AllMade (Utf8.encode config.evalName) actions outcomes ys →
      Stage config ops .requestActive (starting ++ xs ++ ⟨.openRequest, successStatus⟩ :: ys)
  | done {xs : List Answered} :
      .shutdown ∈ ops → Whole config ops xs → Stage config ops .globalShutdownDone xs

theorem undoing_ready {p : Phase} (h : isReady p = true) :
    undoing p = [⟨.moduleShutdown, ()⟩, ⟨.unregisterHost, ()⟩] := by
  cases p <;> first | rfl | cases h

/-- In every stage, undoing what can be undone completes a word of the grammar. -/
theorem stage_whole {config : Host.Config} {ops : List Operation} {p : Phase}
    {xs : List Answered} (h : Stage config ops p xs) :
    Whole config ops (xs ++ if refusesShutdown p then [] else undoing p) := by
  cases h with
  | unstarted hs hd => exact .unused (by rwa [beforeShutdown_of_not_mem hd])
  | refused hs hd hm => exact .failed (by rwa [beforeShutdown_of_not_mem hd]) hm
  | ready hp hs hd h0 hc =>
    rw [not_refusesShutdown_of_ready hp, undoing_ready hp]
    exact .complete (by rwa [beforeShutdown_of_not_mem hd]) h0 hc
  | abandoned hs h0 hf hc ha =>
    rw [if_pos (show refusesShutdown .requestActive = true from rfl), List.append_nil]
    exact .abandoned h0 hf hc ha
  | done hd hw =>
    rw [if_pos (show refusesShutdown .globalShutdownDone = true from rfl), List.append_nil]
    exact hw

/-! ## Refused operations -/

/-- Whether an operation is refused in a phase. -/
def refuses (p : Phase) : Operation → Bool
  | .startup => p ≠ .unstarted
  | .shutdown => refusesShutdown p
  | .request _ _ => !isReady p

theorem operate_refused {σ : Type} (e : Engine σ) (l : Lifecycle σ) (op : Operation)
    (h : refuses l.phase op = true) : (l.operate e op).2 = l := by
  cases op with
  | startup =>
    have hp : l.phase ≠ .unstarted := of_decide_eq_true h
    simp only [operate, startup_refused e l hp]
  | shutdown => simp only [operate, shutdown_refused e l h]
  | request actions closing =>
    have hp : isReady l.phase = false := by simpa [refuses] using h
    simp only [operate, openRequest_refused e l hp]

/-- A refused operation stays in the stage. -/
theorem stage_refused {config : Host.Config} {ops : List Operation} {p : Phase}
    {xs : List Answered} (h : Stage config ops p xs) {op : Operation}
    (hr : refuses p op = true) : Stage config (ops ++ [op]) p xs := by
  cases h with
  | unstarted hs hd =>
    cases op with
    | request actions closing => exact .unstarted (by simpa using hs) (by simpa using hd)
    | _ => cases hr
  | refused hs hd hm =>
    have hd : Operation.shutdown ∉ ops ++ [op] := by
      cases op <;> first | (simpa using hd) | cases hr
    exact .refused (by simp [hs]) hd hm
  | ready hp hs hd h0 hc =>
    cases op with
    | startup =>
      have hv : served (ops ++ [.startup]) = served ops := by
        rw [served_append hs hd]; exact List.append_nil _
      exact .ready hp (by simp [hs]) (by simpa using hd) h0 (hv ▸ hc)
    | shutdown => rw [refuses, not_refusesShutdown_of_ready hp] at hr; cases hr
    | request actions closing => rw [refuses, hp] at hr; cases hr
  | abandoned hs h0 hf hc ha =>
    obtain ⟨more, hm⟩ := served_prefix hs [op]
    rw [hf, List.append_assoc] at hm
    exact .abandoned (by simp [hs]) h0 hm.symm hc ha
  | done hd hw =>
    exact .done (by simp [hd]) (hw.congr (beforeShutdown_append_of_mem hd _))

/-! ## Every operation, every run -/

variable {σ : Type} {e : Engine σ} {l : Lifecycle (Traced σ)} {config : Host.Config}
  {ops : List Operation}

/-- A request that may be opened makes one cycle, or leaves its guard forgotten and open. -/
theorem request_calls (hs : l.host.Serves config) (hr : isReady l.phase = true)
    (actions : List Action) (closing : Closing) :
    ∃ xs, l.Follows (l.operate e.traced (.request actions closing)).2 xs ∧
      ((l.operate e.traced (.request actions closing)).2.phase = .requestIdle ∧
          Cycles (Utf8.encode config.evalName) [(actions, closing)] (xs.map (·.answered)) ∨
        (l.operate e.traced (.request actions closing)).2.phase = .requestActive ∧
          closing = .forgotten ∧ ∃ outcomes ys,
            Action.AllMade (Utf8.encode config.evalName) actions outcomes ys ∧
            xs.map (·.answered) = ⟨.openRequest, successStatus⟩ :: ys) := by
  obtain ⟨x, status, hx, -, hf, hok⟩ := openRequest_calls (e := e) hr
  have hp := openRequest_ready e.traced l hr
  cases ho : l.openRequest e.traced with
  | mk result l₁ =>
    rw [ho] at hf hok hp
    rcases hp with ⟨rfl, hp⟩ | ⟨rfl, hp⟩
    · obtain rfl := hok.1 rfl
      obtain ⟨ys, hg, ha⟩ := actAll_made (e := e) (hf.serves hs) actions
      have hq := (phase_actAll e.traced l₁ actions).trans hp
      simp only [operate, ho]
      cases closing with
      | dropped =>
        obtain ⟨z, hz, hh⟩ := closeRequest_calls e (l₁.actAll e.traced actions).2
        refine ⟨[x] ++ ys ++ [z], (hf.trans hg).trans hh, Or.inl ⟨rfl, ?_⟩⟩
        simpa [hx, hz] using Cycles.closed ha .nil
      | forgotten =>
        exact ⟨[x] ++ ys, hf.trans hg, Or.inr ⟨hq, rfl, _, _, ha, by simp [hx]⟩⟩
    · have hst : status ≠ successStatus := fun h => by cases hok.2 h
      simp only [operate, ho]
      refine ⟨[x], hf, Or.inl ⟨hp, ?_⟩⟩
      simpa [hx] using Cycles.refused hst .nil

/-- An operation that does not shut down goes on serving. -/
theorem serves_operate (op : Operation) (h : l.phase ≠ .globalShutdownDone → l.host.Serves config)
    (hp : (l.operate e.traced op).2.phase ≠ .globalShutdownDone) :
    (l.operate e.traced op).2.host.Serves config := by
  cases hr : refuses l.phase op with
  | true =>
    rw [operate_refused _ _ _ hr] at hp ⊢
    exact h hp
  | false =>
    cases op with
    | startup =>
      have hq : l.phase = .unstarted := by simpa [refuses] using hr
      have hs := h (by simp [hq])
      obtain ⟨xs, hf, -⟩ := startup_calls (e := e) hs hq
      exact hf.serves hs
    | shutdown =>
      simp only [operate, shutdown_eq _ _ hr, phase_moveTo] at hp
      contradiction
    | request actions closing =>
      have hq : isReady l.phase = true := by simpa [refuses] using hr
      have hs := h (fun hd => by rw [hd] at hq; cases hq)
      obtain ⟨xs, hf, -⟩ := request_calls (e := e) hs hq actions closing
      exact hf.serves hs

/-- What a run keeps: the stage of its phase, and the served configuration until it is over. -/
structure Reached (config : Host.Config) (ops : List Operation) (l : Lifecycle (Traced σ)) :
    Prop where
  stage : Stage config ops l.phase l.engine.answered
  serves : l.phase ≠ .globalShutdownDone → l.host.Serves config

theorem reached_create {s : σ} (hc : (create ⟨s, []⟩ config).1 = .ok l) : Reached config [] l := by
  obtain ⟨hp, he, hs⟩ := create_ok hc
  refine ⟨?_, fun _ => hs⟩
  rw [hp, he]
  exact .unstarted (by simp) (by simp)

theorem stage_startup (h : Reached config ops l) (hp : l.phase = .unstarted) :
    Stage config (ops ++ [.startup]) (l.startup e.traced).2.phase
      (l.startup e.traced).2.engine.answered := by
  have hst := h.stage
  obtain ⟨xs, hf, hx⟩ := startup_calls (e := e) (h.serves (by simp [hp])) hp
  rw [hf.answered]
  rw [hp] at hst
  generalize l.engine.answered = before at hst
  cases hst with
  | unstarted hn hd =>
    have hn' : Operation.startup ∈ ops ++ [.startup] := by simp
    have hd' : Operation.shutdown ∉ ops ++ [.startup] := by simpa using hd
    rcases hx with ⟨hq, ys, hx, hm⟩ | ⟨hq, h0, hx⟩
    · rw [hq, hx, List.nil_append]
      exact .refused hn' hd' hm
    · rw [hq, hx]
      change Stage config _ _ (starting ++ [])
      refine .ready rfl hn' hd' h0 ?_
      rw [served_startup hn hd]
      exact .nil
  | ready hr => cases hr

theorem stage_shutdown (h : Reached config ops l) (hp : refusesShutdown l.phase = false) :
    Stage config (ops ++ [.shutdown]) (l.shutdown e.traced).2.phase
      (l.shutdown e.traced).2.engine.answered := by
  have hw := stage_whole h.stage
  rw [hp] at hw
  rw [shutdown_answered e l hp]
  simp only [shutdown_eq _ _ hp, phase_moveTo]
  exact .done (by simp) (hw.congr (beforeShutdown_append_shutdown ops))

theorem stage_request (h : Reached config ops l) (hp : isReady l.phase = true)
    (actions : List Action) (closing : Closing) :
    Stage config (ops ++ [.request actions closing])
      (l.operate e.traced (.request actions closing)).2.phase
      (l.operate e.traced (.request actions closing)).2.engine.answered := by
  have hst := h.stage
  have hs := h.serves (fun hd => by rw [hd] at hp; cases hp)
  obtain ⟨xs, hf, hx⟩ := request_calls (e := e) hs hp actions closing
  rw [hf.answered]
  generalize l.engine.answered = before at hst
  generalize l.phase = p at hst hp
  cases hst with
  | ready _ hn hd h0 hc =>
    have hn' : Operation.startup ∈ ops ++ [.request actions closing] := by simp [hn]
    have hd' : Operation.shutdown ∉ ops ++ [.request actions closing] := by simpa using hd
    have hv := served_append hn hd [.request actions closing]
    rcases hx with ⟨hq, hx⟩ | ⟨hq, rfl, outcomes, ys, ha, hx⟩
    · rw [hq, List.append_assoc]
      refine .ready rfl hn' hd' h0 ?_
      rw [hv]
      exact hc.append hx
    · rw [hq, hx]
      exact .abandoned hn' h0 hv hc ha
  | _ => cases hp

theorem reached_operate (h : Reached config ops l) (op : Operation) :
    Reached config (ops ++ [op]) (l.operate e.traced op).2 := by
  refine ⟨?_, serves_operate op h.serves⟩
  cases hr : refuses l.phase op with
  | true =>
    rw [operate_refused _ _ _ hr]
    exact stage_refused h.stage hr
  | false =>
    cases op with
    | startup => exact stage_startup h (by simpa [refuses] using hr)
    | shutdown => exact stage_shutdown h hr
    | request actions closing => exact stage_request h (by simpa [refuses] using hr) _ _

theorem reached_operateAll (h : Reached config ops l) (more : List Operation) :
    Reached config (ops ++ more) (l.operateAll e.traced more) := by
  induction more generalizing ops l with
  | nil =>
    rw [List.append_nil]
    exact h
  | cons op more ih =>
    have := ih (reached_operate (e := e) h op)
    rwa [List.append_assoc] at this

/-- **Call order.** Whatever the runtime answers, the calls of every run that ends are a word of
the grammar. -/
theorem whole_run (e : Engine σ) (s : σ) (config : Host.Config) (l : Lifecycle (Traced σ))
    (hc : (create ⟨s, []⟩ config).1 = .ok l) (ops : List Operation) :
    Whole config ops ((l.operateAll e.traced ops).drop e.traced).engine.answered := by
  have h := reached_operateAll (e := e) (reached_create hc) ops
  rw [drop_answered]
  exact stage_whole h.stage

theorem whole_run_recorded :
    ∃ l, (create (⟨{}, []⟩ : Traced Recording.State) .default).1 = .ok l ∧
      Whole .default
        [.startup, .request [.evaluate "1+1"] .dropped, .request [] .forgotten, .shutdown]
        ((l.operateAll (Recording.engine {}).traced
          [.startup, .request [.evaluate "1+1"] .dropped, .request [] .forgotten, .shutdown]).drop
          (Recording.engine {}).traced).engine.answered :=
  ⟨_, rfl, whole_run _ _ _ _ rfl _⟩

end Lifecycle

end ScriptHost

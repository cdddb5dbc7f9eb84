import ScriptHost.Engine.Recording
import ScriptHost.Proofs.ReplCalls

/-!
# What is done in one request

Any list of actions in an open request, for an engine that answers as it likes at every call. The
calls are those of the rule (`Action.AllMade`), action by action.

**Handles (`handleAfter?`).** One script at a time: a handle is opened when none is open, and then
the script is run and the handle closed before anything else is called.

**Refused paths.** An action on a path with a NUL leaves the lifecycle as it was, so whatever comes
later goes as if it had not been there (`actAll_refused`).

**Dumps (`Action.Outcome.isDumped`).** The recording engine writes one rendering for each outcome
that was dumped (`output_actAll`).

**Result.** `request_actions`: all of it, for every request that was opened on a lifecycle that can
come about.
-/
namespace ScriptHost

/-! ## Handles -/

/-- Whether a handle is open after a call, when it is known before. None for a call that may not
be made then. -/
def handleAfter? : Bool → Call → Option Bool
  | false, .openScript _ => some true
  | true, .runScript => some true
  | true, .closeScript => some false
  | false, .runScript | false, .closeScript | true, _ => none
  | false, _ => some false

/-- Handles are opened and closed in turn, and in the end none is open. -/
def HandlesClosed (calls : List Call) : Prop :=
  calls.foldlM handleAfter? false = some false

theorem HandlesClosed.append {xs ys : List Call} (hx : HandlesClosed xs) (hy : HandlesClosed ys) :
    HandlesClosed (xs ++ ys) := by
  unfold HandlesClosed at hx hy ⊢
  rw [List.foldlM_append, hx]
  exact hy

theorem Action.Made.handlesClosed {name : Bytes} {a : Action} {outcome : Action.Outcome}
    {xs : List Answered} (h : Action.Made name a outcome xs) :
    HandlesClosed (xs.map (·.1)) := by
  cases h <;> rfl

theorem Action.AllMade.handlesClosed {name : Bytes} {actions : List Action}
    {outcomes : List Action.Outcome} {xs : List Answered}
    (h : Action.AllMade name actions outcomes xs) : HandlesClosed (xs.map (·.1)) := by
  induction h with
  | nil => rfl
  | cons ha _ ih =>
    rw [List.map_append]
    exact ha.handlesClosed.append ih

namespace Lifecycle

/-! ## Refused paths -/

section
variable {σ : Type} (e : Engine σ) (l : Lifecycle σ)

theorem actAll_append (xs ys : List Action) :
    l.actAll e (xs ++ ys) =
      ((l.actAll e xs).1 ++ ((l.actAll e xs).2.actAll e ys).1,
        ((l.actAll e xs).2.actAll e ys).2) := by
  induction xs generalizing l with
  | nil => rfl
  | cons a rest ih => simp only [List.cons_append, actAll, ih]

theorem length_actAll (actions : List Action) :
    (l.actAll e actions).1.length = actions.length := by
  induction actions generalizing l with
  | nil => rfl
  | cons a rest ih => simp only [actAll, List.length_cons, ih]

theorem act_refused {path : Bytes} (h : 0 ∈ path) :
    l.act e (.runScript path) = (.refused (.nulInPath path), l) := by
  simp only [act, runScript, if_pos h]

/-- A refused action has its outcome, and the rest goes as if it had not been there. -/
theorem actAll_refused (front back : List Action) {path : Bytes} (h : 0 ∈ path) :
    ∃ before after last, before.length = front.length ∧
      l.actAll e (front ++ back) = (before ++ after, last) ∧
      l.actAll e (front ++ .runScript path :: back) =
        (before ++ .refused (.nulInPath path) :: after, last) := by
  refine ⟨_, _, _, length_actAll e l front, actAll_append e l front back, ?_⟩
  rw [actAll_append, actAll, act_refused _ _ h]

end

end Lifecycle

/-! ## Dumps of the recording engine -/

/-- A dump of the result was asked for. -/
def Action.Outcome.isDumped : Action.Outcome → Bool
  | .evaluated result => result.dumped
  | .executed _ | .refused _ => false

namespace Recording

/-- One rendering for each outcome that was dumped. -/
def renderings (answers : Answers) (outcomes : List Action.Outcome) : String :=
  String.join (List.replicate (outcomes.countP (·.isDumped)) answers.dumpRendering)

theorem renderings_append (answers : Answers) (xs ys : List Action.Outcome) :
    renderings answers (xs ++ ys) = renderings answers xs ++ renderings answers ys := by
  simp only [renderings, List.countP_append, ← List.replicate_append_replicate, String.join_append]

end Recording

namespace Lifecycle

section
variable (answers : Recording.Answers) (l : Lifecycle Recording.State)

theorem output_act (a : Action) :
    (l.act (Recording.engine answers) a).2.engine.output =
      l.engine.output ++
        Recording.renderings answers [(l.act (Recording.engine answers) a).1] := by
  cases a with
  | evaluate line =>
    simp only [act, evaluate, call, perform, Recording.engine, Activity.run, Recording.respond]
    split
    · simp [Recording.renderings, Action.Outcome.isDumped, log, Recording.State.record]
    · split <;>
        simp [Recording.renderings, Action.Outcome.isDumped, Recording.State.record]
  | runScript path =>
    by_cases h0 : 0 ∈ path
    · simp [act_refused _ _ h0, Recording.renderings, Action.Outcome.isDumped]
    · simp [act, runScript, if_neg h0, call, perform, Recording.engine, Activity.run,
        Recording.respond, Recording.renderings, Action.Outcome.isDumped, log,
        Recording.State.record]

theorem output_actAll (actions : List Action) :
    (l.actAll (Recording.engine answers) actions).2.engine.output =
      l.engine.output ++
        Recording.renderings answers (l.actAll (Recording.engine answers) actions).1 := by
  induction actions generalizing l with
  | nil => simp [actAll, Recording.renderings]
  | cons a rest ih =>
    simp only [actAll]
    rw [ih, output_act, String.append_assoc, ← Recording.renderings_append]
    rfl

end

/-! ## The whole request -/

/-- **Actions in one request.** In a request that was opened on a lifecycle that can come about,
the calls are those of the actions, one action after the other, and the outcomes are what the
answers say; every script handle that is opened is closed before anything else is called. An
action on a path with a NUL is refused, and the calls and the outcomes of the others are those
that they have without it. The request stays open all the while, and is over once it is closed.
The recording engine writes one rendering for each outcome that was dumped. -/
theorem request_actions {σ : Type} (e : Engine σ) (config : Host.Config)
    (l l' : Lifecycle (Traced σ)) (hr : l.Reachable e config)
    (ho : l.openRequest e.traced = (.ok (), l')) (actions : List Action) :
    let r := l'.actAll e.traced actions
    (∃ xs, r.2.engine.answered = l'.engine.answered ++ xs ∧
      Action.AllMade (Utf8.encode config.evalName) actions r.1 xs ∧
        HandlesClosed (xs.map (·.1))) ∧
      (∀ front path back, actions = front ++ .runScript path :: back → 0 ∈ path →
        ∃ before after, before.length = front.length ∧
          r.1 = before ++ .refused (.nulInPath path) :: after ∧
          l'.actAll e.traced (front ++ back) = (before ++ after, r.2)) ∧
      (r.2.phase = .requestActive ∧ (r.2.closeRequest e.traced).phase = .requestIdle) ∧
      ∀ answers (k : Lifecycle Recording.State),
        let q := k.actAll (Recording.engine answers) actions
        q.2.engine.output = k.engine.output ++ Recording.renderings answers q.1 := by
  intro r
  have hready : isReady l.phase = true := isReady_of_openRequest (by rw [ho])
  have hs := hr.serves fun hd => by rw [hd] at hready; cases hready
  obtain ⟨x, status, -, -, hf, -⟩ := openRequest_calls (e := e) hready
  have hactive := phase_of_openRequest (l := l) (e := e.traced) (by rw [ho])
  rw [ho] at hf hactive
  refine ⟨?_, ?_, ⟨(phase_actAll e.traced l' actions).trans hactive, rfl⟩,
    fun answers k => output_actAll answers k actions⟩
  · obtain ⟨xs, hg, hm⟩ := actAll_made (e := e) (hf.serves hs) actions
    exact ⟨_, hg.answered, hm, hm.handlesClosed⟩
  · rintro front path back rfl h0
    obtain ⟨before, after, last, hlen, hkept, hall⟩ := actAll_refused e.traced l' front back h0
    refine ⟨before, after, hlen, congrArg Prod.fst hall, ?_⟩
    rw [hkept, show r = _ from hall]

/-- A value that is dumped, a path that is refused, and a script. -/
theorem request_actions_recorded :
    ∃ l l' : Lifecycle (Traced Recording.State), l.Reachable (Recording.engine {}) .default ∧
      l.openRequest (Recording.engine {}).traced = (.ok (), l') ∧
      let r := l'.actAll (Recording.engine {}).traced
        [.evaluate "1+1", .runScript [0x61, 0], .runScript [0x61]]
      r.1 = [.evaluated ⟨true, some "int", true⟩, .refused (.nulInPath [0x61, 0]),
        .executed true] ∧
      r.2.phase = .requestActive ∧
      ∃ xs, r.2.engine.answered = l'.engine.answered ++ xs ∧
        Action.AllMade (Utf8.encode Host.Config.default.evalName)
          [.evaluate "1+1", .runScript [0x61, 0], .runScript [0x61]] r.1 xs ∧
        HandlesClosed (xs.map (·.1)) := by
  have hc : ∃ l : Lifecycle (Traced Recording.State),
      (create (⟨{}, []⟩ : Traced Recording.State) .default).1 = .ok l ∧
        ((l.operate (Recording.engine {}).traced .startup).2.openRequest
          (Recording.engine {}).traced).1 = .ok () := ⟨_, rfl, rfl⟩
  obtain ⟨l, hl, ho⟩ := hc
  have hr := Reachable.operated (e := Recording.engine {}) .startup (.created hl)
  cases hx : (l.operate (Recording.engine {}).traced .startup).2.openRequest
      (Recording.engine {}).traced with
  | mk result l' =>
    rw [hx] at ho
    cases ho
    obtain ⟨hcalls, -, hphase, -⟩ := request_actions (Recording.engine {}) .default _ l' hr hx
      [.evaluate "1+1", .runScript [0x61, 0], .runScript [0x61]]
    exact ⟨_, l', hr, hx, rfl, hphase.1, hcalls⟩

end Lifecycle

end ScriptHost

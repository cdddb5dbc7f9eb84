import ScriptHost.Engine.Traced
import ScriptHost.Lifecycle.Operation
import ScriptHost.Proofs.HostMemory

/-!
# The calls of an open request

What a traced engine has noted after an action in an open request, call by call and answer by
answer. The engine answers as it likes at every call and may use hooks before each answer.

**The rule (`Action.Made`).** An evaluation is one `evaluate` call under the host's name for
inline code; `typeName` follows exactly when the status is success, and `dump` exactly when the
name is not that of null. A script whose path has no NUL is opened, run and closed, whether or
not it completes. A path with a NUL is refused before any call.

**Frame (`Follows`).** From one lifecycle to a later one, the host's memory was only extended
and the engine noted exactly the given exchanges.

* `call_follows`: one call is one exchange.
* `act_made`, `actAll_made`: an action, and a list of them, make the calls of the rule, and the
  outcomes are the rule's.
-/
namespace ScriptHost

theorem Activity.run_bind {α β : Type} (x : Activity α) (f : α → Activity β) (h : Host) :
    (x.bind f).run h = (f (x.run h).1).run (x.run h).2 := by
  induction x generalizing h with
  | done a => rfl
  | call hook next ih => exact ih _ _

/-! ## The rule -/

/-- The calls of one action and its outcome, for a host whose inline code is called `name`. -/
inductive Action.Made (name : Bytes) : Action → Action.Outcome → List Answered → Prop
  | failed {line : String} {status : Int} : status ≠ successStatus →
      Made name (.evaluate line) (.evaluated ⟨false, none, false⟩)
        [⟨.evaluate (Utf8.encode (asExpression line)) name, status⟩]
  | null {line : String} :
      Made name (.evaluate line) (.evaluated ⟨true, some nullTypeName, false⟩)
        [⟨.evaluate (Utf8.encode (asExpression line)) name, successStatus⟩,
          ⟨.typeName, nullTypeName⟩]
  | dumped {line typeName : String} : typeName ≠ nullTypeName →
      Made name (.evaluate line) (.evaluated ⟨true, some typeName, true⟩)
        [⟨.evaluate (Utf8.encode (asExpression line)) name, successStatus⟩,
          ⟨.typeName, typeName⟩, ⟨.dump, ()⟩]
  | ran {path : Bytes} {completed : Bool} : 0 ∉ path →
      Made name (.runScript path) (.executed completed)
        [⟨.openScript path, ()⟩, ⟨.runScript, completed⟩, ⟨.closeScript, ()⟩]
  | refused {path : Bytes} : 0 ∈ path →
      Made name (.runScript path) (.refused (.nulInPath path)) []

/-- The calls of a list of actions, one after the other. -/
inductive Action.AllMade (name : Bytes) :
    List Action → List Action.Outcome → List Answered → Prop
  | nil : AllMade name [] [] []
  | cons {a : Action} {rest : List Action} {outcome : Action.Outcome}
      {outcomes : List Action.Outcome} {xs ys : List Answered} :
      Action.Made name a outcome xs → AllMade name rest outcomes ys →
      AllMade name (a :: rest) (outcome :: outcomes) (xs ++ ys)

namespace Lifecycle

variable {σ : Type}

/-! ## Phases -/

@[simp] theorem phase_call (e : Engine σ) (l : Lifecycle σ) (c : Call) :
    (l.call e c).2.phase = l.phase := rfl

@[simp] theorem phase_log (l : Lifecycle σ) (event : Event) : (l.log event).phase = l.phase := rfl

@[simp] theorem phase_moveTo (l : Lifecycle σ) (target : Phase) :
    (l.moveTo target).phase = target := rfl

theorem phase_runScript (e : Engine σ) (l : Lifecycle σ) (path : Bytes) :
    (l.runScript e path).2.phase = l.phase := by
  unfold runScript
  split <;> rfl

theorem phase_evaluate (e : Engine σ) (l : Lifecycle σ) (line : String) :
    (l.evaluate e line).2.phase = l.phase := by
  unfold evaluate
  dsimp only
  split
  · rfl
  · split <;> rfl

theorem phase_act (e : Engine σ) (l : Lifecycle σ) (a : Action) :
    (l.act e a).2.phase = l.phase := by
  cases a with
  | evaluate line => exact phase_evaluate e l line
  | runScript path =>
    have hp := phase_runScript e l path
    cases hr : l.runScript e path with
    | mk result l' =>
      rw [hr] at hp
      simp only [act, hr]
      cases result <;> exact hp

theorem phase_actAll (e : Engine σ) (l : Lifecycle σ) (actions : List Action) :
    (l.actAll e actions).2.phase = l.phase := by
  induction actions generalizing l with
  | nil => rfl
  | cons a rest ih => exact (ih _).trans (phase_act e l a)

/-! ## The frame -/

/-- The host's memory was extended, and the engine noted the exchanges `xs`. -/
structure Follows (l l' : Lifecycle (Traced σ)) (xs : List (Exchange σ)) : Prop where
  host : l.host.Extends l'.host
  exchanges : l'.engine.exchanges = l.engine.exchanges ++ xs

theorem Follows.refl (l : Lifecycle (Traced σ)) : l.Follows l [] :=
  ⟨Host.Extends.refl _, (List.append_nil _).symm⟩

theorem Follows.trans {l l' l'' : Lifecycle (Traced σ)} {xs ys : List (Exchange σ)}
    (a : l.Follows l' xs) (b : l'.Follows l'' ys) : l.Follows l'' (xs ++ ys) :=
  ⟨a.host.trans b.host, by rw [b.exchanges, a.exchanges, List.append_assoc]⟩

theorem follows_log (l : Lifecycle (Traced σ)) (event : Event) : l.Follows (l.log event) [] :=
  ⟨Host.extends_console _ _, (List.append_nil _).symm⟩

theorem follows_moveTo (l : Lifecycle (Traced σ)) (target : Phase) :
    l.Follows (l.moveTo target) [] :=
  ⟨Host.extends_console _ _, (List.append_nil _).symm⟩

theorem Follows.serves {l l' : Lifecycle (Traced σ)} {xs : List (Exchange σ)}
    {config : Host.Config} (hf : l.Follows l' xs) (hs : l.host.Serves config) :
    l'.host.Serves config :=
  hs.extend hf.host

theorem Follows.answered {l l' : Lifecycle (Traced σ)} {xs : List (Exchange σ)}
    (hf : l.Follows l' xs) :
    l'.engine.answered = l.engine.answered ++ xs.map (·.answered) := by
  simp only [Traced.answered, hf.exchanges, List.map_append]

/-- One call is one exchange, made with the memory as it was, and its state is the engine's. -/
theorem call_follows {e : Engine σ} {l l' : Lifecycle (Traced σ)} {c : Call} {answer : c.Answer}
    (h : l.call e.traced c = (answer, l')) :
    l'.phase = l.phase ∧ ∃ x : Exchange σ, x.answered = ⟨c, answer⟩ ∧ x.host = l.host ∧
      x.after = l'.engine.state ∧ l.Follows l' [x] := by
  simp only [call, perform, Engine.traced, Activity.run_bind, Activity.run, Prod.mk.injEq] at h
  obtain ⟨rfl, rfl⟩ := h
  exact ⟨rfl, ⟨c, l.host, _, _⟩, rfl, rfl, rfl, Host.extends_run _ _, rfl⟩

/-! ## Actions -/

theorem evalName_of_serves {l : Lifecycle σ} {config : Host.Config}
    (hs : l.host.Serves config) : l.evalName = Utf8.encode config.evalName :=
  Arena.read_of_holds hs.evalName

section
variable {e : Engine σ} {l : Lifecycle (Traced σ)} {config : Host.Config}

theorem evaluate_made (hs : l.host.Serves config) (line : String) :
    ∃ xs, l.Follows (l.evaluate e.traced line).2 xs ∧
      Action.Made (Utf8.encode config.evalName) (.evaluate line)
        (.evaluated (l.evaluate e.traced line).1) (xs.map (·.answered)) := by
  rw [← evalName_of_serves hs]
  cases hc : l.call e.traced (.evaluate (Utf8.encode (asExpression line)) l.evalName) with
  | mk status l₁ =>
    obtain ⟨-, x, hx, -, -, hf⟩ := call_follows hc
    simp only [evaluate, hc]
    split
    · rename_i hn
      refine ⟨[x], by simpa using hf.trans (follows_log l₁ _), ?_⟩
      simpa [hx] using Action.Made.failed hn
    · rename_i hn
      obtain rfl := Decidable.of_not_not hn
      cases ht : l₁.call e.traced .typeName with
      | mk typeName l₂ =>
        obtain ⟨-, y, hy, -, -, hg⟩ := call_follows ht
        dsimp only
        split
        · rename_i hn
          subst hn
          exact ⟨[x] ++ [y], hf.trans hg, by simpa [hx, hy] using Action.Made.null⟩
        · rename_i hn
          cases hd : l₂.call e.traced .dump with
          | mk done l₃ =>
            obtain ⟨-, z, hz, -, -, hh⟩ := call_follows hd
            exact ⟨[x] ++ [y] ++ [z], (hf.trans hg).trans hh,
              by simpa [hx, hy, hz] using Action.Made.dumped hn⟩

theorem runScript_made (path : Bytes) (h0 : 0 ∉ path) :
    ∃ completed xs, (l.runScript e.traced path).1 = .ok completed ∧
      l.Follows (l.runScript e.traced path).2 xs ∧
      xs.map (·.answered) =
        [⟨.openScript path, ()⟩, ⟨.runScript, completed⟩, ⟨.closeScript, ()⟩] := by
  cases ho : l.call e.traced (.openScript path) with
  | mk opened l₁ =>
    obtain ⟨-, x, hx, -, -, hf⟩ := call_follows ho
    cases hr : l₁.call e.traced .runScript with
    | mk completed l₂ =>
      obtain ⟨-, y, hy, -, -, hg⟩ := call_follows hr
      cases hc : l₂.call e.traced .closeScript with
      | mk closed l₃ =>
        obtain ⟨-, z, hz, -, -, hh⟩ := call_follows hc
        simp only [runScript, if_neg h0, ho, hr, hc]
        refine ⟨completed, [x] ++ [y] ++ [z] ++ [], rfl,
          ((hf.trans hg).trans hh).trans (follows_log l₃ _), ?_⟩
        simp [hx, hy, hz]

theorem act_made (hs : l.host.Serves config) (a : Action) :
    ∃ xs, l.Follows (l.act e.traced a).2 xs ∧
      Action.Made (Utf8.encode config.evalName) a (l.act e.traced a).1
        (xs.map (·.answered)) := by
  cases a with
  | evaluate line => exact evaluate_made hs line
  | runScript path =>
    by_cases h0 : 0 ∈ path
    · simp only [act, runScript, if_pos h0]
      exact ⟨[], Follows.refl l, Action.Made.refused h0⟩
    · obtain ⟨completed, xs, ho, hf, hx⟩ := runScript_made (e := e) (l := l) path h0
      cases hr : l.runScript e.traced path with
      | mk result l' =>
        rw [hr] at ho hf
        subst ho
        simp only [act, hr]
        exact ⟨xs, hf, hx ▸ Action.Made.ran h0⟩

theorem actAll_made (hs : l.host.Serves config) (actions : List Action) :
    ∃ xs, l.Follows (l.actAll e.traced actions).2 xs ∧
      Action.AllMade (Utf8.encode config.evalName) actions (l.actAll e.traced actions).1
        (xs.map (·.answered)) := by
  induction actions generalizing l with
  | nil => exact ⟨[], Follows.refl l, Action.AllMade.nil⟩
  | cons a rest ih =>
    obtain ⟨xs, hf, hx⟩ := act_made (e := e) hs a
    obtain ⟨ys, hg, hy⟩ := ih (hf.serves hs)
    refine ⟨xs ++ ys, hf.trans hg, ?_⟩
    rw [List.map_append]
    exact Action.AllMade.cons hx hy

end

end Lifecycle

end ScriptHost

import Mathlib.Logic.Relation
import ScriptHost.Proofs.LifecycleCalls

/-!
# What the lifecycle's operations are made of

Every operation, in whatever phase it is asked for, is a sequence of steps of six kinds, and so
is what happens when the lifecycle goes out of use, up to the end of the host module itself. What
all steps preserve, every run preserves.

**Calls (`Due`).** Which calls the host makes in which phase, and under which name it has code
evaluated. The host is registered, and the module started up, in steps of their own.

**Moves (`Next`).** The phases that follow each other while the strings are alive. The last phase
is reached together with their release.

**Results.**
* `operate_steps`, `operateAll_steps`: an operation, and a run, is a sequence of steps.
* `drop_steps`: a lifecycle goes out of use by steps and the end of its host module.
-/
namespace ScriptHost

/-- Events that are no move and no release. -/
def Event.IsRemark : Event → Prop
  | .transition _ _ | .releasedStrings _ _ => False
  | _ => True

namespace Lifecycle

variable {σ : Type}

/-- The calls that the host makes in the phase of `l`, with the name of inline code. -/
def Due (l : Lifecycle σ) : Call → Prop
  | .armSignals => l.phase = .unstarted
  | .registerHost | .moduleStartup => False
  | .openRequest | .moduleShutdown => isReady l.phase = true
  | .unregisterHost => l.phase = .hostTableRegistered ∨ isReady l.phase = true
  | .evaluate _ name => l.phase = .requestActive ∧ name = l.evalName
  | .typeName | .dump | .openScript _ | .runScript | .closeScript | .closeRequest =>
    l.phase = .requestActive

inductive Next : Phase → Phase → Prop
  | arm : Next .unstarted .signalsArmed
  | start : Next .hostTableRegistered .globalStartupDone
  | open {p : Phase} : isReady p = true → Next p .requestActive
  | refuse {p : Phase} : isReady p = true → Next p .requestIdle
  | close : Next .requestActive .requestIdle

inductive Step (e : Engine σ) (l : Lifecycle σ) : Lifecycle σ → Prop
  | call {c : Call} : Due l c → Step e l (l.call e c).2
  | register : l.phase = .signalsArmed →
      Step e l ((l.call e .registerHost).2.moveTo .hostTableRegistered)
  | runSlot : l.phase = .hostTableRegistered → Step e l (l.runStartupSlot e).2
  | log {event : Event} : event.IsRemark → Step e l (l.log event)
  | move {p : Phase} : Next l.phase p → Step e l (l.moveTo p)
  | finish : refusesShutdown l.phase = false →
      Step e l ({ l with host := l.host.release }.moveTo .globalShutdownDone)

/-- Any number of steps. -/
abbrev Steps (e : Engine σ) : Lifecycle σ → Lifecycle σ → Prop :=
  Relation.ReflTransGen (Step e)

theorem Due.phase_ne {l : Lifecycle σ} {c : Call} (h : Due l c) :
    l.phase ≠ .globalShutdownDone := by
  intro hp
  cases c <;> simp [Due, isReady, hp] at h

theorem Due.ne_moduleStartup {l : Lifecycle σ} {c : Call} (h : Due l c) :
    c ≠ .moduleStartup := by
  rintro rfl
  exact h

theorem Next.phase_ne {p q : Phase} (h : Next p q) :
    p ≠ .globalShutdownDone ∧ q ≠ .globalShutdownDone := by
  cases h with
  | «open» hp | refuse hp => exact ⟨ne_done_of_ready hp, by simp⟩
  | _ => simp

/-! ## Requests -/

section
variable (e : Engine σ) {l : Lifecycle σ}

theorem evaluate_steps (h : l.phase = .requestActive) (line : String) :
    Steps e l (l.evaluate e line).2 := by
  have hc := Relation.ReflTransGen.single
    (Step.call (e := e) (c := .evaluate (Utf8.encode (asExpression line)) l.evalName) ⟨h, rfl⟩)
  unfold evaluate
  dsimp only
  split
  · exact hc.tail (.log trivial)
  · have ht := hc.tail (.call (c := .typeName) h)
    split
    · exact ht
    · exact ht.tail (.call (c := .dump) h)

theorem runScript_steps (h : l.phase = .requestActive) (path : Bytes) :
    Steps e l (l.runScript e path).2 := by
  unfold runScript
  split
  · exact .refl
  · have ho := Relation.ReflTransGen.single (Step.call (e := e) (c := .openScript path) h)
    exact ((ho.tail (.call (c := .runScript) h)).tail (.call (c := .closeScript) h)).tail
      (.log (by trivial))

theorem act_steps (h : l.phase = .requestActive) (a : Action) : Steps e l (l.act e a).2 := by
  cases a with
  | evaluate line => exact evaluate_steps e h line
  | runScript path =>
    have hs := runScript_steps e h path
    unfold act
    cases hr : l.runScript e path with
    | mk result l' =>
      rw [hr] at hs
      cases result <;> simpa only [hr] using hs

theorem actAll_steps (h : l.phase = .requestActive) (actions : List Action) :
    Steps e l (l.actAll e actions).2 := by
  induction actions generalizing l with
  | nil => exact .refl
  | cons a rest ih => exact (act_steps e h a).trans (ih ((phase_act e l a).trans h))

theorem openRequest_steps (h : isReady l.phase = true) : Steps e l (l.openRequest e).2 := by
  have hc := Relation.ReflTransGen.single (Step.call (e := e) (c := .openRequest) h)
  unfold openRequest
  rw [h]
  simp only [Bool.not_true, Bool.false_eq_true, if_false]
  split
  · exact (hc.tail (.log (by trivial))).tail (.move (.refuse h))
  · exact hc.tail (.move (.open h))

theorem request_steps (actions : List Action) (closing : Closing) :
    Steps e l (l.operate e (.request actions closing)).2 := by
  cases hr : isReady l.phase with
  | false =>
    simp only [operate, openRequest_refused e l hr]
    exact .refl
  | true =>
    have ho := openRequest_steps e hr
    have hp := openRequest_ready e l hr
    cases hx : l.openRequest e with
    | mk result l₁ =>
      rw [hx] at ho hp
      rcases hp with ⟨rfl, hp⟩ | ⟨rfl, -⟩
      · have ha := ho.trans (actAll_steps e hp actions)
        have hq := (phase_actAll e l₁ actions).trans hp
        simp only [operate, hx]
        cases closing with
        | dropped => exact (ha.tail (.call (c := .closeRequest) hq)).tail (.move (hq ▸ .close))
        | forgotten => exact ha
      · simpa only [operate, hx] using ho

/-! ## Startup and shutdown -/

theorem startup_steps (h : l.phase = .unstarted) : Steps e l (l.startup e).2 := by
  have ha := Relation.ReflTransGen.single (Step.call (e := e) (c := .armSignals) h)
  have hr : Steps e l (l.registered e) :=
    (ha.tail (.move (h ▸ .arm))).tail (.register rfl)
  have hs := hr.tail (.runSlot rfl)
  have hp := phase_runStartupSlot e (l.registered e)
  rw [startup_unstarted e l h]
  dsimp only
  split
  · exact hs.tail (.log trivial)
  · exact hs.tail (.move (hp ▸ .start))

theorem phase_undo (e : Engine σ) (l : Lifecycle σ) : (l.undo e).phase = l.phase := by
  unfold undo
  dsimp only
  split <;> split <;> rfl

theorem undo_steps (h : refusesShutdown l.phase = false) : Steps e l (l.undo e) := by
  have hm : ∃ l', Steps e l l' ∧ l'.phase = l.phase ∧
      l' = if isReady l.phase then (l.call e .moduleShutdown).2 else l := by
    split
    · rename_i hr
      exact ⟨_, .single (.call (c := .moduleShutdown) hr), rfl, rfl⟩
    · exact ⟨l, .refl, rfl, rfl⟩
  obtain ⟨l', hs, hp, hl⟩ := hm
  unfold undo
  rw [← hl]
  dsimp only
  split
  · exact hs
  · rename_i hn
    refine hs.tail (.call (c := .unregisterHost) ?_)
    rw [Due, hp]
    revert hn h
    cases l.phase <;> decide

theorem shutdown_steps (h : refusesShutdown l.phase = false) : Steps e l (l.shutdown e).2 := by
  rw [shutdown_eq e l h]
  exact (undo_steps e h).tail (.finish ((phase_undo e l).symm ▸ h))

/-! ## Runs -/

theorem operate_steps (l : Lifecycle σ) (op : Operation) : Steps e l (l.operate e op).2 := by
  cases op with
  | startup =>
    by_cases h : l.phase = .unstarted
    · exact startup_steps e h
    · simp only [operate, startup_refused e l h]
      exact .refl
  | shutdown =>
    cases h : refusesShutdown l.phase with
    | true =>
      simp only [operate, shutdown_refused e l h]
      exact .refl
    | false => exact shutdown_steps e h
  | request actions closing => exact request_steps e actions closing

theorem operateAll_steps (l : Lifecycle σ) (ops : List Operation) :
    Steps e l (l.operateAll e ops) := by
  induction ops generalizing l with
  | nil => exact .refl
  | cons op rest ih => exact (operate_steps e l op).trans (ih _)

/-- A lifecycle that goes out of use takes some steps, and then its host module ends. -/
theorem drop_steps (l : Lifecycle σ) :
    ∃ l', Steps e l l' ∧ l.drop e = { l' with host := l'.host.drop } := by
  unfold drop
  by_cases hd : l.phase = .globalShutdownDone
  · exact ⟨l, .refl, by rw [if_pos hd]⟩
  · rw [if_neg hd]
    cases hr : refusesShutdown l.phase with
    | true =>
      rw [shutdown_refused e l hr]
      exact ⟨_, .single (.log (by trivial)), rfl⟩
    | false =>
      have hs := shutdown_steps e hr
      rw [shutdown_eq e l hr] at hs ⊢
      exact ⟨_, hs, rfl⟩

end

end Lifecycle

end ScriptHost

import ScriptHost.Proofs.CallOrder
import ScriptHost.Proofs.LifecycleSteps

/-!
# Refused operations leave nothing behind

An operation that is asked for in a phase in which it cannot be done is refused, and that is all
that comes of it. So a run that asks for too much is the run without what was refused.

**A run with its results (`course`).** For each operation what it came to, and the lifecycle after
it: its phase, the engine with the calls made so far, the host's memory, and all that was written
and reported.

**Which operations are refused (`isRefused`).** Those whose result is an error about the phase. An
operation that the runtime refuses is none of them.

**Results.**
* `isRefused_operate`: the phase alone decides whether an operation is refused.
* `course_erase`, `operateAll_erase`: a run is the same without its refused operations.
* `started_operateAll`: a lifecycle that was started once is never unstarted again.
* `refused_erased`: when operations are refused, and that refusals can be left out of every run.
-/
namespace ScriptHost.Lifecycle

variable {σ : Type}

/-- The result of an operation that the phase did not allow. -/
def isRefused {α : Type} : Except Error α → Bool
  | .error (.outOfPhase _ _) => true
  | _ => false

/-- An operation of a run with its result and the lifecycle after it. -/
structure Performed (σ : Type) where
  op : Operation
  result : Except Error (List Action.Outcome)
  after : Lifecycle σ

/-- A run, operation by operation. -/
def course (e : Engine σ) (l : Lifecycle σ) : List Operation → List (Performed σ)
  | [] => []
  | op :: rest =>
    let (result, after) := l.operate e op
    ⟨op, result, after⟩ :: course e after rest

/-- The part of a run that was not refused. -/
def accepted (run : List (Performed σ)) : List (Performed σ) :=
  run.filter (!isRefused ·.result)

/-- The operations of a run that were not refused. -/
def withoutRefused (e : Engine σ) (l : Lifecycle σ) (ops : List Operation) : List Operation :=
  (accepted (l.course e ops)).map (·.op)

/-! ## When an operation is refused -/

section
variable (e : Engine σ) (l : Lifecycle σ)

theorem isRefused_startup : isRefused (l.startup e).1 = true ↔ l.phase ≠ .unstarted := by
  constructor
  · intro hr hp
    rcases startup_result e l hp with ⟨h, -⟩ | ⟨h, -⟩ <;> simp [h, isRefused] at hr
  · intro hp
    rw [startup_refused e l hp]
    rfl

theorem isRefused_openRequest :
    isRefused (l.openRequest e).1 = true ↔ isReady l.phase = false := by
  constructor
  · intro hr
    cases hp : isReady l.phase with
    | false => rfl
    | true =>
      rcases openRequest_ready e l hp with ⟨h, -⟩ | ⟨h, -⟩ <;> simp [h, isRefused] at hr
  · intro hp
    rw [openRequest_refused e l hp]
    rfl

theorem isRefused_shutdown :
    isRefused (l.shutdown e).1 = true ↔ refusesShutdown l.phase = true := by
  constructor
  · intro hr
    cases hp : refusesShutdown l.phase with
    | true => rfl
    | false => simp [shutdown_eq e l hp, isRefused] at hr
  · intro hp
    rw [shutdown_refused e l hp]
    rfl

theorem isRefused_map {α β : Type} (f : α → β) (result : Except Error α) :
    isRefused (result.map f) = isRefused result := by
  rcases result with (_ | _) | _ <;> rfl

/-- A request is refused before its first action. -/
theorem isRefused_request (actions : List Action) (closing : Closing) :
    isRefused (l.operate e (.request actions closing)).1 = isRefused (l.openRequest e).1 := by
  unfold operate
  dsimp only
  cases l.openRequest e with
  | mk result l' =>
    cases result with
    | error cause => cases cause <;> rfl
    | ok _ => cases closing <;> rfl

/-- Only the phase decides. -/
theorem isRefused_operate (op : Operation) :
    isRefused (l.operate e op).1 = refuses l.phase op := by
  rw [Bool.eq_iff_iff]
  cases op with
  | startup =>
    rw [operate, isRefused_map, isRefused_startup]
    exact (decide_eq_true_iff).symm
  | shutdown => rw [operate, isRefused_map, isRefused_shutdown]; rfl
  | request actions closing =>
    rw [isRefused_request, isRefused_openRequest]
    simp [refuses]

end

/-! ## Runs without their refused operations -/

/-- A refused operation leaves the lifecycle to the rest of the run as it was. -/
theorem accepted_course_cons (e : Engine σ) (l : Lifecycle σ) (op : Operation)
    (rest : List Operation) :
    accepted (l.course e (op :: rest)) =
      if refuses l.phase op then accepted (l.course e rest)
      else ⟨op, (l.operate e op).1, (l.operate e op).2⟩ ::
        accepted ((l.operate e op).2.course e rest) := by
  have hr := isRefused_operate e l op
  cases h : refuses l.phase op with
  | true =>
    rw [h] at hr
    simp [course, accepted, hr, operate_refused e l op h]
  | false =>
    rw [h] at hr
    simp [course, accepted, hr]

/-- A run of the operations that were not refused has their results, and leaves what they left. -/
theorem course_erase (e : Engine σ) (l : Lifecycle σ) (ops : List Operation) :
    l.course e (l.withoutRefused e ops) = accepted (l.course e ops) := by
  induction ops generalizing l with
  | nil => rfl
  | cons op rest ih =>
    rw [withoutRefused, accepted_course_cons]
    cases refuses l.phase op with
    | true => exact ih l
    | false => exact congrArg (List.cons _) (ih (l.operate e op).2)

theorem operateAll_erase (e : Engine σ) (l : Lifecycle σ) (ops : List Operation) :
    l.operateAll e (l.withoutRefused e ops) = l.operateAll e ops := by
  induction ops generalizing l with
  | nil => rfl
  | cons op rest ih =>
    rw [withoutRefused, accepted_course_cons]
    cases h : refuses l.phase op with
    | true =>
      have hl : l.operateAll e (op :: rest) = l.operateAll e rest := by
        simp only [operateAll, List.foldl_cons, operate_refused e l op h]
      rw [hl]
      exact ih l
    | false => exact ih (l.operate e op).2

/-! ## A startup is made once -/

/-- No move and no call goes back to the start. -/
theorem step_started {e : Engine σ} {l l' : Lifecycle σ} (h : l.phase ≠ .unstarted)
    (hs : Step e l l') : l'.phase ≠ .unstarted := by
  cases hs with
  | call _ => exact h
  | register _ => simp
  | runSlot _ => rwa [phase_runStartupSlot]
  | log _ => exact h
  | @move p hn =>
    rintro rfl
    generalize l.phase = q at hn
    cases hn
  | finish _ => simp

theorem started_operateAll {e : Engine σ} {l : Lifecycle σ} (h : l.phase ≠ .unstarted)
    (ops : List Operation) : (l.operateAll e ops).phase ≠ .unstarted := by
  have hs := operateAll_steps e l ops
  generalize l.operateAll e ops = l' at hs
  induction hs with
  | refl => exact h
  | tail _ hs ih => exact step_started ih hs

/-- **Refusals.** In every phase, a startup is refused unless the lifecycle is unstarted, a request
unless the startup is done or the last request over, and a shutdown while a request is open or
when it was made before. Without what it refused, every run has the same results, leaves the same
lifecycle after each operation, and ends the same. A startup that failed is not made again,
whatever is done in between. -/
theorem refused_erased (e : Engine σ) (l : Lifecycle σ) :
    ((l.startup e).1 = .error (.outOfPhase l.phase .signalsArmed) ↔ l.phase ≠ .unstarted) ∧
      ((∃ source, (l.openRequest e).1 = .error (.outOfPhase source .requestActive)) ↔
        ¬ (l.phase = .globalStartupDone ∨ l.phase = .requestIdle)) ∧
      ((∃ source, (l.shutdown e).1 = .error (.outOfPhase source .globalShutdownDone)) ↔
        l.phase = .requestActive ∨ l.phase = .globalShutdownDone) ∧
      (∀ ops, l.course e (l.withoutRefused e ops) = accepted (l.course e ops) ∧
        l.operateAll e (l.withoutRefused e ops) = l.operateAll e ops) ∧
      ((l.startup e).1 = .error .moduleFailed → ∀ ops,
        let later := (l.startup e).2.operateAll e ops
        later.startup e = (.error (.outOfPhase later.phase .signalsArmed), later)) := by
  refine ⟨⟨fun h => ?_, fun h => ?_⟩, ⟨?_, fun h => ?_⟩, ⟨?_, fun h => ?_⟩,
    fun ops => ⟨course_erase e l ops, operateAll_erase e l ops⟩, fun h ops => ?_⟩
  · exact (isRefused_startup e l).1 (by rw [h]; rfl)
  · rw [startup_refused e l h]
  · rintro ⟨source, h⟩
    have hr := (isRefused_openRequest e l).1 (by rw [h]; rfl)
    simpa [isReady] using hr
  · exact ⟨_, congrArg Prod.fst (openRequest_refused e l (by simpa [isReady] using h))⟩
  · rintro ⟨source, h⟩
    have hr := (isRefused_shutdown e l).1 (by rw [h]; rfl)
    simpa [refusesShutdown, or_comm] using hr
  · exact ⟨_, congrArg Prod.fst (shutdown_refused e l (by
      simpa [refusesShutdown, or_comm] using h))⟩
  · have hp : (l.startup e).2.phase ≠ .unstarted := by
      by_cases hu : l.phase = .unstarted
      · rcases startup_result e l hu with ⟨-, hq⟩ | ⟨-, hq⟩ <;> simp [hq]
      · rw [startup_refused e l hu]
        exact hu
    exact startup_refused e _ (started_operateAll hp ops)

theorem refused_erased_failed :
    ∃ l, (create (⟨{}, []⟩ : Traced Recording.State) .default).1 = .ok l ∧
      let e := (Recording.engine { moduleStartup := failureStatus }).traced
      (l.startup e).1 = .error .moduleFailed ∧
        let later := (l.startup e).2.operateAll e [.request [] .dropped, .shutdown]
        later.startup e = (.error (.outOfPhase later.phase .signalsArmed), later) ∧
          l.operateAll e (l.withoutRefused e [.startup, .startup, .request [] .forgotten]) =
            l.operateAll e [.startup, .startup, .request [] .forgotten] := by
  have hc : ∃ l, (create (⟨{}, []⟩ : Traced Recording.State) .default).1 = .ok l ∧
      (l.startup (Recording.engine { moduleStartup := failureStatus }).traced).1 =
        .error .moduleFailed := ⟨_, rfl, rfl⟩
  obtain ⟨l, hl, hf⟩ := hc
  obtain ⟨-, -, -, herase, hlater⟩ :=
    refused_erased (Recording.engine { moduleStartup := failureStatus }).traced l
  exact ⟨l, hl, hf, hlater hf _, (herase _).2⟩

end ScriptHost.Lifecycle

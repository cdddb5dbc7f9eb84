import ScriptHost.Proofs.RequestCalls

/-!
# The calls of the lifecycle's operations

For each operation of a lifecycle with a traced engine: when it is refused it changes nothing,
and otherwise these are the calls it makes, the phase it ends in, and what of the host it keeps.

* `startup_calls`: two calls without an answer, then one call of module startup, unless the ini
  entries hold a NUL. Only a success of that call ends in `globalStartupDone`.
* `openRequest_calls`, `closeRequest_calls`: one call each; only an opened request is active.
* `shutdown_answered`, `drop_answered`: the calls that undo what the phase says was done.
-/
namespace ScriptHost.Lifecycle

variable {σ : Type}

/-! ## Creation -/

theorem create_ok {engine : σ} {config : Host.Config} {l : Lifecycle σ}
    (h : (create engine config).1 = .ok l) :
    l.phase = .unstarted ∧ l.engine = engine ∧ l.host.Serves config := by
  unfold create at h
  split at h
  · rename_i hh
    cases h
    exact ⟨rfl, rfl, Host.serves_create (by rw [hh])⟩
  · cases h

theorem create_refused {engine : σ} {config : Host.Config} {cause : Error}
    (h : (create engine config).1 = .error cause) : 0 ∈ Utf8.encode config.evalName := by
  unfold create at h
  split at h
  · cases h
  · rename_i hh
    exact Host.create_refused (by rw [hh])

/-! ## Startup -/

theorem startup_refused (e : Engine σ) (l : Lifecycle σ) (h : l.phase ≠ .unstarted) :
    l.startup e = (.error (.outOfPhase l.phase .signalsArmed), l) := by
  unfold startup
  rw [if_pos h]

/-- The lifecycle once the host table is registered. -/
def registered (e : Engine σ) (l : Lifecycle σ) : Lifecycle σ :=
  ((((l.call e .armSignals).2.moveTo .signalsArmed).call e .registerHost).2.moveTo
    .hostTableRegistered)

theorem startup_unstarted (e : Engine σ) (l : Lifecycle σ) (h : l.phase = .unstarted) :
    l.startup e =
      let slot := (l.registered e).runStartupSlot e
      if slot.1 ≠ successStatus then
        (.error .moduleFailed, slot.2.log (.moduleStartupFailed slot.1))
      else (.ok (), slot.2.moveTo .globalStartupDone) := by
  unfold startup
  rw [if_neg (not_not_intro h)]
  rfl

theorem phase_runStartupSlot (e : Engine σ) (l : Lifecycle σ) :
    (l.runStartupSlot e).2.phase = l.phase := by
  unfold runStartupSlot
  split <;> rfl

/-- A startup that is not refused fails for the module, or is done. -/
theorem startup_result (e : Engine σ) (l : Lifecycle σ) (h : l.phase = .unstarted) :
    (l.startup e).1 = .error .moduleFailed ∧
        (l.startup e).2.phase = .hostTableRegistered ∨
      (l.startup e).1 = .ok () ∧ (l.startup e).2.phase = .globalStartupDone := by
  rw [startup_unstarted e l h]
  dsimp only
  split
  · exact Or.inl ⟨rfl, phase_runStartupSlot e _⟩
  · exact Or.inr ⟨rfl, rfl⟩

/-- The calls before module startup. -/
def arming : List Answered :=
  [⟨.armSignals, ()⟩, ⟨.registerHost, ()⟩]

/-- What a failed startup called after `arming`: nothing when the ini entries cannot be interned,
else a module startup that did not succeed. -/
inductive ModuleRefused (iniEntries : String) : List Answered → Prop
  | nul : 0 ∈ Utf8.encode iniEntries → ModuleRefused iniEntries []
  | status {status : Int} : 0 ∉ Utf8.encode iniEntries → status ≠ successStatus →
      ModuleRefused iniEntries [⟨.moduleStartup, status⟩]

section
variable {e : Engine σ} {l : Lifecycle (Traced σ)} {config : Host.Config}

/-- The `startup` slot: module startup is called unless the ini entries hold a NUL. -/
theorem runStartupSlot_calls (hs : l.host.Serves config) :
    (l.runStartupSlot e.traced).2.phase = l.phase ∧
      ∃ xs, l.Follows (l.runStartupSlot e.traced).2 xs ∧
        ((l.runStartupSlot e.traced).1 ≠ successStatus ∧
            ModuleRefused config.iniEntries (xs.map (·.answered)) ∨
          (l.runStartupSlot e.traced).1 = successStatus ∧ 0 ∉ Utf8.encode config.iniEntries ∧
            xs.map (·.answered) = [⟨.moduleStartup, successStatus⟩]) := by
  obtain ⟨he, hi⟩ := Host.exposeIni_cases l.host
  rw [hs.iniText, hs.isReleased] at hi
  unfold runStartupSlot
  cases hx : l.host.exposeIni with
  | mk ini host =>
    rw [hx] at he hi
    have hf : l.Follows { l with host } [] := ⟨he, (List.append_nil _).symm⟩
    rcases hi with ⟨⟨ini', rfl⟩, h0⟩ | ⟨rfl, hn⟩
    · cases hc : call e.traced { l with host } .moduleStartup with
      | mk status l' =>
        obtain ⟨hp, x, hxa, -, -, hg⟩ := call_follows hc
        refine ⟨by simpa [hc] using hp, [x], by simpa [hc] using hf.trans hg, ?_⟩
        by_cases hst : status = successStatus
        · subst hst
          exact Or.inr ⟨by simp [hc], h0, by simp [hxa]⟩
        · exact Or.inl ⟨by simpa [hc] using hst, by simpa [hxa] using ModuleRefused.status h0 hst⟩
    · refine ⟨rfl, [], hf, Or.inl ⟨?_, ModuleRefused.nul ?_⟩⟩
      · change failureStatus ≠ successStatus
        decide
      · simpa using hn

theorem registered_calls (e : Engine σ) (l : Lifecycle (Traced σ)) :
    ∃ xs, l.Follows (l.registered e.traced) xs ∧ xs.map (·.answered) = arming := by
  unfold registered
  cases ha : l.call e.traced .armSignals with
  | mk armed l₁ =>
    obtain ⟨-, x, hx, -, -, hf⟩ := call_follows ha
    cases hb : (l₁.moveTo .signalsArmed).call e.traced .registerHost with
    | mk registered l₂ =>
      obtain ⟨-, y, hy, -, -, hg⟩ := call_follows hb
      have hf := hf.trans ((follows_moveTo l₁ .signalsArmed).trans hg)
      refine ⟨[x] ++ ([] ++ [y]) ++ [], ?_, by simp [hx, hy, arming]⟩
      simpa only [hb] using hf.trans (follows_moveTo l₂ .hostTableRegistered)

/-- A startup in phase `unstarted` ends in `globalStartupDone` or, when the module was refused,
in `hostTableRegistered`. -/
theorem startup_calls (hs : l.host.Serves config) (hp : l.phase = .unstarted) :
    ∃ xs, l.Follows (l.startup e.traced).2 xs ∧
      ((l.startup e.traced).2.phase = .hostTableRegistered ∧
          (∃ ys, xs.map (·.answered) = arming ++ ys ∧ ModuleRefused config.iniEntries ys) ∨
        (l.startup e.traced).2.phase = .globalStartupDone ∧ 0 ∉ Utf8.encode config.iniEntries ∧
          xs.map (·.answered) = arming ++ [⟨.moduleStartup, successStatus⟩]) := by
  obtain ⟨xs, hf, hx⟩ := registered_calls e l
  obtain ⟨hq, ys, hg, hy⟩ := runStartupSlot_calls (e := e) (hf.serves hs)
  rw [startup_unstarted _ _ hp]
  rcases hy with ⟨hst, hy⟩ | ⟨hst, h0, hy⟩
  · rw [if_pos hst]
    refine ⟨_, hf.trans (hg.trans (follows_log _ _)), Or.inl ⟨hq, _, ?_, hy⟩⟩
    rw [List.append_nil, List.map_append, hx]
  · rw [if_neg (not_not_intro hst)]
    refine ⟨_, hf.trans (hg.trans (follows_moveTo _ _)), Or.inr ⟨rfl, h0, ?_⟩⟩
    rw [List.append_nil, List.map_append, hx, hy]

/-! ## Requests -/

theorem openRequest_refused (e : Engine σ) (l : Lifecycle σ) (h : isReady l.phase = false) :
    l.openRequest e = (.error (.outOfPhase l.phase .requestActive), l) := by
  unfold openRequest
  rw [h]
  rfl

/-- A request that may be opened is opened, or refused by the runtime and over. -/
theorem openRequest_ready (e : Engine σ) (l : Lifecycle σ) (h : isReady l.phase = true) :
    (l.openRequest e).1 = .ok () ∧ (l.openRequest e).2.phase = .requestActive ∨
      (l.openRequest e).1 = .error .requestRefused ∧
        (l.openRequest e).2.phase = .requestIdle := by
  unfold openRequest
  rw [h]
  dsimp only
  split
  · contradiction
  · split
    · exact Or.inr ⟨rfl, rfl⟩
    · exact Or.inl ⟨rfl, rfl⟩

theorem isReady_of_openRequest {l : Lifecycle σ} {e : Engine σ}
    (h : (l.openRequest e).1 = .ok ()) : isReady l.phase = true := by
  cases hr : isReady l.phase with
  | false => simp [openRequest_refused e l hr] at h
  | true => rfl

theorem phase_of_openRequest {l : Lifecycle σ} {e : Engine σ}
    (h : (l.openRequest e).1 = .ok ()) : (l.openRequest e).2.phase = .requestActive := by
  rcases openRequest_ready e l (isReady_of_openRequest h) with ⟨-, hp⟩ | ⟨hn, -⟩
  · exact hp
  · simp [hn] at h

theorem openRequest_calls (h : isReady l.phase = true) :
    ∃ x status, x.answered = ⟨.openRequest, status⟩ ∧
      x.after = (l.openRequest e.traced).2.engine.state ∧
      l.Follows (l.openRequest e.traced).2 [x] ∧
      ((l.openRequest e.traced).1 = .ok () ↔ status = successStatus) := by
  unfold openRequest
  rw [h]
  cases hc : l.call e.traced .openRequest with
  | mk status l' =>
    obtain ⟨-, x, hx, -, ha, hf⟩ := call_follows hc
    by_cases hst : status = successStatus
    · subst hst
      exact ⟨x, successStatus, hx, ha, by simpa using hf.trans (follows_moveTo l' _), by simp⟩
    · refine ⟨x, status, hx, ?_, ?_, ?_⟩
      · simpa [hst, log, moveTo] using ha
      · simpa [hst] using hf.trans ((follows_log l' _).trans (follows_moveTo _ _))
      · simp [hst]

theorem closeRequest_calls (e : Engine σ) (l : Lifecycle (Traced σ)) :
    ∃ x, x.answered = ⟨.closeRequest, ()⟩ ∧ l.Follows (l.closeRequest e.traced) [x] := by
  unfold closeRequest
  cases hc : l.call e.traced .closeRequest with
  | mk closed l' =>
    obtain ⟨-, x, hx, -, -, hf⟩ := call_follows hc
    exact ⟨x, hx, by simpa using hf.trans (follows_moveTo l' _)⟩

end

@[simp] theorem phase_closeRequest (e : Engine σ) (l : Lifecycle σ) :
    (l.closeRequest e).phase = .requestIdle := rfl

/-! ## Shutdown -/

/-- A shutdown is refused when it was made before, and while a request is open. -/
def refusesShutdown (p : Phase) : Bool :=
  p = .globalShutdownDone || p = .requestActive

theorem not_refusesShutdown_of_ready {p : Phase} (h : isReady p = true) :
    refusesShutdown p = false := by
  cases p <;> first | rfl | cases h

theorem ne_done_of_not_refusesShutdown {p : Phase} (h : refusesShutdown p = false) :
    p ≠ .globalShutdownDone := by
  intro hp
  rw [hp] at h
  cases h

theorem ne_done_of_ready {p : Phase} (h : isReady p = true) : p ≠ .globalShutdownDone :=
  ne_done_of_not_refusesShutdown (not_refusesShutdown_of_ready h)

/-- The calls that undo what a lifecycle in phase `p` has done. -/
def undoing (p : Phase) : List Answered :=
  (if isReady p then [⟨.moduleShutdown, ()⟩] else []) ++
    if p = .unstarted || p = .signalsArmed then [] else [⟨.unregisterHost, ()⟩]

theorem shutdown_refused (e : Engine σ) (l : Lifecycle σ) (h : refusesShutdown l.phase = true) :
    l.shutdown e = (.error (.outOfPhase l.phase .globalShutdownDone), l) :=
  if_pos h

/-- The lifecycle when everything is undone but the release of the strings. -/
def undo (e : Engine σ) (l : Lifecycle σ) : Lifecycle σ :=
  let l' := if isReady l.phase then (l.call e .moduleShutdown).2 else l
  if l.phase = .unstarted || l.phase = .signalsArmed then l' else (l'.call e .unregisterHost).2

theorem shutdown_eq (e : Engine σ) (l : Lifecycle σ) (h : refusesShutdown l.phase = false) :
    l.shutdown e =
      (.ok (), { l.undo e with host := (l.undo e).host.release }.moveTo .globalShutdownDone) := by
  have h : ¬ refusesShutdown l.phase = true := by simp [h]
  exact if_neg h

theorem undo_calls (e : Engine σ) (l : Lifecycle (Traced σ)) :
    ∃ xs, l.Follows (l.undo e.traced) xs ∧ xs.map (·.answered) = undoing l.phase := by
  have hm : ∃ xs,
      l.Follows (if isReady l.phase then (l.call e.traced .moduleShutdown).2 else l) xs ∧
      xs.map (·.answered) = if isReady l.phase then [⟨.moduleShutdown, ()⟩] else [] := by
    split
    · obtain ⟨-, x, hx, -, -, hf⟩ := call_follows (e := e) (l := l) (c := .moduleShutdown) rfl
      exact ⟨[x], hf, by simp [hx]⟩
    · exact ⟨[], Follows.refl l, rfl⟩
  obtain ⟨xs, hf, hx⟩ := hm
  unfold undo undoing
  dsimp only
  split
  · exact ⟨xs, hf, by rw [hx, List.append_nil]⟩
  · obtain ⟨-, y, hy, -, -, hg⟩ := call_follows (e := e) (c := .unregisterHost) rfl
    exact ⟨xs ++ [y], hf.trans hg, by simp [hx, hy]⟩

theorem shutdown_answered (e : Engine σ) (l : Lifecycle (Traced σ))
    (h : refusesShutdown l.phase = false) :
    (l.shutdown e.traced).2.engine.answered = l.engine.answered ++ undoing l.phase := by
  obtain ⟨xs, hf, hx⟩ := undo_calls e l
  rw [shutdown_eq _ _ h, ← hx]
  exact hf.answered

/-- A lifecycle that goes out of use is shut down, unless it was before or a request is open. -/
theorem drop_answered (e : Engine σ) (l : Lifecycle (Traced σ)) :
    (l.drop e.traced).engine.answered =
      l.engine.answered ++ if refusesShutdown l.phase then [] else undoing l.phase := by
  unfold drop
  by_cases hd : l.phase = .globalShutdownDone
  · simp [hd, refusesShutdown]
  · cases hr : refusesShutdown l.phase with
    | true =>
      simp only [hd, if_false, shutdown_refused _ _ hr, if_true, List.append_nil]
      rfl
    | false =>
      have := shutdown_answered e l hr
      rw [shutdown_eq _ _ hr] at this
      simpa only [hd, if_false, shutdown_eq _ _ hr, Bool.false_eq_true] using this

end ScriptHost.Lifecycle

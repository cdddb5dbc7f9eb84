import ScriptHost.Proofs.CallOrder
import ScriptHost.Proofs.StringStock

/-!
# The release of the interned strings

The strings of a host are given back all at once: by the shutdown, or when the lifecycle goes out
of use without one. The runtime may still have their addresses then, so it matters when that is;
and whichever way a run ends, it has to be done, and not twice.

**When (`OutlastHost`).** A host that was registered is to be unregistered while its strings are
there. As they are there at every call, the order of the calls decides (`Unregisters`).

**How many.** Three strings, and the ini entries as often as they were interned. The grammar of a
run tells how often the host itself had that done: once, for its startup. An engine that keeps the
contract of the `startup` slot adds nothing to that (`Engine.LeavesSlot`).

**The invariant (`Settled`).** When a lifecycle was shut down, its host was unregistered or never
registered.

**Results.**
* `Whole.count_moduleStartup`: module startup is called at most once in a run.
* `settled_operate`, `settled_operateAll`: what an operation, and a run, preserves.
* `outlast_host_iff`: the strings outlast the registered host unless the lifecycle goes out of use
  while a request is open, which takes a guard that was forgotten; `released_under_host` is such a
  run.
* `releases_ended`: a run reports one release, of everything that was interned.
* `released_once`: it is of four strings, or of three without a startup that interned the ini
  entries.
-/
namespace ScriptHost

theorem Host.isReleased_drop (h : Host) : h.drop.arena.isReleased = true := by
  unfold Host.drop
  cases hr : h.arena.isReleased
  · rfl
  · simpa using hr

theorem Traced.map_fst_answered {σ : Type} (t : Traced σ) :
    t.answered.map (·.1) = t.exchanges.map (·.call) := by
  simp only [Traced.answered, List.map_map]
  rfl

namespace Lifecycle

variable {σ : Type}

/-! ## The calls of a run -/

section
variable {e : Engine σ} {s : σ} {config : Host.Config} {l : Lifecycle (Traced σ)}

/-- The calls that are made while a request is opened, is open, or is closed. -/
def IsOfRequest : Call → Prop
  | .openRequest | .closeRequest | .openScript _ | .runScript | .closeScript | .evaluate _ _
  | .typeName | .dump => True
  | .armSignals | .registerHost | .unregisterHost | .moduleStartup | .moduleShutdown => False

theorem isOfRequest_made {name : Bytes} {a : Action} {outcome : Action.Outcome}
    {xs : List Answered} (h : Action.Made name a outcome xs) : ∀ x ∈ xs, IsOfRequest x.1 := by
  cases h <;> simp [IsOfRequest]

theorem isOfRequest_allMade {name : Bytes} {actions : List Action}
    {outcomes : List Action.Outcome} {xs : List Answered}
    (h : Action.AllMade name actions outcomes xs) : ∀ x ∈ xs, IsOfRequest x.1 := by
  induction h with
  | nil => simp
  | cons ha _ ih =>
    exact fun x hx => (List.mem_append.1 hx).elim (isOfRequest_made ha x) (ih x)

theorem isOfRequest_cycles {name : Bytes} {requests : List (List Action × Closing)}
    {xs : List Answered} (h : Cycles name requests xs) : ∀ x ∈ xs, IsOfRequest x.1 := by
  induction h with
  | nil => simp
  | refused _ _ ih =>
    intro x hx
    rcases List.mem_cons.1 hx with rfl | hx
    · trivial
    · exact ih x hx
  | closed ha _ ih =>
    intro x hx
    rcases List.mem_append.1 hx with hx | hx
    · rcases List.mem_cons.1 hx with rfl | hx
      · trivial
      · exact isOfRequest_allMade ha x hx
    · rcases List.mem_cons.1 hx with rfl | hx
      · trivial
      · exact ih x hx

/-- A call that is not of a request is not among those of requests. -/
theorem count_of_isOfRequest {xs : List Answered} (h : ∀ x ∈ xs, IsOfRequest x.1) {c : Call}
    (hc : ¬ IsOfRequest c) : (xs.map (·.1)).count c = 0 := by
  rw [List.count_eq_zero, List.mem_map]
  rintro ⟨x, hx, rfl⟩
  exact hc (h x hx)

/-- The host calls module startup once, in the first startup before a shutdown, unless the ini
entries hold a NUL. -/
theorem Whole.count_moduleStartup {ops : List Operation} {xs : List Answered}
    (h : Whole config ops xs) :
    (xs.map (·.1)).count .moduleStartup =
      if .startup ∈ beforeShutdown ops ∧ 0 ∉ Utf8.encode config.iniEntries then 1 else 0 := by
  have hn : ¬ IsOfRequest .moduleStartup := id
  cases h with
  | unused hs => simp [hs]
  | failed hs hm =>
    cases hm with
    | nul h0 => simp [arming, h0]
    | status h0 _ => simp [arming, hs, h0]
  | complete hs h0 hc =>
    have hcycles := count_of_isOfRequest (isOfRequest_cycles hc) hn
    simp [starting, arming, hs, h0, hcycles]
  | abandoned h0 hf hc ha =>
    have hs : .startup ∈ beforeShutdown ops := by
      by_contra hs
      rw [served, startup_not_mem_iff.1 hs] at hf
      simp at hf
    have hcycles := count_of_isOfRequest (isOfRequest_cycles hc) hn
    have hactions := count_of_isOfRequest (isOfRequest_allMade ha) hn
    simp [starting, arming, hs, h0, hcycles, hactions]

/-- How many times the ini entries were interned by the end of a run. -/
theorem internings_of_whole {ops : List Operation} {t : Traced σ}
    (h : Whole config ops t.answered) :
    internings e s t.exchanges =
      (if .startup ∈ beforeShutdown ops ∧ 0 ∉ Utf8.encode config.iniEntries then 1 else 0) +
        slotRuns e s t.exchanges := by
  rw [internings, ← t.map_fst_answered, h.count_moduleStartup]

/-! ## The strings of a run that ended -/

/-- What was registered is unregistered. -/
def Unregisters (xs : List Answered) : Prop :=
  .registerHost ∈ xs.map (·.1) → .unregisterHost ∈ xs.map (·.1)

/-- The strings outlast the registered host: if it was registered, then it was unregistered while
they were there. -/
def OutlastHost (xs : List (Exchange σ)) : Prop :=
  .registerHost ∈ xs.map (·.call) →
    ∃ x ∈ xs, x.call = .unregisterHost ∧ x.host.arena.isReleased = false

theorem AllLive.isReleased {xs : List (Exchange σ)} (h : AllLive e s config xs) :
    ∀ x ∈ xs, x.host.arena.isReleased = false := by
  intro x hx
  obtain ⟨front, back, hx⟩ := List.append_of_mem hx
  exact (h.live hx).shows.serves.isReleased

/-- The strings are there at every call, so the calls alone decide. -/
theorem AllLive.outlastHost_iff {t : Traced σ} (h : AllLive e s config t.exchanges) :
    OutlastHost t.exchanges ↔ Unregisters t.answered := by
  rw [Unregisters, t.map_fst_answered]
  refine imp_congr_right fun _ => ⟨?_, fun hu => ?_⟩
  · rintro ⟨x, hx, hc, -⟩
    exact hc ▸ List.mem_map_of_mem hx
  · obtain ⟨x, hx, hc⟩ := List.mem_map.1 hu
    exact ⟨x, hx, hc, h.isReleased x hx⟩

/-- A shutdown that is not refused unregisters what was registered. -/
theorem Stage.unregisters_undoing {ops : List Operation} {p : Phase} {xs : List Answered}
    (h : Stage config ops p xs) (hp : refusesShutdown p = false) :
    Unregisters (xs ++ undoing p) := by
  cases h with
  | unstarted => simp [Unregisters, undoing, isReady]
  | refused => simp [Unregisters, undoing]
  | ready hr => simp [Unregisters, undoing_ready hr]
  | abandoned | done => cases hp

/-- A request that is still open was forgotten, and the host is registered. -/
theorem Stage.of_requestActive {ops : List Operation} {xs : List Answered}
    (h : Stage config ops .requestActive xs) :
    ¬ Unregisters xs ∧ ∃ actions, (actions, .forgotten) ∈ served ops := by
  cases h with
  | ready hr => cases hr
  | abandoned _ _ hf hc ha =>
    have hn : ¬ IsOfRequest .unregisterHost := id
    have hcycles := count_of_isOfRequest (isOfRequest_cycles hc) hn
    have hactions := count_of_isOfRequest (isOfRequest_allMade ha) hn
    rw [List.count_eq_zero] at hcycles hactions
    refine ⟨?_, _, hf ▸ List.mem_append_right _ List.mem_cons_self⟩
    simp only [Unregisters, starting, arming, List.map_append, List.map_cons, List.mem_append,
      List.mem_cons, hcycles, hactions]
    simp

theorem mem_of_mem_served {ops : List Operation} {actions : List Action} {closing : Closing}
    (h : (actions, closing) ∈ served ops) : .request actions closing ∈ ops := by
  obtain ⟨op, hop, hr⟩ := List.mem_filterMap.1 h
  have hm := (List.takeWhile_sublist _).mem ((List.dropWhile_sublist _).mem hop)
  cases op with
  | request => cases hr; exact hm
  | _ => cases hr

/-- What a run keeps: once it was shut down, nothing is registered. -/
structure Settled (config : Host.Config) (ops : List Operation) (l : Lifecycle (Traced σ)) :
    Prop where
  reached : Reached config ops l
  unregisters : l.phase = .globalShutdownDone → Unregisters l.engine.answered

theorem unregisters_shutdown {ops : List Operation} (h : Reached config ops l)
    (hp : refusesShutdown l.phase = false) :
    Unregisters (l.shutdown e.traced).2.engine.answered := by
  rw [shutdown_answered e l hp]
  exact h.stage.unregisters_undoing hp

/-- Only a shutdown ends in the last phase. -/
theorem not_done_of_operate {op : Operation} (hs : l.host.Serves config)
    (hr : refuses l.phase op = false) (hop : op ≠ .shutdown) :
    (l.operate e.traced op).2.phase ≠ .globalShutdownDone := by
  cases op with
  | shutdown => exact absurd rfl hop
  | startup =>
    have hp : l.phase = .unstarted := by simpa [refuses] using hr
    rcases startup_result e.traced l hp with ⟨-, hq⟩ | ⟨-, hq⟩ <;> simp [operate, hq]
  | request actions closing =>
    have hp : isReady l.phase = true := by simpa [refuses] using hr
    obtain ⟨-, -, ⟨hq, -⟩ | ⟨hq, -⟩⟩ := request_calls (e := e) hs hp actions closing <;> simp [hq]

theorem settled_operate {ops : List Operation} (h : Settled config ops l) (op : Operation) :
    Settled config (ops ++ [op]) (l.operate e.traced op).2 := by
  refine ⟨reached_operate h.reached op, fun hd => ?_⟩
  cases hr : refuses l.phase op with
  | true =>
    rw [operate_refused _ _ _ hr] at hd ⊢
    exact h.unregisters hd
  | false =>
    by_cases hop : op = .shutdown
    · subst hop
      exact unregisters_shutdown h.reached hr
    · have hp : l.phase ≠ .globalShutdownDone := by
        rintro hp
        rw [hp] at hr
        cases op <;> cases hr
      exact absurd hd (not_done_of_operate (h.reached.serves hp) hr hop)

theorem settled_operateAll {ops : List Operation} (h : Settled config ops l)
    (more : List Operation) : Settled config (ops ++ more) (l.operateAll e.traced more) := by
  induction more generalizing ops l with
  | nil =>
    rw [List.append_nil]
    exact h
  | cons op more ih =>
    have := ih (settled_operate (e := e) h op)
    rwa [List.append_assoc] at this

theorem settled_create (hc : (create ⟨s, []⟩ config).1 = .ok l) : Settled config [] l := by
  refine ⟨reached_create hc, fun hd => ?_⟩
  rw [(create_ok hc).1] at hd
  cases hd

/-- A lifecycle that goes out of use leaves its host registered if a request is open. -/
theorem Settled.unregisters_drop_iff {ops : List Operation} (h : Settled config ops l) :
    Unregisters (l.drop e.traced).engine.answered ↔ l.phase ≠ .requestActive := by
  rw [drop_answered]
  -- A shutdown is refused in two phases: in one the host was unregistered before, in the other it
  -- stays registered.
  cases hr : refusesShutdown l.phase with
  | false =>
    rw [if_neg (by simp)]
    refine iff_of_true (h.reached.stage.unregisters_undoing hr) fun hp => ?_
    rw [hp] at hr
    cases hr
  | true =>
    rw [if_pos rfl, List.append_nil]
    by_cases hp : l.phase = .requestActive
    · have hst := h.reached.stage
      rw [hp] at hst
      exact iff_of_false hst.of_requestActive.1 (not_not_intro hp)
    · exact iff_of_true (h.unregisters (by simpa [refusesShutdown, hp] using hr)) hp

/-- **The strings and the registered host.** Whatever the runtime answers, no call meets strings
that were released, and between the operations they are released only when the host was
unregistered or never registered. When the lifecycle goes out of use they are released all the
same, and then they outlast the registered host if and only if no request is open; one is open
only when its guard was forgotten. -/
theorem outlast_host_iff (e : Engine σ) (s : σ) (config : Host.Config) (l : Lifecycle (Traced σ))
    (hc : (create ⟨s, []⟩ config).1 = .ok l) (ops : List Operation) :
    let run := l.operateAll e.traced ops
    let ended := run.drop e.traced
    (∀ x ∈ ended.engine.exchanges, x.host.arena.isReleased = false) ∧
      (run.host.arena.isReleased = true → OutlastHost run.engine.exchanges) ∧
      ended.host.arena.isReleased = true ∧
      (OutlastHost ended.engine.exchanges ↔ run.phase ≠ .requestActive) ∧
      (run.phase = .requestActive → ∃ actions, .request actions .forgotten ∈ ops) := by
  intro run ended
  have ha := alive_create hc
  have hsteps := operateAll_steps e.traced l ops
  have hrun : AllLive e s config run.engine.exchanges :=
    (steps_tracks ha (tracks_create hc) hsteps).live
  have hended : AllLive e s config ended.engine.exchanges ∧
      ended.host.arena.isReleased = true := by
    obtain ⟨l', hl, hd⟩ := drop_steps e.traced run
    change AllLive e s config (run.drop e.traced).engine.exchanges ∧
      (run.drop e.traced).host.arena.isReleased = true
    rw [hd]
    exact ⟨(steps_tracks ha (tracks_create hc) (hsteps.trans hl)).live, Host.isReleased_drop _⟩
  have hsettled : Settled config ops run := settled_operateAll (settled_create hc) ops
  refine ⟨hended.1.isReleased, fun hr => ?_, hended.2, ?_, fun hp => ?_⟩
  · have hp := (steps_alive ha hsteps).isReleased_iff.1 hr
    exact hrun.outlastHost_iff.2 (hsettled.unregisters hp)
  · rw [hended.1.outlastHost_iff]
    exact hsettled.unregisters_drop_iff
  · have hst := hsettled.reached.stage
    rw [hp] at hst
    obtain ⟨-, actions, hm⟩ := hst.of_requestActive
    exact ⟨actions, mem_of_mem_served hm⟩

theorem outlast_host_iff_forgotten :
    ∃ l, (create (⟨{}, []⟩ : Traced Recording.State) .default).1 = .ok l ∧
      let run := l.operateAll (Recording.engine {}).traced [.startup, .request [] .forgotten]
      run.phase = .requestActive ∧
        ¬ OutlastHost (run.drop (Recording.engine {}).traced).engine.exchanges := by
  have hc : ∃ l, (create (⟨{}, []⟩ : Traced Recording.State) .default).1 = .ok l ∧
      (l.operateAll (Recording.engine {}).traced [.startup, .request [] .forgotten]).phase =
        .requestActive := ⟨_, rfl, rfl⟩
  obtain ⟨l, hl, hp⟩ := hc
  obtain ⟨-, -, -, hiff, -⟩ := outlast_host_iff (Recording.engine {}) {} .default l hl
    [.startup, .request [] .forgotten]
  exact ⟨l, hl, hp, fun ho => hiff.1 ho hp⟩

/-- A request whose guard was forgotten: the strings are released while the host is registered. -/
theorem released_under_host :
    ∃ l, (create (⟨{}, []⟩ : Traced Recording.State) .default).1 = .ok l ∧
      let ended := (l.operateAll (Recording.engine {}).traced
        [.startup, .request [] .forgotten]).drop (Recording.engine {}).traced
      ended.engine.calls = [.armSignals, .registerHost, .moduleStartup, .openRequest] ∧
        ended.releases = [(4, 123)] ∧ ended.host.arena.isReleased = true :=
  ⟨_, rfl, rfl, rfl, rfl⟩

/-- The one release of a run. Whatever the engine does, it is of the three names, and of the ini
entries as often as they were interned: for the startup of the host, and for every slot that the
engine ran by itself. -/
theorem releases_ended (e : Engine σ) (hc : (create ⟨s, []⟩ config).1 = .ok l)
    (ops : List Operation) :
    let ended := (l.operateAll e.traced ops).drop e.traced
    ended.releases = [receipt config
      ((if .startup ∈ beforeShutdown ops ∧ 0 ∉ Utf8.encode config.iniEntries then 1 else 0) +
        slotRuns e s ended.engine.exchanges)] := by
  intro ended
  have ha := alive_create hc
  have hsteps := operateAll_steps e.traced l ops
  obtain ⟨l', hl, hd⟩ := drop_steps e.traced (l.operateAll e.traced ops)
  have hs := steps_stocked ha (stocked_create (e := e) hc) (hsteps.trans hl)
  have hr := hs.releases_drop (steps_alive ha (hsteps.trans hl))
  have hw : Whole config ops ended.engine.answered := by
    have hreached := reached_operateAll (e := e) (reached_create hc) ops
    simp only [ended, drop_answered]
    exact stage_whole hreached.stage
  have hx : ended.engine = l'.engine := by simp only [ended, hd]
  rw [← internings_of_whole hw, hx, ← hr]
  simp only [ended, hd]

/-- **One release.** Take an engine that leaves the `startup` slot to the host, as it has to. A
lifecycle that cannot be created reports the release of its two names, and nothing else. Every
other one reports nothing when it is created, and exactly one release over the whole run and its
end, whichever way that is: of four strings if the run has a startup before any shutdown and the
ini entries hold no NUL, and of three if not. -/
theorem released_once (e : Engine σ) (he : e.LeavesSlot) (s : σ) (config : Host.Config) :
    (∀ cause, (create (⟨s, []⟩ : Traced σ) config).1 = .error cause →
      (create (⟨s, []⟩ : Traced σ) config).2 =
        [.releasedStrings 2 (footprint [moduleName, prettyName])]) ∧
      ∀ l, (create (⟨s, []⟩ : Traced σ) config).1 = .ok l →
        (create (⟨s, []⟩ : Traced σ) config).2 = [] ∧
          ∀ ops, ((l.operateAll e.traced ops).drop e.traced).releases =
            if .startup ∈ beforeShutdown ops ∧ 0 ∉ Utf8.encode config.iniEntries then
              [(4, footprint [moduleName, prettyName, config.evalName, config.iniEntries])]
            else [(3, footprint [moduleName, prettyName, config.evalName])] := by
  refine ⟨fun cause hc => by rw [events_create, hc],
    fun l hc => ⟨by rw [events_create, hc], fun ops => ?_⟩⟩
  rw [releases_ended e hc ops, slotRuns_of_leavesSlot he]
  split <;> rfl

theorem released_once_recorded :
    (create (⟨{}, []⟩ : Traced Recording.State) ⟨"", "\x00"⟩).2 =
        [.releasedStrings 2 (footprint [moduleName, prettyName])] ∧
      ∃ l, (create (⟨{}, []⟩ : Traced Recording.State) .default).1 = .ok l ∧
        ((l.operateAll (Recording.engine {}).traced [.startup, .request [] .forgotten]).drop
            (Recording.engine {}).traced).releases = [(4, 123)] ∧
        (l.drop (Recording.engine {}).traced).releases = [(3, 33)] := by
  have hslot : (Recording.engine {}).LeavesSlot := fun _ _ _ => trivial
  obtain ⟨herror, -⟩ := released_once (Recording.engine {}) hslot {} ⟨"", "\x00"⟩
  obtain ⟨-, hok⟩ := released_once (Recording.engine {}) hslot {} .default
  have hc : ∃ l, (create (⟨{}, []⟩ : Traced Recording.State) .default).1 = .ok l := ⟨_, rfl⟩
  obtain ⟨l, hl⟩ := hc
  obtain ⟨-, hrun⟩ := hok l hl
  refine ⟨herror _ rfl, l, hl, ?_, ?_⟩
  · rw [hrun [.startup, .request [] .forgotten]]
    decide
  · exact (hrun []).trans (by decide)

end

end Lifecycle

end ScriptHost

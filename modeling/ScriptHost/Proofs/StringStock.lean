import ScriptHost.Proofs.HostReports

/-!
# The strings that a lifecycle has to release

Over the whole life of a lifecycle, its arena holds exactly the strings that were interned, and
the shutdown gives all of them back and reports how many they were.

**What is interned (`Host.strings`).** The two names of the module and the name of inline code,
and the ini entries once for every `startup` slot that was run. The host runs it for its own
startup. It is the only one that should, but the invariant below is kept for a runtime that runs the
slot at any call (`Activity.exposures`) as well. So how many strings there are can be read off the
calls of a traced engine (`internings`).

**The invariant (`Stocked`).** Until the shutdown the arena holds exactly these strings, and none
was reported as released; then all of them were, in one report (`receipt`).

**Results.**
* `Host.stocks_answer`, `Host.stocks_run`: what hooks, and whatever happens in one call, intern.
* `step_stocked`, `steps_stocked`: every step keeps the strings in stock or releases them all.
* `Stocked.releases_drop`: the end of the host module releases what is left.
-/
namespace ScriptHost

/-! ## What an arena has handed out -/

/-- The bytes that some texts take up, each with its zero byte. -/
def footprint : List String → Nat
  | [] => 0
  | text :: rest => (Utf8.encode text).length + 1 + footprint rest

theorem footprint_append (xs ys : List String) :
    footprint (xs ++ ys) = footprint xs + footprint ys := by
  induction xs with
  | nil => exact (Nat.zero_add _).symm
  | cons text rest ih => simp only [List.cons_append, footprint, ih, Nat.add_assoc]

namespace Arena

/-- The arena holds the strings `texts`, and handed out no others. -/
structure Stocks (a : Arena) (texts : List String) : Prop where
  count : a.count = texts.length
  bytesAllocated : a.bytesAllocated = footprint texts

theorem stocks_empty : Stocks {} [] :=
  ⟨rfl, rfl⟩

theorem Stocks.intern {a b : Arena} {texts : List String} {text : String} {s : StringHandle}
    (ha : a.Stocks texts) (h : a.intern text = (.ok s, b)) : b.Stocks (texts ++ [text]) := by
  unfold Arena.intern at h
  dsimp only at h
  split at h
  · cases h
  split at h
  · cases h
  cases h
  refine ⟨?_, ?_⟩
  · simp [ha.count]
  · simp [ha.bytesAllocated, footprint_append, footprint, Nat.add_assoc]

theorem Stocks.releaseEvents {a : Arena} {texts : List String} (h : a.Stocks texts)
    (hne : texts ≠ []) : a.releaseEvents = [.releasedStrings texts.length (footprint texts)] := by
  have hpos : 0 < a.count := by
    rw [h.count]
    exact List.length_pos_iff.2 hne
  rw [Arena.releaseEvents, if_pos hpos, h.count, h.bytesAllocated]

end Arena

namespace Host

/-- The strings of a host whose ini entries were interned `n` times. -/
def strings (config : Config) (n : Nat) : List String :=
  [moduleName, prettyName, config.evalName] ++ List.replicate n config.iniEntries

theorem strings_succ (config : Config) (n : Nat) :
    strings config (n + 1) = strings config n ++ [config.iniEntries] := by
  rw [strings, strings, List.replicate_succ', List.append_assoc]

section
variable {h : Host} {config : Config} {n : Nat}

/-- A host is created with its three names. -/
theorem stocks_create (hc : (create config).1 = .ok h) : h.arena.Stocks (strings config 0) := by
  unfold create at hc
  split at hc
  · cases hc
  rename_i hn
  split at hc
  · cases hc
  rename_i hp
  split at hc
  · cases hc
  rename_i he
  cases hc
  exact ((Arena.stocks_empty.intern hn).intern hp).intern he

/-- What is reported when a host is created: nothing, or the release of the two names that were
interned before the third was refused. -/
theorem events_create (config : Config) :
    (create config).2 = match (create config).1 with
      | .ok _ => []
      | .error _ => [.releasedStrings 2 (footprint [moduleName, prettyName])] := by
  -- The names of the module hold no NUL, so only the third name can be refused.
  have hm : 0 ∉ Utf8.encode moduleName := by decide
  have hp : 0 ∉ Utf8.encode prettyName := by decide
  unfold create
  split
  · rename_i hi
    exact absurd (Arena.intern_of_error hi).2 (by simp [hm])
  rename_i hi
  have hs := Arena.stocks_empty.intern hi
  obtain ⟨-, hr, -⟩ := Arena.intern_of_ok hi
  split
  · rename_i hi
    exact absurd (Arena.intern_of_error hi).2 (by simp [hr, hp])
  rename_i hi
  have hs := hs.intern hi
  obtain ⟨-, hr, -⟩ := Arena.intern_of_ok hi
  split
  · rename_i hi
    obtain ⟨rfl, -⟩ := Arena.intern_of_error hi
    simp [Arena.dropEvents, hr, hs.releaseEvents]
  · rfl

theorem stocks_exposeIni (hi : h.iniText = config.iniEntries)
    (hs : h.arena.Stocks (strings config n)) :
    h.exposeIni.2.arena.Stocks (strings config (n + h.exposeIni.1.isSome.toNat)) := by
  unfold exposeIni
  cases hx : h.arena.intern h.iniText with
  | mk result b =>
    cases result with
    | ok ini =>
      rw [hi] at hx
      simpa [iniEntries, Host.read, strings_succ] using hs.intern hx
    | error cause =>
      obtain ⟨rfl, -⟩ := Arena.intern_of_error hx
      exact hs

end

end Host

/-! ## The runtime runs the `startup` slot -/

/-- How many times a runtime has the ini entries interned in the course of an activity. -/
def Activity.exposures {α : Type} : Activity α → Host → Nat
  | .done _, _ => 0
  | .call hook next, h =>
    (hook.exposes h).toNat + (next (h.answer hook).1).exposures (h.answer hook).2

theorem Activity.LeavesSlot.exposures {α : Type} {activity : Activity α}
    (h : activity.LeavesSlot) (host : Host) : activity.exposures host = 0 := by
  induction activity generalizing host with
  | done a => rfl
  | call hook next ih =>
    obtain ⟨hn, hnext⟩ := h
    simp [Activity.exposures, Hook.exposes, hn, ih _ (hnext _)]

theorem Host.stocks_answer {h : Host} {config : Host.Config} {n : Nat} (hook : Hook)
    (hi : h.iniText = config.iniEntries) (hs : h.arena.Stocks (strings config n)) :
    (h.answer hook).2.arena.Stocks (strings config (n + (hook.exposes h).toNat)) := by
  by_cases hk : hook = .startup
  · subst hk
    exact Host.stocks_exposeIni hi hs
  · obtain ⟨console, hc⟩ := h.answer_console hk
    simpa [hc, Hook.exposes, hk] using hs

theorem Host.stocks_run {α : Type} {config : Host.Config} (activity : Activity α) {h : Host}
    {n : Nat} (hi : h.iniText = config.iniEntries) (hs : h.arena.Stocks (strings config n)) :
    (activity.run h).2.arena.Stocks (strings config (n + activity.exposures h)) := by
  induction activity generalizing h n with
  | done a => exact hs
  | call hook next ih =>
    have ha := Host.stocks_answer hook hi hs
    rw [Activity.exposures, ← Nat.add_assoc]
    exact ih _ ((Host.extends_answer h hook).iniText.trans hi) ha

/-! ## The strings over a run -/

/-- How many strings a release frees, and of how many bytes. -/
def Event.release? : Event → Option (Nat × Nat)
  | .releasedStrings count bytes => some (count, bytes)
  | _ => none

theorem Event.release?_of_isRemark {event : Event} (h : event.IsRemark) :
    event.release? = none := by
  cases event <;> first | rfl | cases h

namespace Lifecycle

variable {σ : Type}

/-- The releases that a lifecycle has reported. -/
def releases (l : Lifecycle σ) : List (Nat × Nat) :=
  l.host.console.events.filterMap Event.release?

/-- The release of all strings of a host whose ini entries were interned `n` times. -/
def receipt (config : Host.Config) (n : Nat) : Nat × Nat :=
  ((Host.strings config n).length, footprint (Host.strings config n))

/-- How many times the runtime had the ini entries interned, in the course of some exchanges of an
engine that was in state `s` before them. -/
def slotRuns (e : Engine σ) (s : σ) : List (Exchange σ) → Nat
  | [] => 0
  | x :: rest => (e.respond x.call x.host s).exposures x.host + slotRuns e x.after rest

/-- How many times the ini entries were interned: by the host just before it called module
startup, and by the runtime. -/
def internings (e : Engine σ) (s : σ) (xs : List (Exchange σ)) : Nat :=
  (xs.map (·.call)).count .moduleStartup + slotRuns e s xs

theorem slotRuns_append (e : Engine σ) (s : σ) (xs ys : List (Exchange σ)) :
    slotRuns e s (xs ++ ys) = slotRuns e s xs + slotRuns e (stateAfter s xs) ys := by
  induction xs generalizing s with
  | nil => exact (Nat.zero_add _).symm
  | cons x rest ih => simp only [List.cons_append, slotRuns, stateAfter, ih, Nat.add_assoc]

theorem slotRuns_of_leavesSlot {e : Engine σ} (h : e.LeavesSlot) (s : σ)
    (xs : List (Exchange σ)) : slotRuns e s xs = 0 := by
  induction xs generalizing s with
  | nil => rfl
  | cons x rest ih => rw [slotRuns, (h _ _ _).exposures, ih]

theorem internings_snoc (e : Engine σ) (s : σ) (xs : List (Exchange σ)) (x : Exchange σ) :
    internings e s (xs ++ [x]) =
      internings e s xs + (decide (x.call = .moduleStartup)).toNat +
        (e.respond x.call x.host (stateAfter s xs)).exposures x.host := by
  have hc : (List.map (·.call) [x]).count .moduleStartup =
      (decide (x.call = .moduleStartup)).toNat := by
    by_cases hx : x.call = .moduleStartup <;> simp [hx]
  rw [internings, internings, List.map_append, List.count_append, slotRuns_append, hc, slotRuns,
    slotRuns]
  omega

/-- The strings of a lifecycle, and what it reported of them: until the shutdown they are all
there, and then they have been released. -/
structure Stocked (e : Engine σ) (s : σ) (config : Host.Config) (l : Lifecycle (Traced σ)) :
    Prop where
  state : l.engine.state = stateAfter s l.engine.exchanges
  stock : l.phase ≠ .globalShutdownDone →
    l.host.arena.Stocks (Host.strings config (internings e s l.engine.exchanges)) ∧
      l.releases = []
  released : l.phase = .globalShutdownDone →
    l.releases = [receipt config (internings e s l.engine.exchanges)]

section
variable {e : Engine σ} {s : σ} {config : Host.Config} {l l' : Lifecycle (Traced σ)}

theorem releases_of_noted {l l' : Lifecycle σ} (h : l.host.Noted l'.host) :
    l'.releases = l.releases :=
  h.filterMap_eq fun _ he => Event.release?_of_isRemark he

@[simp] theorem releases_moveTo (l : Lifecycle σ) (p : Phase) :
    (l.moveTo p).releases = l.releases := by
  simp [releases, moveTo, log, Host.log, Console.log, Event.release?]

/-- One call, made when the strings are as many as they have to be at this call. -/
theorem call_stocked {c : Call} (hp : l.phase ≠ .globalShutdownDone)
    (hstate : l.engine.state = stateAfter s l.engine.exchanges)
    (hi : l.host.iniText = config.iniEntries)
    (hs : l.host.arena.Stocks (Host.strings config
      (internings e s l.engine.exchanges + (decide (c = .moduleStartup)).toNat)))
    (hr : l.releases = []) : Stocked e s config (l.call e.traced c).2 := by
  have hn := releases_of_noted (noted_call e.traced l c)
  have hrun := Host.stocks_run (e.respond c l.host l.engine.state) hi hs
  refine ⟨?_, fun _ => ⟨?_, hn.trans hr⟩, fun hd => absurd hd hp⟩
  · rw [call_traced]
    simp [Traced.note, stateAfter_append, stateAfter]
  · rw [call_traced]
    simp only [Traced.note]
    rw [internings_snoc, ← hstate]
    exact hrun

theorem runStartupSlot_stocked (hs : l.host.Shows config) (hp : l.phase ≠ .globalShutdownDone)
    (h : Stocked e s config l) : Stocked e s config (l.runStartupSlot e.traced).2 := by
  obtain ⟨hstock, hr⟩ := h.stock hp
  have hx := Host.stocks_exposeIni hs.serves.iniText hstock
  have hi := (Host.exposeIni_cases l.host).1.iniText.trans hs.serves.iniText
  have hn := l.host.noted_exposeIni
  unfold runStartupSlot
  split
  · rename_i host hh
    rw [hh] at hx hn
    have hr' : releases { l with host } = [] := (releases_of_noted hn).trans hr
    exact ⟨h.state, fun _ => ⟨hx, hr'⟩, fun hd => absurd hd hp⟩
  · rename_i ini host hh
    rw [hh] at hx hi hn
    have hr' : releases { l with host } = [] := (releases_of_noted hn).trans hr
    exact call_stocked (l := { l with host }) hp h.state hi hx hr'

/-- Every step keeps the strings in stock, until the last one releases them all. -/
theorem step_stocked (ha : Alive config l) (h : Stocked e s config l)
    (hs : Step e.traced l l') : Stocked e s config l' := by
  cases hs with
  | @call c hd =>
    obtain ⟨hstock, hr⟩ := h.stock hd.phase_ne
    refine call_stocked hd.phase_ne h.state (ha.shows hd.phase_ne).serves.iniText ?_ hr
    simpa [hd.ne_moduleStartup] using hstock
  | register hp =>
    have hne : l.phase ≠ .globalShutdownDone := by simp [hp]
    obtain ⟨hstock, hr⟩ := h.stock hne
    have hc := call_stocked (c := .registerHost) hne h.state (ha.shows hne).serves.iniText
      (by simpa using hstock) hr
    exact ⟨hc.state, fun _ => ⟨(hc.stock hne).1, by simpa using (hc.stock hne).2⟩, nofun⟩
  | runSlot hp =>
    have hne : l.phase ≠ .globalShutdownDone := by simp [hp]
    exact runStartupSlot_stocked (ha.shows hne) hne h
  | @log event he =>
    have hr : (l.log event).releases = l.releases := releases_of_noted (l.host.noted_log he)
    exact ⟨h.state, fun hp => ⟨(h.stock hp).1, hr.trans (h.stock hp).2⟩,
      fun hp => hr.trans (h.released hp)⟩
  | @move p hn =>
    obtain ⟨hstock, hr⟩ := h.stock hn.phase_ne.1
    exact ⟨h.state, fun _ => ⟨hstock, by simpa using hr⟩, fun hd => absurd hd hn.phase_ne.2⟩
  | finish hf =>
    obtain ⟨hstock, hr⟩ := h.stock (ne_done_of_not_refusesShutdown hf)
    -- The one step that releases the strings: what was in stock is what it reports.
    refine ⟨h.state, fun hd => absurd rfl hd, fun _ => ?_⟩
    rw [releases_moveTo]
    change _ = [receipt config (internings e s l.engine.exchanges)]
    have he := hstock.releaseEvents (by simp [Host.strings])
    simp only [releases] at hr
    simp [releases, Host.release, Console.logAll, he, hr, Event.release?, receipt]

theorem steps_stocked (ha : Alive config l) (h : Stocked e s config l)
    (hs : Steps e.traced l l') : Stocked e s config l' := by
  induction hs with
  | refl => exact h
  | tail hs hstep ih => exact step_stocked (steps_alive ha hs) ih hstep

/-- What is reported when a lifecycle is created. -/
theorem events_create (engine : σ) (config : Host.Config) :
    (create engine config).2 = match (create engine config).1 with
      | .ok _ => []
      | .error _ => [.releasedStrings 2 (footprint [moduleName, prettyName])] := by
  have he := Host.events_create config
  unfold create
  split <;> rename_i hh <;> rw [hh] at he <;> exact he

theorem stocked_create (hc : (create ⟨s, []⟩ config).1 = .ok l) : Stocked e s config l := by
  obtain ⟨hp, he, -⟩ := create_ok hc
  have hh := host_create hc
  refine ⟨by rw [he]; rfl, fun _ => ⟨?_, ?_⟩, fun hd => by rw [hp] at hd; cases hd⟩
  · rw [he]
    exact Host.stocks_create hh
  · rw [releases, Host.console_create hh]
    rfl

/-- Whatever is left in stock when the host module ends is released then. -/
theorem Stocked.releases_drop (ha : Alive config l) (h : Stocked e s config l) :
    releases { l with host := l.host.drop } =
      [receipt config (internings e s l.engine.exchanges)] := by
  by_cases hp : l.phase = .globalShutdownDone
  · have hr := ha.released hp
    rw [← h.released hp]
    simp [releases, Host.drop, Arena.dropEvents, hr, Console.logAll]
  · obtain ⟨hstock, hr⟩ := h.stock hp
    have hn := (ha.shows hp).serves.isReleased
    have he := hstock.releaseEvents (by simp [Host.strings])
    simp only [releases] at hr
    simp [releases, Host.drop, Arena.dropEvents, hn, he, hr, Console.logAll, Event.release?,
      receipt]

end

end Lifecycle

end ScriptHost

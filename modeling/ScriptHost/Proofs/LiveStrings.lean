import ScriptHost.Engine.Recording
import ScriptHost.Proofs.LifecycleSteps

/-!
# The interned strings are alive at every call

The runtime keeps the addresses of the strings it was given, so whatever it is called for, and in
whatever order the lifecycle is used, the strings have to be there.

**What is shown (`Host.Shows`).** The arena is alive; the names of the module and of inline code
read back, and so do the ini entries if their pointer is set.

**When the pointer is set (`interned`).** The ini entries are interned by the `startup` slot. The
host runs that slot once, just before it calls module startup. A runtime has to leave the slot to
the host (`Engine.LeavesSlot`), but the strings are there even for one that runs it at any call, by
the hook (`Activity.exposes`).

**The invariants.** `Alive`: until the shutdown everything is shown, and then it is released.
`Tracks`: a traced engine was called with everything shown, every time, and the pointer to the
ini entries is set when they have been interned. `Recorded`: the recording engine noted no call at
which it could not read the strings.

**Results.**
* `shows_answer`, `shows_run`: hooks keep everything shown.
* `step_alive`, `step_tracks`, `step_recorded`: so does every step of the lifecycle.
* `strings_alive`: at every call of every run everything is shown, and between the operations the
  strings are released if and only if the lifecycle was shut down.
-/
namespace ScriptHost

/-! ## What the host shows -/

namespace Host

/-- The pointer is set, and `text` stands there. -/
def Points (h : Host) (pointer : Option StringHandle) (text : String) : Prop :=
  ∃ s, pointer = some s ∧ h.arena.Holds s text

/-- Everything the runtime may read is there. -/
structure Shows (h : Host) (config : Config) : Prop where
  serves : h.Serves config
  name : h.Points h.descriptor.name moduleName
  prettyName : h.Points h.descriptor.prettyName ScriptHost.prettyName
  ini : h.descriptor.iniEntries = none ∨ h.Points h.descriptor.iniEntries config.iniEntries

section
variable {h : Host} {config : Config}

theorem Points.read {pointer : Option StringHandle} {text : String} (hp : h.Points pointer text) :
    h.read pointer = some (Utf8.encode text) := by
  obtain ⟨s, rfl, hs⟩ := hp
  exact congrArg some (Arena.read_of_holds hs)

theorem Shows.iniEntries_eq (hs : h.Shows config) :
    h.iniEntries =
      if h.descriptor.iniEntries.isSome then some (Utf8.encode config.iniEntries) else none := by
  rcases hs.ini with hn | hp
  · simp [iniEntries, Host.read, hn]
  · have hr := hp.read
    obtain ⟨s, hs, -⟩ := hp
    rw [iniEntries, hr, hs]
    rfl

theorem shows_create (hc : (create config).1 = .ok h) : h.Shows config := by
  have hs := serves_create hc
  unfold create at hc
  split at hc
  · cases hc
  rename_i name a hn
  split at hc
  · cases hc
  rename_i pretty b hp
  split at hc
  · cases hc
  rename_i evalName c he
  obtain ⟨-, -, hn, -⟩ := Arena.intern_of_ok hn
  obtain ⟨-, -, hp, hab⟩ := Arena.intern_of_ok hp
  obtain ⟨-, -, -, hbc⟩ := Arena.intern_of_ok he
  cases hc
  exact ⟨hs, ⟨name, rfl, hn.extend (hab.trans hbc)⟩, ⟨pretty, rfl, hp.extend hbc⟩, Or.inl rfl⟩

theorem iniEntries_create (hc : (create config).1 = .ok h) : h.descriptor.iniEntries = none := by
  unfold create at hc
  split at hc
  · cases hc
  split at hc
  · cases hc
  split at hc
  · cases hc
  cases hc
  rfl

theorem Shows.console (hs : h.Shows config) (console : Console) :
    { h with console }.Shows config :=
  ⟨⟨hs.serves.isReleased, hs.serves.iniText, hs.serves.evalName⟩, hs.name, hs.prettyName, hs.ini⟩

theorem shows_exposeIni (hs : h.Shows config) : h.exposeIni.2.Shows config := by
  have hv := hs.serves.extend (exposeIni_cases h).1
  unfold exposeIni at hv ⊢
  cases hi : h.arena.intern h.iniText with
  | mk result b =>
    rw [hi] at hv
    cases result with
    | ok ini =>
      obtain ⟨-, -, hh, hm⟩ := Arena.intern_of_ok hi
      rw [hs.serves.iniText] at hh
      obtain ⟨name, hn, hname⟩ := hs.name
      obtain ⟨pretty, hp, hpretty⟩ := hs.prettyName
      exact ⟨hv, ⟨name, hn, hname.extend hm⟩, ⟨pretty, hp, hpretty.extend hm⟩,
        Or.inr ⟨ini, rfl, hh⟩⟩
    | error cause =>
      obtain ⟨rfl, -⟩ := Arena.intern_of_error hi
      exact ⟨hv, hs.name, hs.prettyName, hs.ini⟩

/-- The pointer to the ini entries is set when they are interned, and stays set. -/
theorem isSome_exposeIni (h : Host) :
    h.exposeIni.2.descriptor.iniEntries.isSome =
      (h.descriptor.iniEntries.isSome || h.exposeIni.1.isSome) := by
  unfold exposeIni
  cases h.arena.intern h.iniText with
  | mk result b =>
    cases result with
    | ok ini => simp [iniEntries, Host.read]
    | error cause => simp [log]

end

/-- A hook other than `startup` leaves the memory and the descriptor alone. -/
theorem answer_console (h : Host) {hook : Hook} (hk : hook ≠ .startup) :
    ∃ console, (h.answer hook).2 = { h with console } := by
  cases hook with
  | startup => exact absurd rfl hk
  | error kind message =>
    simp only [answer, printError]
    split <;> exact ⟨_, rfl⟩
  | _ => exact ⟨_, rfl⟩

theorem shows_answer {h : Host} {config : Config} (hs : h.Shows config) (hook : Hook) :
    (h.answer hook).2.Shows config := by
  by_cases hk : hook = .startup
  · subst hk
    exact shows_exposeIni hs
  · obtain ⟨console, hc⟩ := answer_console h hk
    rw [hc]
    exact hs.console console

theorem shows_run {α : Type} {config : Config} (activity : Activity α) {h : Host}
    (hs : h.Shows config) : (activity.run h).2.Shows config := by
  induction activity generalizing h with
  | done a => exact hs
  | call hook next ih => exact ih _ (shows_answer hs hook)

end Host

/-! ## When the ini entries are interned -/

/-- Whether a hook interns the ini entries. -/
def Hook.exposes (h : Host) (hook : Hook) : Bool :=
  hook = .startup && h.exposeIni.1.isSome

/-- Whether the runtime has the ini entries interned in the course of an activity. -/
def Activity.exposes {α : Type} : Activity α → Host → Bool
  | .done _, _ => false
  | .call hook next, h =>
    hook.exposes h || (next (h.answer hook).1).exposes (h.answer hook).2

theorem isSome_answer (h : Host) (hook : Hook) :
    (h.answer hook).2.descriptor.iniEntries.isSome =
      (h.descriptor.iniEntries.isSome || hook.exposes h) := by
  by_cases hk : hook = .startup
  · subst hk
    exact Host.isSome_exposeIni h
  · obtain ⟨console, hc⟩ := Host.answer_console h hk
    simp [hc, Hook.exposes, hk]

theorem isSome_run {α : Type} (activity : Activity α) (h : Host) :
    (activity.run h).2.descriptor.iniEntries.isSome =
      (h.descriptor.iniEntries.isSome || activity.exposes h) := by
  induction activity generalizing h with
  | done a => simp [Activity.run, Activity.exposes]
  | call hook next ih =>
    simp only [Activity.run, Activity.exposes]
    rw [ih, isSome_answer, Bool.or_assoc]

namespace Lifecycle

variable {σ : Type}

/-- The state of an engine behind some exchanges. -/
def stateAfter (s : σ) : List (Exchange σ) → σ
  | [] => s
  | x :: rest => stateAfter x.after rest

/-- Whether the ini entries have been interned behind some exchanges of an engine that was in
state `s` before them. The host calls module startup when it has interned them. -/
def interned (e : Engine σ) (s : σ) : List (Exchange σ) → Bool
  | [] => false
  | x :: rest =>
    x.call = .moduleStartup || (e.respond x.call x.host s).exposes x.host ||
      interned e x.after rest

theorem stateAfter_append (s : σ) (xs ys : List (Exchange σ)) :
    stateAfter s (xs ++ ys) = stateAfter (stateAfter s xs) ys := by
  induction xs generalizing s with
  | nil => rfl
  | cons x rest ih => exact ih x.after

theorem interned_append (e : Engine σ) (s : σ) (xs ys : List (Exchange σ)) :
    interned e s (xs ++ ys) = (interned e s xs || interned e (stateAfter s xs) ys) := by
  induction xs generalizing s with
  | nil => rfl
  | cons x rest ih => simp only [List.cons_append, interned, stateAfter, ih, Bool.or_assoc]

/-! ## The strings over a run -/

section
variable {e : Engine σ} {config : Host.Config} {l l' : Lifecycle σ}

structure Alive (config : Host.Config) (l : Lifecycle σ) : Prop where
  shows : l.phase ≠ .globalShutdownDone → l.host.Shows config
  released : l.phase = .globalShutdownDone → l.host.arena.isReleased = true

theorem alive_create {s : σ} (hc : (create s config).1 = .ok l) : Alive config l := by
  have hp := (create_ok hc).1
  refine ⟨fun _ => ?_, fun hd => by rw [hp] at hd; cases hd⟩
  unfold create at hc
  split at hc
  · rename_i hh
    cases hc
    exact Host.shows_create (by rw [hh])
  · cases hc

theorem Alive.of_shows (hs : l.host.Shows config) (hp : l.phase ≠ .globalShutdownDone) :
    Alive config l :=
  ⟨fun _ => hs, fun hd => absurd hd hp⟩

theorem Alive.isReleased_iff (h : Alive config l) :
    l.host.arena.isReleased = true ↔ l.phase = .globalShutdownDone := by
  refine ⟨fun hr => Decidable.byContradiction fun hp => ?_, h.released⟩
  rw [(h.shows hp).serves.isReleased] at hr
  cases hr

theorem shows_call (hs : l.host.Shows config) (c : Call) : (l.call e c).2.host.Shows config :=
  Host.shows_run _ hs

theorem shows_runStartupSlot (hs : l.host.Shows config) :
    (l.runStartupSlot e).2.host.Shows config := by
  have hx := Host.shows_exposeIni hs
  unfold runStartupSlot
  split
  · rename_i host hi
    rw [hi] at hx
    exact hx
  · rename_i ini host hi
    rw [hi] at hx
    exact shows_call (l := { l with host }) hx _

/-- Until the last step, every step keeps the strings alive, and that one releases them. -/
theorem step_alive (h : Alive config l) (hs : Step e l l') : Alive config l' := by
  cases hs with
  | call hd => exact .of_shows (shows_call (h.shows hd.phase_ne) _) hd.phase_ne
  | register hp =>
    have hs := h.shows (by simp [hp])
    exact .of_shows ((shows_call hs .registerHost).console _) (by simp)
  | runSlot hp =>
    have hs := h.shows (by simp [hp])
    exact .of_shows (shows_runStartupSlot hs) (by rw [phase_runStartupSlot, hp]; simp)
  | log _ => exact ⟨fun hp => (h.shows hp).console _, h.released⟩
  | move hn => exact .of_shows ((h.shows hn.phase_ne.1).console _) hn.phase_ne.2
  | finish hr => exact ⟨fun hp => absurd rfl hp, fun _ => rfl⟩

theorem steps_alive (h : Alive config l) (hs : Steps e l l') : Alive config l' := by
  induction hs with
  | refl => exact h
  | tail _ hs ih => exact step_alive ih hs

end

/-! ## What a traced engine was called with -/

/-- The exchange `x`, made behind the exchanges `front`, found everything shown. -/
structure Live (e : Engine σ) (s : σ) (config : Host.Config) (front : List (Exchange σ))
    (x : Exchange σ) : Prop where
  shows : x.host.Shows config
  ini : x.host.descriptor.iniEntries.isSome =
    (decide (x.call = .moduleStartup) || interned e s front)
  name : ∀ code name, x.call = .evaluate code name → name = Utf8.encode config.evalName

/-- Every exchange found everything shown. -/
inductive AllLive (e : Engine σ) (s : σ) (config : Host.Config) : List (Exchange σ) → Prop
  | nil : AllLive e s config []
  | snoc {front : List (Exchange σ)} {x : Exchange σ} :
      AllLive e s config front → Live e s config front x → AllLive e s config (front ++ [x])

/-- The calls so far found everything shown, and the pointer to the ini entries is set when they
have been interned. -/
structure Tracks (e : Engine σ) (s : σ) (config : Host.Config) (l : Lifecycle (Traced σ)) :
    Prop where
  state : l.engine.state = stateAfter s l.engine.exchanges
  live : AllLive e s config l.engine.exchanges
  ini : l.host.descriptor.iniEntries.isSome = interned e s l.engine.exchanges

section
variable {e : Engine σ} {s : σ} {config : Host.Config} {l l' : Lifecycle (Traced σ)}

theorem AllLive.live {xs front back : List (Exchange σ)} {x : Exchange σ}
    (h : AllLive e s config xs) (hx : xs = front ++ x :: back) : Live e s config front x := by
  induction h generalizing back with
  | nil => simp at hx
  | @snoc xs y _ hy ih =>
    rcases List.eq_nil_or_concat back with rfl | ⟨back, z, rfl⟩
    · obtain ⟨rfl, rfl⟩ := List.concat_inj.1 (by simpa using hx)
      exact hy
    · have hc : xs ++ [y] = (front ++ x :: back) ++ [z] := by simpa using hx
      exact ih (List.append_inj_left' hc rfl)

theorem call_traced (e : Engine σ) (l : Lifecycle (Traced σ)) (c : Call) :
    let r := (e.respond c l.host l.engine.state).run l.host
    (l.call e.traced c).2 =
      { l with host := r.2, engine := l.engine.note c l.host r.1.1 r.1.2 } := by
  simp only [call, perform, Engine.traced, Activity.run_bind, Activity.run]

/-- One call, made when everything is shown and the pointer to the ini entries is as it has to
be at this call. -/
theorem call_tracks {c : Call} (hstate : l.engine.state = stateAfter s l.engine.exchanges)
    (hlive : AllLive e s config l.engine.exchanges)
    (hx : Live e s config l.engine.exchanges
      ⟨c, l.host, (l.call e.traced c).1, (l.call e.traced c).2.engine.state⟩) :
    Tracks e s config (l.call e.traced c).2 := by
  have hi := hx.ini
  rw [call_traced]
  refine ⟨?_, ?_, ?_⟩
  · simp [Traced.note, stateAfter_append, stateAfter]
  · exact hlive.snoc ⟨hx.shows, hx.ini, hx.name⟩
  · dsimp only at hi
    simp only [Traced.note, interned_append, interned, ← hstate, isSome_run, hi, Bool.or_false]
    cases decide (c = .moduleStartup) <;> simp

theorem runStartupSlot_tracks (hs : l.host.Shows config) (h : Tracks e s config l) :
    Tracks e s config (l.runStartupSlot e.traced).2 := by
  have hx := Host.shows_exposeIni hs
  have hi := Host.isSome_exposeIni l.host
  unfold runStartupSlot
  split
  · rename_i host hh
    rw [hh] at hx hi
    exact ⟨h.state, h.live, by simpa [h.ini] using hi⟩
  · rename_i ini host hh
    rw [hh] at hx hi
    refine call_tracks (l := { l with host }) h.state h.live ⟨hx, ?_, by simp⟩
    simpa using hi

/-- A step calls the engine with everything shown. -/
theorem step_tracks (ha : Alive config l) (h : Tracks e s config l) (hs : Step e.traced l l') :
    Tracks e s config l' := by
  cases hs with
  | @call c hd =>
    have hs := ha.shows hd.phase_ne
    refine call_tracks h.state h.live ⟨hs, ?_, ?_⟩
    · simpa [hd.ne_moduleStartup] using h.ini
    · rintro code name rfl
      rw [hd.2]
      exact evalName_of_serves hs.serves
  | register hp =>
    have hs := ha.shows (by simp [hp])
    have ht := call_tracks (c := .registerHost) h.state h.live
      ⟨hs, by simpa using h.ini, by simp⟩
    exact ⟨ht.state, ht.live, ht.ini⟩
  | runSlot hp => exact runStartupSlot_tracks (ha.shows (by simp [hp])) h
  | _ => exact ⟨h.state, h.live, h.ini⟩

theorem steps_tracks (ha : Alive config l) (h : Tracks e s config l)
    (hs : Steps e.traced l l') : Tracks e s config l' := by
  induction hs with
  | refl => exact h
  | tail hs hstep ih => exact step_tracks (steps_alive ha hs) ih hstep

theorem tracks_create (hc : (create ⟨s, []⟩ config).1 = .ok l) : Tracks e s config l := by
  obtain ⟨-, he, -⟩ := create_ok hc
  refine ⟨by rw [he]; rfl, by rw [he]; exact .nil, ?_⟩
  unfold create at hc
  split at hc
  · rename_i hh
    cases hc
    rw [Host.iniEntries_create (by rw [hh])]
    rfl
  · cases hc

end

end Lifecycle

/-! ## What the recording engine noted -/

namespace Recording

/-- Not a shutdown call at which the strings could not be read. -/
def Entry.IsLive : Entry → Prop
  | .moduleShutdown live | .unregisterHost live => live = true
  | _ => True

theorem arenaLive_of_shows {h : Host} {config : Host.Config} {s : State} (hs : h.Shows config)
    (hr : s.registered = true) : arenaLive h s = true := by
  have hi := hs.iniEntries_eq
  simp only [arenaLive, hr, hs.serves.isReleased, hs.name.read, hs.serves.iniText]
  cases hd : h.descriptor.iniEntries.isSome <;> simp [hi, hd]

/-- A call is noted once, and only a shutdown call can be noted as one that read nothing. -/
theorem respond_noted (answers : Answers) (c : Call) (h : Host) (s : State) :
    (s.registered = true → (respond answers c h s).2.registered = true) ∧
      ∃ entry, (respond answers c h s).2.log = s.log ++ [entry] ∧
        (entry.IsLive ∨ (c = .moduleShutdown ∨ c = .unregisterHost) ∧ arenaLive h s = false) := by
  cases c with
  | registerHost => exact ⟨fun _ => rfl, _, rfl, Or.inl trivial⟩
  | moduleShutdown | unregisterHost =>
    refine ⟨id, _, rfl, ?_⟩
    cases arenaLive h s with
    | true => exact Or.inl rfl
    | false => exact Or.inr ⟨by simp, rfl⟩
  | _ => exact ⟨id, _, rfl, Or.inl trivial⟩

end Recording

namespace Lifecycle

section
variable {answers : Recording.Answers} {config : Host.Config}
  {l l' : Lifecycle Recording.State}

/-- Whether the host is registered in a phase. -/
def hasHost : Phase → Bool
  | .hostTableRegistered | .globalStartupDone | .requestActive | .requestIdle => true
  | .unstarted | .signalsArmed | .globalShutdownDone => false

/-- A move does not register the host. -/
theorem Next.hasHost {p q : Phase} (h : Next p q) (hq : hasHost q = true) : hasHost p = true := by
  cases h with
  | arm => cases hq
  | «open» hp | refuse hp => cases p <;> first | rfl | cases hp
  | _ => rfl

theorem Due.hasHost {σ : Type} {l : Lifecycle σ} {c : Call} (h : Due l c)
    (hc : c = .moduleShutdown ∨ c = .unregisterHost) : hasHost l.phase = true := by
  rcases hc with rfl | rfl <;> simp only [Due] at h <;> revert h <;> cases l.phase <;> decide

/-- The engine knows the host while it is registered, and all that it noted is live. -/
structure Recorded (l : Lifecycle Recording.State) : Prop where
  registered : hasHost l.phase = true → l.engine.registered = true
  live : ∀ entry ∈ l.engine.log, entry.IsLive

theorem call_recorded (answers : Recording.Answers) (h : Recorded l) (hs : l.host.Shows config)
    {c : Call}
    (hc : c = .moduleShutdown ∨ c = .unregisterHost → l.engine.registered = true) :
    Recorded (l.call (Recording.engine answers) c).2 := by
  obtain ⟨hr, entry, hl, he⟩ := Recording.respond_noted answers c l.host l.engine
  refine ⟨fun hp => hr (h.registered hp), fun x hx => ?_⟩
  have hx : x ∈ (Recording.respond answers c l.host l.engine).2.log := hx
  rw [hl, List.mem_append, List.mem_singleton] at hx
  rcases hx with hx | rfl
  · exact h.live x hx
  · rcases he with he | ⟨hd, hn⟩
    · exact he
    · rw [Recording.arenaLive_of_shows hs (hc hd)] at hn
      cases hn

theorem step_recorded (ha : Alive config l) (h : Recorded l)
    (hs : Step (Recording.engine answers) l l') : Recorded l' := by
  cases hs with
  | @call c hd =>
    exact call_recorded answers h (ha.shows hd.phase_ne) fun hc => h.registered (hd.hasHost hc)
  | register hp =>
    have hr := call_recorded answers (c := .registerHost) h
      (ha.shows (by simp [hp])) (by simp)
    exact ⟨fun _ => rfl, hr.live⟩
  | runSlot hp =>
    have hx := Host.shows_exposeIni (ha.shows (by simp [hp]))
    unfold runStartupSlot
    split
    · exact ⟨h.registered, h.live⟩
    · rename_i ini host hh
      rw [hh] at hx
      exact call_recorded answers (l := { l with host }) ⟨h.registered, h.live⟩ hx (by simp)
  | log _ => exact ⟨h.registered, h.live⟩
  | move hn => exact ⟨fun hq => h.registered (hn.hasHost hq), h.live⟩
  | finish _ => exact ⟨nofun, h.live⟩

theorem steps_recorded (ha : Alive config l) (h : Recorded l)
    (hs : Steps (Recording.engine answers) l l') : Recorded l' := by
  induction hs with
  | refl => exact h
  | tail hs hstep ih => exact step_recorded (steps_alive ha hs) ih hstep

end

/-! ## Every run -/

/-- **The strings are alive.** Whatever the runtime answers and however the lifecycle is used, at
every call the arena is alive, both names read back, the pointer to the ini entries is null until
they have been interned and reads them back from then on, and code is evaluated under the
configured name; so the recording engine can read the strings at every shutdown call. Between the
operations the strings are released if and only if the lifecycle was shut down. -/
theorem strings_alive {σ : Type} (e : Engine σ) (s : σ) (config : Host.Config)
    (l : Lifecycle (Traced σ)) (hc : (create ⟨s, []⟩ config).1 = .ok l) (ops : List Operation) :
    (∀ front x back,
        ((l.operateAll e.traced ops).drop e.traced).engine.exchanges = front ++ x :: back →
        x.host.arena.isReleased = false ∧
          x.host.read x.host.descriptor.name = some (Utf8.encode moduleName) ∧
          x.host.read x.host.descriptor.prettyName = some (Utf8.encode prettyName) ∧
          x.host.iniEntries =
            (if x.call = .moduleStartup || interned e s front
              then some (Utf8.encode config.iniEntries) else none) ∧
          ∀ code name, x.call = .evaluate code name → name = Utf8.encode config.evalName) ∧
      ((l.operateAll e.traced ops).host.arena.isReleased = true ↔
        (l.operateAll e.traced ops).phase = .globalShutdownDone) ∧
      ∀ answers r, (create ({} : Recording.State) config).1 = .ok r →
        ∀ entry ∈ ((r.operateAll (Recording.engine answers) ops).drop
          (Recording.engine answers)).engine.log,
          entry ≠ .moduleShutdown false ∧ entry ≠ .unregisterHost false := by
  have ha := alive_create hc
  have hsteps := operateAll_steps e.traced l ops
  refine ⟨fun front x back hx => ?_, (steps_alive ha hsteps).isReleased_iff,
    fun answers r hr entry he => ?_⟩
  · obtain ⟨l', hl, hd⟩ := drop_steps e.traced (l.operateAll e.traced ops)
    rw [hd] at hx
    have hlive := (steps_tracks ha (tracks_create hc) (hsteps.trans hl)).live.live hx
    obtain ⟨hshows, hini, hname⟩ := hlive
    exact ⟨hshows.serves.isReleased, hshows.name.read, hshows.prettyName.read,
      by rw [hshows.iniEntries_eq, hini], hname⟩
  · obtain ⟨r', hl, hd⟩ := drop_steps (Recording.engine answers)
      (r.operateAll (Recording.engine answers) ops)
    obtain ⟨hp, hs, -⟩ := create_ok hr
    have hstart : Recorded r := ⟨by simp [hp, hasHost], by simp [hs]⟩
    rw [hd] at he
    have hlive := (steps_recorded (alive_create hr) hstart
      ((operateAll_steps _ r ops).trans hl)).live entry he
    constructor
    · rintro rfl
      cases hlive
    · rintro rfl
      cases hlive

theorem strings_alive_recorded :
    let ops : List Operation := [.startup, .request [.evaluate "1+1"] .forgotten, .shutdown]
    ∃ l, (create (⟨{}, []⟩ : Traced Recording.State) .default).1 = .ok l ∧
      (∀ x ∈ ((l.operateAll (Recording.engine {}).traced ops).drop
          (Recording.engine {}).traced).engine.exchanges,
        x.host.arena.isReleased = false ∧
          x.host.read x.host.descriptor.name = some (Utf8.encode moduleName)) ∧
      (l.operateAll (Recording.engine {}).traced ops).host.arena.isReleased = false := by
  intro ops
  have hc : ∃ l, (create (⟨{}, []⟩ : Traced Recording.State) .default).1 = .ok l ∧
      (l.operateAll (Recording.engine {}).traced ops).phase = .requestActive := ⟨_, rfl, rfl⟩
  obtain ⟨l, hl, hp⟩ := hc
  obtain ⟨hlive, hreleased, -⟩ := strings_alive (Recording.engine {}) {} .default l hl ops
  refine ⟨l, hl, fun x hx => ?_, ?_⟩
  · obtain ⟨front, back, hx⟩ := List.append_of_mem hx
    exact ⟨(hlive front x back hx).1, (hlive front x back hx).2.1⟩
  · rw [hp] at hreleased
    simpa using hreleased

end Lifecycle

end ScriptHost

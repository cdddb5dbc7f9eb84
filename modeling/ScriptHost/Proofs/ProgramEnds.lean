import ScriptHost.Program
import ScriptHost.Proofs.LoopSteps
import ScriptHost.Proofs.ReplCalls

/-!
# How a program ends

The program has many ways out. Whichever it takes, a runtime that was started is shut down, and
the lines of the session are saved. This holds for every settings file, loader, history and line
editor, and for a runtime that answers as it likes at every call and changes files as it likes.

**Prepared (`Prepared`).** The settings load, the library is found and opened, it exports every
entry point, and the name of inline code has no NUL. Before that nothing of the runtime is called.

**Started (`Started`).** The runtime answered its module startup with success. The loop runs
then, and its end is reported by the reading that stopped it (`reported`).

**The files.** The history is read when the runtime has been started, and saved when the loop has
stopped. What is there at these times depends on the state that the runtime is then in, which the
exchanges so far tell (`Lifecycle.stateAfter`).

**Results.**
* `prepare_ok_iff`: what preparing needs.
* `run_unprepared`, `run_prepared`: a run fails for its preparation, or goes on to the startup.
* `converse_eq`: a started runtime serves the lines, the history is saved, and the runtime is
  shut down, whatever became of the save.
* `launched`: the runtime is refused and nothing read or saved (`Refused`), or it serves the lines
  and is shut down once (`Served`).
* `run_ends`: every way out, and which of them has exit status 0.
-/
namespace ScriptHost

theorem Library.bindExports_ok_iff (path : Bytes) (exports? : Option (List String)) :
    (bindExports path exports?).1 = .ok () ↔
      ∃ exports, exports? = some exports ∧ ∀ symbol ∈ entryPoints, symbol ∈ exports := by
  cases exports? with
  | none => exact ⟨nofun, by simp⟩
  | some exports =>
    unfold bindExports
    dsimp only
    cases hm : entryPoints.find? fun symbol => !exports.contains symbol with
    | none =>
      have hall := List.find?_eq_none.1 hm
      exact ⟨fun _ => ⟨exports, rfl, by simpa using hall⟩, fun _ => rfl⟩
    | some symbol =>
      have hs : symbol ∉ exports := by simpa using List.find?_some hm
      refine ⟨nofun, ?_⟩
      rintro ⟨_, hx, hall⟩
      cases hx
      exact absurd (hall symbol (List.mem_of_find?_eq_some hm)) hs

/-- Neither of the two calls that undo a startup. -/
def Call.IsServing (c : Call) : Prop :=
  c ≠ .moduleShutdown ∧ c ≠ .unregisterHost

/-- The calls for a line undo nothing. -/
theorem LineBody.isServing {name : Bytes} {fs : FileSystem} {line : String} {xs : List Answered}
    (h : LineBody name fs line xs) : ∀ x ∈ xs, x.1.IsServing := by
  cases h with
  | script => simp [Call.IsServing]
  | inline _ hm => cases hm <;> simp [Call.IsServing]

theorem LineCalls.isServing {σ : Type} {view : σ → FileSystem} {name : Bytes} {line : String}
    {xs : List (Exchange σ)} (h : LineCalls view name line xs) : ∀ x ∈ xs, x.call.IsServing := by
  cases h with
  | @refused x status hx =>
    have hc : x.call = .openRequest := congrArg Sigma.fst hx
    simp [hc, Call.IsServing]
  | @opened x y body hx hb hy =>
    have hc : x.call = .openRequest := congrArg Sigma.fst hx
    have hd : y.call = .closeRequest := congrArg Sigma.fst hy
    have hbody : ∀ z ∈ body, z.call.IsServing := fun z hz =>
      hb.isServing _ (List.mem_map_of_mem hz)
    intro z hz
    simp only [List.mem_append, List.mem_singleton] at hz
    rcases hz with (rfl | hz) | rfl
    · simp [hc, Call.IsServing]
    · exact hbody z hz
    · simp [hd, Call.IsServing]

theorem isServing_flatten {σ : Type} {view : σ → FileSystem} {name : Bytes} {lines : List String}
    {blocks : List (List (Exchange σ))} (h : List.Forall₂ (LineCalls view name) lines blocks) :
    ∀ x ∈ blocks.flatten, x.call.IsServing := by
  induction h with
  | nil => simp
  | cons hl _ ih =>
    intro x hx
    rw [List.flatten_cons, List.mem_append] at hx
    exact hx.elim (hl.isServing x) (ih x)

namespace Program

variable {σ : Type}

/-! ## Preparation -/

/-- Everything that has to be there before the runtime is called. `files` are those that the
search for the library left. -/
structure Prepared (outside : Outside σ) (inv : Invocation) (settings : Settings)
    (files : FileSystem) : Prop where
  loads : (Settings.load inv.files (Settings.pathFor inv.exe)).1 = .ok settings
  library : ∃ path events exports, resolveLibrary inv settings = (.ok path, files, events) ∧
    outside.exports? files path = some exports ∧ ∀ symbol ∈ Library.entryPoints, symbol ∈ exports
  evalName : 0 ∉ Utf8.encode settings.evalName

/-- What preparing needs: all but a name for inline code that can be interned. -/
theorem prepare_ok_iff {outside : Outside σ} {inv : Invocation} {settings : Settings}
    {files : FileSystem} :
    (∃ events, prepare outside inv = (.ok settings, files, events)) ∧
        0 ∉ Utf8.encode settings.evalName ↔ Prepared outside inv settings files := by
  unfold prepare
  constructor
  · rintro ⟨⟨events, hp⟩, h0⟩
    split at hp
    · cases hp
    rename_i loaded _ hl
    split at hp
    · cases hp
    rename_i path found more hr
    have hb := Library.bindExports_ok_iff path (outside.exports? found path)
    split at hp
    · cases hp
    rename_i last hk
    rw [hk] at hb
    obtain ⟨exports, he, hall⟩ := hb.1 rfl
    cases hp
    exact ⟨by rw [hl], ⟨path, more, exports, hr, he, hall⟩, h0⟩
  · rintro ⟨hl, ⟨path, more, exports, hr, he, hall⟩, h0⟩
    refine ⟨?_, h0⟩
    have hb := (Library.bindExports_ok_iff path _).2 ⟨exports, he, hall⟩
    cases hx : Settings.load inv.files (Settings.pathFor inv.exe) with
    | mk result events =>
      rw [hx] at hl
      subst hl
      cases hk : Library.bindExports path (outside.exports? files path) with
      | mk bound last =>
        rw [hk] at hb
        subst hb
        exact ⟨events ++ more ++ last, by simp only [hr, hk]⟩

/-! ## The two halves of a run -/

/-- A run that is not prepared fails, and that is all. -/
theorem run_unprepared (outside : Outside σ) (e : Engine σ) (s : σ) {inv : Invocation}
    (h : ¬ ∃ settings files, Prepared outside inv settings files) :
    ∃ failure files events,
      runIn outside e s inv = stop outside s failure files events := by
  unfold runIn
  split
  · exact ⟨_, _, _, rfl⟩
  rename_i settings files events hp
  dsimp only
  split
  · exact ⟨_, _, _, rfl⟩
  rename_i l more hc
  -- A lifecycle was created, so the name of inline code has no NUL.
  have hs := (Lifecycle.create_ok (by rw [hc])).2.2
  exact absurd ⟨settings, files, prepare_ok_iff.1 ⟨⟨events, hp⟩, hs.evalName.1⟩⟩ h

/-- The rest of a run whose lifecycle is not started yet. -/
def launch (outside : Outside σ) (e : Engine σ) (inv : Invocation) (settings : Settings)
    (files : FileSystem) (l : Lifecycle σ) : Outcome σ :=
  match l.startup e with
  | (.error cause, l) => finish e (.error (.startup cause)) { files } l outside.readings
  | (.ok (), l) => converse outside e inv settings files l

/-- A run that is prepared starts a fresh lifecycle. -/
theorem run_prepared (outside : Outside σ) (e : Engine σ) (s : σ) {inv : Invocation}
    {settings : Settings} {files : FileSystem} (h : Prepared outside inv settings files) :
    ∃ l events, (Lifecycle.create s settings.config).1 = .ok l ∧
      runIn outside e s inv = launch outside e inv settings files (reporting l events) := by
  obtain ⟨⟨events, hp⟩, h0⟩ := prepare_ok_iff.2 h
  unfold runIn
  rw [hp]
  dsimp only
  cases hc : Lifecycle.create s settings.config with
  | mk result more =>
    cases result with
    | error cause =>
      have hr : (Lifecycle.create s settings.config).1 = .error cause := by rw [hc]
      exact absurd (Lifecycle.create_refused hr) h0
    | ok l => exact ⟨l, .announced version :: events, rfl, rfl⟩

/-! ## A runtime that was started -/

/-- What the program reports when the loop stopped at a reading. -/
def reported : Reading → Except Failure Unit
  | .failed reason => .error (.reading reason)
  | .line _ | .endOfInput | .interrupted => .ok ()

/-- The history that is found among `files`. -/
def resumed (inv : Invocation) (settings : Settings) (files : FileSystem) :
    History × List Event :=
  History.resume files (History.pathFor inv.exe settings.historySuffix)

/-- The history found among `files`, with the lines read that are worth keeping. -/
def kept (outside : Outside σ) (inv : Invocation) (settings : Settings) (files : FileSystem) :
    History :=
  let history := (resumed inv settings files).1
  { history with
    entries := history.entries ++ Repl.worthKeeping (Reading.handled outside.readings) }

section
variable (outside : Outside σ) (e : Engine σ) (inv : Invocation) (settings : Settings)
  (files : FileSystem) (l : Lifecycle σ)

/-- The loop that the program runs. -/
def opened : Repl σ :=
  let found := resumed inv settings (outside.view files l.engine)
  { lifecycle := reporting l found.2
    history := found.1
    prompt := settings.prompt
    showsPrompt := outside.showsPrompt }

/-- The loop when it has stopped. -/
def served : Repl σ :=
  ((opened outside inv settings files l).run e (outside.view files) outside.readings).2.2

/-- What became of the save that follows. -/
def saved : Except History.Error Unit × Store :=
  let repl := served outside e inv settings files l
  Store.save { files := outside.view files repl.lifecycle.engine } repl.history

/-- The lifecycle that is shut down in the end. -/
def concluded : Lifecycle σ :=
  noting ((served outside e inv settings files l).lifecycle.log
      (.loopFinished (Reading.last outside.readings).stopReason))
    (saved outside e inv settings files l).1

end

@[simp] theorem phase_noting (l : Lifecycle σ) (result : Except History.Error Unit) :
    (noting l result).phase = l.phase := by
  cases result <;> rfl

@[simp] theorem engine_noting (l : Lifecycle σ) (result : Except History.Error Unit) :
    (noting l result).engine = l.engine := by
  cases result <;> rfl

theorem engine_concluded (outside : Outside σ) (e : Engine σ) (inv : Invocation)
    (settings : Settings) (files : FileSystem) (l : Lifecycle σ) :
    (concluded outside e inv settings files l).engine =
      (served outside e inv settings files l).lifecycle.engine :=
  engine_noting _ _

theorem isReady_concluded (outside : Outside σ) (e : Engine σ) (inv : Invocation)
    (settings : Settings) (files : FileSystem) {l : Lifecycle σ}
    (h : Lifecycle.isReady l.phase = true) :
    Lifecycle.isReady (concluded outside e inv settings files l).phase = true := by
  have ho : Lifecycle.isReady (opened outside inv settings files l).lifecycle.phase = true := h
  rw [concluded, phase_noting]
  exact Repl.isReady_run e (outside.view files) ho outside.readings

/-- A started runtime serves the lines; then the history is saved and the runtime shut down,
whatever became of the save. -/
theorem converse_eq (outside : Outside σ) (e : Engine σ) (inv : Invocation) (settings : Settings)
    (files : FileSystem) {l : Lifecycle σ} (h : Lifecycle.isReady l.phase = true) :
    converse outside e inv settings files l =
      finish e (reported (Reading.last outside.readings))
        (saved outside e inv settings files l).2
        ((concluded outside e inv settings files l).shutdown e).2
        (Reading.unread outside.readings) := by
  have ho : Lifecycle.isReady (opened outside inv settings files l).lifecycle.phase = true := h
  have hd := isReady_concluded outside e inv settings files h
  have hs := Lifecycle.shutdown_eq e _ (Lifecycle.not_refusesShutdown_of_ready hd)
  obtain ⟨r', hr, -⟩ := Repl.run_reads e (outside.view files) ho outside.readings
  have hv : served outside e inv settings files l = r' := congrArg (·.2.2) hr
  rw [hs]
  simp only [concluded, saved, hv] at hs ⊢
  unfold converse
  simp only [opened, resumed] at hr
  simp only [hr, hs]
  cases Reading.last outside.readings <;> rfl

/-! ## What a run leaves -/

/-- The same outside, around the traced engine. -/
def Outside.traced (outside : Outside σ) : Outside (Traced σ) where
  exports? := outside.exports?
  readings := outside.readings
  showsPrompt := outside.showsPrompt
  view files t := outside.view files t.state

theorem prepared_traced_iff {outside : Outside σ} {inv : Invocation} {settings : Settings}
    {files : FileSystem} :
    Prepared outside.traced inv settings files ↔ Prepared outside inv settings files :=
  ⟨fun h => ⟨h.loads, h.library, h.evalName⟩, fun h => ⟨h.loads, h.library, h.evalName⟩⟩

/-- The runtime answered its module startup with success. -/
def Started (o : Outcome (Traced σ)) : Prop :=
  ⟨.moduleStartup, successStatus⟩ ∈ o.engine.answered

/-- The end of a run whose runtime did not start: nothing was read or saved, and the host was
unregistered last. -/
structure Refused (outside : Outside σ) (settings : Settings) (files : FileSystem)
    (o : Outcome (Traced σ)) : Prop where
  result : o.result = .error (.startup .moduleFailed)
  unread : o.unread = outside.readings
  saves : o.saves = []
  files : o.files = files
  answered : ∃ xs, Lifecycle.ModuleRefused settings.config.iniEntries xs ∧
    o.engine.answered = Lifecycle.arming ++ xs ++ [⟨.unregisterHost, ()⟩]

/-- The end of a run whose runtime started: the history that was found then was saved once, after
the exchanges `start` and `serving`, and the last two calls are those that undo the startup, which
were not made before. -/
structure Served (outside : Outside σ) (s : σ) (inv : Invocation) (settings : Settings)
    (files : FileSystem) (start serving : List (Exchange σ)) (o : Outcome (Traced σ)) : Prop where
  result : o.result = reported (Reading.last outside.readings)
  unread : o.unread = Reading.unread outside.readings
  starts : start.map (·.answered) = Lifecycle.starting
  serves : ∀ x ∈ serving, x.call.IsServing
  ends : ∃ ending, o.engine.exchanges = start ++ serving ++ ending ∧
    ending.map (·.answered) = [⟨.moduleShutdown, ()⟩, ⟨.unregisterHost, ()⟩]
  saves : o.saves =
    [kept outside inv settings (outside.view files (Lifecycle.stateAfter s start))]
  files : o.files =
    ((kept outside inv settings (outside.view files (Lifecycle.stateAfter s start))).save
      (outside.view files (Lifecycle.stateAfter s (start ++ serving)))).2.2

section
variable {outside : Outside σ} {e : Engine σ} {s : σ} {inv : Invocation} {settings : Settings}
  {files : FileSystem} {l : Lifecycle (Traced σ)} {o : Outcome (Traced σ)}

theorem Refused.not_started (h : Refused outside settings files o) : ¬ Started o := by
  obtain ⟨xs, hx, ha⟩ := h.answered
  have hxs : ⟨.moduleStartup, successStatus⟩ ∉ xs := by
    cases hx with
    | nul => simp
    | status _ hne => simpa using Ne.symm hne
  simp [Started, ha, Lifecycle.arming, hxs]

theorem Served.started {start serving : List (Exchange σ)}
    (h : Served outside s inv settings files start serving o) : Started o := by
  obtain ⟨ending, hx, -⟩ := h.ends
  have hs : ⟨.moduleStartup, successStatus⟩ ∈ start.map (·.answered) := by
    rw [h.starts]
    simp [Lifecycle.starting]
  simp only [Started, Traced.answered, hx, List.map_append, List.mem_append]
  exact .inl (.inl hs)

/-! ## How it comes about -/

/-- The lifecycle is alive, and its engine is in the state that the exchanges so far tell. -/
structure Sound (e : Engine σ) (s : σ) (config : Host.Config) (l : Lifecycle (Traced σ)) :
    Prop where
  alive : l.Alive config
  tracks : l.Tracks e s config

theorem Sound.reporting (h : Sound e s settings.config l) (events : List Event) :
    Sound e s settings.config (reporting l events) :=
  ⟨⟨fun hp => (h.alive.shows hp).console _, h.alive.released⟩,
    h.tracks.state, h.tracks.live, h.tracks.ini⟩

theorem sound_create (hc : (Lifecycle.create ⟨s, []⟩ settings.config).1 = .ok l) :
    Sound e s settings.config l :=
  ⟨Lifecycle.alive_create hc, Lifecycle.tracks_create hc⟩

/-- The loop keeps the lines, calls the runtime to serve them, and leaves it in the state that
the exchanges tell. -/
theorem served_keeps (outside : Outside σ) (inv : Invocation) (files : FileSystem)
    (hl : Sound e s settings.config l) (h : Lifecycle.isReady l.phase = true) :
    let r := served outside.traced e.traced inv settings files l
    r.history = kept outside inv settings (outside.view files l.engine.state) ∧
      r.lifecycle.engine.state = Lifecycle.stateAfter s r.lifecycle.engine.exchanges ∧
      ∃ xs, r.lifecycle.engine.exchanges = l.engine.exchanges ++ xs ∧
        ∀ x ∈ xs, x.call.IsServing := by
  intro r
  have ho : Lifecycle.isReady (opened outside.traced inv settings files l).lifecycle.phase = true :=
    h
  have hso : Sound e s settings.config (opened outside.traced inv settings files l).lifecycle :=
    hl.reporting _
  have hk := Repl.run_keeps_lines e.traced (outside.traced.view files) ho outside.readings
  obtain ⟨blocks, hf, hb, -⟩ := Repl.run_makes_calls (e := e) (outside.view files)
    (hso.alive.shows (Lifecycle.ne_done_of_ready ho)).serves ho outside.readings
  have ht := (Lifecycle.turns_tracks hso.alive hso.tracks
    (Repl.run_turns e.traced (outside.traced.view files) _ outside.readings)).2
  exact ⟨hk.history, ht.state, _, hf.exchanges, isServing_flatten hb⟩

/-- A runtime that was started serves the lines and is shut down. -/
theorem served_of_started (outside : Outside σ) (inv : Invocation) (files : FileSystem)
    (hl : Sound e s settings.config l) (h : Lifecycle.isReady l.phase = true)
    (hs : l.engine.answered = Lifecycle.starting) :
    ∃ serving, Served outside s inv settings files l.engine.exchanges serving
      (converse outside.traced e.traced inv settings files l) := by
  obtain ⟨hk, hstate, serving, hx, hserving⟩ := served_keeps outside inv files hl h
  have hready := isReady_concluded outside.traced e.traced inv settings files h
  have hdone := Lifecycle.not_refusesShutdown_of_ready hready
  obtain ⟨ending, hf, hending⟩ :=
    Lifecycle.undo_calls e (concluded outside.traced e.traced inv settings files l)
  have hends := hf.exchanges
  rw [engine_concluded, hx] at hends
  rw [Lifecycle.undoing_ready hready] at hending
  rw [hx] at hstate
  rw [hl.tracks.state] at hk
  refine ⟨serving, ?_⟩
  rw [converse_eq outside.traced e.traced inv settings files h, Lifecycle.shutdown_eq _ _ hdone]
  exact {
    result := rfl
    unread := rfl
    starts := hs
    serves := hserving
    -- The shutdown left nothing to undo, so going out of use adds no call.
    ends := ⟨ending, hends, hending⟩
    saves := congrArg (fun history => [history]) hk
    files := by
      rw [← hk, ← hstate]
      rfl }

/-- A fresh lifecycle is refused by its runtime, or serves the lines. -/
theorem launched (outside : Outside σ) (inv : Invocation) (files : FileSystem)
    (hl : Sound e s settings.config l) (hp : l.phase = .unstarted) (he : l.engine.answered = []) :
    Refused outside settings files
        (launch outside.traced e.traced inv settings files l) ∨
      ∃ start serving, Served outside s inv settings files start serving
        (launch outside.traced e.traced inv settings files l) := by
  have hr := Lifecycle.startup_result e.traced l hp
  have hserves := (hl.alive.shows (by simp [hp])).serves
  obtain ⟨xs, hf, hcalls⟩ := Lifecycle.startup_calls (e := e) hserves hp
  have hsteps := Lifecycle.startup_steps e.traced hp
  have hl₁ : Sound e s settings.config (l.startup e.traced).2 :=
    ⟨Lifecycle.steps_alive hl.alive hsteps, Lifecycle.steps_tracks hl.alive hl.tracks hsteps⟩
  have ha := hf.answered
  rw [he, List.nil_append] at ha
  unfold launch
  cases hst : l.startup e.traced with
  | mk result l₁ =>
    rw [hst] at hr hcalls ha hl₁
    rcases hr with ⟨rfl, hq⟩ | ⟨rfl, hq⟩
    · obtain ⟨-, ys, hy, hm⟩ | ⟨hn, -⟩ := hcalls
      · refine .inl ⟨rfl, rfl, rfl, rfl, ys, hm, ?_⟩
        change (l₁.drop e.traced).engine.answered = _
        rw [Lifecycle.drop_answered, ha, hy, hq]
        rfl
      · rw [hq] at hn
        cases hn
    · obtain ⟨hn, -⟩ | ⟨-, -, hy⟩ := hcalls
      · rw [hq] at hn
        cases hn
      · have hready : Lifecycle.isReady l₁.phase = true := by rw [hq]; rfl
        have hs : l₁.engine.answered = Lifecycle.starting := ha.trans hy
        exact .inr ⟨_, served_of_started outside inv files hl₁ hready hs⟩

end

/-! ## Every way out -/

theorem reported_ok_iff (last : Reading) :
    reported last = .ok () ↔ ∀ reason, last ≠ .failed reason := by
  cases last <;> simp [reported]

theorem exitStatus_eq_zero_iff {o : Outcome σ} : o.exitStatus = 0 ↔ o.result = .ok () := by
  unfold Outcome.exitStatus
  cases o.result <;> simp

/-- **How a program ends.** The runtime is called only when everything was prepared. A runtime
that does not start is unregistered, and nothing was read or saved. One that started serves the
lines as far as the loop goes; the history that was found at the start, with those worth keeping,
is saved once, and the last two calls shut the runtime down, whatever became of the save. The exit
status is 0 in the last case only, if the loop was not stopped by a failed reading. This holds with
any loader and line editor, and with a runtime that changes files; `run` is the case of a pipe
(`Outside.ofPipe`). -/
theorem run_ends (outside : Outside σ) (e : Engine σ) (s : σ) (inv : Invocation) :
    let o := runIn outside.traced e.traced ⟨s, []⟩ inv
    (o.engine.answered ≠ [] ↔ ∃ settings files, Prepared outside inv settings files) ∧
      (∀ settings files, Prepared outside inv settings files →
        ¬ Started o ∧ Refused outside settings files o ∨
          Started o ∧ ∃ start serving, Served outside s inv settings files start serving o) ∧
      (o.exitStatus = 0 ↔
        Started o ∧ ∀ reason, Reading.last outside.readings ≠ .failed reason) := by
  intro o
  have hc : ∀ settings files, Prepared outside inv settings files →
      ¬ Started o ∧ Refused outside settings files o ∨
        Started o ∧ ∃ start serving, Served outside s inv settings files start serving o := by
    intro settings files hp
    obtain ⟨l, events, hl, ho⟩ :=
      run_prepared outside.traced e.traced ⟨s, []⟩ (prepared_traced_iff.2 hp)
    obtain ⟨hu, he, -⟩ := Lifecycle.create_ok hl
    have hr := launched outside inv files
      ((sound_create (e := e) hl).reporting events) hu (congrArg Traced.answered he)
    rw [← ho] at hr
    exact hr.imp (fun h => ⟨h.not_started, h⟩) fun ⟨start, serving, h⟩ =>
      ⟨h.started, start, serving, h⟩
  by_cases h : ∃ settings files, Prepared outside inv settings files
  · have ⟨settings, files, hp⟩ := h
    rw [exitStatus_eq_zero_iff]
    rcases hc settings files hp with ⟨hn, hr⟩ | ⟨hs, start, serving, hr⟩
    · obtain ⟨xs, -, ha⟩ := hr.answered
      exact ⟨iff_of_true (by simp [ha]) h, hc, iff_of_false (by simp [hr.result]) (hn ·.1)⟩
    · refine ⟨iff_of_true (List.ne_nil_of_mem hs) h, hc, ?_⟩
      rw [hr.result, reported_ok_iff, and_iff_right hs]
  · obtain ⟨failure, files, events, ho⟩ :=
      run_unprepared outside.traced e.traced ⟨s, []⟩ (by simpa only [prepared_traced_iff] using h)
    have ha : o.engine.answered = [] := congrArg (·.engine.answered) ho
    have hr : o.result = .error failure := congrArg (·.result) ho
    refine ⟨iff_of_false (not_not_intro ha) h, hc, ?_⟩
    rw [exitStatus_eq_zero_iff, hr]
    exact iff_of_false nofun fun hs => List.ne_nil_of_mem hs.1 ha

end Program

end ScriptHost

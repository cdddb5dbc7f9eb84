import ScriptHost.Proofs.ArenaHandles
import ScriptHost.Proofs.IniLines
import ScriptHost.Proofs.LoopSteps
import ScriptHost.Proofs.TextBytes

/-!
# What becomes of the settings that go to the runtime

Two texts of the settings go to the runtime: the name of inline code and the block of ini entries.
Both are read there as far as the first NUL, so neither may hold one. They are checked at two
places. The name is interned when the lifecycle is created; the block is rendered then too, but
only the `startup` slot interns it.

**NULs in the block.** The option lines have none, and an entry loses nothing but line ends. So the
block holds a NUL exactly when one of the extra entries does (`RuntimeOptions.HasNul`).

**The slot.** The `startup` slot is for the host to run (`Engine.LeavesSlot`). What a runtime would
be given that ran it by itself, at any call, is the same: the whole block, or the refusal to go on
(`Activity.slots`).

**Results.**
* `zero_mem_encode_render_iff`: when the block holds a NUL.
* `create_eq_error_iff`: when a lifecycle is not created, and what is reported.
* `startup_delivers`: the calls and the result of the first startup.
* `config_delivered`: both for settings, and what the runtime reads at every later call.
-/
namespace ScriptHost

/-! ## NULs in the ini block -/

namespace RuntimeOptions

/-- An extra entry holds a NUL. -/
def HasNul (o : RuntimeOptions) : Prop :=
  ∃ entry ∈ o.extra, 0 ∈ Utf8.encode entry

instance (o : RuntimeOptions) : Decidable o.HasNul :=
  inferInstanceAs (Decidable (∃ entry ∈ o.extra, 0 ∈ Utf8.encode entry))

theorem nul_not_mem_optionLines (o : RuntimeOptions) :
    ∀ line ∈ o.optionLines, '\x00' ∉ line.toList := by
  intro line hl hn
  exact absurd (lt_of_mem_optionLines o line hl _ hn) (by decide)

/-- An entry loses nothing but line ends. -/
theorem nul_mem_extraLine_iff (entry : String) :
    '\x00' ∈ (extraLine entry).toList ↔ '\x00' ∈ entry.toList := by
  have hsplit := List.takeWhile_append_dropWhile (p := (· = '\n')) (l := entry.toList.reverse)
  have hends : '\x00' ∉ entry.toList.reverse.takeWhile (· = '\n') := fun h =>
    absurd (List.mem_takeWhile_imp h) (by decide)
  rw [extraLine, String.toList_ofList, List.mem_reverse, ← @List.mem_reverse _ _ entry.toList,
    ← hsplit, List.mem_append]
  simp [hends]

theorem zero_mem_encode_render_iff (o : RuntimeOptions) :
    0 ∈ Utf8.encode o.render ↔ o.HasNul := by
  rw [Utf8.zero_mem_encode_iff, render, Text.toList_unlines]
  simp only [List.mem_flatMap, List.mem_append, List.mem_singleton, List.mem_map,
    HasNul, Utf8.zero_mem_encode_iff]
  constructor
  · rintro ⟨line, hl | ⟨entry, he, rfl⟩, hn | hn⟩
    · exact absurd hn (nul_not_mem_optionLines o line hl)
    · exact absurd hn (by decide)
    · exact ⟨entry, he, (nul_mem_extraLine_iff entry).1 hn⟩
    · exact absurd hn (by decide)
  · rintro ⟨entry, he, hn⟩
    exact ⟨_, Or.inr ⟨entry, he, rfl⟩, Or.inl ((nul_mem_extraLine_iff entry).2 hn)⟩

end RuntimeOptions

/-! ## Creation -/

/-- Only the name of inline code can keep a host from being created. -/
theorem Host.create_eq_error_iff (config : Config) (cause : Arena.Error) :
    (create config).1 = .error cause ↔
      ∃ front back, Utf8.encode config.evalName = front ++ 0 :: back ∧ 0 ∉ front ∧
        cause = .interiorNul front.length := by
  have hm : 0 ∉ Utf8.encode moduleName := by decide
  have hp : 0 ∉ Utf8.encode prettyName := by decide
  obtain ⟨a, ha, -⟩ := Arena.intern_of_no_nul (a := {}) rfl hm
  obtain ⟨-, hra, -⟩ := Arena.intern_of_ok ha
  obtain ⟨b, hb, -⟩ := Arena.intern_of_no_nul hra hp
  obtain ⟨-, hrb, -⟩ := Arena.intern_of_ok hb
  rw [← Arena.intern_eq_error_iff hrb]
  simp only [create, ha, hb]
  cases b.intern config.evalName with
  | mk result c => cases result <;> simp

theorem Lifecycle.create_eq_error_iff {σ : Type} (engine : σ) (config : Host.Config)
    (cause : Error) :
    (create engine config).1 = .error cause ↔
      ∃ front back, Utf8.encode config.evalName = front ++ 0 :: back ∧ 0 ∉ front ∧
        cause = .arena (.interiorNul front.length) := by
  have hh : (create engine config).1 = .error cause ↔
      ∃ e, (Host.create config).1 = .error e ∧ cause = .arena e := by
    unfold create
    cases Host.create config with
    | mk result events => cases result <;> simp [eq_comm]
  simp only [hh, Host.create_eq_error_iff]
  constructor
  · rintro ⟨e, ⟨front, back, he, hf, rfl⟩, rfl⟩
    exact ⟨front, back, he, hf, rfl⟩
  · rintro ⟨front, back, he, hf, rfl⟩
    exact ⟨_, ⟨front, back, he, hf, rfl⟩, rfl⟩

/-! ## The slot -/

/-- What the `startup` slot gives for a block: the block, unless it holds a NUL. -/
def slotResult (iniEntries : String) : Option Bytes :=
  if 0 ∈ Utf8.encode iniEntries then none else some (Utf8.encode iniEntries)

/-- What a runtime is given in the course of an activity, each time it runs the `startup` slot. -/
def Activity.slots {α : Type} : Activity α → Host → List (Option Bytes)
  | .done _, _ => []
  | .call hook next, h =>
    let rest := (next (h.answer hook).1).slots (h.answer hook).2
    if hook = .startup then h.exposeIni.1 :: rest else rest

namespace Host

variable {h : Host} {config : Config}

/-- The slot points the runtime to the whole block, or refuses. -/
theorem exposeIni_of_shows (hs : h.Shows config) :
    h.exposeIni.1 = slotResult config.iniEntries ∧
      ∀ ini, h.exposeIni.1 = some ini → h.exposeIni.2.iniEntries = some ini := by
  have hread : ∀ ini, h.exposeIni.1 = some ini → h.exposeIni.2.iniEntries = some ini := by
    unfold exposeIni
    cases h.arena.intern h.iniText with
    | mk result a => cases result <;> simp
  refine ⟨?_, hread⟩
  rcases (exposeIni_cases h).2 with ⟨⟨ini, hx⟩, h0⟩ | ⟨hx, hn⟩
  · have hi := (shows_exposeIni hs).iniEntries_eq
    rw [isSome_exposeIni, hx, hread ini hx, Option.isSome_some, Bool.or_true, if_pos rfl] at hi
    rw [hs.serves.iniText] at h0
    rw [hx, hi, slotResult, if_neg h0]
  · have h0 := hn.resolve_left (by simp [hs.serves.isReleased])
    rw [hs.serves.iniText] at h0
    rw [hx, slotResult, if_pos h0]

theorem slots_of_shows {α : Type} (activity : Activity α) (hs : h.Shows config) :
    ∀ ini ∈ activity.slots h, ini = slotResult config.iniEntries := by
  induction activity generalizing h with
  | done a => simp [Activity.slots]
  | call hook next ih =>
    have hrest := ih (h.answer hook).1 (shows_answer hs hook)
    rw [Activity.slots]
    split
    · rw [List.forall_mem_cons]
      exact ⟨(exposeIni_of_shows hs).1, hrest⟩
    · exact hrest

end Host

/-! ## Startup, and every later call -/

namespace Lifecycle

section
variable {σ : Type} {e : Engine σ} {l : Lifecycle (Traced σ)} {config : Host.Config}

/-- Module startup is called once, unless the block holds a NUL, and its answer decides. -/
theorem startup_delivers (hs : l.host.Serves config) (hp : l.phase = .unstarted) :
    ∃ status : Int,
      (l.startup e.traced).2.engine.answered = l.engine.answered ++ (arming ++
        if 0 ∈ Utf8.encode config.iniEntries then [] else [⟨.moduleStartup, status⟩]) ∧
      ((l.startup e.traced).1, (l.startup e.traced).2.phase) =
        if 0 ∉ Utf8.encode config.iniEntries ∧ status = successStatus then
          (.ok (), .globalStartupDone)
        else (.error .moduleFailed, .hostTableRegistered) := by
  obtain ⟨xs, hf, hx⟩ := startup_calls (e := e) hs hp
  have hr := startup_result e.traced l hp
  rw [hf.answered]
  rcases hx with ⟨hq, ys, hxs, hm⟩ | ⟨hq, h0, hxs⟩
  · have hr : (l.startup e.traced).1 = .error .moduleFailed := by
      rw [hq] at hr
      simpa using hr
    rw [hq, hr, hxs]
    cases hm with
    | nul h0 => exact ⟨successStatus, by simp [h0], by simp [h0]⟩
    | @status status h0 hst => exact ⟨status, by simp [h0], by simp [hst]⟩
  · have hr : (l.startup e.traced).1 = .ok () := by
      rw [hq] at hr
      simpa using hr
    exact ⟨successStatus, by simp [hxs, h0], by simp [hq, hr, h0]⟩

end

/-- **Delivery of the settings.** A lifecycle is refused exactly for a NUL in the name of inline
code, with the offset of the first one, and before there is an engine to call. A lifecycle that was
created has called nothing. Its startup calls module startup exactly when no extra entry holds a
NUL, and succeeds exactly when that was called and answered with success; otherwise the module has
failed and the host table stays registered. However the lifecycle is used then, module startup
always finds the whole block behind the descriptor, no call ever finds anything else there, a
runtime that runs the slot by itself is given the whole block or is refused, and code is evaluated
under the configured name. -/
theorem config_delivered {σ : Type} (e : Engine σ) (s : σ) (settings : Settings) :
    (∀ cause, (create (⟨s, []⟩ : Traced σ) settings.config).1 = .error cause ↔
        ∃ front back, Utf8.encode settings.evalName = front ++ 0 :: back ∧ 0 ∉ front ∧
          cause = .arena (.interiorNul front.length)) ∧
      ∀ l, (create (⟨s, []⟩ : Traced σ) settings.config).1 = .ok l →
        l.engine.exchanges = [] ∧
        (∃ status : Int,
          (l.startup e.traced).2.engine.answered =
            (arming ++ if settings.ini.HasNul then [] else [⟨.moduleStartup, status⟩]) ∧
          ((l.startup e.traced).1, (l.startup e.traced).2.phase) =
            if ¬ settings.ini.HasNul ∧ status = successStatus then (.ok (), .globalStartupDone)
            else (.error .moduleFailed, .hostTableRegistered)) ∧
        ∀ uses, ∀ x ∈ ((l.useAll e uses).drop e.traced).engine.exchanges,
          (x.call = .moduleStartup →
            x.host.iniEntries = some (Utf8.encode settings.ini.render)) ∧
          (x.host.iniEntries = none ∨
            x.host.iniEntries = some (Utf8.encode settings.ini.render)) ∧
          (∀ t, ∀ ini ∈ (e.respond x.call x.host t).slots x.host,
            ini = slotResult settings.ini.render) ∧
          ∀ code name, x.call = .evaluate code name → name = Utf8.encode settings.evalName := by
  refine ⟨create_eq_error_iff _ _, fun l hc => ?_⟩
  obtain ⟨hp, he, hs⟩ := create_ok hc
  refine ⟨by rw [he], ?_, fun uses x hx => ?_⟩
  · have hnul : 0 ∈ Utf8.encode settings.config.iniEntries ↔ settings.ini.HasNul :=
      settings.ini.zero_mem_encode_render_iff
    obtain ⟨status, ha, hr⟩ := startup_delivers (e := e) hs hp
    simp only [hnul] at ha hr
    refine ⟨status, ?_, hr⟩
    rw [ha, he]
    rfl
  · obtain ⟨l', hl, hd⟩ := drop_steps e.traced (l.useAll e uses)
    rw [hd] at hx
    obtain ⟨front, back, hx⟩ := List.append_of_mem hx
    have hturns := (useAll_turns l uses).trans hl.turns
    obtain ⟨hshows, hini, hname⟩ :=
      (turns_tracks (alive_create hc) (tracks_create hc) hturns).2.live.live hx
    refine ⟨fun hm => ?_, ?_, fun t => Host.slots_of_shows _ hshows, hname⟩
    · rw [hshows.iniEntries_eq, hini, hm]
      rfl
    · rw [hshows.iniEntries_eq]
      split
      · exact Or.inr rfl
      · exact Or.inl rfl

/-- An entry with a NUL behind its first byte. -/
theorem config_delivered_nul :
    let settings : Settings := { ini := { extra := ["a\x00b"] } }
    ∃ l, (create (⟨{}, []⟩ : Traced Recording.State) settings.config).1 = .ok l ∧
      settings.ini.HasNul ∧
      (l.startup (Recording.engine {}).traced).2.engine.answered = arming ∧
      (l.startup (Recording.engine {}).traced).1 = .error .moduleFailed := by
  intro settings
  have hc : ∃ l, (create (⟨{}, []⟩ : Traced Recording.State) settings.config).1 = .ok l :=
    ⟨_, rfl⟩
  have hn : settings.ini.HasNul := by decide
  obtain ⟨l, hl⟩ := hc
  obtain ⟨-, ⟨status, ha, hr⟩, -⟩ := (config_delivered (Recording.engine {}) {} settings).2 l hl
  rw [if_pos hn] at ha
  rw [if_neg (by simp [hn])] at hr
  exact ⟨l, hl, hn, ha, congrArg Prod.fst hr⟩

end Lifecycle

end ScriptHost

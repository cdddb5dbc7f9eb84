import ScriptHost.Proofs.StringStock

/-!
# What hooks cannot change

A runtime reaches the host through its hooks. Some of the events are reported there: a message
that was printed without its arguments, and ini entries that could not be interned. The number of
strings released at the end tells how often the `startup` slot was run. All other events are the
host's own (`Host.ownEvents`), and whatever a runtime does in between leaves them alone.

A runtime that leaves the `startup` slot to the host does nothing to its memory either. The host
is then a twin of one whose runtime calls no hook at all (`Host.Twin`): they differ by what was
printed, and by reports of messages printed without their arguments.

**Results.**
* `ownEvents_run`: whatever a runtime does, the host's own events stay.
* `twin_run`: a runtime that leaves the slot to the host leaves it a twin of what it was.
* `Twin.log`, `Twin.exposeIni`, `Twin.release`: what the host does keeps twins.
-/
namespace ScriptHost

/-- Events that the hooks of a runtime have no part in. -/
def Event.isOwn : Event → Bool
  | .argumentsNotRead | .iniNotExposed _ | .releasedStrings _ _ => false
  | _ => true

namespace Host

/-! ## The host's own events -/

def ownEvents (h : Host) : List Event :=
  h.console.events.filter Event.isOwn

theorem ownEvents_log (h : Host) (event : Event) :
    (h.log event).ownEvents = h.ownEvents ++ [event].filter Event.isOwn :=
  List.filter_append _ _

theorem ownEvents_exposeIni (h : Host) : h.exposeIni.2.ownEvents = h.ownEvents := by
  unfold exposeIni
  split
  · exact (ownEvents_log _ _).trans (List.append_nil _)
  · rfl

theorem ownEvents_printError (h : Host) (kind : Int) (message : Bytes) :
    (h.printError kind message).ownEvents = h.ownEvents := by
  unfold printError
  dsimp only
  split
  · exact (ownEvents_log h .argumentsNotRead).trans (List.append_nil _)
  · rfl

theorem ownEvents_answer (h : Host) (hook : Hook) : (h.answer hook).2.ownEvents = h.ownEvents := by
  cases hook with
  | startup => exact ownEvents_exposeIni h
  | error kind message => exact ownEvents_printError h kind message
  | _ => rfl

theorem ownEvents_run {α : Type} (activity : Activity α) (h : Host) :
    (activity.run h).2.ownEvents = h.ownEvents := by
  induction activity generalizing h with
  | done a => rfl
  | call hook next ih => exact (ih _ _).trans (ownEvents_answer h hook)

theorem filter_isOwn_releaseEvents (a : Arena) : a.releaseEvents.filter Event.isOwn = [] := by
  unfold Arena.releaseEvents
  split <;> rfl

theorem ownEvents_release (h : Host) : h.release.ownEvents = h.ownEvents := by
  simp [ownEvents, release, Console.logAll, filter_isOwn_releaseEvents]

theorem ownEvents_drop (h : Host) : h.drop.ownEvents = h.ownEvents := by
  unfold drop Arena.dropEvents
  split <;> simp [ownEvents, Console.logAll, filter_isOwn_releaseEvents]

/-! ## Twins -/

/-- The events without the reports of messages printed without their arguments. -/
def plainEvents (h : Host) : List Event :=
  h.console.events.filter (· ≠ .argumentsNotRead)

/-- The same memory, and the same events but for messages printed without their arguments. -/
def Twin (h h' : Host) : Prop :=
  ∃ console, h' = { h with console } ∧ h.plainEvents = h'.plainEvents

theorem Twin.refl (h : Host) : h.Twin h :=
  ⟨h.console, rfl, rfl⟩

theorem Twin.trans {h h' h'' : Host} (t : h.Twin h') (u : h'.Twin h'') : h.Twin h'' := by
  obtain ⟨c, rfl, hc⟩ := t
  obtain ⟨c', rfl, hc'⟩ := u
  exact ⟨c', rfl, hc.trans hc'⟩

theorem twin_printError (h : Host) (kind : Int) (message : Bytes) :
    h.Twin (h.printError kind message) := by
  unfold printError
  dsimp only
  split
  · exact ⟨_, rfl, by simp [plainEvents, log, Console.log, Console.printError]⟩
  · exact ⟨_, rfl, rfl⟩

theorem twin_answer (h : Host) {hook : Hook} (hk : hook ≠ .startup) :
    h.Twin (h.answer hook).2 := by
  cases hook with
  | startup => exact absurd rfl hk
  | error kind message => exact twin_printError h kind message
  | write text | logMessage message kind => exact ⟨_, rfl, rfl⟩
  | _ => exact Twin.refl h

/-- A runtime that leaves the `startup` slot to the host only prints. -/
theorem twin_run {α : Type} {activity : Activity α} (ha : activity.LeavesSlot) (h : Host) :
    h.Twin (activity.run h).2 := by
  induction activity generalizing h with
  | done a => exact Twin.refl h
  | call hook next ih => exact (twin_answer h ha.1).trans (ih _ (ha.2 _) _)

section
variable {h h' : Host} (t : h.Twin h')
include t

theorem Twin.plainEvents : h.plainEvents = h'.plainEvents := by
  obtain ⟨c, rfl, hc⟩ := t
  exact hc

/-- The same reports on both sides. -/
theorem Twin.logAll (events : List Event) :
    { h with console := h.console.logAll events }.Twin
      { h' with console := h'.console.logAll events } := by
  obtain ⟨c, rfl, hc⟩ := t
  refine ⟨_, rfl, ?_⟩
  unfold Host.plainEvents at hc ⊢
  simp only [Console.logAll, List.filter_append, hc]

theorem Twin.log (event : Event) : (h.log event).Twin (h'.log event) :=
  t.logAll [event]

theorem Twin.print (text : String) :
    { h with console := h.console.print text }.Twin
      { h' with console := h'.console.print text } := by
  obtain ⟨c, rfl, hc⟩ := t
  exact ⟨_, rfl, hc⟩

theorem Twin.release : h.release.Twin h'.release := by
  have hr := t.logAll h.arena.releaseEvents
  obtain ⟨c, rfl, -⟩ := t
  obtain ⟨-, -, hc⟩ := hr
  exact ⟨_, rfl, hc⟩

theorem Twin.drop : h.drop.Twin h'.drop := by
  have hr := t.logAll h.arena.dropEvents
  obtain ⟨c, rfl, -⟩ := t
  obtain ⟨-, -, hc⟩ := hr
  exact ⟨_, rfl, hc⟩

theorem Twin.exposeIni : h.exposeIni.2.Twin h'.exposeIni.2 := by
  have hl := fun cause => t.log (.iniNotExposed cause)
  obtain ⟨c, rfl, hc⟩ := t
  unfold Host.exposeIni
  dsimp only
  cases h.arena.intern h.iniText with
  | mk result a =>
    cases result with
    | ok ini => exact ⟨_, rfl, hc⟩
    | error cause =>
      obtain ⟨-, -, hc⟩ := hl cause
      exact ⟨_, rfl, hc⟩

end

end Host

end ScriptHost

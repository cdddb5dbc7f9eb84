import ScriptHost.Proofs.LiveStrings

/-!
# What a runtime's hooks report

The events of a host are a log that only grows. Whatever a runtime does during a call, it adds
remarks to it: the moves of the lifecycle and the release of the strings are reported by the host
alone.

* `Host.Noted h h'`: the log of `h'` is that of `h` with some remarks behind it.
* `noted_answer`, `noted_run`: a hook, and so whatever happens during one call, notes remarks.
* `Noted.filterMap_eq`: what is read off the other events stays the same.
-/
namespace ScriptHost.Host

/-- The log of `h'` is that of `h` with some remarks behind it. -/
def Noted (h h' : Host) : Prop :=
  ∃ remarks, h'.console.events = h.console.events ++ remarks ∧ ∀ e ∈ remarks, e.IsRemark

theorem Noted.refl (h : Host) : h.Noted h :=
  ⟨[], by simp, by simp⟩

theorem Noted.trans {h h' h'' : Host} (a : h.Noted h') (b : h'.Noted h'') : h.Noted h'' := by
  obtain ⟨xs, hx, hxs⟩ := a
  obtain ⟨ys, hy, hys⟩ := b
  refine ⟨xs ++ ys, by rw [hy, hx, List.append_assoc], fun e he => ?_⟩
  exact (List.mem_append.1 he).elim (hxs e) (hys e)

theorem noted_log (h : Host) {event : Event} (he : event.IsRemark) : h.Noted (h.log event) :=
  ⟨[event], rfl, by simpa using he⟩

/-- A log that was not written to. -/
theorem Noted.of_events_eq {h h' : Host} (he : h'.console.events = h.console.events) :
    h.Noted h' :=
  ⟨[], by simp [he], by simp⟩

/-- What is read off the events that are no remarks. -/
theorem Noted.filterMap_eq {α : Type} {f : Event → Option α} {h h' : Host} (hn : h.Noted h')
    (hf : ∀ e : Event, e.IsRemark → f e = none) :
    h'.console.events.filterMap f = h.console.events.filterMap f := by
  obtain ⟨remarks, he, hr⟩ := hn
  have hnone : remarks.filterMap f = [] :=
    List.filterMap_eq_nil_iff.2 fun e hm => hf e (hr e hm)
  rw [he, List.filterMap_append, hnone, List.append_nil]

/-- A host is created with an empty log. -/
theorem console_create {config : Config} {h : Host} (hc : (create config).1 = .ok h) :
    h.console = {} := by
  unfold create at hc
  split at hc
  · cases hc
  split at hc
  · cases hc
  split at hc
  · cases hc
  cases hc
  rfl

theorem noted_printError (h : Host) (kind : Int) (message : Bytes) :
    h.Noted (h.printError kind message) := by
  unfold printError
  dsimp only
  split
  · exact h.noted_log trivial
  · exact .of_events_eq rfl

theorem noted_exposeIni (h : Host) : h.Noted h.exposeIni.2 := by
  unfold exposeIni
  split
  · exact ⟨[_], rfl, by simp [Event.IsRemark]⟩
  · exact .of_events_eq rfl

theorem noted_answer (h : Host) (hook : Hook) : h.Noted (h.answer hook).2 := by
  cases hook with
  | startup => exact h.noted_exposeIni
  | error kind message => exact h.noted_printError kind message
  | _ => exact .of_events_eq rfl

theorem noted_run {α : Type} (activity : Activity α) (h : Host) : h.Noted (activity.run h).2 := by
  induction activity generalizing h with
  | done a => exact .refl h
  | call hook next ih => exact (h.noted_answer hook).trans (ih _ _)

end ScriptHost.Host

namespace ScriptHost.Lifecycle

variable {σ : Type}

/-- A lifecycle is created with a fresh host. -/
theorem host_create {engine : σ} {config : Host.Config} {l : Lifecycle σ}
    (hc : (create engine config).1 = .ok l) : (Host.create config).1 = .ok l.host := by
  unfold create at hc
  split at hc
  · rename_i hh
    cases hc
    rw [hh]
  · cases hc

theorem noted_call (e : Engine σ) (l : Lifecycle σ) (c : Call) :
    l.host.Noted (l.call e c).2.host :=
  Host.noted_run _ _

end ScriptHost.Lifecycle

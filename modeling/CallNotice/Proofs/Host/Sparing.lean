import CallNotice.Host.Step
import CallNotice.Proofs.CallLog.Store
import CallNotice.Proofs.Host.Requests
import CallNotice.Proofs.Notification.Editing

namespace CallNotice

theorem Notifier.refusesRow_composeEvent (notifier : Notifier) (call : Call) (missed : UInt32) :
    (notifier.composeEvent call missed).refusesRow = false := by
  rw [composeEvent]
  split
  · rfl
  · rfl

namespace Host

open Act Journal Scene

def refusals (h : Host) : Nat := h.scene.refusals

theorem refusals_tell (event : LogEvent) (h : Host) :
    (h.tell event).refusals = h.refusals + if event.refusesRow then 1 else 0 :=
  Scene.refusals_tell event h.scene

/-- Neither the call log nor the count has changed, and of the files only those of the outlet. -/
structure SparesLog (h h' : Host) : Prop where
  listeners : h'.listeners = h.listeners
  store : h'.store = h.store
  count : h'.count = h.count
  refusals : h'.refusals = h.refusals
  outlet : Outlet.SameJournals h.outlet h'.outlet
  edited : Edited h.outlet.written h.scene.files h'.scene.files

namespace SparesLog

variable {h h' h'' : Host}

theorem avoids (hspares : SparesLog h h') {here p : List String} (hp : h.outlet.Avoids here p) :
    h'.outlet.Avoids here p := by
  rw [Outlet.avoids_iff, hspares.outlet.journals]
  exact Outlet.avoids_iff.mp hp

theorem files (hspares : SparesLog h h') :
    Files.Spares (h.outlet.Avoids h.scene.files.here) h.scene.files h'.scene.files :=
  hspares.edited.spares fun path hpath _ hp havoids =>
    Outlet.avoids_iff.mp havoids path (Outlet.mem_journals_of_written hpath) hp

theorem same (h : Host) : SparesLog h h := ⟨rfl, rfl, rfl, rfl, ⟨rfl, rfl⟩, .refl⟩

theorem trans (hfirst : SparesLog h h') (hnext : SparesLog h' h'') : SparesLog h h'' := by
  have hedited := hnext.edited
  rw [hfirst.outlet.written] at hedited
  exact ⟨hnext.listeners.trans hfirst.listeners, hnext.store.trans hfirst.store,
    hnext.count.trans hfirst.count, hnext.refusals.trans hfirst.refusals,
    hfirst.outlet.trans hnext.outlet, hfirst.edited.trans hedited⟩

theorem tell {event : LogEvent} (hevent : event.refusesRow = false) (h : Host) :
    SparesLog h (h.tell event) := by
  refine ⟨rfl, rfl, rfl, ?_, ⟨rfl, rfl⟩, .refl⟩
  rw [refusals_tell, hevent]
  rfl

theorem note (text : String) (h : Host) : SparesLog h (h.note text) :=
  ⟨rfl, rfl, rfl, rfl, ⟨rfl, rfl⟩, .refl⟩

theorem ask {act : Act Outlet} {h : Host}
    (hact : Works h.outlet.written LogEvent.AcceptsRows (Outlet.SameJournals h.outlet) act) :
    SparesLog h (h.ask act).2 := by
  obtain ⟨hworked, houtlet⟩ := hact h.scene
  have hrefusals := hworked.refusals
  have hedited := hworked.files
  rw [Host.ask]
  rcases hrun : act.run h.scene with ⟨fault | next, s'⟩
  · rw [hrun] at hrefusals hedited
    exact ⟨rfl, rfl, rfl, hrefusals, ⟨rfl, rfl⟩, hedited⟩
  · rw [hrun] at hrefusals hedited houtlet
    exact ⟨rfl, rfl, rfl, hrefusals, houtlet next rfl, hedited⟩

theorem notify (now : Timestamp) (id : Int32) (n : Notification) (h : Host) :
    SparesLog h (h.notify now id n).2 :=
  ask (h.outlet.works_notify now id n)

theorem cancel (now : Timestamp) (id : Int32) (h : Host) : SparesLog h (h.cancel now id).2 :=
  ask (h.outlet.works_cancel now id)

theorem orTell {failed : String → Fault → LogEvent}
    (hfailed : ∀ name fault, (failed name fault).refusesRow = false)
    {r : Except Fault Unit × Host} (h' : SparesLog h r.2) : SparesLog h (orTell failed r) := by
  rcases r with ⟨fault | _, next⟩
  · exact h'.trans (tell (hfailed next.outlet.name fault) next)
  · exact h'

theorem postNotice (now : Timestamp) (n : Notification) (h : Host) :
    SparesLog h (h.postNotice now n) := by
  rw [postNotice_eq_orTell]
  exact orTell (fun _ _ => rfl) (notify now Notifier.noticeId n h)

theorem withdrawNotice (now : Timestamp) (h : Host) : SparesLog h (h.withdrawNotice now) := by
  rw [withdrawNotice_eq_orTell]
  exact orTell (fun _ _ => rfl) (cancel now Notifier.noticeId h)

theorem tellProbes (what : String) (call : Call) (h : Host) :
    SparesLog h (h.tellProbes what call) := by
  unfold Host.tellProbes
  generalize h.listeners = listeners
  induction listeners generalizing h with
  | nil => exact .same h
  | cons listener listeners ih =>
    cases listener with
    | probe name => exact (note _ h).trans (ih _)
    | notifier => exact ih h
    | recorder => exact ih h

end SparesLog

end Host

end CallNotice

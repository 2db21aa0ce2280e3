import CallNotice.Proofs.CallLog.Store
import CallNotice.Proofs.Files.Bytes
import CallNotice.Proofs.Notification.Journal

namespace CallNotice

open Files Act Journal

namespace Journal

variable {α : Type} {path : String}

/-- Of all files the action changes at most the journal's own, and if it is refused the journal
itself is as it was. -/
structure Cautious (path : String) (x : Act α) : Prop where
  own (s : Scene) (p : List String) (hp : Foreign s.files.here path p) :
    (x.run s).2.files.fileAt? p = s.files.fileAt? p
  refused {s s' : Scene} {fault : Fault} (h : x.run s = (.error fault, s')) :
    s'.files.fileAt? (s.files.place path) = s.files.fileAt? (s.files.place path)
  readable {s s' : Scene} {fault : Fault} (h : x.run s = (.error fault, s')) (bytes : ByteArray)
    (hbytes : s.files.content? path = some bytes) : s'.files.content? path = some bytes

theorem Cautious.of_works {tells : LogEvent → Prop} {Q : α → Prop} {x : Act α}
    (hworks : Works [path] tells Q x)
    (hrefused : ∀ s s' fault, x.run s = (.error fault, s') →
      s'.files.fileAt? (s.files.place path) = s.files.fileAt? (s.files.place path)) :
    Cautious path x := by
  have hedited (s : Scene) : Edited [path] s.files (x.run s).2.files := (hworks s).1.files
  refine ⟨fun s p hp => ?_, hrefused _ _ _, fun {s s' fault} h bytes hbytes => ?_⟩
  · apply (hedited s).fileAt?
    intro path' hpath'
    rwa [List.mem_singleton.mp hpath']
  · have hedited' := hedited s
    rw [h] at hedited'
    exact hedited'.content? (hrefused s s' fault h) hbytes

end Journal

namespace CallLogJournal

variable {path : String} {s s' : Scene} {fault : Fault}

theorem fileAt?_of_update_error {filter : CallLogFilter} {values : CallLogUpdate}
    (h : (update path filter values).run s = (.error fault, s')) :
    s'.files.fileAt? (s.files.place path) = s.files.fileAt? (s.files.place path) := by
  by_cases hholds : s.files.holds path = true
  · have hlocked := fileAt?_lock_self path s
    have hplace := place_lock path path s
    rw [← snd_run_seize] at hlocked hplace
    rw [run_update hholds] at h
    rcases hseize : (seize path).run s with ⟨fault' | u, s₁⟩
    · rw [hseize] at h hlocked
      cases h
      exact hlocked
    · rw [hseize] at h hlocked hplace
      dsimp only at h hlocked hplace
      split at h
      · cases h
      · rcases hreplace : (replace path (((rows path s₁.files).update filter values).map
          CallLogEntry.toJson)).run s₁ with ⟨fault' | u, s₂⟩
        · rw [hreplace] at h
          cases h
          have hreplaced := fileAt?_of_replace_error hreplace
          rw [hplace] at hreplaced
          exact hreplaced.trans hlocked
        · rw [hreplace] at h
          cases h
  · rw [run_update_absent (Bool.eq_false_iff.mpr hholds)] at h
    cases h

theorem cautious_update (path : String) (filter : CallLogFilter) (values : CallLogUpdate) :
    Cautious path (update path filter values) :=
  .of_works (works_update (List.mem_singleton_self path) filter values) fun _ _ _ =>
    fileAt?_of_update_error

end CallLogJournal

namespace NotificationJournal

variable {path : String} {journal next : NotificationJournal} {r : NotificationRecord}
  {s s₁ s₂ s₃ s' : Scene} {fault : Fault} {bytes : ByteArray}

theorem run_compactIfDue_error (h : (compactIfDue journal).run s = (.error fault, s')) : False := by
  unfold compactIfDue at h
  split at h
  · rw [run_bind_of_ok (run_attempt _ s)] at h
    split at h
    · cases h
    · cases h
  · cases h

theorem fileAt?_of_append_error (h : (journal.append r).run s = (.error fault, s')) :
    s'.files.fileAt? (s.files.place journal.path) = s.files.fileAt? (s.files.place journal.path) := by
  have hlocked := fileAt?_lock_self journal.path s
  obtain hlock | ⟨u, s₁, hlock, h⟩ := run_bind_error h
  · rw [hlock] at hlocked
    exact hlocked
  · rw [hlock] at hlocked
    obtain happend | ⟨u, s₂, -, h⟩ := run_bind_error h
    · obtain ⟨-, rfl⟩ := run_onFiles_error happend
      exact hlocked
    · obtain hcompact | ⟨u, s₃, -, h⟩ := run_bind_error h
      · exact (run_compactIfDue_error hcompact).elim
      · cases h

theorem cautious_cancel (now : Timestamp) (id : Int32) (journal : NotificationJournal) :
    Cautious journal.path (journal.cancel now id) :=
  .of_works (works_cancel now id (List.mem_singleton_self _)) fun _ _ _ h =>
    fileAt?_of_append_error (run_record_error h)

end NotificationJournal

section Requests

open CallLogJournal NotificationJournal

end Requests

end CallNotice

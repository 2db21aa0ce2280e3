import CallNotice.Host.Basic

namespace CallNotice.Host

variable {α : Type}

def ask (act : Act Outlet) (h : Host) : Except Fault Unit × Host :=
  match act.run h.scene with
  | (.ok outlet, scene) => (.ok (), { h with outlet, scene })
  | (.error fault, scene) => (.error fault, { h with scene })

def commit (act : Act (α × CallLogStore)) (h : Host) : Except Fault α × Host :=
  match act.run h.scene with
  | (.ok (a, store), scene) => (.ok a, { h with store, scene })
  | (.error fault, scene) => (.error fault, { h with scene })

/-- A request that was refused is only told. -/
def orTell (failed : String → Fault → LogEvent) : Except Fault Unit × Host → Host
  | (.ok _, h) => h
  | (.error fault, h) => h.tell (failed h.outlet.name fault)

def tellResult (done : α → LogEvent) (failed : Fault → LogEvent) : Except Fault α × Host → Host
  | (.ok a, h) => h.tell (done a)
  | (.error fault, h) => h.tell (failed fault)

section Requests

variable (now : Timestamp) (id : Int32) (n : Notification) (h : Host)

theorem notify_eq_ask : h.notify now id n = h.ask (h.outlet.notify now id n) := rfl

theorem cancel_eq_ask : h.cancel now id = h.ask (h.outlet.cancel now id) := rfl

theorem postNotice_eq_orTell :
    h.postNotice now n = orTell .postFailed (h.notify now Notifier.noticeId n) := rfl

theorem withdrawNotice_eq_orTell :
    h.withdrawNotice now = orTell .withdrawFailed (h.cancel now Notifier.noticeId) := rfl

theorem insert_eq_commit (e : CallLogEntry) : h.insert e = h.commit (h.store.insert e) := by
  rw [insert, commit]
  rcases (h.store.insert e).run h.scene with ⟨fault | ⟨id, store⟩, scene⟩ <;> rfl

theorem update_eq_commit (filter : CallLogFilter) (values : CallLogUpdate) :
    h.update filter values = h.commit (h.store.update filter values) := by
  rw [update, commit]
  rcases (h.store.update filter values).run h.scene with ⟨fault | ⟨updated, store⟩, scene⟩ <;> rfl

theorem record_eq_tellResult (call : Call) :
    h.record call = tellResult .callRecorded .recordFailed (h.insert (rowFor call)) := by
  rw [record]
  rcases h.insert (rowFor call) with ⟨fault | id, next⟩ <;> rfl

theorem markRead_eq_tellResult :
    h.markRead = tellResult .markedRead .markReadFailed (h.update .newMissed .markRead) := by
  rw [markRead]
  rcases h.update .newMissed .markRead with ⟨fault | updated, next⟩ <;> rfl

theorem ask_eq (act : Act Outlet) :
    (h.ask act).2 = { h with
      outlet := (act.run h.scene).1.toOption.getD h.outlet
      scene := (act.run h.scene).2 } := by
  rw [ask]
  rcases act.run h.scene with ⟨fault | next, s⟩ <;> rfl

end Requests

variable {h h' : Host} {act : Act (α × CallLogStore)}

theorem commit_ok {a : α} (hrun : h.commit act = (.ok a, h')) :
    ∃ store scene, act.run h.scene = (.ok (a, store), scene) ∧ h' = { h with store, scene } := by
  rw [commit] at hrun
  rcases hact : act.run h.scene with ⟨fault | ⟨a, store⟩, scene⟩
  · rw [hact] at hrun
    cases hrun
  · rw [hact] at hrun
    cases hrun
    exact ⟨store, scene, rfl, rfl⟩

theorem commit_error {fault : Fault} (hrun : h.commit act = (.error fault, h')) :
    ∃ scene, act.run h.scene = (.error fault, scene) ∧ h' = { h with scene } := by
  rw [commit] at hrun
  rcases hact : act.run h.scene with ⟨fault | ⟨a, store⟩, scene⟩
  · rw [hact] at hrun
    cases hrun
    exact ⟨scene, rfl, rfl⟩
  · rw [hact] at hrun
    cases hrun

theorem orTell_eq (failed : String → Fault → LogEvent) (r : Except Fault Unit × Host) :
    ∃ scene, scene.files = r.2.scene.files ∧ orTell failed r = { r.2 with scene } := by
  rcases r with ⟨fault | _, h⟩
  · exact ⟨(h.tell (failed h.outlet.name fault)).scene, rfl, rfl⟩
  · exact ⟨h.scene, rfl, rfl⟩

theorem tellResult_eq (done : α → LogEvent) (failed : Fault → LogEvent)
    (r : Except Fault α × Host) : ∃ event, tellResult done failed r = r.2.tell event := by
  rcases r with ⟨fault | a, h⟩
  · exact ⟨failed fault, rfl⟩
  · exact ⟨done a, rfl⟩

theorem record_eq (call : Call) (h : Host) :
    ∃ event, h.record call = (h.insert (rowFor call)).2.tell event := by
  rw [record_eq_tellResult]
  exact tellResult_eq _ _ _

theorem markRead_eq (h : Host) :
    ∃ event, h.markRead = (h.update .newMissed .markRead).2.tell event := by
  rw [markRead_eq_tellResult]
  exact tellResult_eq _ _ _

end CallNotice.Host

import CallNotice.Proofs.Coupling
import CallNotice.Proofs.Host.Missed
import CallNotice.Proofs.Host.SameLog

namespace CallNotice

open Act Journal

variable {α β : Type}

structure Scene.Unlogged (s t : Scene) : Prop where
  files : s.files = t.files
  notes : s.notes = t.notes

namespace Act

abbrev IgnoresLog (x : Act α) : Prop := Matches Scene.Unlogged (· = ·) x x

theorem seesFiles_unlogged : SeesFiles Scene.Unlogged where
  files h := h.files
  put _ h := ⟨rfl, h.notes⟩
  tell _ h := ⟨h.files, h.notes⟩

namespace IgnoresLog

theorem bind {x : Act α} {f : α → Act β} (hx : IgnoresLog x) (hf : ∀ a, IgnoresLog (f a)) :
    IgnoresLog (x >>= f) := by
  refine Matches.bind hx ?_
  rintro a _ rfl
  exact hf a

theorem onFiles (change : Files → Except Fault Files) : IgnoresLog (onFiles change) :=
  (seesFiles_unlogged.couples_onFiles change).conseq (fun _ _ => id) (fun _ _ _ _ h => ⟨rfl, h⟩)
    fun _ _ => id

theorem readFiles (look : Files → α) : IgnoresLog (readFiles look) :=
  Couples.readFiles fun _ _ h => ⟨congrArg look h.files, h⟩

theorem tell (event : LogEvent) : IgnoresLog (Act.tell event) :=
  Couples.tell event fun _ _ h => ⟨rfl, h.files, h.notes⟩

theorem say (line : String) : IgnoresLog (Act.say line) :=
  fun _ _ h => .ok ⟨rfl, h.files, congrArg (· ++ [line]) h.notes⟩

theorem attempt {x : Act α} (hx : IgnoresLog x) : IgnoresLog x.attempt := by
  refine (Matches.attempt hx).conseq (fun _ _ h => h) ?_ fun _ _ h => h
  rintro result result' s t ⟨hanswers, h⟩
  refine ⟨?_, h⟩
  cases hanswers with
  | ok hsame => rw [hsame]
  | error fault => rfl

theorem mapM {f : α → Act β} (hf : ∀ a, IgnoresLog (f a)) (as : List α) :
    IgnoresLog (as.mapM f) := by
  have hsame : List.Forall₂ (· = ·) as as := List.forall₂_same.mpr fun _ _ => rfl
  have hmap : Matches Scene.Unlogged (List.Forall₂ (· = ·)) (as.mapM f) (as.mapM f) := by
    apply Matches.mapM hsame
    rintro a _ rfl
    exact hf a
  rw [List.forall₂_eq_eq_eq] at hmap
  exact hmap

end IgnoresLog

theorem IgnoresLog.lock (path : String) : IgnoresLog (lock path) :=
  (seesFiles_unlogged.isUniform.couples_lock path).conseq (fun _ _ => id)
    (fun _ _ _ _ h => ⟨rfl, h⟩) fun _ _ => id

theorem IgnoresLog.seize (path : String) : IgnoresLog (seize path) :=
  bind (lock path) fun _ => onFiles _

theorem IgnoresLog.replace (path : String) (js : List Json) : IgnoresLog (replace path js) :=
  bind (onFiles _) fun _ => onFiles _

end Act

namespace NotificationJournal

theorem ignoresLog_compactIfDue (journal : NotificationJournal) :
    IgnoresLog (compactIfDue journal) := by
  have hcompact : IgnoresLog (compact journal.path) := by
    refine IgnoresLog.bind (.seize _) fun _ => ?_
    refine IgnoresLog.bind (.readFiles _) fun rs => ?_
    by_cases hlong : maxRecords < rs.length
    · simp only [hlong, if_true]
      exact .replace _ _
    · simp only [hlong, if_false]
      exact Matches.pure rfl
  unfold compactIfDue
  by_cases hdue : journal.writes % checkInterval = 0
  · rw [if_pos hdue]
    refine IgnoresLog.bind hcompact.attempt fun result => ?_
    cases result with
    | ok _ => exact Matches.pure rfl
    | error fault => exact .tell _
  · rw [if_neg hdue]
    exact Matches.pure rfl

theorem ignoresLog_cancel (now : Timestamp) (id : Int32) (journal : NotificationJournal) :
    IgnoresLog (journal.cancel now id) := by
  have happend (r : NotificationRecord) : IgnoresLog (journal.append r) := by
    refine IgnoresLog.bind (.lock _) fun _ => ?_
    refine IgnoresLog.bind (.onFiles _) fun _ => ?_
    exact IgnoresLog.bind (ignoresLog_compactIfDue journal) fun _ => Matches.pure rfl
  refine IgnoresLog.bind (happend _) fun next => ?_
  exact IgnoresLog.bind (.tell _) fun _ => Matches.pure rfl

end NotificationJournal

theorem Sink.ignoresLog_cancel (now : Timestamp) (id : Int32) (sink : Sink) :
    IgnoresLog (sink.cancel now id) := by
  cases sink with
  | memory m => exact Matches.pure rfl
  | log => exact IgnoresLog.bind (.tell _) fun _ => Matches.pure rfl
  | journal j => exact IgnoresLog.bind (j.ignoresLog_cancel now id) fun _ => Matches.pure rfl
  | unavailable => exact Matches.throw _

namespace Outlet

theorem ignoresLog_turn {act : Act Sink} (hact : IgnoresLog act) (failed : Fault → LogEvent)
    (sink : Sink) : IgnoresLog (turn act failed sink) := by
  refine IgnoresLog.bind hact.attempt fun result => ?_
  cases result with
  | ok next => exact Matches.pure rfl
  | error fault => exact IgnoresLog.bind (.tell _) fun _ => Matches.pure rfl

theorem ignoresLog_cancel (now : Timestamp) (id : Int32) (o : Outlet) :
    IgnoresLog (o.cancel now id) := by
  cases o with
  | direct sink => exact IgnoresLog.bind (sink.ignoresLog_cancel now id) fun _ => Matches.pure rfl
  | dispatcher sinks dryRun =>
    cases dryRun with
    | true =>
      refine IgnoresLog.bind (.mapM (fun sink => ?_) sinks) fun _ => Matches.pure rfl
      exact IgnoresLog.bind (.say _) fun _ => Matches.pure rfl
    | false =>
      refine IgnoresLog.bind (.mapM (fun sink => ?_) sinks) fun _ => Matches.pure rfl
      exact ignoresLog_turn (sink.ignoresLog_cancel now id) _ sink

end Outlet

namespace Host

structure SameButLog (a b : Host) : Prop where
  scene : a.scene.Unlogged b.scene
  store : a.store = b.store
  outlet : a.outlet = b.outlet
  notifier : a.notifier = b.notifier
  listeners : a.listeners = b.listeners
  told : a.told = b.told

namespace SameButLog

variable {a b : Host}

protected theorem rfl (h : Host) : SameButLog h h := ⟨⟨rfl, rfl⟩, rfl, rfl, rfl, rfl, rfl⟩

theorem tell (h : SameButLog a b) (event event' : LogEvent) :
    SameButLog (a.tell event) (b.tell event') :=
  { h with scene := ⟨h.scene.files, h.scene.notes⟩ }

theorem told_left (h : Host) (event : LogEvent) : SameButLog (h.tell event) h :=
  { SameButLog.rfl h with scene := ⟨rfl, rfl⟩ }

theorem setCount (h : SameButLog a b) (count : UInt32) :
    SameButLog (a.setCount count) (b.setCount count) := by
  refine { h with notifier := ?_ }
  change { a.notifier with count } = { b.notifier with count }
  rw [h.notifier]

theorem markRead (h : SameButLog a b) : SameButLog a.markRead b.markRead := by
  obtain ⟨event, ha⟩ := markRead_eq a
  obtain ⟨event', hb⟩ := markRead_eq b
  have hrun := a.store.update_of_seesFiles seesFiles_unlogged .newMissed .markRead a.scene b.scene
    h.scene
  have hscene := hrun.scenes fun _ _ _ _ h => h.2
  rw [ha, hb, update_eq, update_eq, ← h.store]
  refine tell ?_ event event'
  exact ⟨hscene, rfl, h.outlet, h.notifier, h.listeners, h.told⟩

theorem cancel (h : SameButLog a b) (now : Timestamp) (id : Int32) :
    Agree (fun _ _ => SameButLog) SameButLog (a.cancel now id) (b.cancel now id) := by
  have hrun := a.outlet.ignoresLog_cancel now id a.scene b.scene h.scene
  rw [Host.cancel, Host.cancel, ← h.outlet]
  generalize (a.outlet.cancel now id).run a.scene = left at hrun ⊢
  generalize (a.outlet.cancel now id).run b.scene = right at hrun ⊢
  cases hrun with
  | ok hnext => exact .ok ⟨hnext.2, h.store, hnext.1, h.notifier, h.listeners, h.told⟩
  | error fault hscene => exact .error fault ⟨hscene, h.store, rfl, h.notifier, h.listeners, h.told⟩

theorem withdrawNotice (h : SameButLog a b) (now : Timestamp) :
    SameButLog (a.withdrawNotice now) (b.withdrawNotice now) := by
  rw [withdrawNotice_eq_orTell, withdrawNotice_eq_orTell]
  exact orTell_of_agree (h.cancel now Notifier.noticeId) fun _ _ _ hnext => hnext.tell _ _

theorem clear (h : SameButLog a b) (now : Timestamp) : SameButLog (a.clear now) (b.clear now) :=
  ((h.markRead.setCount 0).withdrawNotice now).tell _ _

end SameButLog

end Host

end CallNotice

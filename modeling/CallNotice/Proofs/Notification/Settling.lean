import CallNotice.Proofs.Files.Persistence
import CallNotice.Proofs.Notification.Memories
import CallNotice.Proofs.Notification.Reduction
import CallNotice.Proofs.Refusal

namespace CallNotice

open Files Act Journal

namespace NotificationJournal

variable {path : String} {journal next : NotificationJournal} {now : Timestamp} {id : Int32}
  {s s' : Scene} {fs fs' : Files} {bytes : ByteArray}

/-- The journal can be read, its last record is not cut off, and no post lacks its notification. -/
structure Sane (path : String) (fs : Files) : Prop where
  readable : Readable path fs
  endsBlank : EndsBlank (fs.held path)
  complete : ∀ r ∈ records path fs, IsComplete r

theorem records_of_leaves (h : Leaves path fs fs') (hreadable : Readable path fs) :
    records path fs' = records path fs := by
  rw [records_eq, records_eq, h.held hreadable]

theorem active_of_leaves (h : Leaves path fs fs') (hreadable : Readable path fs) :
    active path fs' = active path fs := by
  rw [active, records_of_leaves h hreadable, active]

theorem get?_eq_none_or_content (path : String) (id : Int32) (fs : Files) :
    (active path fs).get? id = none ∨ ∃ bytes, fs.content? path = some bytes := by
  cases hcontent : fs.content? path with
  | none =>
    rw [active, records, Journal.values, hcontent]
    exact .inl rfl
  | some bytes => exact .inr ⟨bytes, rfl⟩

theorem Sane.leaves (h : Sane path fs) (hleaves : Leaves path fs fs') : Sane path fs' := by
  refine ⟨hleaves.readable h.readable, ?_, ?_⟩
  · rw [hleaves.held h.readable]
    exact h.endsBlank
  · rw [records_of_leaves hleaves h.readable]
    exact h.complete

theorem sane_of_content (hcontent : fs.content? path = some bytes) (htail : tail bytes = [])
    (hcomplete : ∀ r ∈ read bytes, IsComplete r) : Sane path fs := by
  refine ⟨readable_of_content? hcontent, ?_, ?_⟩
  · rw [held_of_content? hcontent]
    exact endsBlank_of_tail_nil htail
  · rw [records_eq, held_of_content? hcontent]
    exact hcomplete

theorem sane_of_absent (h : fs.node? (fs.place path) = none) : Sane path fs := by
  refine ⟨fun bytes hfile => ?_, ?_, ?_⟩
  · rw [fileAt?_eq_some_iff, h] at hfile
    cases hfile
  · rw [held_of_absent h]
    exact endsBlank_of_tail_nil rfl
  · rw [records_eq, held_of_absent h]
    rintro r ⟨⟩

theorem edited_cancel (now : Timestamp) (id : Int32) (journal : NotificationJournal) (s : Scene) :
    Edited [journal.path] s.files ((journal.cancel now id).run s).2.files := by
  have hworks : Works [journal.path] LogEvent.IsDebug (fun next => next.path = journal.path)
      (journal.cancel now id) := works_cancel now id (List.mem_singleton_self _)
  exact (hworks s).1.files

theorem leaves_of_cancel_error {fault : Fault}
    (h : (journal.cancel now id).run s = (.error fault, s')) :
    Leaves journal.path s.files s'.files := by
  have hedited := edited_cancel now id journal s
  rw [h] at hedited
  exact ⟨⟨_, hedited⟩, (cautious_cancel now id journal).refused h⟩

theorem isOpen_of_cancel_ok (h : (journal.cancel now id).run s = (.ok next, s'))
    (hreadable : Readable journal.path s.files) : IsOpen journal.path s.files := by
  obtain ⟨s₁, happend, -⟩ := run_cancel_ok h
  obtain ⟨u, s₂, hlock, h⟩ := run_bind_ok happend
  obtain ⟨u, s₃, happended, -⟩ := run_bind_ok h
  exact isOpen_of_lock hlock (Journal.run_append_ok happended).2.admits hreadable

theorem run_cancel_sane (h : (journal.cancel now id).run s = (.ok next, s'))
    (hsane : Sane journal.path s.files) :
    Sane journal.path s'.files ∧
      active journal.path s'.files = (active journal.path s.files).erase id := by
  obtain ⟨s₁, happend, hfiles⟩ := run_cancel_ok h
  obtain ⟨-, hcontent⟩ := run_append_ok happend (isOpen_of_cancel_ok h hsane.readable)
  rw [← hfiles] at hcontent
  have hnone : ∀ n ∈ (NotificationRecord.mk now .cancel id none).notification, n.IsReadBack := by
    rintro _ ⟨⟩
  have hread : read (s.files.held journal.path ++
      line (NotificationRecord.toJson ⟨now, .cancel, id, none⟩)) =
      records journal.path s.files ++ [⟨now, .cancel, id, none⟩] := by
    rw [records_eq]
    exact ofContent_append_blank _ hsane.endsBlank (NotificationRecord.ofJson?_toJson hnone)
  have hcomplete : ∀ r ∈ records journal.path s.files ++ [⟨now, .cancel, id, none⟩],
      IsComplete r := by
    intro r hr
    rcases List.mem_append.mp hr with hr | hr
    · exact hsane.complete r hr
    · rw [List.mem_singleton.mp hr]
      rintro ⟨⟩
  have hboard : activeOf (records journal.path s.files ++ [⟨now, .cancel, id, none⟩]) =
      (active journal.path s.files).erase id := activeOf_concat _ _
  rcases hcontent with hcontent | ⟨-, hcontent⟩
  · have hrecords := records_eq journal.path s'.files
    rw [held_of_content? hcontent, hread] at hrecords
    constructor
    · apply sane_of_content hcontent (tail_append_line _ _)
      rw [hread]
      exact hcomplete
    · rw [active, hrecords, hboard]
  · have hrecords := records_eq journal.path s'.files
    rw [held_of_content? hcontent, read_reduced, hread] at hrecords
    constructor
    · apply sane_of_content hcontent (tail_content _)
      rw [read_reduced, hread]
      exact fun r hr => hcomplete r (mem_of_mem_latestOf hr)
    · rw [active, hrecords, activeOf_latestOf hcomplete, hboard]

theorem lockable_of_cancel_ok (h : (journal.cancel now id).run s = (.ok next, s'))
    (hcontent : s.files.content? journal.path = some bytes) : Lockable journal.path s.files := by
  obtain ⟨s₁, happend, -⟩ := run_cancel_ok h
  obtain ⟨u, s₂, hlock, -⟩ := run_bind_ok happend
  exact lockable_of_lock hlock hcontent

/-- Nothing is shown under the id any more, or nobody can withdraw it. -/
structure Settled (id : Int32) (path : String) (fs : Files) : Prop extends Sane path fs where
  done : (active path fs).get? id = none ∨ ¬Lockable path fs

theorem Settled.leaves (h : Settled id path fs) (hleaves : Leaves path fs fs') :
    Settled id path fs' := by
  refine ⟨h.toSane.leaves hleaves, ?_⟩
  rw [active_of_leaves hleaves h.readable]
  obtain hnone | ⟨bytes, hcontent⟩ := get?_eq_none_or_content path id fs
  · exact .inl hnone
  · obtain ⟨paths, hedited⟩ := hleaves.edited
    exact h.done.imp_right fun hunlockable hlockable =>
      hunlockable (lockable_before hedited hcontent hlockable)

theorem settled_cancel (now : Timestamp) (id : Int32) (journal : NotificationJournal)
    (h : Sane journal.path s.files) :
    Settled id journal.path ((journal.cancel now id).run s).2.files := by
  rcases hrun : (journal.cancel now id).run s with ⟨fault | next, s'⟩
  · have hleaves := leaves_of_cancel_error hrun
    refine ⟨h.leaves hleaves, ?_⟩
    rw [active_of_leaves hleaves h.readable]
    obtain hnone | ⟨bytes, hcontent⟩ := get?_eq_none_or_content journal.path id s.files
    · exact .inl hnone
    · -- Had the lock been free afterwards, it would have been free before.
      refine .inr fun hlockable => ?_
      obtain ⟨paths, hedited⟩ := hleaves.edited
      obtain ⟨hadmits, -⟩ := content?_eq_some_iff.mp hcontent
      obtain ⟨next, s₁, hok, -⟩ := run_record (.withdrawalRecorded id journal.path)
        (lockable_before hedited hcontent hlockable) hadmits ⟨now, .cancel, id, none⟩
      rw [cancel_eq_record, hok] at hrun
      cases hrun
  · obtain ⟨hsane, hactive⟩ := run_cancel_sane hrun h
    refine ⟨hsane, .inl ?_⟩
    rw [hactive, Board.get?_erase, if_pos rfl]

theorem Settled.active_cancel (h : Settled id journal.path s.files) (now : Timestamp) :
    active journal.path ((journal.cancel now id).run s).2.files = active journal.path s.files := by
  rcases hrun : (journal.cancel now id).run s with ⟨fault | next, s'⟩
  · exact active_of_leaves (leaves_of_cancel_error hrun) h.readable
  · obtain ⟨-, hactive⟩ := run_cancel_sane hrun h.toSane
    rw [hactive]
    apply Board.erase_of_get?_eq_none
    obtain hnone | ⟨bytes, hcontent⟩ := get?_eq_none_or_content journal.path id s.files
    · exact hnone
    · exact h.done.resolve_right fun hunlockable =>
        hunlockable (lockable_of_cancel_ok hrun hcontent)

end NotificationJournal

section Outlets

variable {start : List String} {path : String} {id : Int32} {s s' : Scene}

structure Calms (start : List String) (path : String) (id : Int32) (s s' : Scene) : Prop where
  here : s'.files.here = s.files.here
  sane : s.files.here = start → NotificationJournal.Sane path s.files →
    NotificationJournal.Sane path s'.files
  settled : s.files.here = start → NotificationJournal.Settled id path s.files →
    NotificationJournal.Settled id path s'.files ∧
      NotificationJournal.active path s'.files = NotificationJournal.active path s.files

namespace Calms

theorem of_files (h : s'.files = s.files) : Calms start path id s s' := by
  refine ⟨congrArg Files.here h, fun _ hsane => ?_, fun _ hsettled => ?_⟩
  · rwa [h]
  · rw [h]
    exact ⟨hsettled, rfl⟩

theorem of_leaves (h : s.files.here = start → Leaves path s.files s'.files)
    (hhere : s'.files.here = s.files.here) : Calms start path id s s' :=
  ⟨hhere, fun heq hsane => hsane.leaves (h heq), fun heq hsettled =>
    ⟨hsettled.leaves (h heq), NotificationJournal.active_of_leaves (h heq) hsettled.readable⟩⟩

theorem isFrame : IsFrame (Calms start path id) := by
  refine ⟨fun s => .of_files rfl, fun {s s' s''} h h' => ?_⟩
  refine ⟨h'.here.trans h.here, fun heq hsane => ?_, fun heq hsettled => ?_⟩
  · exact h'.sane (h.here.trans heq) (h.sane heq hsane)
  · obtain ⟨hsettled', hactive⟩ := h.settled heq hsettled
    obtain ⟨hsettled'', hactive'⟩ := h'.settled (h.here.trans heq) hsettled'
    exact ⟨hsettled'', hactive'.trans hactive⟩

end Calms

def Spared (start : List String) (path other : String) : Prop :=
  other ≠ path → Foreign start other (Path.place start path)

namespace Outlet

theorem files_turn (act : Act Sink) (failed : Fault → LogEvent) (sink : Sink) (s : Scene) :
    ((turn act failed sink).run s).2.files = (act.run s).2.files := by
  rw [run_turn]
  rcases act.run s with ⟨fault | next, s'⟩ <;> rfl

theorem calms_turn {act : Act Sink} (hact : Ensures (Calms start path id) (fun _ => True) act)
    (failed : Fault → LogEvent) (sink : Sink) :
    Ensures (Calms start path id) (fun _ => True) (turn act failed sink) := by
  refine fun s => ⟨?_, fun _ _ => trivial⟩
  exact Calms.isFrame.trans (hact s).1 (.of_files (files_turn act failed sink s))

theorem calms_mapM {sinks : List Sink} {f : Sink → Act Sink}
    (hf : ∀ sink ∈ sinks, Ensures (Calms start path id) (fun _ => True) (f sink)) :
    Ensures (Calms start path id) (fun _ => True) (sinks.mapM f) :=
  fun s => ⟨(Ensures.mapM (S := fun _ _ => True) Calms.isFrame hf s).1, fun _ _ => trivial⟩

end Outlet

variable (now : Timestamp) (id : Int32)

theorem NotificationJournal.calms_cancel (journal : NotificationJournal)
    (hspared : Spared start path journal.path) :
    Ensures (Calms start path id) (fun _ => True) (journal.cancel now id) := by
  intro s
  refine ⟨?_, fun _ _ => trivial⟩
  have hedited := edited_cancel now id journal s
  by_cases hown : journal.path = path
  · subst hown
    refine ⟨hedited.here, fun _ hsane => ?_, fun _ hsettled => ?_⟩
    · exact (settled_cancel now id journal hsane).toSane
    · exact ⟨settled_cancel now id journal hsettled.toSane, hsettled.active_cancel now⟩
  · refine .of_leaves (fun heq => hedited.leaves ?_) hedited.here
    intro other hother
    rw [List.mem_singleton.mp hother, Files.place, heq]
    exact hspared hown

theorem Sink.calms_cancel (sink : Sink)
    (hspared : ∀ other ∈ sink.path?, Spared start path other) :
    Ensures (Calms start path id) (fun _ => True) (sink.cancel now id) := by
  cases sink with
  | memory m => exact Ensures.pure Calms.isFrame trivial
  | log => exact fun s => ⟨.of_files rfl, fun _ _ => trivial⟩
  | journal j =>
    refine Ensures.bind Calms.isFrame (j.calms_cancel now id (hspared _ rfl)) fun _ _ => ?_
    exact Ensures.pure Calms.isFrame trivial
  | unavailable => exact Ensures.throw Calms.isFrame _

theorem Sink.settled_cancel {sink : Sink} (hown : sink.path? = some path)
    (hsane : NotificationJournal.Sane path s.files) :
    NotificationJournal.Settled id path ((sink.cancel now id).run s).2.files := by
  cases sink with
  | journal j =>
    cases hown
    rw [Sink.cancel, snd_run_bind_pure]
    exact NotificationJournal.settled_cancel now id j hsane
  | _ => cases hown

namespace Outlet

variable {o : Outlet} {sinks : List Sink}

theorem calms_cancel (hspared : ∀ other ∈ o.journals, Spared start path other) :
    Ensures (Calms start path id) (fun _ => True) (o.cancel now id) := by
  have hsink (sink : Sink) (hmem : sink ∈ o.sinks) :=
    sink.calms_cancel now id fun other hother => hspared other (o.mem_journals hmem hother)
  cases o with
  | direct sink =>
    refine Ensures.bind Calms.isFrame (hsink sink List.mem_cons_self) fun _ _ => ?_
    exact Ensures.pure Calms.isFrame trivial
  | dispatcher sinks dryRun =>
    cases dryRun with
    | true =>
      refine Ensures.bind Calms.isFrame (calms_mapM fun sink _ => ?_) fun _ _ =>
        Ensures.pure Calms.isFrame trivial
      exact fun s => ⟨.of_files rfl, fun _ _ => trivial⟩
    | false =>
      refine Ensures.bind Calms.isFrame (calms_mapM fun sink hmem => ?_) fun _ _ =>
        Ensures.pure Calms.isFrame trivial
      exact calms_turn (hsink sink hmem) _ sink

theorem settled_turns (hspared : ∀ sink ∈ sinks, ∀ other ∈ sink.path?, Spared start path other)
    (hmem : path ∈ sinks.filterMap Sink.path?) (hhere : s.files.here = start)
    (hsane : NotificationJournal.Sane path s.files) :
    NotificationJournal.Settled id path ((sinks.mapM fun sink =>
      turn (sink.cancel now id) (.sinkWithdrawFailed sink.name id) sink).run s).2.files := by
  have hturn (sink : Sink) (hsink : sink ∈ sinks) :=
    calms_turn (sink.calms_cancel now id (hspared sink hsink))
      (.sinkWithdrawFailed sink.name id) sink
  induction sinks generalizing s with
  | nil => exact absurd hmem List.not_mem_nil
  | cons sink sinks ih =>
    obtain ⟨next, s₁, hrun, -⟩ :=
      yields_turn now (.cancel id) (.sinkWithdrawFailed sink.name id) sink s
    have hfirst := (hturn sink List.mem_cons_self s).1
    have hrun' : (turn (sink.cancel now id) (.sinkWithdrawFailed sink.name id) sink).run s =
        (.ok next, s₁) := hrun
    have hrest := calms_mapM fun sink hsink => hturn sink (List.mem_cons_of_mem _ hsink)
    rw [hrun'] at hfirst
    rw [List.mapM_cons, run_bind_of_ok hrun', snd_run_bind_pure]
    by_cases hown : sink.path? = some path
    · have hsettled := Sink.settled_cancel now id hown hsane
      rw [← files_turn _ (.sinkWithdrawFailed sink.name id) sink, hrun'] at hsettled
      exact ((hrest s₁).1.settled (hfirst.here.trans hhere) hsettled).1
    · rw [List.mem_filterMap] at hmem
      obtain ⟨other, hother, hpath⟩ := hmem
      have hlater : other ∈ sinks := by
        rcases List.mem_cons.mp hother with rfl | hlater
        · exact absurd hpath hown
        · exact hlater
      exact ih (fun sink hsink => hspared sink (List.mem_cons_of_mem _ hsink))
        (List.mem_filterMap.mpr ⟨other, hlater, hpath⟩) (hfirst.here.trans hhere)
        (hfirst.sane hhere hsane) fun sink hsink => hturn sink (List.mem_cons_of_mem _ hsink)

theorem settled_cancel (hwet : o.isDry = false)
    (hspared : ∀ other ∈ o.journals, Spared start path other) (hmem : path ∈ o.journals)
    (hhere : s.files.here = start) (hsane : NotificationJournal.Sane path s.files) :
    NotificationJournal.Settled id path ((o.cancel now id).run s).2.files := by
  cases o with
  | direct sink =>
    obtain ⟨other, hother, hown⟩ := List.mem_filterMap.mp hmem
    obtain rfl := List.mem_singleton.mp hother
    rw [cancel, snd_run_bind_pure]
    exact Sink.settled_cancel now id hown hsane
  | dispatcher sinks dryRun =>
    cases dryRun with
    | true => cases hwet
    | false =>
      rw [cancel, snd_run_bind_pure]
      refine settled_turns now id (fun sink hsink other hother => ?_) hmem hhere hsane
      exact hspared other (mem_journals _ hsink hother)

end Outlet

end Outlets

end CallNotice

import CallNotice.Proofs.Notification.Journal

/-!
What can be read from a journal once it was reduced. A long journal keeps the latest post of each id
that was not withdrawn after it, also if that post shows nothing; what an earlier post of the same id
still showed is then shown no more.
-/

namespace CallNotice.NotificationJournal

open Journal

variable {path : String} {s s' : Scene} {bytes : ByteArray}

theorem isReadBack_of_mem_read {r : NotificationRecord} (h : r ∈ read bytes) :
    ∀ n ∈ r.notification, n.IsReadBack := by
  obtain ⟨text, -, hr⟩ := List.mem_filterMap.mp h
  obtain ⟨j, -, hj⟩ := Option.bind_eq_some_iff.mp hr
  exact NotificationRecord.isReadBack_of_ofJson? hj

theorem read_reduced (bytes : ByteArray) : read (reduced bytes) = latestOf (read bytes) :=
  read_content fun _ hr => isReadBack_of_mem_read (mem_of_mem_latestOf hr)

theorem keeps_notified {journal next : NotificationJournal} {now : Timestamp} {id : Int32}
    {n : Notification} {rs : List NotificationRecord}
    (h : (journal.notify now id n).run s = (.ok next, s'))
    (hkeeps : Keeps NotificationRecord.ofJson? journal.path rs s.files) :
    next.path = journal.path ∧ ∃ rs', Keeps NotificationRecord.ofJson? journal.path rs' s'.files ∧
      (activeOf rs').get? id = some n.reread := by
  obtain ⟨s₁, happend, hfiles⟩ := run_notify_ok h
  obtain ⟨rfl, hcontent⟩ := run_append_ok happend hkeeps.isOpen
  have hread : NotificationRecord.ofJson?
      (NotificationRecord.toJson ⟨now, .notify, id, some n⟩) =
      some ⟨now, .notify, id, some n.reread⟩ := NotificationRecord.ofJson?_toJson_eq _
  refine ⟨rfl, ?_⟩
  rw [hfiles]
  rcases hcontent with hcontent | ⟨-, hcontent⟩
  · refine ⟨_, hkeeps.append hread hcontent, ?_⟩
    rw [activeOf_concat]
    exact (Board.get?_insert _ _ _ _).trans (if_pos rfl)
  · refine ⟨_, keeps_of_content? hcontent (tail_content _) rfl, ?_⟩
    have hrecords : read (s.files.held journal.path ++
        line (NotificationRecord.toJson ⟨now, .notify, id, some n⟩)) =
        rs ++ [⟨now, .notify, id, some n.reread⟩] := by
      rw [read, ofContent_append_blank _ (endsBlank_of_tail_nil hkeeps.tail) hread, ← values_eq,
        hkeeps.values]
    change (activeOf (read (reduced _))).get? id = _
    rw [read_reduced, hrecords, get?_activeOf_latestOf, lastOf_concat, if_pos rfl]
    rfl

theorem records_compacted (h : s.files.content? path = some bytes)
    (hcompact : (compact path).run s = (.ok (), s')) :
    records path s'.files =
      if maxRecords < (records path s.files).length then latestOf (records path s.files)
      else records path s.files := by
  have hcontent := run_compact_ok h hcompact
  rw [records_eq, records_eq, Files.held_of_content? hcontent, Files.held_of_content? h]
  by_cases hlong : maxRecords < (read bytes).length
  · rw [if_pos hlong, if_pos hlong, read_reduced]
  · rw [if_neg hlong, if_neg hlong]

/-- A journal that is not reduced shows what it showed. One that is reduced shows the same exactly if
no id is shown whose last record is a post without a notification; such ids are lost, and only
they. -/
theorem active_compacted_eq_iff (h : s.files.content? path = some bytes)
    (hcompact : (compact path).run s = (.ok (), s')) :
    active path s'.files =
        (if maxRecords < (records path s.files).length then
          (active path s.files).filter fun e => ¬EndsHollow (records path s.files) e.1
        else active path s.files) ∧
      (active path s'.files = active path s.files ↔
        (maxRecords < (records path s.files).length →
          ∀ e ∈ active path s.files, ¬EndsHollow (records path s.files) e.1)) := by
  have hactive : active path s'.files =
      if maxRecords < (records path s.files).length then
        (active path s.files).filter fun e => ¬EndsHollow (records path s.files) e.1
      else active path s.files := by
    rw [active, records_compacted h hcompact]
    by_cases hlong : maxRecords < (records path s.files).length
    · rw [if_pos hlong, if_pos hlong, activeOf_latestOf_eq_filter, active]
    · rw [if_neg hlong, if_neg hlong, active]
  refine ⟨hactive, ?_⟩
  rw [hactive]
  by_cases hlong : maxRecords < (records path s.files).length
  · rw [if_pos hlong, List.filter_eq_self]
    simp only [hlong, decide_eq_true_eq, forall_const]
  · rw [if_neg hlong]
    exact iff_of_true rfl fun hlong' => absurd hlong' hlong

/-- The post without a notification shows nothing, but after the reduction it hides what was shown
before it. -/
theorem active_compacted_hollow :
    let now : Timestamp := ⟨⟨2024, 1, 2, by decide⟩, 3, 4, 5, 0, by decide⟩
    let n : Notification :=
      ⟨"icon", now, "title", "text", .viewCallLog, none, false, [], none, false, false⟩
    let rs : List NotificationRecord :=
      [⟨now, .notify, 1, some n⟩, ⟨now, .notify, 1, none⟩] ++
        List.replicate 199 ⟨now, .cancel, 9, none⟩
    let files := (Files.blank ["home"]).put ["home", "notices.jsonl"]
      (.file (content (rs.map NotificationRecord.toJson)))
    ∃ s', (compact "notices.jsonl").run (.ofFiles files) = (.ok (), s') ∧
      active "notices.jsonl" files = [(1, n)] ∧ active "notices.jsonl" s'.files = [] := by
  intro now n rs files
  have hcontent : files.content? "notices.jsonl" =
      some (content (rs.map NotificationRecord.toJson)) := rfl
  have husable : Usable "notices.jsonl" (.ofFiles files) :=
    ⟨.ofFiles (files.put ["home", "notices.jsonl.lock"] (.file .empty)), rfl, rfl, rfl⟩
  have hn : n.IsReadBack := by
    apply Notification.isReadBack
    · apply Intent.isReadBack
      rintro h ⟨⟩
    · rintro i ⟨⟩
    · exact fun b hb => absurd hb List.not_mem_nil
  have hrecords : records "notices.jsonl" files = rs := by
    rw [records_eq, Files.held_of_content? hcontent]
    apply read_content
    intro r hr
    rcases List.mem_append.mp hr with hr | hr
    · simp only [List.mem_cons, List.not_mem_nil, or_false] at hr
      rcases hr with rfl | rfl
      · rintro _ ⟨⟩
        exact hn
      · rintro _ ⟨⟩
    · rw [List.eq_of_mem_replicate hr]
      rintro _ ⟨⟩
  have hbefore : active "notices.jsonl" files = [(1, n)] := by
    rw [active, hrecords]
    decide +kernel
  have hlong : maxRecords < (records "notices.jsonl" files).length := by
    rw [hrecords]
    decide +kernel
  have hhollow : EndsHollow (records "notices.jsonl" files) 1 := by
    rw [hrecords]
    decide +kernel
  obtain ⟨s', hcompact⟩ := run_compact_of_usable husable hcontent
  refine ⟨s', hcompact, hbefore, ?_⟩
  calc active "notices.jsonl" s'.files
    _ = (active "notices.jsonl" files).filter fun e =>
          ¬EndsHollow (records "notices.jsonl" files) e.1 :=
        (active_compacted_eq_iff hcontent hcompact).1.trans (if_pos hlong)
    _ = [(1, n)].filter fun e => ¬EndsHollow (records "notices.jsonl" files) e.1 := by rw [hbefore]
    _ = [] := List.filter_cons_of_neg (by simpa using hhollow)

end CallNotice.NotificationJournal

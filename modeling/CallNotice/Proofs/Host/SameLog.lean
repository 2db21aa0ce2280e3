import CallNotice.Proofs.CallLog.Coupling
import CallNotice.Proofs.Host.Sparing

namespace CallNotice

open Act Scene

namespace Journal

variable {path : String} {others : List String} {fs fs' gs : Files}

/-- The first files are the second with those of the other journals, which are apart from this one. -/
structure Shares (path : String) (others : List String) (fs gs : Files) : Prop where
  here : fs.here = gs.here
  apart : ∀ other ∈ others, Apart fs.here path other
  view : Path.MayHold gs.here path →
    Files.Paves path gs fs ∧ gs.isDirectory gs.here = true ∧ IsOpen path gs

namespace Shares

theorem held (h : Shares path others fs gs) : fs.held path = gs.held path := by
  by_cases hmay : Path.MayHold gs.here path
  · obtain ⟨hpaves, -, hnone | ⟨bytes, hbytes⟩⟩ := h.view hmay
    · have hnone' : fs.node? (fs.place path) = none := by
        rw [hpaves.place, hpaves.own path (file_mem path), hnone]
      rw [Files.held_of_absent hnone, Files.held_of_absent hnone']
    · exact hpaves.held_eq (reaches_of_content? hbytes) hmay.namesFile (file_mem path)
  · have hnone (fs : Files) (hhere : fs.here = gs.here) : fs.content? path = none := by
      rw [Option.eq_none_iff_forall_ne_some]
      intro bytes hbytes
      apply hmay
      rw [← hhere]
      exact mayHold_of_content? hbytes
    rw [Files.held, Files.held, hnone fs h.here, hnone gs rfl]

theorem edited (h : Shares path others fs gs) (hedited : Edited others fs fs') :
    Shares path others fs' gs := by
  refine ⟨hedited.here.trans h.here, ?_, fun hmay => ?_⟩
  · rw [hedited.here]
    exact h.apart
  · obtain ⟨hpaves, hstands, hopen⟩ := h.view hmay
    exact ⟨hpaves.trans (hedited.paves hmay.namesFile h.apart), hstands, hopen⟩

theorem holds (h : Shares path others fs gs) (hmay : Path.MayHold gs.here path) :
    fs.holds path = gs.holds path := by
  obtain ⟨hpaves, -, hnone | ⟨bytes, hbytes⟩⟩ := h.view hmay
  · have hnone' : fs.node? (fs.place path) = none := by
      rw [hpaves.place, hpaves.own path (file_mem path), hnone]
    rw [Files.holds_eq_false hnone, Files.holds_eq_false hnone']
  · have hbytes' : fs.content? path = some bytes := by
      rw [hpaves.content?_eq (reaches_of_content? hbytes) hmay.namesFile (file_mem path), hbytes]
    rw [Files.holds_of_content? hbytes, Files.holds_of_content? hbytes']

theorem run {α : Type} {x : Act α} {tells : LogEvent → Prop} {Q : α → Prop} {s t : Scene}
    (hworks : Works [path] tells Q x)
    (hcouples : Path.namesDirectory path = false → ∀ P' : Scene → Scene → Prop,
      (∀ s t, P' s t → s.files.holds path = t.files.holds path ∧ Wider path s t) →
        Couples P' (fun _ _ => Wider path) (Wider path) x x)
    (h : Shares path others s.files t.files) :
    Shares path others (x.run s).2.files (x.run t).2.files := by
  have hs := (hworks s).1.files
  have ht := (hworks t).1.files
  refine ⟨hs.here.trans (h.here.trans ht.here.symm), ?_, fun hmay => ?_⟩
  · rw [hs.here]
    exact h.apart
  · rw [ht.here] at hmay
    obtain ⟨hpaves, hstands, hopen⟩ := h.view hmay
    have hagree := hcouples hmay.namesFile (fun s' t' => s' = s ∧ t' = t)
      (by rintro _ _ ⟨rfl, rfl⟩; exact ⟨h.holds hmay, hpaves, hstands⟩) s t ⟨rfl, rfl⟩
    have hwider := hagree.scenes fun _ _ _ _ => id
    exact ⟨hwider.paves, hwider.stands, hopen.edited hmay ht⟩

end Shares

theorem eq_of_edited_nil (h : Edited [] fs fs') : fs' = fs := by
  induction h with
  | refl => rfl
  | tail _ hedit _ => cases hedit <;> exact absurd ‹_ ∈ []› List.not_mem_nil

end Journal

namespace Host

open Journal CallLogJournal

variable {a a' b b' h : Host}

/-- The call logs are the same. What the first outlet writes is apart from it. -/
structure SameLog (a b : Host) : Prop where
  store : a.store = b.store
  files : (a.outlet.written = [] ∧ a.scene.files = b.scene.files) ∨
    ∀ path ∈ a.store.path?, Shares path a.outlet.written a.scene.files b.scene.files

theorem insert_eq (e : CallLogEntry) (h : Host) :
    (h.insert e).2 =
      { h with store := h.store.inserted e, scene := ((h.store.insert e).run h.scene).2 } := by
  obtain ⟨scene, store, outlet, notifier, listeners, told⟩ := h
  cases store with
  | memory rows => rfl
  | journal path =>
    rw [Host.insert, CallLogStore.insert, run_bind]
    rcases (CallLogJournal.insert path e).run scene with ⟨fault | id, s⟩ <;> rfl
  | unavailable => rfl

theorem update_eq (filter : CallLogFilter) (values : CallLogUpdate) (h : Host) :
    (h.update filter values).2 = { h with
      store := h.store.updated filter values
      scene := ((h.store.update filter values).run h.scene).2 } := by
  obtain ⟨scene, store, outlet, notifier, listeners, told⟩ := h
  cases store with
  | memory rows => rfl
  | journal path =>
    rw [Host.update, CallLogStore.update, run_bind]
    rcases (CallLogJournal.update path filter values).run scene with ⟨fault | updated, s⟩ <;> rfl
  | unavailable => rfl

theorem query_eq (filter : CallLogFilter) (h : Host) : (h.query filter).2 = h := by
  obtain ⟨scene, store, outlet, notifier, listeners, told⟩ := h
  cases store <;> rfl

theorem orTell_of_agree {R E : Host → Host → Prop} {failed : String → Fault → LogEvent}
    {left right : Except Fault Unit × Host} (h : Agree (fun _ _ => R) E left right)
    (hE : ∀ fault a b, E a b →
      R (a.tell (failed a.outlet.name fault)) (b.tell (failed b.outlet.name fault))) :
    R (orTell failed left) (orTell failed right) := by
  cases h with
  | ok h => exact h
  | error fault h => exact hE fault _ _ h

theorem tellResult_of_agree {α : Type} {R : Host → Host → Prop} {done : α → LogEvent}
    {failed : Fault → LogEvent} {left right : Except Fault α × Host}
    (h : Agree (fun x y a b => x = y ∧ R a b) R left right)
    (htell : ∀ event {a b : Host}, R a b → R (a.tell event) (b.tell event)) :
    R (tellResult done failed left) (tellResult done failed right) := by
  cases h with
  | ok h =>
    obtain ⟨rfl, h⟩ := h
    exact htell _ h
  | error fault h => exact htell _ h

namespace SameLog

theorem rows (h : SameLog a b) : a.rows = b.rows := by
  rw [Host.rows, Host.rows, h.store]
  rcases h.files with ⟨-, hfiles⟩ | hshares
  · rw [hfiles]
  · rw [h.store] at hshares
    cases hstore : b.store with
    | journal path =>
      rw [hstore] at hshares
      change CallLogJournal.rows path _ = CallLogJournal.rows path _
      rw [CallLogJournal.rows_eq, CallLogJournal.rows_eq, (hshares path rfl).held]
    | _ => rfl

theorem congr (h : SameLog a b) (hstore : a'.store = a.store)
    (hwritten : a'.outlet.written = a.outlet.written) (hfiles : a'.scene.files = a.scene.files)
    (hstore' : b'.store = b.store) (hfiles' : b'.scene.files = b.scene.files) : SameLog a' b' := by
  refine ⟨?_, ?_⟩
  · rw [hstore, hstore', h.store]
  · rw [hstore, hwritten, hfiles, hfiles']
    exact h.files

theorem tell (h : SameLog a b) (event event' : LogEvent) :
    SameLog (a.tell event) (b.tell event') := h.congr rfl rfl rfl rfl rfl

theorem of_spares (h : SameLog a b) (hspares : SparesLog a a') : SameLog a' b := by
  refine ⟨hspares.store.trans h.store, ?_⟩
  rw [hspares.store, hspares.outlet.written]
  have hedited := hspares.edited
  rcases h.files with ⟨hnil, hfiles⟩ | hshares
  · rw [hnil] at hedited
    exact .inl ⟨hnil, (eq_of_edited_nil hedited).trans hfiles⟩
  · exact .inr fun path hpath => (hshares path hpath).edited hedited

theorem insert (h : SameLog a b) (e : CallLogEntry) : SameLog (a.insert e).2 (b.insert e).2 := by
  rw [insert_eq, insert_eq, ← h.store]
  refine ⟨rfl, ?_⟩
  rcases h.files with ⟨hnil, hfiles⟩ | hshares
  · have hmatches := a.store.insert_of_seesFiles seesFiles_sameFiles e
    exact .inl ⟨hnil, (hmatches _ _ hfiles).scenes fun _ _ _ _ hst => hst.2⟩
  · refine .inr fun path hpath => ?_
    rw [CallLogStore.path?_inserted] at hpath
    have hworks := a.store.works_insert e
    rw [hpath] at hworks
    refine (hshares path hpath).run hworks fun hname P' hP' => ?_
    have hparallel := CallLogStore.parallel_wider hname hpath
    have hmatches := a.store.matches_insert CallLogEntry.isLook_same .rfl hparallel (Eq.refl e)
    exact hmatches.conseq (fun s t hst => (hP' s t hst).2) (fun _ _ _ _ hst => hst.2) fun _ _ => id

theorem update (h : SameLog a b) (filter : CallLogFilter) (values : CallLogUpdate) :
    SameLog (a.update filter values).2 (b.update filter values).2 := by
  rw [update_eq, update_eq, ← h.store]
  refine ⟨rfl, ?_⟩
  rcases h.files with ⟨hnil, hfiles⟩ | hshares
  · have hmatches := a.store.update_of_seesFiles seesFiles_sameFiles filter values
    exact .inl ⟨hnil, (hmatches _ _ hfiles).scenes fun _ _ _ _ hst => hst.2⟩
  · refine .inr fun path hpath => ?_
    rw [CallLogStore.path?_updated] at hpath
    have hworks := a.store.works_update filter values
    rw [hpath] at hworks
    refine (hshares path hpath).run hworks fun hname P' hP' => ?_
    have hparallel := CallLogStore.parallel_wider hname hpath
    have hholds : ∀ path' ∈ a.store.path?, ∀ s t, P' s t →
        s.files.holds path' = t.files.holds path' := by
      intro path' hpath' s t hst
      cases Option.mem_unique hpath hpath'
      exact (hP' s t hst).1
    have hcouples := a.store.couples_update CallLogEntry.isLook_same .rfl hparallel
      (fun s t hst => (hP' s t hst).2) hholds filter values
    exact hcouples.conseq (fun _ _ => id) (fun _ _ _ _ hst => hst.2) fun _ _ => id

theorem record (h : SameLog a b) (call : Call) : SameLog (a.record call) (b.record call) := by
  obtain ⟨event, ha⟩ := record_eq call a
  obtain ⟨event', hb⟩ := record_eq call b
  rw [ha, hb]
  exact (h.insert (rowFor call)).tell event event'

theorem markRead (h : SameLog a b) : SameLog a.markRead b.markRead := by
  obtain ⟨event, ha⟩ := markRead_eq a
  obtain ⟨event', hb⟩ := markRead_eq b
  rw [ha, hb]
  exact (h.update .newMissed .markRead).tell event event'

end SameLog

structure SameTrace (a b : Host) : Prop where
  store : a.store = b.store
  scene : a.scene.Unspoken b.scene

namespace SameTrace

theorem tell (h : SameTrace a b) (event : LogEvent) : SameTrace (a.tell event) (b.tell event) :=
  ⟨h.store, seesFiles_unspoken.tell event h.scene⟩

theorem commit {α : Type} (h : SameTrace a b) {act : Act (α × CallLogStore)}
    (hact : Matches Unspoken (· = ·) act act) :
    Agree (fun x y a b => x = y ∧ SameTrace a b) SameTrace (a.commit act) (b.commit act) := by
  have hrun := hact a.scene b.scene h.scene
  rw [Host.commit, Host.commit]
  generalize act.run a.scene = left at hrun ⊢
  generalize act.run b.scene = right at hrun ⊢
  cases hrun with
  | ok hnext =>
    obtain ⟨rfl, hscene⟩ := hnext
    exact .ok ⟨rfl, rfl, hscene⟩
  | error fault hscene => exact .error fault ⟨h.store, hscene⟩

theorem insert (h : SameTrace a b) (e : CallLogEntry) :
    Agree (fun id id' a b => id = id' ∧ SameTrace a b) SameTrace (a.insert e) (b.insert e) := by
  rw [insert_eq_commit, insert_eq_commit, ← h.store]
  exact h.commit (a.store.insert_of_seesFiles seesFiles_unspoken e)

theorem update (h : SameTrace a b) (filter : CallLogFilter) (values : CallLogUpdate) :
    Agree (fun n n' a b => n = n' ∧ SameTrace a b) SameTrace (a.update filter values)
      (b.update filter values) := by
  rw [update_eq_commit, update_eq_commit, ← h.store]
  exact h.commit (a.store.update_of_seesFiles seesFiles_unspoken filter values)

theorem record (h : SameTrace a b) (call : Call) : SameTrace (a.record call) (b.record call) := by
  rw [record_eq_tellResult, record_eq_tellResult]
  exact tellResult_of_agree (h.insert (rowFor call)) fun event _ _ hnext => hnext.tell event

theorem markRead (h : SameTrace a b) : SameTrace a.markRead b.markRead := by
  rw [markRead_eq_tellResult, markRead_eq_tellResult]
  exact tellResult_of_agree (h.update .newMissed .markRead) fun event _ _ hnext => hnext.tell event

end SameTrace

end Host

end CallNotice

import CallNotice.Proofs.CallLog.Store
import CallNotice.Proofs.Coupling
import CallNotice.Proofs.Files.Apart

namespace CallNotice

open Act Scene Journal

variable {look : CallLogEntry → CallLogEntry}

namespace CallLogEntry

/-- What is left of a row says its id and whether a filter accepts it. -/
structure IsLook (look : CallLogEntry → CallLogEntry) : Prop where
  id (e : CallLogEntry) : (look e).id = e.id
  accepts (filter : CallLogFilter) (e : CallLogEntry) : filter.accepts (look e) = filter.accepts e
  withId (id : UInt64) (e : CallLogEntry) : look { e with id := id } = { look e with id := id }
  apply (values : CallLogUpdate) (e : CallLogEntry) : look (values.apply e) = values.apply (look e)

theorem isLook_same : IsLook fun e => e :=
  ⟨fun _ => rfl, fun _ _ => rfl, fun _ _ => rfl, fun _ _ => rfl⟩

theorem IsLook.withId_eq (hlook : IsLook look) {e e' : CallLogEntry} (h : look e = look e')
    (id : UInt64) : look { e with id := id } = look { e' with id := id } := by
  have hwith := congrArg (fun e : CallLogEntry => { e with id := id }) h
  exact (hlook.withId id e).trans (hwith.trans (hlook.withId id e').symm)

end CallLogEntry

namespace Rows

variable {rows rows' : Rows} (hlook : CallLogEntry.IsLook look)
  (h : rows.map look = rows'.map look)

include hlook h

theorem count_eq (filter : CallLogFilter) : rows.count filter = rows'.count filter := by
  have hcount (rows : Rows) : rows.count filter = List.countP filter.accepts (rows.map look) := by
    rw [List.countP_map, count]
    exact List.countP_congr fun e _ => by rw [Function.comp_apply, hlook.accepts]
  rw [hcount, hcount, h]

theorem nextId_eq : rows.nextId = rows'.nextId := by
  have hlast (rows : Rows) :
      rows.lastId = (rows.map look).foldl (fun last e => max last e.id) 0 := by
    rw [List.foldl_map, lastId]
    simp only [hlook.id]
  rw [nextId, nextId, hlast, hlast, h]

theorem map_update_eq (filter : CallLogFilter) (values : CallLogUpdate) :
    (rows.update filter values).map look = (rows'.update filter values).map look := by
  have hupdate (rows : Rows) :
      (rows.update filter values).map look = Rows.update filter values (rows.map look) := by
    rw [update, update, List.map_map, List.map_map]
    apply List.map_congr_left
    intro e _
    rw [Function.comp_apply, Function.comp_apply, hlook.accepts, apply_ite look, hlook.apply]
  rw [hupdate, hupdate, h]

theorem map_insert_eq {e e' : CallLogEntry} (he : look e = look e') :
    (rows.insert e).map look = (rows'.insert e').map look := by
  rw [insert, insert, List.map_append, List.map_append, h, List.map_singleton, List.map_singleton,
    nextId_eq hlook h, hlook.withId_eq he]

end Rows

namespace CallLogJournal

/-- The work on the journal goes alike from scenes in `P`, and when its lock was taken, in `R`. -/
structure Parallel (look : CallLogEntry → CallLogEntry) (path : String)
    (P R : Scene → Scene → Prop) : Prop where
  lock : Couples P (fun _ _ => R) P (lock path) (lock path)
  openToRead : Couples R (fun _ _ => R) P (Act.onFiles (·.openToRead path))
    (Act.onFiles (·.openToRead path))
  touch : Couples R (fun _ _ => R) P (Act.onFiles (·.touch path)) (Act.onFiles (·.touch path))
  append {e e' : CallLogEntry} : look e = look e' →
    Couples R (fun _ _ => R) P (append path e.toJson) (append path e'.toJson)
  replace {es es' : Rows} : es.map look = es'.map look → Couples R (fun _ _ => R) P
    (replace path (es.map CallLogEntry.toJson)) (replace path (es'.map CallLogEntry.toJson))
  rows {s t : Scene} : R s t → (rows path s.files).map look = (rows path t.files).map look
  tell {s t : Scene} (event : LogEvent) : R s t → R (s.tell event) (t.tell event)
  weaken {s t : Scene} : R s t → P s t

theorem rows_eq (path : String) (files : Files) :
    rows path files = ofContent CallLogEntry.ofJson? (files.held path) :=
  values_eq CallLogEntry.ofJson? path files

theorem parallel_wider {path : String} (hname : Path.namesDirectory path = false) :
    Parallel (fun e => e) path (Wider path) (Reached path) where
  lock := couples_lock hname
  openToRead := couples_openToRead hname (file_mem path)
  touch := couples_touch hname (file_mem path)
  append h := by
    cases h
    exact couples_append hname _
  replace h := by
    rw [List.map_id', List.map_id'] at h
    cases h
    exact couples_replace hname _
  rows h := by rw [rows_eq, rows_eq, h.paves.held_eq h.reaches hname (file_mem path)]
  tell _ h := ⟨⟨h.paves, h.stands⟩, h.reaches⟩
  weaken h := h.toWider

theorem parallel_of_seesFiles {I : Scene → Scene → Prop} (hI : SeesFiles I) (path : String) :
    Parallel (fun e => e) path I I where
  lock := hI.isUniform.couples_lock path
  openToRead := hI.couples_onFiles _
  touch := hI.couples_onFiles _
  append h := by
    cases h
    exact hI.couples_onFiles _
  replace h := by
    rw [List.map_id', List.map_id'] at h
    cases h
    exact Couples.bind (hI.couples_onFiles _) fun _ _ => hI.couples_onFiles _
  rows h := congrArg (fun files => (rows path files).map fun e => e) (hI.files h)
  tell := hI.tell
  weaken h := h

variable {path : String} {P R : Scene → Scene → Prop} (hlook : CallLogEntry.IsLook look)
  (hparallel : Parallel look path P R)

include hparallel in
theorem couples_rows :
    Couples R (fun found found' s t => found.map look = found'.map look ∧ R s t) P
      (readFiles (rows path)) (readFiles (rows path)) :=
  Couples.readFiles fun _ _ h => ⟨hparallel.rows h, h⟩

include hlook hparallel

theorem matches_insert {e e' : CallLogEntry} (he : look e = look e') :
    Matches P (· = ·) (insert path e) (insert path e') := by
  refine Couples.bind hparallel.lock fun _ _ => ?_
  refine Couples.bind hparallel.touch fun _ _ => ?_
  refine Couples.bind (couples_rows hparallel) fun found found' => ?_
  rintro s t ⟨hfound, h⟩
  have hid := Rows.nextId_eq hlook hfound
  have hentry : look { e with id := found.nextId } = look { e' with id := found'.nextId } := by
    rw [hid, hlook.withId_eq he]
  refine Couples.bind (hparallel.append hentry) (fun _ _ => ?_) s t h
  exact Couples.pure fun _ _ h => ⟨hid, hparallel.weaken h⟩

theorem couples_update {P' : Scene → Scene → Prop}
    (hholds : ∀ s t, P' s t → s.files.holds path = t.files.holds path ∧ P s t)
    (filter : CallLogFilter) (values : CallLogUpdate) :
    Couples P' (fun n n' s t => n = n' ∧ P s t) P (update path filter values)
      (update path filter values) := by
  have hread : Couples P' (fun b b' s t => b = b' ∧ P s t) P (readFiles (·.holds path))
      (readFiles (·.holds path)) := Couples.readFiles hholds
  refine Couples.bind hread fun holds holds' => ?_
  rintro s t ⟨rfl, h⟩
  cases holds with
  | false => exact .ok ⟨rfl, h⟩
  | true =>
    have hseize := Couples.bind hparallel.lock fun _ _ => hparallel.openToRead
    refine Couples.bind hseize (fun _ _ => ?_) s t h
    refine Couples.bind (couples_rows hparallel) fun found found' => ?_
    rintro s t ⟨hfound, h⟩
    have hsame := Rows.count_eq hlook hfound filter
    by_cases hcount : found.count filter = 0
    · simp only [← hsame, hcount, if_true]
      exact .ok ⟨rfl, hparallel.weaken h⟩
    · simp only [← hsame, hcount, if_false]
      have hupdated := Rows.map_update_eq hlook hfound filter values
      refine Couples.bind (hparallel.replace hupdated) (fun _ _ => ?_) s t h
      refine Couples.bind (R := fun _ _ => R) (Couples.tell _ fun _ _ h => hparallel.tell _ h)
        fun _ _ => ?_
      exact Couples.pure fun _ _ h => ⟨rfl, hparallel.weaken h⟩

end CallLogJournal

namespace CallLogStore

open CallLogJournal

inductive Alike (look : CallLogEntry → CallLogEntry) : CallLogStore → CallLogStore → Prop
  | memory {rows rows' : Rows} (h : rows.map look = rows'.map look) :
    Alike look (memory rows) (memory rows')
  | journal (path : String) : Alike look (journal path) (journal path)
  | unavailable : Alike look unavailable unavailable

protected theorem Alike.rfl {store : CallLogStore} : Alike look store store := by
  cases store with
  | memory rows => exact .memory rfl
  | journal path => exact .journal path
  | unavailable => exact .unavailable

variable {store store' : CallLogStore} {P R : Scene → Scene → Prop}

theorem Alike.eq (h : Alike (fun e => e) store store') : store = store' := by
  cases h with
  | memory h =>
    rw [List.map_id', List.map_id'] at h
    rw [h]
  | _ => rfl

theorem matches_insert (hlook : CallLogEntry.IsLook look) (h : Alike look store store')
    (hparallel : ∀ path ∈ store.path?, Parallel look path P R) {e e' : CallLogEntry}
    (he : look e = look e') :
    Matches P (fun r r' => r.1 = r'.1 ∧ Alike look r.2 r'.2) (store.insert e)
      (store'.insert e') := by
  cases h with
  | memory h =>
    exact Matches.pure ⟨Rows.nextId_eq hlook h, .memory (Rows.map_insert_eq hlook h he)⟩
  | journal path =>
    have hinsert := CallLogJournal.matches_insert hlook (hparallel path rfl) he
    refine Matches.bind hinsert fun id id' hid => ?_
    exact Matches.pure ⟨hid, .journal path⟩
  | unavailable => exact Matches.throw _

theorem couples_update (hlook : CallLogEntry.IsLook look) (h : Alike look store store')
    (hparallel : ∀ path ∈ store.path?, Parallel look path P R)
    {P' : Scene → Scene → Prop} (hP' : ∀ s t, P' s t → P s t)
    (hholds : ∀ path ∈ store.path?, ∀ s t, P' s t → s.files.holds path = t.files.holds path)
    (filter : CallLogFilter) (values : CallLogUpdate) :
    Couples P' (fun r r' s t => (r.1 = r'.1 ∧ Alike look r.2 r'.2) ∧ P s t) P
      (store.update filter values) (store'.update filter values) := by
  cases h with
  | memory h =>
    have hcount := Rows.count_eq hlook h filter
    have hupdated := Rows.map_update_eq hlook h filter values
    exact Couples.pure fun s t hst => ⟨⟨hcount, .memory hupdated⟩, hP' s t hst⟩
  | journal path =>
    refine Couples.bind (CallLogJournal.couples_update hlook (hparallel path rfl)
      (fun s t h => ⟨hholds path rfl s t h, hP' s t h⟩) filter values) fun n n' => ?_
    exact Couples.pure fun _ _ h => ⟨⟨h.1, .journal path⟩, h.2⟩
  | unavailable => exact Couples.throw _ hP'

section SeesFiles

variable {I : Scene → Scene → Prop} (hI : SeesFiles I)

include hI

theorem insert_of_seesFiles (e : CallLogEntry) (store : CallLogStore) :
    Matches I (· = ·) (store.insert e) (store.insert e) := by
  have hmatches := store.matches_insert CallLogEntry.isLook_same .rfl
    (fun path _ => parallel_of_seesFiles hI path) (Eq.refl e)
  exact hmatches.conseq (fun _ _ => id) (fun _ _ _ _ h => ⟨Prod.ext h.1.1 h.1.2.eq, h.2⟩)
    fun _ _ => id

theorem update_of_seesFiles (filter : CallLogFilter) (values : CallLogUpdate)
    (store : CallLogStore) :
    Matches I (· = ·) (store.update filter values) (store.update filter values) := by
  have hcouples := store.couples_update CallLogEntry.isLook_same .rfl
    (fun path _ => parallel_of_seesFiles hI path) (fun _ _ => id)
    (fun path _ _ _ h => congrArg (Files.holds · path) (hI.files h)) filter values
  exact hcouples.conseq (fun _ _ => id) (fun _ _ _ _ h => ⟨Prod.ext h.1.1 h.1.2.eq, h.2⟩)
    fun _ _ => id

end SeesFiles

theorem parallel_wider {path : String} (hname : Path.namesDirectory path = false)
    (hpath : path ∈ store.path?) :
    ∀ path' ∈ store.path?, Parallel (fun e => e) path' (Wider path) (Reached path) := by
  intro path' hpath'
  cases Option.mem_unique hpath hpath'
  exact CallLogJournal.parallel_wider hname

def inserted (e : CallLogEntry) : CallLogStore → CallLogStore
  | memory rows => memory (rows.insert e)
  | store => store

def updated (filter : CallLogFilter) (values : CallLogUpdate) : CallLogStore → CallLogStore
  | memory rows => memory (rows.update filter values)
  | store => store

theorem path?_inserted (e : CallLogEntry) (store : CallLogStore) :
    (store.inserted e).path? = store.path? := by
  cases store <;> rfl

theorem path?_updated (filter : CallLogFilter) (values : CallLogUpdate) (store : CallLogStore) :
    (store.updated filter values).path? = store.path? := by
  cases store <;> rfl

end CallLogStore

end CallNotice

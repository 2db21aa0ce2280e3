import CallNotice.Proofs.Files.Content
import CallNotice.Proofs.Files.Locking

namespace CallNotice.Journal

open Files

variable {path : String} {s s' : Scene}

theorem values_eq {α : Type} (decode : Json → Option α) (path : String) (files : Files) :
    values decode path files = ofContent decode (files.held path) := by
  rw [values, held]
  cases files.content? path <;> rfl

/-- The file at the place of the path can be read through the path, if there is a file at all. -/
def IsOpen (path : String) (files : Files) : Prop :=
  files.node? (files.place path) = none ∨ ∃ bytes, files.content? path = some bytes

theorem held_grown {files files' : Files} (h : Grows files files') (hopen : IsOpen path files)
    (hadmits : files'.admits path = true) : files'.held path = files.held path := by
  rcases hopen with hnone | ⟨bytes, hbytes⟩
  · have hnone' : files'.node? (files'.place path) = none := by
      rcases h.node? (files.place path) with heq | ⟨-, hdir⟩
      · rw [h.place, heq, hnone]
      · have hfile := (admits_iff.mp hadmits).2.2.1
        rw [isDirectory, h.place, hdir] at hfile
        cases hfile
    rw [held_of_absent hnone, held_of_absent hnone']
  · rw [held_of_content? hbytes, held_of_content? (h.content? hbytes)]

theorem held_locked (h : (lock path).run s = (.ok (), s')) (hopen : IsOpen path s.files)
    (hadmits : s'.files.admits path = true) : s'.files.held path = s.files.held path := by
  obtain ⟨-, -, files, hgrows, hwrites⟩ := run_lock_ok h
  rw [hwrites.tree.admits] at hadmits
  rw [held_touched hwrites hadmits, held_grown hgrows hopen hadmits]

theorem opened?_locked (h : (lock path).run s = (.ok (), s')) {node : Node}
    (hopened : s.files.opened? path = some node) : s'.files.opened? path = some node := by
  obtain ⟨-, -, files, hgrows, hwrites⟩ := run_lock_ok h
  exact opened?_touched hwrites (hgrows.opened? hopened)

theorem content?_locked (h : (lock path).run s = (.ok (), s')) {bytes : ByteArray}
    (hbytes : s.files.content? path = some bytes) : s'.files.content? path = some bytes := by
  rw [content?_eq_some_iff_opened?] at hbytes ⊢
  exact opened?_locked h hbytes

theorem snd_run_seize (path : String) (s : Scene) :
    ((seize path).run s).2 = ((lock path).run s).2 := by
  rw [seize, Act.run_bind]
  rcases (lock path).run s with ⟨fault | u, s₁⟩
  · rfl
  · dsimp only
    rw [Act.run_onFiles]
    cases hopen : s₁.files.openToRead path with
    | error fault => rfl
    | ok files => rw [openToRead_ok hopen]

theorem run_seize_of_opened? (h : (lock path).run s = (.ok (), s')) {node : Node}
    (hopened : s.files.opened? path = some node) : (seize path).run s = (.ok (), s') := by
  rw [seize, Act.run_bind_of_ok h]
  exact Act.run_onFiles_of_ok (openToRead_of_opened? (opened?_locked h hopened))

theorem run_seize_of_content? (h : (lock path).run s = (.ok (), s')) {bytes : ByteArray}
    (hbytes : s.files.content? path = some bytes) : (seize path).run s = (.ok (), s') :=
  run_seize_of_opened? h (content?_eq_some_iff_opened?.mp hbytes)

theorem run_seize_of_admits (h : (lock path).run s = (.ok (), s'))
    (hholds : s.files.holds path = true) (hadmits : s'.files.admits path = true) :
    (seize path).run s = (.ok (), s') := by
  obtain ⟨-, -, files, hgrows, hwrites⟩ := run_lock_ok h
  obtain ⟨-, -, -, hfree⟩ := admits_iff.mp hadmits
  rw [hwrites.tree.place, hgrows.place, isBarred_congr hwrites.tree.barred,
    isBarred_congr hgrows.barred] at hfree
  obtain ⟨node, hat⟩ := Option.isSome_iff_exists.mp hholds
  exact run_seize_of_opened? h (opened?_eq_some_iff.mpr ⟨hfree, hat⟩)

theorem run_lock_of_seize (h : (seize path).run s = (.ok (), s')) :
    (lock path).run s = (.ok (), s') := by
  obtain ⟨u, s₁, hlock, hopen⟩ := Act.run_bind_ok h
  obtain ⟨files, hopened, rfl⟩ := Act.run_onFiles_ok hopen
  rw [hlock, openToRead_ok hopened]

/-- The lock can be taken, and then both the journal and its spare file can be written. -/
def Usable (path : String) (s : Scene) : Prop :=
  ∃ s', (lock path).run s = (.ok (), s') ∧ s'.files.admits path = true ∧
    s'.files.admits (Path.spareFile path) = true

theorem usable_of_lockable (hlockable : Lockable path s.files)
    (hadmits : s.files.admits path = true)
    (hspare : s.files.admits (Path.spareFile path) = true) : Usable path s := by
  obtain ⟨files, hlock, hwrites⟩ := run_lock hlockable
  exact ⟨_, hlock, (hwrites.tree.admits _).trans hadmits, (hwrites.tree.admits _).trans hspare⟩

theorem usable_of_sameTree {s₁ : Scene} (hlock : (lock path).run s = (.ok (), s₁))
    (htree : SameTree s₁.files s'.files) (hadmits : s₁.files.admits path = true)
    (hspare : s₁.files.admits (Path.spareFile path) = true) : Usable path s' := by
  obtain ⟨-, hlockable, -⟩ := run_lock_ok hlock
  apply usable_of_lockable (hlockable.sameTree htree)
  · exact (htree.admits path).trans hadmits
  · exact (htree.admits _).trans hspare

theorem run_append_ok {j : Json} (h : (append path j).run s = (.ok (), s')) :
    s' = { s with files := s'.files } ∧
      Writes s.files path (s.files.held path ++ line j) s'.files := by
  obtain ⟨files, happend, rfl⟩ := Act.run_onFiles_ok h
  exact ⟨rfl, writes_of_append happend⟩

theorem run_append (h : s.files.admits path = true) (j : Json) :
    ∃ files, (append path j).run s = (.ok (), { s with files }) ∧
      Writes s.files path (s.files.held path ++ line j) files := by
  obtain ⟨files, happend, hwrites⟩ := append_of_admits h (line j)
  exact ⟨files, Act.run_onFiles_of_ok happend, hwrites⟩

theorem run_replace (h : s.files.admits path = true)
    (hspare : s.files.admits (Path.spareFile path) = true) (js : List Json) :
    ∃ files, (replace path js).run s = (.ok (), { s with files }) ∧ SameTree s.files files ∧
      files.content? path = some (content js) := by
  obtain ⟨written, hwrite, hwrites⟩ := write_of_admits hspare (content js)
  have hadmits : written.admits path = true := (hwrites.tree.admits path).trans h
  obtain ⟨renamed, hrename, hmoves⟩ := rename_of_admits hwrites.content? hadmits
  refine ⟨renamed, ?_, hwrites.tree.trans hmoves.tree, hmoves.content?⟩
  have hfirst : (Act.onFiles (·.write (Path.spareFile path) (content js))).run s =
      (.ok (), { s with files := written }) := Act.run_onFiles_of_ok hwrite
  rw [replace, Act.run_bind_of_ok hfirst]
  exact Act.run_onFiles_of_ok hrename

theorem run_replace_refused (hspare : s.files.admits (Path.spareFile path) = false)
    (js : List Json) : (replace path js).run s = (.error refusal, s) := by
  have hwrite : s.files.write (Path.spareFile path) (content js) = .error refusal :=
    if_neg (by rw [hspare]; decide)
  rw [replace, Act.run_bind, Act.run_onFiles, hwrite]

theorem run_replace_ok (h : s.files.admits path = true) {js : List Json}
    (hreplace : (replace path js).run s = (.ok (), s')) :
    s'.files.content? path = some (content js) := by
  by_cases hspare : s.files.admits (Path.spareFile path) = true
  · obtain ⟨files, hrun, -, hcontent⟩ := run_replace h hspare js
    cases hrun.symm.trans hreplace
    exact hcontent
  · rw [run_replace_refused (Bool.eq_false_iff.mpr hspare)] at hreplace
    cases hreplace

theorem spareFile_of_replace {js : List Json} (h : (replace path js).run s = (.ok (), s'))
    (hne : s.files.place (Path.spareFile path) ≠ s.files.place path) :
    s'.files.node? (s.files.place (Path.spareFile path)) = none := by
  obtain ⟨u, s₁, hfirst, hlast⟩ := Act.run_bind_ok h
  obtain ⟨written, hwrite, rfl⟩ := Act.run_onFiles_ok hfirst
  obtain ⟨renamed, hrename, rfl⟩ := Act.run_onFiles_ok hlast
  have htree := (writes_of_write hwrite).tree
  rw [← htree.place, ← htree.place path] at hne
  rw [← htree.place]
  obtain ⟨heq, -⟩ | ⟨bytes, hmoves⟩ := rename_ok hrename
  · exact absurd heq hne
  · exact hmoves.erased hne

section Keeps

variable {α : Type} {decode : Json → Option α} {as : List α} {files files' : Files}

/-- The journal holds just these values, and its last line is ended. -/
structure Keeps (decode : Json → Option α) (path : String) (as : List α) (files : Files) : Prop where
  isOpen : IsOpen path files
  tail : tail (files.held path) = []
  values : values decode path files = as

theorem keeps_of_absent (h : files.node? (files.place path) = none) :
    Keeps decode path [] files := by
  refine ⟨.inl h, ?_, ?_⟩
  · rw [held_of_absent h]
    rfl
  · rw [values_eq, held_of_absent h]
    rfl

theorem keeps_of_content? {bytes : ByteArray} (h : files.content? path = some bytes)
    (htail : tail bytes = []) (has : ofContent decode bytes = as) : Keeps decode path as files := by
  refine ⟨.inr ⟨bytes, h⟩, ?_, ?_⟩
  · rw [held_of_content? h, htail]
  · rw [values_eq, held_of_content? h, has]

theorem Keeps.append (h : Keeps decode path as files) {j : Json} {a : α} (hj : decode j = some a)
    (hcontent : files'.content? path = some (files.held path ++ line j)) :
    Keeps decode path (as ++ [a]) files' := by
  apply keeps_of_content? hcontent (tail_append_line _ j)
  rw [ofContent_append_blank decode (endsBlank_of_tail_nil h.tail) hj, ← values_eq, h.values]

theorem keeps_replaced (encode : α → Json) (hread : ∀ a ∈ as, decode (encode a) = some a)
    (hcontent : files.content? path = some (content (as.map encode))) :
    Keeps decode path as files :=
  keeps_of_content? hcontent (tail_content _) (ofContent_content decode encode as hread)

theorem Keeps.locked (h : Keeps decode path as s.files) (hlock : (lock path).run s = (.ok (), s'))
    {bytes : ByteArray} (hbytes : s.files.content? path = some bytes) :
    Keeps decode path as s'.files := by
  have hheld : s.files.held path = bytes := held_of_content? hbytes
  apply keeps_of_content? (content?_locked hlock hbytes)
  · rw [← hheld, h.tail]
  · rw [← hheld, ← values_eq, h.values]

end Keeps

end CallNotice.Journal

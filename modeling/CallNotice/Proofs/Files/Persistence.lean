import CallNotice.Proofs.Files.Bytes

namespace CallNotice.Journal

open Files Act

variable {paths : List String} {path file : String} {fs fs' : Files} {bytes : ByteArray}

theorem reaches_parent {parent : String} (hname : Path.namesDirectory path = false)
    (hreaches : Reaches path fs) (hparent : Path.parent? path = some parent) :
    ∀ p ∈ fs.way parent, fs.isDirectory p = true := by
  rw [Files.way, Path.way_parent fs.here hname hparent]
  exact hreaches

theorem admits_before (hedited : Edited paths fs fs') (hfile : file ∈ ownFiles path)
    (hcontent : fs.content? path = some bytes) (h : fs'.admits file = true) :
    fs.admits file = true := by
  obtain ⟨hadmits, -⟩ := content?_eq_some_iff.mp hcontent
  obtain ⟨-, hname, -⟩ := admits_iff.mp hadmits
  obtain ⟨hleads, hnamed, hfree, hbarred⟩ := admits_iff.mp h
  have hplace : fs'.place file = fs.place file := by
    rw [Files.place, hedited.here, Files.place]
  obtain ⟨hfits, -⟩ := (leads_own hname hfile fs').mp hleads
  have hreaches := reaches_of_content? hcontent
  rw [hplace, isBarred_congr hedited.barred] at hbarred
  rw [admits_iff]
  refine ⟨(leads_own hname hfile fs).mpr ⟨hfits, hreaches⟩, hnamed, ?_, hbarred⟩
  by_contra hdir
  rw [Bool.not_eq_false] at hdir
  rw [hplace, hedited.isDirectory hdir] at hfree
  cases hfree

theorem lockable_before (hedited : Edited paths fs fs') (hcontent : fs.content? path = some bytes)
    (h : Lockable path fs') : Lockable path fs := by
  obtain ⟨hadmits, -⟩ := content?_eq_some_iff.mp hcontent
  obtain ⟨-, hname, -⟩ := admits_iff.mp hadmits
  refine ⟨?_, admits_before hedited (lockFile_mem path) hcontent h.admits⟩
  intro parent hparent hne
  obtain ⟨hwf, -⟩ := h.paved parent hparent hne
  exact ⟨hwf, reaches_parent hname (reaches_of_content? hcontent) hparent⟩

theorem lockable_of_lock {s s' : Scene} (h : (lock path).run s = (.ok (), s'))
    (hcontent : s.files.content? path = some bytes) : Lockable path s.files := by
  have hedited := edited_lock path s
  rw [h] at hedited
  obtain ⟨-, hlockable, -⟩ := run_lock_ok h
  exact lockable_before hedited hcontent hlockable

def Readable (path : String) (fs : Files) : Prop :=
  ∀ bytes, fs.fileAt? (fs.place path) = some bytes → fs.content? path = some bytes

theorem readable_of_content? (h : fs.content? path = some bytes) : Readable path fs := by
  intro bytes' hfile
  rw [fileAt?_of_content? h] at hfile
  rw [h, hfile]

theorem Readable.fileAt?_eq (h : Readable path fs) :
    fs.fileAt? (fs.place path) = fs.content? path := by
  cases hfile : fs.fileAt? (fs.place path) with
  | some bytes => rw [h bytes hfile]
  | none =>
    symm
    rw [Option.eq_none_iff_forall_ne_some]
    intro bytes hbytes
    rw [fileAt?_of_content? hbytes] at hfile
    cases hfile

theorem isOpen_of_lock {s s' : Scene} (h : (lock path).run s = (.ok (), s'))
    (hadmits : s'.files.admits path = true) (hreadable : Readable path s.files) :
    IsOpen path s.files := by
  cases hnode : s.files.node? (s.files.place path) with
  | none => exact .inl hnode
  | some node =>
    cases node with
    | file bytes => exact .inr ⟨bytes, hreadable bytes (fileAt?_eq_some_iff.mpr hnode)⟩
    | directory =>
      have hplace := place_lock path path s
      have hdir := (edited_lock path s).isDirectory (decide_eq_true hnode)
      rw [h] at hplace hdir
      obtain ⟨-, -, hfile, -⟩ := admits_iff.mp hadmits
      rw [hplace, hdir] at hfile
      cases hfile

structure Leaves (path : String) (fs fs' : Files) : Prop where
  edited : ∃ paths, Edited paths fs fs'
  file : fs'.fileAt? (fs.place path) = fs.fileAt? (fs.place path)

theorem Edited.leaves (h : Edited paths fs fs')
    (hforeign : ∀ other ∈ paths, Foreign fs.here other (fs.place path)) : Leaves path fs fs' :=
  ⟨⟨paths, h⟩, h.fileAt? hforeign⟩

namespace Leaves

theorem here (h : Leaves path fs fs') : fs'.here = fs.here := by
  obtain ⟨paths, hedited⟩ := h.edited
  exact hedited.here

theorem place (h : Leaves path fs fs') (file : String) : fs'.place file = fs.place file := by
  rw [Files.place, h.here, Files.place]

theorem trans {fs'' : Files} (h : Leaves path fs fs') (h' : Leaves path fs' fs'') :
    Leaves path fs fs'' := by
  obtain ⟨paths, hedited⟩ := h.edited
  obtain ⟨paths', hedited'⟩ := h'.edited
  have hfile := h'.file
  rw [h.place, h.file] at hfile
  refine ⟨⟨paths ++ paths', ?_⟩, hfile⟩
  exact (hedited.mono fun _ => List.mem_append_left paths').trans
    (hedited'.mono fun _ => List.mem_append_right paths)

theorem content? (h : Leaves path fs fs') (hcontent : fs.content? path = some bytes) :
    fs'.content? path = some bytes := by
  obtain ⟨paths, hedited⟩ := h.edited
  exact hedited.content? h.file hcontent

theorem readable (h : Leaves path fs fs') (hreadable : Readable path fs) : Readable path fs' := by
  intro bytes hfile
  rw [h.place, h.file] at hfile
  exact h.content? (hreadable bytes hfile)

theorem content?_eq (h : Leaves path fs fs') (hreadable : Readable path fs) :
    fs'.content? path = fs.content? path := by
  rw [← (h.readable hreadable).fileAt?_eq, h.place, h.file, hreadable.fileAt?_eq]

theorem held (h : Leaves path fs fs') (hreadable : Readable path fs) :
    fs'.held path = fs.held path := by
  rw [Files.held, h.content?_eq hreadable, Files.held]

end Leaves

end CallNotice.Journal

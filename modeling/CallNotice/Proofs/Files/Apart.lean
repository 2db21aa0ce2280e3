import CallNotice.Proofs.Files.Paving

namespace CallNotice

open Files

/-- A file may stand where the path leads. The place is not one that the path passes before. -/
structure Path.MayHold (start : List String) (path : String) : Prop where
  namesFile : namesDirectory path = false
  fits : fits path = true
  passes : place start path ∉ (way start path).dropLast

namespace Journal

variable {path file : String} {others : List String} {fs fs' : Files}

theorem reaches_of_content? {bytes : ByteArray} (h : fs.content? path = some bytes) :
    Reaches path fs := by
  obtain ⟨hadmits, -⟩ := content?_eq_some_iff.mp h
  obtain ⟨hleads, hname, -⟩ := admits_iff.mp hadmits
  exact ((leads_own hname (file_mem path) fs).mp hleads).2

theorem mayHold_of_content? {bytes : ByteArray} (h : fs.content? path = some bytes) :
    Path.MayHold fs.here path := by
  obtain ⟨hadmits, -⟩ := content?_eq_some_iff.mp h
  obtain ⟨hleads, hname, hdir, -⟩ := admits_iff.mp hadmits
  obtain ⟨hfits, hreaches⟩ := (leads_own hname (file_mem path) fs).mp hleads
  refine ⟨hname, hfits, fun hmem => ?_⟩
  have hdir' := hreaches _ hmem
  rw [← Files.place, hdir] at hdir'
  cases hdir'

/-- Neither of the two journals works on a file of the other. -/
structure Apart (here : List String) (path other : String) : Prop where
  left : ∀ file ∈ ownFiles path, Path.place here file ∉ places here other
  right : ∀ file ∈ ownFiles other, Path.place here file ∉ places here path

instance (here : List String) (path other : String) : Decidable (Apart here path other) :=
  decidable_of_iff ((∀ file ∈ ownFiles path, Path.place here file ∉ places here other) ∧
    ∀ file ∈ ownFiles other, Path.place here file ∉ places here path)
    ⟨fun h => ⟨h.1, h.2⟩, fun h => ⟨h.left, h.right⟩⟩

theorem mem_places_of_mem_dropLast (h : Path.namesDirectory path = false) {here : List String}
    {p : List String} (hp : p ∈ (Path.way here path).dropLast) : p ∈ places here path := by
  obtain ⟨before, last, hsegments, hlast, -⟩ := Path.exists_last h
  have hparent := Path.parent?_eq hsegments hlast
  rw [← Path.way_parent here h hparent] at hp
  exact mem_places_of_way hparent hp

theorem not_mem_places (h : Path.namesDirectory path = false) {here p : List String}
    (hway : p ∉ (Path.way here path).dropLast)
    (hown : ∀ file ∈ ownFiles path, p ≠ Path.place here file) : p ∉ places here path := by
  intro hp
  rcases List.mem_append.mp hp with hp | hp
  · cases hparent : Path.parent? path with
    | none =>
      rw [hparent] at hp
      exact absurd hp List.not_mem_nil
    | some parent =>
      rw [hparent] at hp
      rw [← Path.way_parent here h hparent] at hway
      exact hway hp
  · obtain ⟨file, hfile, rfl⟩ : ∃ file ∈ ownFiles path, Path.place here file = p :=
      List.mem_map.mp hp
    exact hown file hfile rfl

theorem Edited.isDirectory {paths : List String} (h : Edited paths fs fs') {p : List String}
    (hp : fs.isDirectory p = true) : fs'.isDirectory p = true :=
  have hspares : Spares (fun _ => False) fs fs' := h.spares fun _ _ _ _ => id
  hspares.isDirectory p hp

theorem not_mem_way_of_locked (hname : Path.namesDirectory path = false) {s s' : Scene}
    (h : (lock path).run s = (.ok (), s')) {p : List String} {bytes : ByteArray}
    (hfile : s.files.node? p = some (.file bytes)) : p ∉ (s.files.way path).dropLast := by
  obtain ⟨-, hlockable, files, hgrows, hwrites⟩ := run_lock_ok h
  obtain ⟨hleads, -⟩ := admits_iff.mp hlockable.admits
  obtain ⟨-, hreaches⟩ := (leads_own hname (lockFile_mem path) s'.files).mp hleads
  intro hp
  have hdir : files.isDirectory p = true := by
    rw [← hwrites.tree.isDirectory]
    apply hreaches
    rwa [Files.way, hwrites.tree.here, hgrows.here]
  rw [Files.isDirectory, decide_eq_true_iff] at hdir
  rcases hgrows.node? p with heq | ⟨hnone, -⟩
  · rw [heq, hfile] at hdir
    cases hdir
  · rw [hfile] at hnone
    cases hnone

/-- Neither of the two journals is a file that goes with the other. -/
structure Distinct (here : List String) (path other : String) : Prop where
  left : ∀ file ∈ ownFiles other, Path.place here path ≠ Path.place here file
  right : ∀ file ∈ ownFiles path, Path.place here other ≠ Path.place here file

instance (here : List String) (path other : String) : Decidable (Distinct here path other) :=
  decidable_of_iff ((∀ file ∈ ownFiles other, Path.place here path ≠ Path.place here file) ∧
    ∀ file ∈ ownFiles path, Path.place here other ≠ Path.place here file)
    ⟨fun h => ⟨h.1, h.2⟩, fun h => ⟨h.left, h.right⟩⟩

theorem Distinct.avoid {s s' : Scene} {other : String}
    (hdistinct : Distinct s.files.here path other) {bytes : ByteArray}
    (hcontent : s.files.content? path = some bytes) (hlock : (lock other).run s = (.ok (), s'))
    (hadmits : s'.files.admits other = true) :
    s.files.place path ∉ places s.files.here other ∧
      s.files.place other ∉ places s.files.here path := by
  obtain ⟨hadmitted, hfile⟩ := content?_eq_some_iff.mp hcontent
  obtain ⟨-, hother, hdir, -⟩ := admits_iff.mp hadmits
  obtain ⟨-, hname, -⟩ := admits_iff.mp hadmitted
  constructor
  · exact not_mem_places hother (not_mem_way_of_locked hother hlock hfile) hdistinct.left
  · refine not_mem_places hname (fun hway => ?_) hdistinct.right
    have hedited := edited_lock other s
    rw [hlock] at hedited
    have hdir' := hedited.isDirectory (reaches_of_content? hcontent _ hway)
    rw [Files.place, hedited.here] at hdir
    rw [Files.place, hdir] at hdir'
    cases hdir'

theorem Edit.paves (hedit : Edit others fs fs') (hname : Path.namesDirectory path = false)
    (hapart : ∀ other ∈ others, Apart fs.here path other) : Paves path fs fs' := by
  -- Only places of the other journals have changed, and of those the path passes no file.
  have hchanged (changed : List String → Prop)
      (helsewhere : ∀ q, ¬changed q → fs'.node? q = fs.node? q)
      (hown : ∀ other ∈ ownFiles path, ¬changed (fs.place other))
      (hway : ∀ p ∈ (fs.way path).dropLast, ¬changed p) : Paves path fs fs' :=
    ⟨hedit.here, hedit.barred, fun other hother => helsewhere _ (hown other hother),
      fun p hp => .inl (helsewhere p (hway p hp))⟩
  have hpassed {other file : String} (hother : other ∈ others) (hfile : file ∈ ownFiles other) :
      ∀ p ∈ (fs.way path).dropLast, p ≠ fs.place file := by
    rintro p hp rfl
    exact (hapart other hother).right file hfile (mem_places_of_mem_dropLast hname hp)
  have hfiles {other file : String} (hother : other ∈ others) (hfile : file ∈ ownFiles other) :
      ∀ own ∈ ownFiles path, fs.place own ≠ fs.place file := by
    intro own hown heq
    apply (hapart other hother).left own hown
    rw [Files.place, Files.place] at heq
    rw [heq]
    exact place_mem_places fs.here hfile
  cases hedit with
  | @makes other parent p hother hparent hp hmake =>
    obtain ⟨hgrows, hdir, helsewhere⟩ := makeDirectory_ok hmake
    refine ⟨hgrows.here, hgrows.barred, fun own hown => helsewhere _ ?_, fun q hq => ?_⟩
    · rintro rfl
      exact (hapart other hother).left own hown (mem_places_of_way hparent hp)
    · rcases hgrows.node? q with heq | ⟨hnone, hdir'⟩
      · exact .inl heq
      · refine .inr ⟨hnone, hdir', ?_⟩
        obtain rfl : q = p := by
          by_contra hne
          rw [helsewhere q hne, hnone] at hdir'
          cases hdir'
        unfold makeDirectory at hmake
        split at hmake
        · rename_i hdir₀
          rw [isDirectory, hnone] at hdir₀
          cases hdir₀
        · split at hmake
          · rename_i hfree
            rw [Bool.and_eq_true, Bool.and_eq_true] at hfree
            exact ⟨Bool.not_eq_eq_eq_not.mp hfree.1.2, hfree.2⟩
          · cases hmake
  | @writes other file bytes hother hfile hwrites =>
    apply hchanged (· = fs.place file)
    · intro q hq
      rw [hwrites.node?, if_neg hq]
    · exact hfiles hother hfile
    · exact hpassed hother hfile
  | @moves other hother hrename =>
    obtain ⟨-, rfl⟩ | ⟨bytes, hmoves⟩ := rename_ok hrename
    · exact .rfl
    · apply hchanged fun q => q = fs.place (Path.spareFile other) ∨ q = fs.place other
      · intro q hq
        obtain ⟨hsource, htarget⟩ := not_or.mp hq
        exact hmoves.elsewhere q hsource htarget
      · exact fun own hown => not_or.mpr
          ⟨hfiles hother (spareFile_mem other) own hown, hfiles hother (file_mem other) own hown⟩
      · exact fun p hp => not_or.mpr
          ⟨hpassed hother (spareFile_mem other) p hp, hpassed hother (file_mem other) p hp⟩

theorem Edited.paves (hedited : Edited others fs fs') (hname : Path.namesDirectory path = false)
    (hapart : ∀ other ∈ others, Apart fs.here path other) : Paves path fs fs' := by
  induction hedited with
  | refl => exact .rfl
  | tail _ hedit ih =>
    apply ih.trans
    apply hedit.paves hname
    rw [ih.here]
    exact hapart

theorem IsOpen.edit (hopen : IsOpen path fs) (hmay : Path.MayHold fs.here path)
    (hedit : Edit [path] fs fs') : IsOpen path fs' := by
  cases hedit with
  | @makes path' parent p hpath' hparent hp hmake =>
    obtain rfl := List.mem_singleton.mp hpath'
    obtain ⟨hgrows, -, helsewhere⟩ := makeDirectory_ok hmake
    rcases hopen with hnone | ⟨bytes, hbytes⟩
    · left
      rw [hgrows.place, helsewhere, hnone]
      rintro rfl
      rw [Files.way, Path.way_parent fs.here hmay.namesFile hparent] at hp
      exact hmay.passes hp
    · exact .inr ⟨bytes, hgrows.content? hbytes⟩
  | @writes path' file bytes hpath' hfile hwrites =>
    obtain rfl := List.mem_singleton.mp hpath'
    by_cases hplace : fs.place path' = fs.place file
    · obtain ⟨hleads, -, hfree⟩ := admits_iff.mp hwrites.admits
      have hreaches := ((leads_own hmay.namesFile hfile fs).mp hleads).2
      have hadmits : fs.admits path' = true := by
        rw [admits_iff, hplace]
        exact ⟨(leads_own hmay.namesFile (file_mem path') fs).mpr ⟨hmay.fits, hreaches⟩,
          hmay.namesFile, hfree⟩
      refine .inr ⟨bytes, content?_eq_some_iff.mpr ⟨(hwrites.tree.admits path').trans hadmits, ?_⟩⟩
      rw [hwrites.tree.place, hwrites.node?, if_pos hplace]
    · rcases hopen with hnone | ⟨bytes', hbytes'⟩
      · left
        rw [hwrites.tree.place, hwrites.node?, if_neg hplace, hnone]
      · exact .inr ⟨bytes', (hwrites.content?_elsewhere hplace).trans hbytes'⟩
  | @moves path' hpath' hrename =>
    obtain rfl := List.mem_singleton.mp hpath'
    obtain ⟨-, rfl⟩ | ⟨bytes, hmoves⟩ := rename_ok hrename
    · exact hopen
    · exact .inr ⟨bytes, hmoves.content?⟩

theorem IsOpen.edited (hopen : IsOpen path fs) (hmay : Path.MayHold fs.here path)
    (hedited : Edited [path] fs fs') : IsOpen path fs' := by
  induction hedited with
  | refl => exact hopen
  | tail hedited hedit ih =>
    apply ih.edit _ hedit
    rw [Edited.here hedited]
    exact hmay

end Journal

end CallNotice

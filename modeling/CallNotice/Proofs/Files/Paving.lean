import CallNotice.Proofs.Coupling
import CallNotice.Proofs.Files.Path
import CallNotice.Proofs.Files.Sparing

/-!
Journals that are apart. The work on one of them makes at most directories on the way to the other,
and whoever works on the other finds the same files and is refused the same.
-/

namespace CallNotice

open Journal

namespace Files

/-- On the way to the journal directories were made where nothing was; its own files are as they
were. -/
structure Paves (path : String) (fs fs' : Files) : Prop where
  here : fs'.here = fs.here
  barred : fs'.barred = fs.barred
  own : ∀ file ∈ ownFiles path, fs'.node? (fs.place file) = fs.node? (fs.place file)
  way : ∀ p ∈ (fs.way path).dropLast, fs'.node? p = fs.node? p ∨
    fs.node? p = none ∧ fs'.node? p = some .directory ∧ fs.isBarred p = false ∧
      p.getLast?.all Path.nameFits = true

def Reaches (path : String) (fs : Files) : Prop :=
  ∀ p ∈ (fs.way path).dropLast, fs.isDirectory p = true

variable {path file : String} {fs fs' fs'' gs gs' : Files} {bytes : ByteArray} {p : List String}

theorem dropLast_way_own (h : Path.namesDirectory path = false) (hfile : file ∈ ownFiles path)
    (fs : Files) : (fs.way file).dropLast = (fs.way path).dropLast := by
  simp only [ownFiles, List.mem_cons, List.not_mem_nil, or_false] at hfile
  rcases hfile with rfl | rfl | rfl
  · exact Path.dropLast_way_lockFile fs.here h
  · rfl
  · exact Path.dropLast_way_spareFile fs.here h

theorem leads_own (h : Path.namesDirectory path = false) (hfile : file ∈ ownFiles path)
    (fs : Files) : fs.leads file = true ↔ Path.fits file = true ∧ Reaches path fs := by
  rw [leads, dropLast_way_own h hfile, Bool.and_eq_true, List.all_eq_true]
  exact Iff.rfl

theorem Reaches.sameTree (h : Reaches path fs) (htree : SameTree fs fs') : Reaches path fs' := by
  intro p hp
  rw [Files.way, htree.here] at hp
  rw [htree.isDirectory]
  exact h p hp

namespace Paves

protected theorem rfl : Paves path fs fs := ⟨rfl, rfl, fun _ _ => rfl, fun _ _ => .inl rfl⟩

theorem place (h : Paves path fs fs') (file : String) : fs'.place file = fs.place file := by
  rw [Files.place, h.here, Files.place]

theorem trans (h : Paves path fs fs') (h' : Paves path fs' fs'') : Paves path fs fs'' := by
  refine ⟨h'.here.trans h.here, h'.barred.trans h.barred, fun file hfile => ?_, fun p hp => ?_⟩
  · have hown := h'.own file hfile
    rw [h.place] at hown
    exact hown.trans (h.own file hfile)
  · have hp' : p ∈ (fs'.way path).dropLast := by rwa [Files.way, h.here]
    rcases h.way p hp with heq | ⟨hnone, hdir, hfree, hfits⟩
    · rcases h'.way p hp' with heq' | ⟨hnone', hdir', hfree', hfits'⟩
      · exact .inl (heq'.trans heq)
      · rw [isBarred_congr h.barred] at hfree'
        exact .inr ⟨heq ▸ hnone', hdir', hfree', hfits'⟩
    · rcases h'.way p hp' with heq' | ⟨hnone', -⟩
      · exact .inr ⟨hnone, heq'.trans hdir, hfree, hfits⟩
      · rw [hdir] at hnone'
        cases hnone'

theorem reaches (h : Paves path fs fs') (hreaches : Reaches path fs) : Reaches path fs' := by
  intro p hp
  rw [Files.way, h.here] at hp
  have hdir := hreaches p hp
  rw [isDirectory, decide_eq_true_iff] at hdir ⊢
  rcases h.way p hp with heq | ⟨hnone, -⟩
  · exact heq.trans hdir
  · rw [hnone] at hdir
    cases hdir

theorem isDirectory (h : Paves path fs fs') (hfile : file ∈ ownFiles path) :
    fs'.isDirectory (fs'.place file) = fs.isDirectory (fs.place file) := by
  rw [Files.isDirectory, h.place, h.own file hfile, Files.isDirectory]

section Reached

variable (h : Paves path fs fs') (hreaches : Reaches path fs)
  (hname : Path.namesDirectory path = false) (hfile : file ∈ ownFiles path)

include h hreaches hname hfile

theorem leads_eq : fs'.leads file = fs.leads file := by
  rw [Bool.eq_iff_iff, leads_own hname hfile, leads_own hname hfile]
  exact and_congr_right fun _ => iff_of_true (h.reaches hreaches) hreaches

theorem admits_eq : fs'.admits file = fs.admits file := by
  rw [admits, h.leads_eq hreaches hname hfile, h.isDirectory hfile, h.place,
    isBarred_congr h.barred, admits]

theorem opened?_eq : fs'.opened? file = fs.opened? file := by
  rw [opened?, at?, h.leads_eq hreaches hname hfile, h.place, h.own file hfile,
    isBarred_congr h.barred, opened?, at?]

theorem content?_eq : fs'.content? file = fs.content? file := by
  rw [content?, h.opened?_eq hreaches hname hfile, content?]

theorem held_eq : fs'.held file = fs.held file := by
  rw [held, h.content?_eq hreaches hname hfile, held]

end Reached

theorem of_writes (h : Paves path fs fs') (hwrites : Writes fs file bytes gs)
    (hwrites' : Writes fs' file bytes gs') : Paves path gs gs' := by
  have hhere : gs'.here = gs.here := by
    rw [hwrites'.tree.here, h.here, hwrites.tree.here]
  have hbarred : gs'.barred = gs.barred := by
    rw [hwrites'.tree.barred, h.barred, hwrites.tree.barred]
  have hnode (q : List String) (hq : fs'.node? q = fs.node? q) : gs'.node? q = gs.node? q := by
    rw [hwrites.node?, hwrites'.node?, h.place, hq]
  refine ⟨hhere, hbarred, fun other hother => ?_, fun p hp => ?_⟩
  · apply hnode
    rw [hwrites.tree.place]
    exact h.own other hother
  · rw [Files.way, hwrites.tree.here] at hp
    rw [hwrites.node?, hwrites'.node?, h.place]
    by_cases hplace : p = fs.place file
    · rw [if_pos hplace, if_pos hplace]
      exact .inl rfl
    · rw [if_neg hplace, if_neg hplace, isBarred_congr hwrites.tree.barred]
      exact h.way p hp

theorem of_moves {source target : String} (h : Paves path fs fs')
    (hmoves : Moves fs source target bytes gs)
    (hmoves' : Moves fs' source target bytes gs') : Paves path gs gs' := by
  have hhere : gs'.here = gs.here := by
    rw [hmoves'.tree.here, h.here, hmoves.tree.here]
  have hbarred : gs'.barred = gs.barred := by
    rw [hmoves'.tree.barred, h.barred, hmoves.tree.barred]
  have htarget := (content?_eq_some_iff.mp hmoves.content?).2
  have htarget' := (content?_eq_some_iff.mp hmoves'.content?).2
  have helsewhere' := hmoves'.elsewhere
  have herased' := hmoves'.erased
  rw [hmoves.tree.place] at htarget
  rw [hmoves'.tree.place, h.place] at htarget'
  rw [h.place, h.place] at helsewhere' herased'
  -- At both ends of the move the nodes are the same, elsewhere they are what they were.
  have hnode (q : List String) : gs'.node? q = gs.node? q ∨
      gs'.node? q = fs'.node? q ∧ gs.node? q = fs.node? q := by
    by_cases hq : q = fs.place target
    · rw [hq, htarget, htarget']
      exact .inl rfl
    · by_cases hq' : q = fs.place source
      · rw [hq'] at hq ⊢
        rw [hmoves.erased hq, herased' hq]
        exact .inl rfl
      · exact .inr ⟨helsewhere' q hq' hq, hmoves.elsewhere q hq' hq⟩
  refine ⟨hhere, hbarred, fun other hother => ?_, fun p hp => ?_⟩
  · rcases hnode (gs.place other) with heq | ⟨hq', hq⟩
    · exact heq
    · rw [hq, hq', hmoves.tree.place]
      exact h.own other hother
  · rw [Files.way, hmoves.tree.here] at hp
    rcases hnode p with heq | ⟨hq', hq⟩
    · exact .inl heq
    · rw [hq, hq', isBarred_congr hmoves.tree.barred]
      exact h.way p hp

theorem of_makeDirectory (h : Paves path fs fs') (hmake : fs.makeDirectory p = .ok gs)
    (hmake' : fs'.makeDirectory p = .ok gs') : Paves path gs gs' := by
  obtain ⟨hgrows, hdir, helsewhere⟩ := makeDirectory_ok hmake
  obtain ⟨hgrows', hdir', helsewhere'⟩ := makeDirectory_ok hmake'
  rw [Files.isDirectory, decide_eq_true_iff] at hdir hdir'
  have hhere : gs'.here = gs.here := by
    rw [hgrows'.here, h.here, hgrows.here]
  have hbarred : gs'.barred = gs.barred := by
    rw [hgrows'.barred, h.barred, hgrows.barred]
  have hnode (q : List String) : gs'.node? q = gs.node? q ∨
      gs'.node? q = fs'.node? q ∧ gs.node? q = fs.node? q := by
    by_cases hq : q = p
    · rw [hq, hdir, hdir']
      exact .inl rfl
    · exact .inr ⟨helsewhere' q hq, helsewhere q hq⟩
  refine ⟨hhere, hbarred, fun file hfile => ?_, fun q hq => ?_⟩
  · rcases hnode (gs.place file) with heq | ⟨hq', hq⟩
    · exact heq
    · rw [hq, hq', hgrows.place]
      exact h.own file hfile
  · rw [Files.way, hgrows.here] at hq
    rcases hnode q with heq | ⟨hq', hq''⟩
    · exact .inl heq
    · rw [hq', hq'', isBarred_congr hgrows.barred]
      exact h.way q hq

theorem makeDirectory (h : Paves path fs fs') (hp : p ∈ (fs.way path).dropLast) :
    (∃ gs gs', fs.makeDirectory p = .ok gs ∧ fs'.makeDirectory p = .ok gs' ∧ Paves path gs gs') ∨
      fs.makeDirectory p = .error refusal ∧ fs'.makeDirectory p = .error refusal := by
  have hbarred := isBarred_congr h.barred p
  rcases h.way p hp with heq | ⟨hnone, hdir, hfree, hfits⟩
  · have hdir : fs'.isDirectory p = fs.isDirectory p := by
      rw [Files.isDirectory, heq, Files.isDirectory]
    have hfile : fs'.isFile p = fs.isFile p := by
      rw [isFile, heq, isFile]
    cases hmake : fs.makeDirectory p with
    | ok gs =>
      have hmake' : ∃ gs', fs'.makeDirectory p = .ok gs' := by
        unfold Files.makeDirectory at hmake ⊢
        rw [hdir, hfile, hbarred]
        split at hmake
        · exact ⟨fs', if_pos ‹_›⟩
        · split at hmake
          · exact ⟨_, (if_neg ‹_›).trans (if_pos ‹_›)⟩
          · cases hmake
      obtain ⟨gs', hmake'⟩ := hmake'
      exact .inl ⟨gs, gs', rfl, hmake', h.of_makeDirectory hmake hmake'⟩
    | error fault =>
      unfold Files.makeDirectory at hmake ⊢
      rw [hdir, hfile, hbarred]
      split at hmake
      · cases hmake
      · split at hmake
        · cases hmake
        · cases hmake
          exact .inr ⟨rfl, (if_neg ‹_›).trans (if_neg ‹_›)⟩
  · have hmake : fs.makeDirectory p = .ok (fs.put p .directory) := by
      simp [Files.makeDirectory, Files.isDirectory, isFile, hnone, hfree, hfits]
    have hmake' : fs'.makeDirectory p = .ok fs' := by
      apply makeDirectory_of_isDirectory
      rw [Files.isDirectory, hdir]
      rfl
    exact .inl ⟨_, fs', hmake, hmake', h.of_makeDirectory hmake hmake'⟩

end Paves

end Files

/-- The second scene has no more directories than the first on the way to the journal, and the
journal is the same in both. -/
structure Scene.Wider (path : String) (s t : Scene) : Prop where
  paves : Files.Paves path t.files s.files
  stands : t.files.isDirectory t.files.here = true

namespace Journal

open Act Files Scene

variable {path file : String} {s t : Scene}

structure Reached (path : String) (s t : Scene) : Prop extends Wider path s t where
  reaches : Files.Reaches path t.files

theorem Reached.of_writes {bytes : ByteArray} {gs gs' : Files} (h : Reached path s t)
    (hwrites : Writes s.files file bytes gs) (hwrites' : Writes t.files file bytes gs') :
    Reached path { s with files := gs } { t with files := gs' } := by
  refine ⟨⟨h.paves.of_writes hwrites' hwrites, ?_⟩, h.reaches.sameTree hwrites'.tree⟩
  change gs'.isDirectory gs'.here = true
  rw [hwrites'.tree.here, hwrites'.tree.isDirectory]
  exact h.stands

section Own

variable (hname : Path.namesDirectory path = false) (hfile : file ∈ ownFiles path)

include hname hfile

theorem couples_write (bytes : ByteArray) :
    Couples (Reached path) (fun _ _ => Reached path) (Wider path)
      (Act.onFiles (·.write file bytes)) (Act.onFiles (·.write file bytes)) := by
  apply Couples.onFiles
  intro s t h
  have heq := h.paves.admits_eq h.reaches hname hfile
  by_cases hadmits : t.files.admits file = true
  · obtain ⟨gs, hwrite, hwrites⟩ := write_of_admits (heq.trans hadmits) bytes
    obtain ⟨gs', hwrite', hwrites'⟩ := write_of_admits hadmits bytes
    exact .inl ⟨gs, gs', hwrite, hwrite', h.of_writes hwrites hwrites'⟩
  · have hadmits' : ¬s.files.admits file = true := by rwa [heq]
    exact .inr ⟨refusal, if_neg hadmits', if_neg hadmits, h.toWider⟩

theorem couples_touch :
    Couples (Reached path) (fun _ _ => Reached path) (Wider path)
      (Act.onFiles (·.touch file)) (Act.onFiles (·.touch file)) := by
  apply Couples.onFiles
  intro s t h
  have heq := h.paves.admits_eq h.reaches hname hfile
  by_cases hadmits : t.files.admits file = true
  · obtain ⟨gs, htouch, hwrites⟩ := touch_of_admits (heq.trans hadmits)
    obtain ⟨gs', htouch', hwrites'⟩ := touch_of_admits hadmits
    rw [h.paves.held_eq h.reaches hname hfile] at hwrites
    exact .inl ⟨gs, gs', htouch, htouch', h.of_writes hwrites hwrites'⟩
  · have hadmits' : ¬s.files.admits file = true := by rwa [heq]
    exact .inr ⟨refusal, if_neg hadmits', if_neg hadmits, h.toWider⟩

theorem couples_openToRead :
    Couples (Reached path) (fun _ _ => Reached path) (Wider path)
      (Act.onFiles (·.openToRead file)) (Act.onFiles (·.openToRead file)) := by
  apply Couples.onFiles
  intro s t h
  rw [openToRead, openToRead, h.paves.opened?_eq h.reaches hname hfile]
  by_cases hopened : (t.files.opened? file).isSome = true
  · exact .inl ⟨s.files, t.files, if_pos hopened, if_pos hopened, h⟩
  · exact .inr ⟨refusal, if_neg hopened, if_neg hopened, h.toWider⟩

end Own

section Journal

variable (hname : Path.namesDirectory path = false)

include hname

theorem couples_append (j : Json) :
    Couples (Reached path) (fun _ _ => Reached path) (Wider path) (append path j)
      (append path j) := by
  intro s t h
  have hwrite := couples_write hname (file_mem path) (t.files.held path ++ line j) s t h
  have hheld := h.paves.held_eq h.reaches hname (file_mem path)
  rw [run_onFiles, run_onFiles] at hwrite
  rw [append, run_onFiles, run_onFiles, Files.append, Files.append]
  rw [← held, ← held, hheld]
  exact hwrite

theorem couples_rename :
    Couples (Reached path) (fun _ _ => Reached path) (Wider path)
      (Act.onFiles (·.rename (Path.spareFile path) path))
      (Act.onFiles (·.rename (Path.spareFile path) path)) := by
  apply Couples.onFiles
  intro s t h
  have hadmits := h.paves.admits_eq h.reaches hname (file_mem path)
  have hcontent := h.paves.content?_eq h.reaches hname (spareFile_mem path)
  cases hsource : t.files.content? (Path.spareFile path) with
  | none =>
    rw [hsource] at hcontent
    refine .inr ⟨refusal, ?_, ?_, h.toWider⟩
    · rw [rename, hcontent]
    · rw [rename, hsource]
  | some bytes =>
    rw [hsource] at hcontent
    by_cases htarget : t.files.admits path = true
    · obtain ⟨gs, hrename, hmoves⟩ := rename_of_admits hcontent (hadmits.trans htarget)
      obtain ⟨gs', hrename', hmoves'⟩ := rename_of_admits hsource htarget
      refine .inl ⟨gs, gs', hrename, hrename', ⟨h.paves.of_moves hmoves' hmoves, ?_⟩,
        h.reaches.sameTree hmoves'.tree⟩
      change gs'.isDirectory gs'.here = true
      rw [hmoves'.tree.here, hmoves'.tree.isDirectory]
      exact h.stands
    · have htarget' : ¬s.files.admits path = true := by rwa [hadmits]
      by_cases hplace : t.files.place (Path.spareFile path) = t.files.place path
      · have hplace' : s.files.place (Path.spareFile path) = s.files.place path := by
          rwa [h.paves.place, h.paves.place]
        refine .inl ⟨s.files, t.files, ?_, ?_, h⟩
        · rw [rename, hcontent]
          exact if_pos hplace'
        · rw [rename, hsource]
          exact if_pos hplace
      · have hplace' : ¬s.files.place (Path.spareFile path) = s.files.place path := by
          rwa [h.paves.place, h.paves.place]
        refine .inr ⟨refusal, ?_, ?_, h.toWider⟩
        · simp only [rename, hcontent, hplace', write, htarget', if_false]
          rfl
        · simp only [rename, hsource, hplace, write, htarget, if_false]
          rfl

theorem couples_replace (js : List Json) :
    Couples (Reached path) (fun _ _ => Reached path) (Wider path) (replace path js)
      (replace path js) :=
  Couples.bind (couples_write hname (spareFile_mem path) _) fun _ _ => couples_rename hname

theorem couples_makeDirectories {parent : String} (hparent : Path.parent? path = some parent) :
    Couples (Wider path) (fun _ _ => Reached path) (Wider path) (makeDirectories parent)
      (makeDirectories parent) := by
  have hway (fs : Files) : fs.way parent = (fs.way path).dropLast :=
    Path.way_parent fs.here hname hparent
  by_cases hempty : parent = ""
  · subst hempty
    apply Couples.pure
    intro s t h
    refine ⟨h, fun p hp => ?_⟩
    rw [← hway, Files.way] at hp
    rw [List.mem_singleton.mp hp]
    exact h.stands
  by_cases hwf : Path.isWellFormed parent = true
  · rw [makeDirectories_eq hempty hwf]
    intro s t h
    rw [run_bind_of_ok (run_readFiles _ s), run_bind_of_ok (run_readFiles _ t)]
    have hsame : s.files.way parent = t.files.way parent := by
      rw [Files.way, h.paves.here, Files.way]
    rw [hsame]
    have hloop (places : List (List String)) (s t : Scene) (h : Wider path s t)
        (hplaces : ∀ p ∈ places, p ∈ (t.files.way path).dropLast) :
        Agree (fun _ _ s' t' => Wider path s' t' ∧ Grows t.files t'.files ∧
            ∀ p ∈ places, t'.files.isDirectory p = true) (Wider path)
          ((places.forM fun p => Act.onFiles (·.makeDirectory p)).run s)
          ((places.forM fun p => Act.onFiles (·.makeDirectory p)).run t) := by
      induction places generalizing s t with
      | nil => exact .ok ⟨h, .rfl, fun _ hp => absurd hp List.not_mem_nil⟩
      | cons p places ih =>
        rw [List.forM, run_bind, run_bind, run_onFiles, run_onFiles]
        obtain ⟨gs, gs', hmake, hmake', hpaves⟩ | ⟨hmake, hmake'⟩ :=
          h.paves.makeDirectory (hplaces p List.mem_cons_self)
        · obtain ⟨hgrows, hdir, -⟩ := makeDirectory_ok hmake
          have hstands : gs.isDirectory gs.here = true := by
            rw [hgrows.here]
            exact hgrows.isDirectory h.stands
          rw [hmake, hmake']
          have hrest := ih { s with files := gs' } { t with files := gs } ⟨hpaves, hstands⟩ fun q hq => by
            rw [Files.way, hgrows.here]
            exact hplaces q (List.mem_cons_of_mem p hq)
          apply hrest.imp
          rintro _ _ s' t' ⟨hwider, hgrows', hdirs⟩
          refine ⟨hwider, hgrows.trans hgrows', fun q hq => ?_⟩
          rcases List.mem_cons.mp hq with rfl | hq
          · exact hgrows'.isDirectory hdir
          · exact hdirs q hq
        · rw [hmake, hmake']
          exact .error refusal h
    have hagree := hloop _ s t h fun p hp => by rwa [← hway]
    apply hagree.imp
    rintro _ _ s' t' ⟨hwider, hgrows, hdirs⟩
    refine ⟨hwider, fun p hp => ?_⟩
    rw [← hway, Files.way, hgrows.here] at hp
    exact hdirs p hp
  · unfold makeDirectories
    simp only [hempty, hwf, if_false]
    exact Couples.throw _ fun _ _ h => h

theorem couples_lock :
    Couples (Wider path) (fun _ _ => Reached path) (Wider path) (lock path) (lock path) := by
  obtain ⟨before, last, hsegments, hlast, -⟩ := Path.exists_last hname
  have hparent := Path.parent?_eq hsegments hlast
  rw [lock_eq, hparent]
  exact Couples.bind (couples_makeDirectories hname hparent) fun _ _ =>
    couples_touch hname (lockFile_mem path)

end Journal

end Journal

end CallNotice

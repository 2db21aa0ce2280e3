import CallNotice.Files.Basic

namespace CallNotice.Files

theorem isBarred_congr {fs fs' : Files} (h : fs'.barred = fs.barred) (p : List String) :
    fs'.isBarred p = fs.isBarred p := by
  rw [isBarred, h, isBarred]

structure SameTree (fs fs' : Files) : Prop where
  here : fs'.here = fs.here
  barred : fs'.barred = fs.barred
  isDirectory (p : List String) : fs'.isDirectory p = fs.isDirectory p

namespace SameTree

variable {fs fs' fs'' : Files}

theorem rfl : SameTree fs fs := ⟨Eq.refl fs.here, Eq.refl fs.barred, fun _ => Eq.refl _⟩

theorem trans (h : SameTree fs fs') (h' : SameTree fs' fs'') : SameTree fs fs'' :=
  ⟨h'.here.trans h.here, h'.barred.trans h.barred, fun p => (h'.isDirectory p).trans (h.isDirectory p)⟩

theorem place (h : SameTree fs fs') (path : String) : fs'.place path = fs.place path := by
  rw [Files.place, h.here, Files.place]

theorem leads (h : SameTree fs fs') (path : String) : fs'.leads path = fs.leads path := by
  have hdirs : fs'.isDirectory = fs.isDirectory := funext h.isDirectory
  rw [Files.leads, Files.way, h.here, hdirs, Files.leads, Files.way]

theorem admits (h : SameTree fs fs') (path : String) : fs'.admits path = fs.admits path := by
  rw [Files.admits, h.leads, h.place, h.isDirectory, isBarred_congr h.barred, Files.admits]

end SameTree

theorem isDirectory_nil (fs : Files) : fs.isDirectory [] = true := by
  simp [isDirectory, node?]

theorem ne_nil_of_not_isDirectory {fs : Files} {p : List String} (h : fs.isDirectory p = false) :
    p ≠ [] := by
  rintro rfl
  rw [isDirectory_nil] at h
  cases h

variable {fs fs' : Files} {path : String} {p : List String} {bytes : ByteArray}

theorem sameTree_put (h : fs.isDirectory p = false) : SameTree fs (fs.put p (.file bytes)) := by
  refine ⟨rfl, rfl, fun q => ?_⟩
  · rw [isDirectory, node?_put fs p q _ (ne_nil_of_not_isDirectory h)]
    by_cases hq : q = p
    · rw [if_pos hq, hq, h]
      rfl
    · rw [if_neg hq]
      rfl

theorem sameTree_erase (h : fs.isDirectory p = false) : SameTree fs (fs.erase p) := by
  refine ⟨rfl, rfl, fun q => ?_⟩
  · rw [isDirectory, node?_erase fs p q (ne_nil_of_not_isDirectory h)]
    by_cases hq : q = p
    · rw [if_pos hq, hq, h]
      rfl
    · rw [if_neg hq]
      rfl

theorem admits_iff : fs.admits path = true ↔ fs.leads path = true ∧
    Path.namesDirectory path = false ∧ fs.isDirectory (fs.place path) = false ∧
    fs.isBarred (fs.place path) = false := by
  simp [admits, and_assoc]

theorem at?_eq_some_iff {node : Node} : fs.at? path = some node ↔
    fs.leads path = true ∧ fs.node? (fs.place path) = some node ∧
      (node = .directory ∨ Path.namesDirectory path = false) := by
  rw [at?]
  by_cases hleads : fs.leads path = true
  · rw [if_pos hleads]
    rcases fs.node? (fs.place path) with _ | _ | content
    · simp
    · cases node <;> simp [hleads]
    · cases node <;> cases Path.namesDirectory path <;> simp [hleads]
  · simp [hleads]

theorem opened?_eq_some_iff {node : Node} : fs.opened? path = some node ↔
    fs.isBarred (fs.place path) = false ∧ fs.at? path = some node := by
  rw [opened?]
  cases fs.isBarred (fs.place path) <;> simp

theorem content?_eq_some_iff_opened? :
    fs.content? path = some bytes ↔ fs.opened? path = some (.file bytes) := by
  rw [content?]
  rcases fs.opened? path with _ | _ | content <;> simp

theorem content?_eq_some_iff : fs.content? path = some bytes ↔
    fs.admits path = true ∧ fs.node? (fs.place path) = some (.file bytes) := by
  rw [content?_eq_some_iff_opened?, opened?_eq_some_iff, at?_eq_some_iff, admits_iff, isDirectory]
  constructor
  · rintro ⟨hbarred, hleads, hnode, hname⟩
    rw [hnode]
    exact ⟨⟨hleads, hname.resolve_left Node.noConfusion, rfl, hbarred⟩, rfl⟩
  · rintro ⟨⟨hleads, hname, -, hbarred⟩, hnode⟩
    exact ⟨hbarred, hleads, hnode, .inr hname⟩

theorem content?_of_node? (hhere : fs'.here = fs.here) (hbarred : fs'.barred = fs.barred)
    (hdirs : ∀ p, fs.isDirectory p = true → fs'.isDirectory p = true)
    (hnode : fs'.node? (fs.place path) = some (.file bytes)) (h : fs.content? path = some bytes) :
    fs'.content? path = some bytes := by
  obtain ⟨hadmits, -⟩ := content?_eq_some_iff.mp h
  obtain ⟨hleads, hname, -, hfree⟩ := admits_iff.mp hadmits
  have hleads' : fs'.leads path = true := by
    rw [leads, Bool.and_eq_true, List.all_eq_true] at hleads ⊢
    rw [way, hhere]
    exact ⟨hleads.1, fun p hp => hdirs p (hleads.2 p hp)⟩
  have hplace : fs'.place path = fs.place path := by
    rw [place, hhere, place]
  rw [content?_eq_some_iff, admits_iff, hplace, isDirectory, hnode, isBarred_congr hbarred]
  exact ⟨⟨hleads', hname, rfl, hfree⟩, rfl⟩

theorem content?_eq_none (h : fs.node? (fs.place path) = none) : fs.content? path = none := by
  rw [Option.eq_none_iff_forall_ne_some]
  intro bytes hbytes
  rw [(content?_eq_some_iff.mp hbytes).2] at h
  cases h

theorem isSome_opened? (fs : Files) (path : String) :
    (fs.opened? path).isSome = (!fs.isBarred (fs.place path) && fs.holds path) := by
  rw [opened?, holds]
  cases fs.isBarred (fs.place path) <;> rfl

theorem openToRead_ok (h : fs.openToRead path = .ok fs') : fs' = fs := by
  unfold openToRead at h
  split at h
  · exact (Except.ok.inj h).symm
  · cases h

theorem openToRead_of_opened? {node : Node} (h : fs.opened? path = some node) :
    fs.openToRead path = .ok fs := by
  rw [openToRead, h]
  rfl

theorem holds_eq_false (h : fs.node? (fs.place path) = none) : fs.holds path = false := by
  rw [holds, at?, h]
  by_cases hleads : fs.leads path = true <;> simp [hleads]

theorem holds_of_content? (h : fs.content? path = some bytes) : fs.holds path = true := by
  obtain ⟨-, hat⟩ := opened?_eq_some_iff.mp (content?_eq_some_iff_opened?.mp h)
  rw [holds, hat]
  rfl

structure Writes (fs : Files) (path : String) (bytes : ByteArray) (fs' : Files) : Prop where
  tree : SameTree fs fs'
  admits : fs.admits path = true
  node? (q : List String) :
    fs'.node? q = if q = fs.place path then some (.file bytes) else fs.node? q

namespace Writes

theorem content? (h : Writes fs path bytes fs') : fs'.content? path = some bytes := by
  rw [content?_eq_some_iff, h.tree.admits, h.tree.place, h.node?, if_pos rfl]
  exact ⟨h.admits, rfl⟩

theorem content?_elsewhere (h : Writes fs path bytes fs') {other : String}
    (hother : fs.place other ≠ fs.place path) : fs'.content? other = fs.content? other := by
  ext content
  rw [content?_eq_some_iff, content?_eq_some_iff, h.tree.admits, h.tree.place, h.node?,
    if_neg hother]

end Writes

theorem writes_put (h : fs.admits path = true) :
    Writes fs path bytes (fs.put (fs.place path) (.file bytes)) := by
  obtain ⟨-, -, hdir, -⟩ := admits_iff.mp h
  exact ⟨sameTree_put hdir, h, fun q => node?_put fs _ q _ (ne_nil_of_not_isDirectory hdir)⟩

theorem write_of_admits (h : fs.admits path = true) (bytes : ByteArray) :
    ∃ fs', fs.write path bytes = .ok fs' ∧ Writes fs path bytes fs' :=
  ⟨_, if_pos h, writes_put h⟩

theorem writes_of_write (h : fs.write path bytes = .ok fs') : Writes fs path bytes fs' := by
  by_cases hadmits : fs.admits path = true
  · obtain ⟨files, hwrite, hwrites⟩ := write_of_admits hadmits bytes
    cases hwrite.symm.trans h
    exact hwrites
  · rw [write, if_neg hadmits] at h
    cases h

structure Moves (fs : Files) (source target : String) (bytes : ByteArray) (fs' : Files) : Prop where
  tree : SameTree fs fs'
  content? : fs'.content? target = some bytes
  erased : fs.place source ≠ fs.place target → fs'.node? (fs.place source) = none
  elsewhere (q : List String) :
    q ≠ fs.place source → q ≠ fs.place target → fs'.node? q = fs.node? q

theorem rename_of_admits {source target : String} (hsource : fs.content? source = some bytes)
    (htarget : fs.admits target = true) :
    ∃ fs', fs.rename source target = .ok fs' ∧ Moves fs source target bytes fs' := by
  obtain ⟨hadmits, hnode⟩ := content?_eq_some_iff.mp hsource
  by_cases hplace : fs.place source = fs.place target
  · refine ⟨fs, ?_, .rfl, ?_, fun h => absurd hplace h, fun _ _ _ => rfl⟩
    · rw [rename, hsource]
      exact if_pos hplace
    · rw [content?_eq_some_iff, ← hplace]
      exact ⟨htarget, hnode⟩
  · obtain ⟨files, hwrite, hwrites⟩ := write_of_admits htarget bytes
    have hfile : files.isDirectory (fs.place source) = false := by
      rw [hwrites.tree.isDirectory]
      exact (admits_iff.mp hadmits).2.2.1
    have htree := sameTree_erase hfile
    have herased := node?_erase files (fs.place source)
    have hne := ne_nil_of_not_isDirectory hfile
    refine ⟨files.erase (fs.place source), ?_, hwrites.tree.trans htree, ?_, ?_, ?_⟩
    · rw [rename, hsource]
      simp only [hplace, hwrite, if_false, Except.map, hwrites.tree.place]
    · have hnode' : (files.erase (fs.place source)).node? (fs.place target) = some (.file bytes) := by
        rw [herased _ hne, if_neg (Ne.symm hplace), hwrites.node?, if_pos rfl]
      rw [content?_eq_some_iff, htree.admits, htree.place, hwrites.tree.admits, hwrites.tree.place]
      exact ⟨htarget, hnode'⟩
    · intro _
      rw [herased _ hne, if_pos rfl]
    · intro q hq hq'
      rw [herased q hne, if_neg hq, hwrites.node?, if_neg hq']

theorem rename_ok_of_content? {source target : String} (hsource : fs.content? source = some bytes)
    (h : fs.rename source target = .ok fs') :
    (fs.place source = fs.place target ∧ fs' = fs) ∨ Moves fs source target bytes fs' := by
  by_cases htarget : fs.admits target = true
  · obtain ⟨files, hrename, hmoves⟩ := rename_of_admits hsource htarget
    cases hrename.symm.trans h
    exact .inr hmoves
  · -- Nothing can be moved there, but a file can be moved to where it is.
    by_cases hplace : fs.place source = fs.place target
    · simp only [rename, hsource, hplace, if_true] at h
      cases h
      exact .inl ⟨hplace, rfl⟩
    · simp only [rename, hsource, hplace, write, htarget, if_false] at h
      cases h

theorem rename_ok {source target : String} (h : fs.rename source target = .ok fs') :
    (fs.place source = fs.place target ∧ fs' = fs) ∨
      ∃ bytes, Moves fs source target bytes fs' := by
  cases hsource : fs.content? source with
  | none =>
    rw [rename, hsource] at h
    cases h
  | some bytes => exact (rename_ok_of_content? hsource h).imp_right fun hmoves => ⟨bytes, hmoves⟩

def held (fs : Files) (path : String) : ByteArray := (fs.content? path).getD .empty

theorem held_of_content? (h : fs.content? path = some bytes) : fs.held path = bytes := by
  rw [held, h]
  rfl

theorem held_of_absent (h : fs.node? (fs.place path) = none) : fs.held path = .empty := by
  rw [held, content?_eq_none h]
  rfl

theorem Writes.held (h : Writes fs path bytes fs') : fs'.held path = bytes :=
  held_of_content? h.content?

theorem writes_of_append (h : fs.append path bytes = .ok fs') :
    Writes fs path (fs.held path ++ bytes) fs' := writes_of_write h

theorem append_of_admits (h : fs.admits path = true) (bytes : ByteArray) :
    ∃ fs', fs.append path bytes = .ok fs' ∧ Writes fs path (fs.held path ++ bytes) fs' :=
  write_of_admits h (fs.held path ++ bytes)

theorem touch_of_admits (h : fs.admits path = true) :
    ∃ fs', fs.touch path = .ok fs' ∧ Writes fs path (fs.held path) fs' := by
  refine ⟨_, if_pos h, ?_⟩
  by_cases hfile : fs.isFile (fs.place path) = true
  · rw [if_pos hfile]
    unfold isFile at hfile
    split at hfile
    · rename_i bytes hnode
      rw [Files.held, content?_eq_some_iff.mpr ⟨h, hnode⟩, Option.getD_some]
      refine ⟨.rfl, h, fun q => ?_⟩
      by_cases hq : q = fs.place path
      · rw [if_pos hq, hq, hnode]
      · rw [if_neg hq]
    · cases hfile
  · rw [if_neg hfile]
    have hnone : fs.content? path = none := by
      rw [Option.eq_none_iff_forall_ne_some]
      intro bytes hbytes
      rw [isFile, (content?_eq_some_iff.mp hbytes).2] at hfile
      exact hfile rfl
    rw [Files.held, hnone]
    exact writes_put h

theorem writes_of_touch (h : fs.touch path = .ok fs') : Writes fs path (fs.held path) fs' := by
  by_cases hadmits : fs.admits path = true
  · obtain ⟨files, htouch, hwrites⟩ := touch_of_admits hadmits
    cases htouch.symm.trans h
    exact hwrites
  · rw [touch, if_neg hadmits] at h
    cases h

theorem opened?_touched (h : Writes fs path (fs.held path) fs') {other : String} {node : Node}
    (hother : fs.opened? other = some node) : fs'.opened? other = some node := by
  obtain ⟨hbarred, hat⟩ := opened?_eq_some_iff.mp hother
  obtain ⟨hleads, hnode, hname⟩ := at?_eq_some_iff.mp hat
  rw [opened?_eq_some_iff, at?_eq_some_iff, h.tree.place, isBarred_congr h.tree.barred, h.tree.leads,
    h.node?]
  refine ⟨hbarred, hleads, ?_, hname⟩
  by_cases hplace : fs.place other = fs.place path
  · -- A file stands there, which gets what it held.
    rw [hplace] at hnode
    rw [if_pos hplace]
    cases node with
    | directory =>
      obtain ⟨-, -, hdir, -⟩ := admits_iff.mp h.admits
      rw [isDirectory, hnode] at hdir
      cases hdir
    | file bytes => rw [held_of_content? (content?_eq_some_iff.mpr ⟨h.admits, hnode⟩)]
  · rw [if_neg hplace, hnode]

theorem content?_touched (h : Writes fs path (fs.held path) fs') {other : String}
    (hother : fs.content? other = some bytes) : fs'.content? other = some bytes := by
  rw [content?_eq_some_iff_opened?] at hother ⊢
  exact opened?_touched h hother

theorem held_touched (h : Writes fs path (fs.held path) fs') {other : String}
    (hother : fs.admits other = true) : fs'.held other = fs.held other := by
  cases hcontent : fs.content? other with
  | some bytes => rw [held, held, content?_touched h hcontent, hcontent]
  | none =>
    by_cases hplace : fs.place other = fs.place path
    · have hpath : fs.content? path = none := by
        rw [← hcontent]
        ext content
        rw [content?_eq_some_iff, content?_eq_some_iff, hother, h.admits, hplace]
      have hother' : fs'.content? other = some (fs.held path) := by
        rw [content?_eq_some_iff, h.tree.admits, h.tree.place, h.node?, if_pos hplace]
        exact ⟨hother, rfl⟩
      rw [held, hother', held, held, hcontent, hpath]
      rfl
    · rw [held, held, h.content?_elsewhere hplace]

end CallNotice.Files

import CallNotice.Files.Journal
import CallNotice.Proofs.Act
import CallNotice.Proofs.Files.Tree

namespace CallNotice

namespace Files

structure Grows (fs fs' : Files) : Prop where
  here : fs'.here = fs.here
  barred : fs'.barred = fs.barred
  node? (p : List String) :
    fs'.node? p = fs.node? p ∨ fs.node? p = none ∧ fs'.node? p = some .directory

namespace Grows

variable {fs fs' fs'' : Files} {path : String} {bytes : ByteArray} {p : List String}

theorem rfl : Grows fs fs := ⟨Eq.refl fs.here, Eq.refl fs.barred, fun _ => .inl (Eq.refl _)⟩

theorem trans (h : Grows fs fs') (h' : Grows fs' fs'') : Grows fs fs'' := by
  refine ⟨h'.here.trans h.here, h'.barred.trans h.barred, fun p => ?_⟩
  rcases h.node? p with heq | ⟨hnone, hdir⟩
  · rcases h'.node? p with heq' | ⟨hnone', hdir'⟩
    · exact .inl (heq'.trans heq)
    · exact .inr ⟨heq ▸ hnone', hdir'⟩
  · rcases h'.node? p with heq' | ⟨hnone', -⟩
    · exact .inr ⟨hnone, heq'.trans hdir⟩
    · rw [hdir] at hnone'
      cases hnone'

theorem isDirectory (h : Grows fs fs') (hp : fs.isDirectory p = true) :
    fs'.isDirectory p = true := by
  rw [Files.isDirectory, decide_eq_true_iff] at hp ⊢
  rcases h.node? p with heq | ⟨hnone, -⟩
  · exact heq.trans hp
  · rw [hnone] at hp
    cases hp

theorem place (h : Grows fs fs') (path : String) : fs'.place path = fs.place path := by
  rw [Files.place, h.here, Files.place]

theorem leads (h : Grows fs fs') (hleads : fs.leads path = true) : fs'.leads path = true := by
  rw [Files.leads, Bool.and_eq_true, List.all_eq_true] at hleads ⊢
  rw [Files.way, h.here]
  exact ⟨hleads.1, fun p hp => h.isDirectory (hleads.2 p hp)⟩

theorem opened? {node : Node} (h : Grows fs fs') (hopened : fs.opened? path = some node) :
    fs'.opened? path = some node := by
  obtain ⟨hbarred, hat⟩ := opened?_eq_some_iff.mp hopened
  obtain ⟨hleads, hnode, hname⟩ := at?_eq_some_iff.mp hat
  rw [opened?_eq_some_iff, at?_eq_some_iff, h.place, isBarred_congr h.barred]
  refine ⟨hbarred, h.leads hleads, ?_, hname⟩
  rcases h.node? (fs.place path) with heq | ⟨hnone, -⟩
  · exact heq.trans hnode
  · rw [hnone] at hnode
    cases hnode

theorem content? (h : Grows fs fs') (hc : fs.content? path = some bytes) :
    fs'.content? path = some bytes := by
  rw [content?_eq_some_iff_opened?] at hc ⊢
  exact h.opened? hc

end Grows

theorem makeDirectory_ok {fs fs' : Files} {p : List String} (h : fs.makeDirectory p = .ok fs') :
    Grows fs fs' ∧ fs'.isDirectory p = true ∧ ∀ q ≠ p, fs'.node? q = fs.node? q := by
  unfold makeDirectory at h
  by_cases hdir : fs.isDirectory p = true
  · rw [if_pos hdir] at h
    cases h
    exact ⟨.rfl, hdir, fun _ _ => rfl⟩
  · rw [if_neg hdir] at h
    by_cases hfree : (!fs.isFile p && !fs.isBarred p && p.getLast?.all Path.nameFits) = true
    · rw [if_pos hfree] at h
      cases h
      have hne : p ≠ [] := ne_nil_of_not_isDirectory (Bool.eq_false_iff.mpr hdir)
      have hnone : fs.node? p = none := by
        rw [isDirectory, decide_eq_true_iff] at hdir
        rw [Bool.and_eq_true, Bool.and_eq_true, isFile] at hfree
        rcases hnode : fs.node? p with _ | _ | bytes
        · rfl
        · exact absurd hnode hdir
        · rw [hnode] at hfree
          cases hfree.1.1
      have hput := node?_put fs p
      refine ⟨⟨rfl, rfl, fun q => ?_⟩, ?_, fun q hq => ?_⟩
      · rw [hput q _ hne]
        by_cases hq : q = p
        · rw [if_pos hq, hq]
          exact .inr ⟨hnone, rfl⟩
        · rw [if_neg hq]
          exact .inl rfl
      · rw [isDirectory, hput p _ hne, if_pos rfl]
        rfl
      · rw [hput q _ hne, if_neg hq]
    · rw [if_neg hfree] at h
      cases h

theorem makeDirectory_of_isDirectory {fs : Files} {p : List String} (h : fs.isDirectory p = true) :
    fs.makeDirectory p = .ok fs := if_pos h

def IsPaved (fs : Files) (path : String) : Prop :=
  path ≠ "" → Path.isWellFormed path = true ∧ ∀ p ∈ fs.way path, fs.isDirectory p = true

end Files

namespace Act

open Files

theorem forIn_eq_forM {α : Type} (f : α → Act Unit) (xs : List α) :
    ((fun _ => ()) <$> forIn xs PUnit.unit fun a _ =>
      (fun _ => ForInStep.yield PUnit.unit) <$> f a : Act Unit) = xs.forM f := by
  induction xs with
  | nil => rfl
  | cons x xs ih =>
    rw [List.forM, ← ih, List.forIn_cons]
    simp

theorem makeDirectories_eq {path : String} (h : path ≠ "") (hwf : Path.isWellFormed path = true) :
    makeDirectories path =
      (readFiles (·.way path) >>= fun places => places.forM fun p => onFiles (·.makeDirectory p)) := by
  unfold makeDirectories
  simp only [h, hwf, if_false, Bool.not_true, Bool.false_eq_true, bind_pure_comp, forIn_eq_forM]

theorem run_forM_makeDirectory_ok {places : List (List String)} {s s' : Scene}
    (h : (places.forM fun p => onFiles (·.makeDirectory p)).run s = (.ok (), s')) :
    s' = { s with files := s'.files } ∧ Grows s.files s'.files ∧
      ∀ p ∈ places, s'.files.isDirectory p = true := by
  induction places generalizing s with
  | nil =>
    cases h
    exact ⟨rfl, .rfl, fun p hp => absurd hp List.not_mem_nil⟩
  | cons p places ih =>
    obtain ⟨u, s₁, hfirst, hrest⟩ := run_bind_ok h
    obtain ⟨files, hmake, rfl⟩ := run_onFiles_ok hfirst
    obtain ⟨hgrows, hdir, -⟩ := makeDirectory_ok hmake
    obtain ⟨hs', hgrows', hdirs⟩ := ih hrest
    refine ⟨hs', hgrows.trans hgrows', ?_⟩
    intro q hq
    rcases List.mem_cons.mp hq with rfl | hq
    · exact hgrows'.isDirectory hdir
    · exact hdirs q hq

theorem run_forM_makeDirectory {places : List (List String)} {s : Scene}
    (h : ∀ p ∈ places, s.files.isDirectory p = true) :
    (places.forM fun p => onFiles (·.makeDirectory p)).run s = (.ok (), s) := by
  induction places with
  | nil => rfl
  | cons p places ih =>
    have hfirst : (onFiles (·.makeDirectory p)).run s = (.ok (), s) :=
      run_onFiles_of_ok (makeDirectory_of_isDirectory (h p List.mem_cons_self))
    apply (run_bind_of_ok hfirst).trans
    apply ih
    intro q hq
    exact h q (List.mem_cons_of_mem p hq)

theorem run_makeDirectories_ok {path : String} {s s' : Scene}
    (h : (makeDirectories path).run s = (.ok (), s')) :
    s' = { s with files := s'.files } ∧ Grows s.files s'.files ∧ IsPaved s'.files path := by
  by_cases hempty : path = ""
  · subst hempty
    cases h
    exact ⟨rfl, .rfl, fun hne => absurd rfl hne⟩
  by_cases hwf : Path.isWellFormed path = true
  · rw [makeDirectories_eq hempty hwf] at h
    obtain ⟨places, s₁, hread, hloop⟩ := run_bind_ok h
    cases hread
    obtain ⟨hs', hgrows, hdirs⟩ := run_forM_makeDirectory_ok hloop
    refine ⟨hs', hgrows, fun _ => ⟨hwf, ?_⟩⟩
    rw [Files.way, hgrows.here]
    exact hdirs
  · unfold makeDirectories at h
    simp only [hempty, hwf, if_false] at h
    cases h

theorem run_makeDirectories {path : String} {s : Scene} (h : IsPaved s.files path) :
    (makeDirectories path).run s = (.ok (), s) := by
  by_cases hempty : path = ""
  · subst hempty
    rfl
  · obtain ⟨hwf, hdirs⟩ := h hempty
    rw [makeDirectories_eq hempty hwf, run_bind_of_ok (run_readFiles _ s)]
    exact run_forM_makeDirectory hdirs

end Act

namespace Journal

open Files

/-- The lock of the journal can be taken without making a directory. -/
structure Lockable (path : String) (fs : Files) : Prop where
  paved (parent : String) : Path.parent? path = some parent → IsPaved fs parent
  admits : fs.admits (Path.lockFile path) = true

theorem Lockable.sameTree {path : String} {fs fs' : Files} (h : Lockable path fs)
    (htree : SameTree fs fs') : Lockable path fs' := by
  constructor
  · intro parent hparent hne
    obtain ⟨hwf, hdirs⟩ := h.paved parent hparent hne
    refine ⟨hwf, fun p hp => ?_⟩
    rw [Files.way, htree.here] at hp
    rw [htree.isDirectory]
    exact hdirs p hp
  · rw [htree.admits]
    exact h.admits

theorem lockable_of_parent_eq_empty {path : String} {fs : Files} (hparent : Path.parent? path = some "")
    (hadmits : fs.admits (Path.lockFile path) = true) : Lockable path fs := by
  refine ⟨?_, hadmits⟩
  intro parent hsome hne
  cases hparent.symm.trans hsome
  exact absurd rfl hne

theorem lock_eq (path : String) :
    lock path = (match Path.parent? path with
      | some parent => Act.makeDirectories parent
      | none => pure ()) >>= fun _ => Act.onFiles (·.touch (Path.lockFile path)) := by
  unfold lock
  cases Path.parent? path <;> rfl

theorem run_lock {path : String} {s : Scene} (h : Lockable path s.files) :
    ∃ files, (lock path).run s = (.ok (), { s with files }) ∧
      Writes s.files (Path.lockFile path) (s.files.held (Path.lockFile path)) files := by
  obtain ⟨files, htouch, hwrites⟩ := touch_of_admits h.admits
  refine ⟨files, ?_, hwrites⟩
  have hdirs : (match Path.parent? path with
      | some parent => Act.makeDirectories parent
      | none => pure () : Act Unit).run s = (.ok (), s) := by
    cases hparent : Path.parent? path with
    | none => rfl
    | some parent => exact Act.run_makeDirectories (h.paved parent hparent)
  rw [lock_eq, Act.run_bind_of_ok hdirs]
  exact Act.run_onFiles_of_ok htouch

theorem run_lock_ok {path : String} {s s' : Scene} (h : (lock path).run s = (.ok (), s')) :
    s' = { s with files := s'.files } ∧ Lockable path s'.files ∧
      ∃ files, Grows s.files files ∧ Writes files (Path.lockFile path)
        (files.held (Path.lockFile path)) s'.files := by
  rw [lock_eq] at h
  obtain ⟨u, s₁, hdirs, hlast⟩ := Act.run_bind_ok h
  obtain ⟨files, htouch, rfl⟩ := Act.run_onFiles_ok hlast
  have hwrites := writes_of_touch htouch
  have hpaved : s₁ = { s with files := s₁.files } ∧ Grows s.files s₁.files ∧
      ∀ parent, Path.parent? path = some parent → IsPaved s₁.files parent := by
    cases hparent : Path.parent? path with
    | none =>
      rw [hparent] at hdirs
      cases hdirs
      exact ⟨rfl, .rfl, nofun⟩
    | some parent =>
      rw [hparent] at hdirs
      obtain ⟨hs₁, hgrows, hpaved⟩ := Act.run_makeDirectories_ok hdirs
      refine ⟨hs₁, hgrows, ?_⟩
      rintro _ ⟨⟩
      exact hpaved
  obtain ⟨hs₁, hgrows, hpaved⟩ := hpaved
  have hlockable : Lockable path s₁.files := ⟨hpaved, hwrites.admits⟩
  refine ⟨?_, hlockable.sameTree hwrites.tree, s₁.files, hgrows, hwrites⟩
  rw [hs₁]

end Journal

end CallNotice

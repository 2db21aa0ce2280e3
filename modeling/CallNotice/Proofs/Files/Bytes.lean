import CallNotice.Proofs.Files.Apart

namespace CallNotice

namespace Path

variable {path last : String} {before : List String}

theorem place_of_segments (hsegments : segments path = before ++ [last])
    (hnamed : isHere last = false ∧ last ≠ "..") (start : List String) :
    place start path =
      (before.filter fun s => !isHere s).foldl enter (origin start path) ++ [last] := by
  rw [place, names_eq_of_segments hsegments hnamed.1, List.foldl_concat, enter, if_neg hnamed.2]

theorem length_place_le (hsegments : segments path = before ++ [last])
    (hunnamed : ¬(isHere last = false ∧ last ≠ "..")) (start : List String) :
    (place start path).length ≤
      ((before.filter fun s => !isHere s).foldl enter (origin start path)).length := by
  cases hhere : isHere last with
  | true =>
    rw [place, names, hsegments, List.filter_append]
    simp [hhere]
  | false =>
    have hup : last = ".." := not_not.mp fun hne => hunnamed ⟨hhere, hne⟩
    rw [place, names_eq_of_segments hsegments hhere, List.foldl_concat, enter, if_pos hup,
      List.length_dropLast]
    omega

theorem place_lockFile_ne (start : List String) (path : String) :
    place start (lockFile path) ≠ place start path := by
  by_cases hempty : path = ""
  · subst hempty
    change start ++ [".lock"] ≠ start
    simp
  obtain ⟨before, last, hsegments⟩ : ∃ before last, segments path = before ++ [last] := by
    have hne : segments path ≠ [] := by
      rw [segments, ne_eq, List.map_eq_nil_iff]
      exact Text.splitAtMarks_ne_nil '/' path.toList
    exact ⟨_, _, (List.dropLast_concat_getLast hne).symm⟩
  have hlength : (last ++ ".lock").length = last.length + 5 := String.length_append last ".lock"
  have hup : last ++ ".lock" ≠ ".." := by
    intro h
    rw [h] at hlength
    have htwo : "..".length = 2 := rfl
    omega
  have hlock : place start (lockFile path) =
      (before.filter fun s => !isHere s).foldl enter (origin start path) ++ [last ++ ".lock"] := by
    rw [place_of_segments (segments_lockFile hsegments) ⟨isHere_eq_false (by omega), hup⟩, lockFile,
      origin, isAbsolute_append hempty, origin]
  intro heq
  rw [hlock] at heq
  by_cases hnamed : isHere last = false ∧ last ≠ ".."
  · rw [place_of_segments hsegments hnamed, List.append_cancel_left_eq, List.cons.injEq] at heq
    rw [heq.1] at hlength
    omega
  · have hle := length_place_le hsegments hnamed start
    rw [← heq, List.length_append, List.length_singleton] at hle
    omega

end Path

namespace Files

def fileAt? (fs : Files) (p : List String) : Option ByteArray :=
  match fs.node? p with
  | some (.file bytes) => some bytes
  | _ => none

variable {fs fs' : Files} {path : String} {p : List String} {bytes : ByteArray}

theorem fileAt?_eq_some_iff : fs.fileAt? p = some bytes ↔ fs.node? p = some (.file bytes) := by
  rw [fileAt?]
  rcases fs.node? p with _ | _ | content <;> simp

theorem fileAt?_congr (h : fs'.node? p = fs.node? p) : fs'.fileAt? p = fs.fileAt? p := by
  rw [fileAt?, h, fileAt?]

theorem fileAt?_of_content? (h : fs.content? path = some bytes) :
    fs.fileAt? (fs.place path) = some bytes :=
  fileAt?_eq_some_iff.mpr (content?_eq_some_iff.mp h).2

theorem Grows.fileAt? (h : Grows fs fs') (p : List String) : fs'.fileAt? p = fs.fileAt? p := by
  rcases h.node? p with heq | ⟨hnone, hdir⟩
  · exact fileAt?_congr heq
  · rw [Files.fileAt?, hdir, Files.fileAt?, hnone]

theorem Writes.fileAt?_elsewhere (h : Writes fs path bytes fs') (hp : p ≠ fs.place path) :
    fs'.fileAt? p = fs.fileAt? p :=
  fileAt?_congr (by rw [h.node?, if_neg hp])

end Files

namespace Act

open Files

theorem isFrame_grows : IsFrame fun s s' => Grows s.files s'.files := ⟨fun _ => .rfl, Grows.trans⟩

theorem ensures_makeDirectories (path : String) :
    Ensures (fun s s' => Grows s.files s'.files) (fun _ => True) (makeDirectories path) := by
  by_cases hempty : path = ""
  · subst hempty
    exact Ensures.pure isFrame_grows trivial
  by_cases hwf : Path.isWellFormed path = true
  · rw [makeDirectories_eq hempty hwf]
    refine Ensures.bind isFrame_grows (Ensures.readFiles isFrame_grows _) fun places _ => ?_
    refine Ensures.forM isFrame_grows fun p _ => Ensures.onFiles isFrame_grows ?_
    exact fun s files hmake => (makeDirectory_ok hmake).1
  · unfold makeDirectories
    simp only [hempty, hwf, if_false]
    exact Ensures.throw isFrame_grows _

end Act

namespace Journal

open Files Act

variable {path : String} {fs fs' : Files} {p : List String} {bytes : ByteArray}

def Foreign (here : List String) (path : String) (p : List String) : Prop :=
  ∀ file ∈ ownFiles path, p ≠ Path.place here file

theorem Edit.fileAt? {paths : List String} (h : Edit paths fs fs')
    (hp : ∀ path ∈ paths, Foreign fs.here path p) : fs'.fileAt? p = fs.fileAt? p := by
  cases h with
  | makes _ _ _ hmake => exact (makeDirectory_ok hmake).1.fileAt? p
  | writes hpath hfile hwrites => exact hwrites.fileAt?_elsewhere (hp _ hpath _ hfile)
  | @moves path hpath hrename =>
    obtain ⟨-, rfl⟩ | ⟨bytes, hmoves⟩ := rename_ok hrename
    · rfl
    · apply fileAt?_congr
      apply hmoves.elsewhere
      · exact hp path hpath _ (spareFile_mem path)
      · exact hp path hpath _ (file_mem path)

theorem Edited.fileAt? {paths : List String} (h : Edited paths fs fs')
    (hp : ∀ path ∈ paths, Foreign fs.here path p) : fs'.fileAt? p = fs.fileAt? p := by
  induction h with
  | refl => rfl
  | tail hedited hedit ih =>
    refine Eq.trans (hedit.fileAt? ?_) ih
    rw [Edited.here hedited]
    exact hp

theorem Edited.content? {paths : List String} (h : Edited paths fs fs')
    (hfile : fs'.fileAt? (fs.place path) = fs.fileAt? (fs.place path))
    (hcontent : fs.content? path = some bytes) : fs'.content? path = some bytes := by
  rw [fileAt?_of_content? hcontent] at hfile
  exact content?_of_node? h.here h.barred (fun _ => h.isDirectory) (fileAt?_eq_some_iff.mp hfile) hcontent

theorem lock_eq_bind (path : String) : ∃ dirs : Act Unit,
    Ensures (fun s s' => Grows s.files s'.files) (fun _ => True) dirs ∧
      lock path = dirs >>= fun _ => Act.onFiles (·.touch (Path.lockFile path)) := by
  rw [lock_eq]
  cases Path.parent? path with
  | none => exact ⟨pure (), Ensures.pure isFrame_grows trivial, rfl⟩
  | some parent => exact ⟨makeDirectories parent, ensures_makeDirectories parent, rfl⟩

theorem run_lock_leaves (path : String) (s : Scene) :
    ∃ files, Grows s.files files ∧ (((lock path).run s).2.files = files ∨
      Writes files (Path.lockFile path) (files.held (Path.lockFile path))
        ((lock path).run s).2.files) := by
  obtain ⟨dirs, hdirs, hlock⟩ := lock_eq_bind path
  obtain ⟨hgrows, -⟩ := hdirs s
  rw [hlock, run_bind]
  rcases hrun : dirs.run s with ⟨fault | u, s₁⟩
  · rw [hrun] at hgrows
    exact ⟨s₁.files, hgrows, .inl rfl⟩
  · rw [hrun] at hgrows
    refine ⟨s₁.files, hgrows, ?_⟩
    dsimp only
    rw [run_onFiles]
    cases htouch : s₁.files.touch (Path.lockFile path) with
    | error fault => exact .inl rfl
    | ok files => exact .inr (writes_of_touch htouch)

theorem fileAt?_lock (s : Scene) (hp : p ≠ s.files.place (Path.lockFile path)) :
    ((lock path).run s).2.files.fileAt? p = s.files.fileAt? p := by
  obtain ⟨files, hgrows, heq | hwrites⟩ := run_lock_leaves path s
  · rw [heq, hgrows.fileAt?]
  · rw [← hgrows.place] at hp
    rw [hwrites.fileAt?_elsewhere hp, hgrows.fileAt?]

theorem place_lock (path file : String) (s : Scene) :
    ((lock path).run s).2.files.place file = s.files.place file := by
  obtain ⟨files, hgrows, heq | hwrites⟩ := run_lock_leaves path s
  · rw [heq, hgrows.place]
  · rw [hwrites.tree.place, hgrows.place]

theorem fileAt?_lock_self (path : String) (s : Scene) :
    ((lock path).run s).2.files.fileAt? (s.files.place path) = s.files.fileAt? (s.files.place path) :=
  fileAt?_lock s (Path.place_lockFile_ne s.files.here path).symm

theorem fileAt?_of_replace_error {s s' : Scene} {js : List Json} {fault : Fault}
    (h : (replace path js).run s = (.error fault, s')) :
    s'.files.fileAt? (s.files.place path) = s.files.fileAt? (s.files.place path) := by
  by_cases hspare : s.files.admits (Path.spareFile path) = true
  · obtain ⟨written, hwrite, hwrites⟩ := write_of_admits hspare (content js)
    have hfirst : (Act.onFiles (·.write (Path.spareFile path) (content js))).run s =
        (.ok (), { s with files := written }) := Act.run_onFiles_of_ok hwrite
    rw [replace, run_bind_of_ok hfirst, run_onFiles] at h
    by_cases hplace : s.files.place path = s.files.place (Path.spareFile path)
    · -- A file is never refused to be moved to where it is.
      have hrename : written.rename (Path.spareFile path) path = .ok written := by
        rw [rename, hwrites.content?]
        refine if_pos ?_
        rw [hwrites.tree.place, hwrites.tree.place, hplace]
      dsimp only at h
      rw [hrename] at h
      cases h
    · dsimp only at h
      cases hrename : written.rename (Path.spareFile path) path with
      | ok files =>
        rw [hrename] at h
        cases h
      | error fault' =>
        rw [hrename] at h
        cases h
        exact hwrites.fileAt?_elsewhere hplace
  · rw [run_replace_refused (Bool.eq_false_iff.mpr hspare)] at h
    cases h
    rfl

end Journal

end CallNotice

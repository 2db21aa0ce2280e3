import CallNotice.Proofs.CallLog.Coupling
import CallNotice.Proofs.Discretion.Outline

namespace CallNotice

open Act Journal

def Node.outline : Node → Option Outline
  | .directory => none
  | .file bytes => some (.ofContent bytes)

namespace Files

theorem isDirectory_eq_any (fs : Files) (p : List String) :
    fs.isDirectory p = ((fs.node? p).map Node.outline).any Option.isNone := by
  rw [isDirectory]
  rcases fs.node? p with _ | _ | bytes <;> rfl

theorem isFile_eq_any (fs : Files) (p : List String) :
    fs.isFile p = ((fs.node? p).map Node.outline).any Option.isSome := by
  rw [isFile]
  rcases fs.node? p with _ | _ | bytes <;> rfl

theorem holds_eq_any (fs : Files) (path : String) :
    fs.holds path = (fs.leads path && ((fs.node? (fs.place path)).map Node.outline).any
      fun o => o.isNone || !Path.namesDirectory path) := by
  rw [holds, at?]
  cases fs.leads path with
  | false => rfl
  | true =>
    cases Path.namesDirectory path <;> rcases fs.node? (fs.place path) with _ | _ | bytes <;> rfl

structure Alike (fs gs : Files) : Prop where
  here : fs.here = gs.here
  barred : fs.barred = gs.barred
  node? (p : List String) : (fs.node? p).map Node.outline = (gs.node? p).map Node.outline

namespace Alike

variable {fs gs : Files} {path : String} {p : List String}

protected theorem rfl : Alike fs fs := ⟨rfl, rfl, fun _ => rfl⟩

theorem symm (h : Alike fs gs) : Alike gs fs := ⟨h.here.symm, h.barred.symm, fun p => (h.node? p).symm⟩

theorem place (h : Alike fs gs) (path : String) : fs.place path = gs.place path := by
  rw [Files.place, h.here, Files.place]

theorem isDirectory (h : Alike fs gs) (p : List String) : fs.isDirectory p = gs.isDirectory p := by
  rw [isDirectory_eq_any, h.node?, ← isDirectory_eq_any]

theorem isFile (h : Alike fs gs) (p : List String) : fs.isFile p = gs.isFile p := by
  rw [isFile_eq_any, h.node?, ← isFile_eq_any]

theorem leads (h : Alike fs gs) (path : String) : fs.leads path = gs.leads path := by
  have hdirs : fs.isDirectory = gs.isDirectory := funext h.isDirectory
  rw [Files.leads, way, h.here, hdirs, Files.leads, way]

theorem admits (h : Alike fs gs) (path : String) : fs.admits path = gs.admits path := by
  rw [Files.admits, h.leads, h.place, h.isDirectory, isBarred_congr h.barred, Files.admits]

theorem holds (h : Alike fs gs) (path : String) : fs.holds path = gs.holds path := by
  rw [holds_eq_any, h.leads, h.place, h.node?, ← holds_eq_any]

theorem exists_content? (h : Alike fs gs) {bytes : ByteArray}
    (hbytes : fs.content? path = some bytes) :
    ∃ bytes', gs.content? path = some bytes' ∧
      Outline.ofContent bytes = Outline.ofContent bytes' := by
  obtain ⟨hadmits, hnode⟩ := content?_eq_some_iff.mp hbytes
  have hnode' := h.node? (fs.place path)
  rw [hnode, h.place] at hnode'
  obtain ⟨node, hnode', houtline⟩ := Option.map_eq_some_iff.mp hnode'.symm
  cases node with
  | directory => cases houtline
  | file bytes' =>
    rw [h.admits] at hadmits
    exact ⟨bytes', content?_eq_some_iff.mpr ⟨hadmits, hnode'⟩, (Option.some.inj houtline).symm⟩

theorem content?_cases (h : Alike fs gs) (path : String) :
    (∃ bytes bytes', fs.content? path = some bytes ∧ gs.content? path = some bytes' ∧
      Outline.ofContent bytes = Outline.ofContent bytes') ∨
    fs.content? path = none ∧ gs.content? path = none := by
  cases hbytes : fs.content? path with
  | some bytes =>
    obtain ⟨bytes', hbytes', houtline⟩ := h.exists_content? hbytes
    exact .inl ⟨bytes, bytes', rfl, hbytes', houtline⟩
  | none =>
    cases hbytes' : gs.content? path with
    | none => exact .inr ⟨rfl, rfl⟩
    | some bytes' =>
      obtain ⟨bytes, hsome, -⟩ := h.symm.exists_content? hbytes'
      rw [hbytes] at hsome
      cases hsome

theorem held (h : Alike fs gs) (path : String) :
    Outline.ofContent (fs.held path) = Outline.ofContent (gs.held path) := by
  rw [Files.held, Files.held]
  rcases h.content?_cases path with ⟨bytes, bytes', hbytes, hbytes', houtline⟩ | ⟨hnone, hnone'⟩
  · rw [hbytes, hbytes']
    exact houtline
  · rw [hnone, hnone']

theorem put (h : Alike fs gs) (hp : p ≠ []) {node node' : Node}
    (hnode : node.outline = node'.outline) : Alike (fs.put p node) (gs.put p node') := by
  refine ⟨h.here, h.barred, fun q => ?_⟩
  rw [node?_put fs p q node hp, node?_put gs p q node' hp]
  by_cases hq : q = p
  · rw [if_pos hq, if_pos hq, Option.map_some, Option.map_some, hnode]
  · rw [if_neg hq, if_neg hq]
    exact h.node? q

theorem erase (h : Alike fs gs) (p : List String) : Alike (fs.erase p) (gs.erase p) := by
  refine ⟨h.here, h.barred, fun q => ?_⟩
  -- The root is a directory, whatever is erased.
  have hnode (fs : Files) :
      (fs.erase p).node? q = if q = [] ∨ q ≠ p then fs.node? q else none := by
    by_cases hq : q = []
    · rw [if_pos (.inl hq), Files.node?, Files.node?, if_pos hq, if_pos hq]
    · rw [Files.node?, Files.node?, if_neg hq, if_neg hq, Files.erase, lookup_filter_ne]
      by_cases hp : q = p
      · rw [if_pos hp, if_neg (not_or.mpr ⟨hq, not_not.mpr hp⟩)]
      · rw [if_neg hp, if_pos (.inr hp)]
  rw [hnode, hnode]
  by_cases hq : q = [] ∨ q ≠ p
  · rw [if_pos hq, if_pos hq]
    exact h.node? q
  · rw [if_neg hq, if_neg hq]

theorem makeDirectory (h : Alike fs gs) (p : List String) :
    Answers Alike (fs.makeDirectory p) (gs.makeDirectory p) := by
  rw [Files.makeDirectory, Files.makeDirectory, h.isDirectory, h.isFile,
    isBarred_congr h.barred]
  by_cases hdir : gs.isDirectory p = true
  · rw [if_pos hdir, if_pos hdir]
    exact .ok h
  rw [if_neg hdir, if_neg hdir]
  by_cases hfree : (!gs.isFile p && !gs.isBarred p && p.getLast?.all Path.nameFits) = true
  · rw [if_pos hfree, if_pos hfree]
    exact .ok (h.put (ne_nil_of_not_isDirectory (Bool.eq_false_iff.mpr hdir)) rfl)
  · rw [if_neg hfree, if_neg hfree]
    exact .error _

theorem write (h : Alike fs gs) (path : String) {bytes bytes' : ByteArray}
    (hbytes : Outline.ofContent bytes = Outline.ofContent bytes') :
    Answers Alike (fs.write path bytes) (gs.write path bytes') := by
  rw [Files.write, Files.write, h.admits, h.place]
  by_cases hadmits : gs.admits path = true
  · rw [if_pos hadmits, if_pos hadmits]
    have hne := ne_nil_of_not_isDirectory (admits_iff.mp hadmits).2.2.1
    exact .ok (h.put hne (congrArg some hbytes))
  · rw [if_neg hadmits, if_neg hadmits]
    exact .error _

theorem touch (h : Alike fs gs) (path : String) : Answers Alike (fs.touch path) (gs.touch path) := by
  rw [Files.touch, Files.touch, h.admits, h.place, h.isFile]
  by_cases hadmits : gs.admits path = true
  · rw [if_pos hadmits, if_pos hadmits]
    by_cases hfile : gs.isFile (gs.place path) = true
    · rw [if_pos hfile, if_pos hfile]
      exact .ok h
    · rw [if_neg hfile, if_neg hfile]
      exact .ok (h.put (ne_nil_of_not_isDirectory (admits_iff.mp hadmits).2.2.1) rfl)
  · rw [if_neg hadmits, if_neg hadmits]
    exact .error _

theorem openToRead (h : Alike fs gs) (path : String) :
    Answers Alike (fs.openToRead path) (gs.openToRead path) := by
  rw [Files.openToRead, Files.openToRead, isSome_opened?, isSome_opened?, h.place, h.holds,
    isBarred_congr h.barred]
  by_cases hopened : (!gs.isBarred (gs.place path) && gs.holds path) = true
  · rw [if_pos hopened, if_pos hopened]
    exact .ok h
  · rw [if_neg hopened, if_neg hopened]
    exact .error _

theorem append (h : Alike fs gs) (path : String) {j j' : Json} (hline : Outline.SameLine j j') :
    Answers Alike (fs.append path (line j)) (gs.append path (line j')) :=
  h.write path (Outline.append_line (h.held path) hline)

theorem rename (h : Alike fs gs) (source target : String) :
    Answers Alike (fs.rename source target) (gs.rename source target) := by
  rw [Files.rename, Files.rename, h.place, h.place]
  rcases h.content?_cases source with ⟨bytes, bytes', hbytes, hbytes', houtline⟩ | ⟨hnone, hnone'⟩
  · rw [hbytes, hbytes']
    by_cases hplace : gs.place source = gs.place target
    · simp only [hplace, if_true]
      exact .ok h
    · simp only [hplace, if_false]
      have hwritten := h.write target houtline
      generalize fs.write target bytes = left at hwritten
      generalize gs.write target bytes' = right at hwritten
      cases hwritten with
      | error fault => exact .error fault
      | @ok fs' gs' h' =>
        apply Answers.ok
        change Alike (fs'.erase (fs'.place source)) (gs'.erase (gs'.place source))
        rw [h'.place]
        exact h'.erase _
  · rw [hnone, hnone']
    exact .error _

end Alike

end Files

namespace Scene

structure Alike (s t : Scene) : Prop where
  log : s.log = t.log
  files : s.files.Alike t.files

theorem Alike.tell {s t : Scene} (h : Alike s t) (event : LogEvent) :
    Alike (s.tell event) (t.tell event) := ⟨congrArg (· ++ [event]) h.log, h.files⟩

theorem couples_onFiles_alike {change change' : Files → Except Fault Files}
    (h : ∀ fs gs, fs.Alike gs → Answers Files.Alike (change fs) (change' gs)) :
    Couples Alike (fun _ _ => Alike) Alike (onFiles change) (onFiles change') := by
  apply Couples.onFiles
  intro s t hst
  have hanswers := h s.files t.files hst.files
  generalize change s.files = left at hanswers
  generalize change' t.files = right at hanswers
  cases hanswers with
  | ok h => exact .inl ⟨_, _, rfl, rfl, hst.log, h⟩
  | error fault => exact .inr ⟨fault, rfl, rfl, hst⟩

theorem couples_tell_alike (event : LogEvent) :
    Couples Alike (fun _ _ => Alike) Alike (Act.tell event) (Act.tell event) :=
  Couples.tell event fun _ _ h => h.tell event

theorem isUniform_alike : IsUniform Alike where
  here h := h.files.here
  makeDirectory p := couples_onFiles_alike fun _ _ h => h.makeDirectory p
  touch path := couples_onFiles_alike fun _ _ h => h.touch path

end Scene

namespace Journal

open Scene

theorem couples_openToRead_alike (path : String) :
    Couples Alike (fun _ _ => Alike) Alike (onFiles (·.openToRead path))
      (onFiles (·.openToRead path)) :=
  couples_onFiles_alike fun _ _ h => h.openToRead path

theorem couples_append_alike (path : String) {j j' : Json} (hline : Outline.SameLine j j') :
    Couples Alike (fun _ _ => Alike) Alike (append path j) (append path j') :=
  couples_onFiles_alike fun _ _ h => h.append path hline

theorem couples_replace_alike (path : String) {js js' : List Json}
    (hlines : List.Forall₂ Outline.SameLine js js') :
    Couples Alike (fun _ _ => Alike) Alike (replace path js) (replace path js') := by
  refine Couples.bind (R := fun _ _ => Alike) (couples_onFiles_alike fun _ _ h => ?_) fun _ _ => ?_
  · exact h.write _ (Outline.content_eq hlines)
  · exact couples_onFiles_alike fun _ _ h => h.rename _ path

end Journal

theorem CallLogEntry.isLook_anonymous : IsLook anonymous :=
  ⟨fun _ => rfl, fun _ _ => rfl, fun _ _ => rfl, fun _ _ => rfl⟩

theorem CallLogJournal.parallel_alike (path : String) :
    Parallel CallLogEntry.anonymous path Scene.Alike Scene.Alike where
  lock := Scene.isUniform_alike.couples_lock path
  openToRead := couples_openToRead_alike path
  touch := Scene.isUniform_alike.touch path
  append h := couples_append_alike path (Outline.sameLine_row h)
  replace h := couples_replace_alike path (Outline.forall₂_sameLine Outline.sameLine_row h)
  rows h := by
    rw [rows_eq, rows_eq]
    exact Outline.rows_eq (h.files.held path)
  tell event h := h.tell event
  weaken h := h

end CallNotice

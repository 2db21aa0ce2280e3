import CallNotice.Proofs.Files.Editing

namespace CallNotice

namespace Files

variable {ps : List String → Prop} {fs fs' fs'' : Files} {path : String} {bytes : ByteArray}
  {p : List String}

/-- At these places nothing has changed, and no directory was lost. -/
structure Spares (ps : List String → Prop) (fs fs' : Files) : Prop where
  here : fs'.here = fs.here
  barred : fs'.barred = fs.barred
  node? (p : List String) : ps p → fs'.node? p = fs.node? p
  isDirectory (p : List String) : fs.isDirectory p = true → fs'.isDirectory p = true

namespace Spares

theorem rfl : Spares ps fs fs := ⟨Eq.refl fs.here, Eq.refl fs.barred, fun _ _ => Eq.refl _, fun _ h => h⟩

theorem trans (h : Spares ps fs fs') (h' : Spares ps fs' fs'') : Spares ps fs fs'' :=
  ⟨h'.here.trans h.here, h'.barred.trans h.barred, fun p hp => (h'.node? p hp).trans (h.node? p hp),
    fun p hp => h'.isDirectory p (h.isDirectory p hp)⟩

theorem of_sameTree (htree : SameTree fs fs') (h : ∀ p, ps p → fs'.node? p = fs.node? p) :
    Spares ps fs fs' :=
  ⟨htree.here, htree.barred, h, fun p hp => (htree.isDirectory p).trans hp⟩

theorem of_writes (h : Writes fs path bytes fs') (hp : ¬ps (fs.place path)) : Spares ps fs fs' := by
  apply of_sameTree h.tree
  intro q hq
  rw [h.node?, if_neg]
  rintro rfl
  exact hp hq

theorem of_rename {source target : String} (h : fs.rename source target = .ok fs')
    (hsource : ¬ps (fs.place source)) (htarget : ¬ps (fs.place target)) : Spares ps fs fs' := by
  obtain ⟨-, rfl⟩ | ⟨bytes, hmoves⟩ := rename_ok h
  · exact .rfl
  · apply of_sameTree hmoves.tree
    intro q hq
    apply hmoves.elsewhere
    · rintro rfl
      exact hsource hq
    · rintro rfl
      exact htarget hq

theorem of_makeDirectory (h : fs.makeDirectory p = .ok fs') (hp : ¬ps p) : Spares ps fs fs' := by
  obtain ⟨hgrows, -, helsewhere⟩ := makeDirectory_ok h
  refine ⟨hgrows.here, hgrows.barred, ?_, fun q hq => hgrows.isDirectory hq⟩
  intro q hq
  apply helsewhere
  rintro rfl
  exact hp hq

theorem place (h : Spares ps fs fs') (path : String) : fs'.place path = fs.place path := by
  rw [Files.place, h.here, Files.place]

theorem content? (h : Spares ps fs fs') (hpath : ps (fs.place path))
    (hc : fs.content? path = some bytes) : fs'.content? path = some bytes :=
  content?_of_node? h.here h.barred h.isDirectory
    ((h.node? _ hpath).trans (content?_eq_some_iff.mp hc).2) hc

end Spares

end Files

namespace Journal

open Files

variable {ps : List String → Prop} {path : String}

def places (here : List String) (path : String) : List (List String) :=
  (match Path.parent? path with
    | some parent => Path.way here parent
    | none => []) ++
    [Path.place here (Path.lockFile path), Path.place here path, Path.place here (Path.spareFile path)]

theorem mem_places_of_way {here : List String} {parent : String} {p : List String}
    (hparent : Path.parent? path = some parent) (hp : p ∈ Path.way here parent) :
    p ∈ places here path := by
  rw [places, hparent]
  exact List.mem_append_left _ hp

theorem place_mem_places (here : List String) {file : String} (h : file ∈ ownFiles path) :
    Path.place here file ∈ places here path :=
  List.mem_append_right _ (List.mem_map_of_mem h : _ ∈ (ownFiles path).map (Path.place here))

theorem file_mem_places (here : List String) (path : String) :
    Path.place here path ∈ places here path :=
  place_mem_places here (file_mem path)

theorem Edit.spares {paths : List String} {fs fs' : Files} (h : Edit paths fs fs')
    (hps : ∀ path ∈ paths, ∀ p ∈ places fs.here path, ¬ps p) : Spares ps fs fs' := by
  cases h with
  | makes hpath hparent hp h =>
    exact .of_makeDirectory h (hps _ hpath _ (mem_places_of_way hparent hp))
  | writes hpath hfile h => exact .of_writes h (hps _ hpath _ (place_mem_places fs.here hfile))
  | @moves path hpath h =>
    apply Spares.of_rename h
    · exact hps path hpath _ (place_mem_places fs.here (spareFile_mem path))
    · exact hps path hpath _ (place_mem_places fs.here (file_mem path))

theorem Edited.spares {paths : List String} {fs fs' : Files} (h : Edited paths fs fs')
    (hps : ∀ path ∈ paths, ∀ p ∈ places fs.here path, ¬ps p) : Spares ps fs fs' := by
  induction h with
  | refl => exact .rfl
  | tail hedited hedit ih =>
    apply ih.trans
    apply hedit.spares
    rw [ih.here]
    exact hps

theorem Edited.spares_others {fs fs' : Files} (h : Edited [path] fs fs') :
    Spares (· ∉ places fs.here path) fs fs' := by
  apply h.spares
  intro path' hpath' p hp hnot
  rw [List.mem_singleton.mp hpath'] at hp
  exact hnot hp

theorem Keeps.spared {α : Type} {decode : Json → Option α} {as : List α} {files files' : Files}
    (h : Keeps decode path as files) (hspares : Spares ps files files')
    (hpath : ps (files.place path)) : Keeps decode path as files' := by
  rcases h.isOpen with hnone | ⟨bytes, hbytes⟩
  · have hnone' : files'.node? (files'.place path) = none := by
      rw [hspares.place, hspares.node? _ hpath, hnone]
    have hempty : as = [] := h.values.symm.trans (keeps_of_absent hnone).values
    rw [hempty]
    exact keeps_of_absent hnone'
  · have hheld := held_of_content? hbytes
    apply keeps_of_content? (hspares.content? hpath hbytes)
    · rw [← hheld, h.tail]
    · rw [← hheld, ← values_eq, h.values]

end Journal

def LogEvent.refusesRow : LogEvent → Bool
  | .recordFailed _ | .markReadFailed _ => true
  | _ => false

namespace LogEvent

abbrev IsDebug (event : LogEvent) : Prop := event.level = .debug

abbrev AcceptsRows (event : LogEvent) : Prop := event.refusesRow = false

theorem acceptsRows_of_isDebug {event : LogEvent} (h : event.IsDebug) : event.AcceptsRows := by
  cases event <;> first | rfl | cases h

end LogEvent

namespace Scene

def refusals (s : Scene) : Nat := s.log.countP LogEvent.refusesRow

theorem countP_tell (p : LogEvent → Bool) (event : LogEvent) (s : Scene) :
    (s.tell event).log.countP p = s.log.countP p + if p event then 1 else 0 := by
  rw [tell, List.countP_append, List.countP_singleton]

theorem refusals_tell (event : LogEvent) (s : Scene) :
    (s.tell event).refusals = s.refusals + if event.refusesRow then 1 else 0 :=
  countP_tell _ event s

variable {paths : List String} {s s' : Scene}

theorem Worked.countP {tells : LogEvent → Prop} (h : Worked paths tells s s') {p : LogEvent → Bool}
    (hp : ∀ event, tells event → p event = false) : s'.log.countP p = s.log.countP p := by
  obtain ⟨events, hlog, hevents⟩ := h.log
  rw [hlog, List.countP_append, Nat.add_eq_left, List.countP_eq_zero]
  intro event hevent
  rw [hp event (hevents event hevent)]
  exact Bool.false_ne_true

theorem Worked.countP_le {tells : LogEvent → Prop} (h : Worked paths tells s s')
    (p : LogEvent → Bool) : s.log.countP p ≤ s'.log.countP p := by
  obtain ⟨events, hlog, -⟩ := h.log
  rw [hlog, List.countP_append]
  exact Nat.le_add_right _ _

theorem Worked.refusals (h : Worked paths LogEvent.AcceptsRows s s') : s'.refusals = s.refusals :=
  h.countP fun _ => id

theorem Worked.refusals_of_isDebug (h : Worked paths LogEvent.IsDebug s s') :
    s'.refusals = s.refusals :=
  h.countP fun _ => LogEvent.acceptsRows_of_isDebug

end Scene

end CallNotice

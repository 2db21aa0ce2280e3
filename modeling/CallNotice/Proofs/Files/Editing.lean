import CallNotice.Proofs.Files.Journal
import Mathlib.Logic.Relation

/-!
What the work on journals is made of. However it ends, it has made directories on the way to a
journal and changed the three files that belong to it, one change after the other.
-/

namespace CallNotice

open Files

namespace Journal

def ownFiles (path : String) : List String := [Path.lockFile path, path, Path.spareFile path]

theorem lockFile_mem (path : String) : Path.lockFile path ∈ ownFiles path := List.mem_cons_self

theorem file_mem (path : String) : path ∈ ownFiles path := List.mem_cons_of_mem _ List.mem_cons_self

theorem spareFile_mem (path : String) : Path.spareFile path ∈ ownFiles path :=
  List.mem_cons_of_mem _ (List.mem_cons_of_mem _ List.mem_cons_self)

inductive Edit (paths : List String) (fs fs' : Files) : Prop
  | makes {path parent : String} {p : List String} (hpath : path ∈ paths)
      (hparent : Path.parent? path = some parent) (hp : p ∈ fs.way parent)
      (h : fs.makeDirectory p = .ok fs')
  | writes {path file : String} {bytes : ByteArray} (hpath : path ∈ paths)
      (hfile : file ∈ ownFiles path) (h : Writes fs file bytes fs')
  | moves {path : String} (hpath : path ∈ paths) (h : fs.rename (Path.spareFile path) path = .ok fs')

abbrev Edited (paths : List String) : Files → Files → Prop := Relation.ReflTransGen (Edit paths)

variable {paths : List String} {fs fs' : Files}

theorem Edit.here (h : Edit paths fs fs') : fs'.here = fs.here := by
  cases h with
  | makes _ _ _ h => exact (makeDirectory_ok h).1.here
  | writes _ _ h => exact h.tree.here
  | moves _ h =>
    obtain ⟨-, rfl⟩ | ⟨bytes, hmoves⟩ := rename_ok h
    · rfl
    · exact hmoves.tree.here

theorem Edit.barred (h : Edit paths fs fs') : fs'.barred = fs.barred := by
  cases h with
  | makes _ _ _ h => exact (makeDirectory_ok h).1.barred
  | writes _ _ h => exact h.tree.barred
  | moves _ h =>
    obtain ⟨-, rfl⟩ | ⟨bytes, hmoves⟩ := rename_ok h
    · rfl
    · exact hmoves.tree.barred

theorem Edited.barred (h : Edited paths fs fs') : fs'.barred = fs.barred := by
  induction h with
  | refl => rfl
  | tail _ hedit ih => exact hedit.barred.trans ih

theorem Edited.here (h : Edited paths fs fs') : fs'.here = fs.here := by
  induction h with
  | refl => rfl
  | tail _ hedit ih => exact hedit.here.trans ih

theorem Edited.mono {paths' : List String} (h : Edited paths fs fs')
    (hpaths : ∀ path ∈ paths, path ∈ paths') : Edited paths' fs fs' := by
  refine Relation.ReflTransGen.mono (fun fs fs' hedit => ?_) fs fs' h
  cases hedit with
  | makes hpath hparent hp h => exact .makes (hpaths _ hpath) hparent hp h
  | writes hpath hfile h => exact .writes (hpaths _ hpath) hfile h
  | moves hpath h => exact .moves (hpaths _ hpath) h

end Journal

open Journal

structure Scene.Worked (paths : List String) (tells : LogEvent → Prop) (s s' : Scene) : Prop where
  files : Edited paths s.files s'.files
  log : ∃ events, s'.log = s.log ++ events ∧ ∀ event ∈ events, tells event

theorem Scene.isFrame_worked (paths : List String) (tells : LogEvent → Prop) :
    Act.IsFrame (Worked paths tells) := by
  constructor
  · exact fun s => ⟨.refl, [], (List.append_nil _).symm, fun _ h => absurd h List.not_mem_nil⟩
  · rintro s s' s'' ⟨hfiles, events, hlog, htells⟩ ⟨hfiles', events', hlog', htells'⟩
    refine ⟨hfiles.trans hfiles', events ++ events', ?_, ?_⟩
    · rw [hlog', hlog, List.append_assoc]
    · intro event hevent
      exact (List.mem_append.mp hevent).elim (htells event) (htells' event)

/-- The action works on the journals, and whatever it answers is in `Q`. -/
abbrev Act.Works {α : Type} (paths : List String) (tells : LogEvent → Prop) (Q : α → Prop)
    (x : Act α) : Prop := x.Ensures (Scene.Worked paths tells) Q

namespace Act.Works

variable {α β : Type} {paths : List String} {tells : LogEvent → Prop} {P : α → Prop} {Q : β → Prop}

theorem pure {a : α} (h : P a) : Works paths tells P (Pure.pure a) :=
  Ensures.pure (Scene.isFrame_worked paths tells) h

theorem throw (fault : Fault) : Works paths tells P (MonadExcept.throw fault) :=
  Ensures.throw (Scene.isFrame_worked paths tells) fault

theorem bind {x : Act α} {f : α → Act β} (hx : Works paths tells P x)
    (hf : ∀ a, P a → Works paths tells Q (f a)) : Works paths tells Q (x >>= f) :=
  Ensures.bind (Scene.isFrame_worked paths tells) hx hf

theorem mapM {S : α → β → Prop} {f : α → Act β} {as : List α}
    (h : ∀ a ∈ as, Works paths tells (S a) (f a)) :
    Works paths tells (List.Forall₂ S as) (as.mapM f) :=
  Ensures.mapM (Scene.isFrame_worked paths tells) h

theorem mono {paths' : List String} {tells' : LogEvent → Prop} {x : Act α}
    (hx : Works paths tells P x) (hpaths : ∀ path ∈ paths, path ∈ paths')
    (htells : ∀ event, tells event → tells' event) : Works paths' tells' P x := by
  intro s
  obtain ⟨⟨hfiles, events, hlog, hevents⟩, hanswer⟩ := hx s
  exact ⟨⟨hfiles.mono hpaths, events, hlog, fun event hevent => htells event (hevents event hevent)⟩,
    hanswer⟩

theorem tell {event : LogEvent} (h : tells event) :
    Works paths tells (fun _ => True) (Act.tell event) := by
  refine fun s => ⟨⟨.refl, [event], rfl, fun e he => ?_⟩, fun _ _ => trivial⟩
  rwa [List.mem_singleton.mp he]

theorem say (line : String) : Works paths tells (fun _ => True) (Act.say line) :=
  fun _ => ⟨⟨.refl, [], (List.append_nil _).symm, fun _ h => absurd h List.not_mem_nil⟩,
    fun _ _ => trivial⟩

theorem readFiles (look : Files → α) : Works paths tells (fun _ => True) (Act.readFiles look) :=
  fun s => ⟨(Scene.isFrame_worked paths tells).rfl s, fun _ _ => trivial⟩

theorem onFiles {change : Files → Except Fault Files}
    (h : ∀ fs fs', change fs = .ok fs' → Edit paths fs fs') :
    Works paths tells (fun _ => True) (Act.onFiles change) :=
  Ensures.onFiles (Scene.isFrame_worked paths tells) fun s files hchange =>
    ⟨.single (h s.files files hchange), [], (List.append_nil _).symm,
      fun _ hevent => absurd hevent List.not_mem_nil⟩

variable {path parent : String}

theorem makeDirectories (hpath : path ∈ paths) (hparent : Path.parent? path = some parent) :
    Works paths tells (fun _ => True) (Act.makeDirectories parent) := by
  by_cases hempty : parent = ""
  · subst hempty
    exact pure trivial
  by_cases hwf : Path.isWellFormed parent = true
  · rw [makeDirectories_eq hempty hwf]
    refine fun s => ⟨?_, fun _ _ => trivial⟩
    rw [run_bind_of_ok (run_readFiles _ s)]
    -- No change moves the current directory, from which the places on the way were seen.
    have hloop (places : List (List String)) (s : Scene) (h : ∀ p ∈ places, p ∈ s.files.way parent) :
        Scene.Worked paths tells s
          ((places.forM fun p => Act.onFiles (·.makeDirectory p)).run s).2 := by
      induction places generalizing s with
      | nil => exact (Scene.isFrame_worked paths tells).rfl s
      | cons p places ih =>
        rw [List.forM, run_bind, run_onFiles]
        cases hmake : s.files.makeDirectory p with
        | error fault => exact (Scene.isFrame_worked paths tells).rfl s
        | ok files =>
          have hedit : Edit paths s.files files :=
            .makes hpath hparent (h p List.mem_cons_self) hmake
          have hfirst : Scene.Worked paths tells s { s with files } :=
            ⟨.single hedit, [], (List.append_nil _).symm,
              fun _ hevent => absurd hevent List.not_mem_nil⟩
          apply (Scene.isFrame_worked paths tells).trans hfirst
          apply ih
          intro q hq
          rw [Files.way, hedit.here]
          exact h q (List.mem_cons_of_mem p hq)
    exact hloop _ s fun p hp => hp
  · unfold Act.makeDirectories
    simp only [hempty, hwf, if_false]
    exact throw _

theorem openToRead (path : String) :
    Works paths tells (fun _ => True) (Act.onFiles (·.openToRead path)) :=
  Ensures.onFiles (Scene.isFrame_worked paths tells) fun s files hopen => by
    obtain rfl := openToRead_ok hopen
    exact (Scene.isFrame_worked paths tells).rfl s

end Act.Works

namespace Journal

open Act

variable {paths : List String} {tells : LogEvent → Prop} {path : String}

theorem works_lock (hpath : path ∈ paths) : Works paths tells (fun _ => True) (lock path) := by
  rw [lock_eq]
  refine Works.bind (P := fun _ => True) ?_ fun _ _ => Works.onFiles fun fs fs' htouch =>
    .writes hpath (lockFile_mem path) (writes_of_touch htouch)
  cases hparent : Path.parent? path with
  | none => exact Works.pure trivial
  | some parent => exact Works.makeDirectories hpath hparent

theorem works_seize (hpath : path ∈ paths) : Works paths tells (fun _ => True) (seize path) :=
  Works.bind (works_lock hpath) fun _ _ => Works.openToRead path

theorem edited_lock (path : String) (s : Scene) :
    Edited [path] s.files ((lock path).run s).2.files := by
  have hworks : Works [path] (fun _ => True) (fun _ => True) (lock path) :=
    works_lock (List.mem_singleton_self path)
  exact (hworks s).1.files

theorem works_append (hpath : path ∈ paths) (j : Json) :
    Works paths tells (fun _ => True) (append path j) :=
  Works.onFiles fun _ _ happend => .writes hpath (file_mem path) (writes_of_append happend)

theorem works_replace (hpath : path ∈ paths) (js : List Json) :
    Works paths tells (fun _ => True) (replace path js) := by
  refine Works.bind (Works.onFiles fun fs fs' hwrite => ?_) fun _ _ => Works.onFiles ?_
  · exact .writes hpath (spareFile_mem path) (writes_of_write hwrite)
  · exact fun fs fs' hrename => .moves hpath hrename

end Journal

end CallNotice

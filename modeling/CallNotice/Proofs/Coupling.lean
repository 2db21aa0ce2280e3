import CallNotice.Proofs.Files.Locking

/-!
Two runs side by side. From related scenes two actions answer both or fail both, with the same
fault, and leave related scenes.
-/

namespace CallNotice.Act

variable {α β γ δ σ τ : Type}

inductive Agree (Q : α → β → σ → τ → Prop) (E : σ → τ → Prop) :
    Except Fault α × σ → Except Fault β × τ → Prop
  | ok {a : α} {b : β} {s : σ} {t : τ} (h : Q a b s t) : Agree Q E (.ok a, s) (.ok b, t)
  | error (fault : Fault) {s : σ} {t : τ} (h : E s t) : Agree Q E (.error fault, s) (.error fault, t)

theorem Agree.imp {Q Q' : α → β → σ → τ → Prop} {E : σ → τ → Prop} {left : Except Fault α × σ}
    {right : Except Fault β × τ} (h : Agree Q E left right)
    (hQ : ∀ a b s t, Q a b s t → Q' a b s t) : Agree Q' E left right := by
  cases h with
  | ok h => exact .ok (hQ _ _ _ _ h)
  | error fault h => exact .error fault h

theorem Agree.scenes {Q : α → β → σ → τ → Prop} {R : σ → τ → Prop} {left : Except Fault α × σ}
    {right : Except Fault β × τ} (h : Agree Q R left right)
    (hQ : ∀ a b s t, Q a b s t → R s t) : R left.2 right.2 := by
  cases h with
  | ok h => exact hQ _ _ _ _ h
  | error _ h => exact h

theorem Agree.granted {Q : α → β → σ → τ → Prop} {left : Except Fault α × σ}
    {right : Except Fault β × τ} (h : Agree Q (fun _ _ => False) left right) :
    ∃ a b s t, left = (.ok a, s) ∧ right = (.ok b, t) ∧ Q a b s t := by
  cases h with
  | ok h => exact ⟨_, _, _, _, rfl, rfl, h⟩
  | error _ h => exact h.elim

inductive Answers (S : α → β → Prop) : Except Fault α → Except Fault β → Prop
  | ok {a : α} {b : β} (h : S a b) : Answers S (.ok a) (.ok b)
  | error (fault : Fault) : Answers S (.error fault) (.error fault)

/-- From `P` on, both answer with `Q`, or both fail with `E`. -/
def Couples (P : Scene → Scene → Prop) (Q : α → β → Scene → Scene → Prop)
    (E : Scene → Scene → Prop) (x : Act α) (y : Act β) : Prop :=
  ∀ s t, P s t → Agree Q E (x.run s) (y.run t)

namespace Couples

variable {P E : Scene → Scene → Prop} {R : α → β → Scene → Scene → Prop}
  {Q : γ → δ → Scene → Scene → Prop} {x : Act α} {y : Act β}

theorem pure {a : α} {b : β} (h : ∀ s t, P s t → R a b s t) :
    Couples P R E (Pure.pure a) (Pure.pure b) :=
  fun s t hst => .ok (h s t hst)

theorem throw (fault : Fault) (h : ∀ s t, P s t → E s t) :
    Couples P R E (MonadExcept.throw fault) (MonadExcept.throw fault) :=
  fun s t hst => .error fault (h s t hst)

theorem bind {f : α → Act γ} {g : β → Act δ} (hxy : Couples P R E x y)
    (hfg : ∀ a b, Couples (R a b) Q E (f a) (g b)) : Couples P Q E (x >>= f) (y >>= g) := by
  intro s t hst
  have hfirst := hxy s t hst
  rw [run_bind, run_bind]
  generalize x.run s = left at hfirst
  generalize y.run t = right at hfirst
  cases hfirst with
  | ok h => exact hfg _ _ _ _ h
  | error fault h => exact .error fault h

theorem conseq {P' E' : Scene → Scene → Prop} {R' : α → β → Scene → Scene → Prop}
    (h : Couples P R E x y) (hP : ∀ s t, P' s t → P s t)
    (hR : ∀ a b s t, R a b s t → R' a b s t) (hE : ∀ s t, E s t → E' s t) :
    Couples P' R' E' x y := by
  intro s t hst
  have hagree := h s t (hP s t hst)
  generalize x.run s = left at hagree ⊢
  generalize y.run t = right at hagree ⊢
  cases hagree with
  | ok h => exact .ok (hR _ _ _ _ h)
  | error fault h => exact .error fault (hE _ _ h)

theorem onFiles {S : Unit → Unit → Scene → Scene → Prop}
    {change change' : Files → Except Fault Files}
    (h : ∀ s t, P s t → (∃ files files', change s.files = .ok files ∧ change' t.files = .ok files' ∧
      S () () { s with files } { t with files := files' }) ∨
      ∃ fault, change s.files = .error fault ∧ change' t.files = .error fault ∧ E s t) :
    Couples P S E (Act.onFiles change) (Act.onFiles change') := by
  intro s t hst
  rw [run_onFiles, run_onFiles]
  obtain ⟨files, files', hs, ht, hS⟩ | ⟨fault, hs, ht, hE⟩ := h s t hst
  · rw [hs, ht]
    exact .ok hS
  · rw [hs, ht]
    exact .error fault hE

theorem readFiles {look : Files → α} {look' : Files → β}
    (h : ∀ s t, P s t → R (look s.files) (look' t.files) s t) :
    Couples P R E (Act.readFiles look) (Act.readFiles look') :=
  fun s t hst => .ok (h s t hst)

theorem tell {S : Unit → Unit → Scene → Scene → Prop} (event : LogEvent)
    (h : ∀ s t, P s t → S () () (s.tell event) (t.tell event)) :
    Couples P S E (Act.tell event) (Act.tell event) :=
  fun s t hst => .ok (h s t hst)

end Couples

abbrev Matches (I : Scene → Scene → Prop) (S : α → β → Prop) (x : Act α) (y : Act β) : Prop :=
  Couples I (fun a b s t => S a b ∧ I s t) I x y

namespace Matches

variable {I : Scene → Scene → Prop} {S : α → β → Prop} {S' : γ → δ → Prop} {x : Act α} {y : Act β}

theorem pure {a : α} {b : β} (h : S a b) : Matches I S (Pure.pure a) (Pure.pure b) :=
  Couples.pure fun _ _ hst => ⟨h, hst⟩

theorem throw (fault : Fault) :
    Matches I S (MonadExcept.throw fault) (MonadExcept.throw fault) :=
  Couples.throw fault fun _ _ hst => hst

theorem bind {Q : γ → δ → Scene → Scene → Prop} {f : α → Act γ} {g : β → Act δ}
    (hxy : Matches I S x y) (hfg : ∀ a b, S a b → Couples I Q I (f a) (g b)) :
    Couples I Q I (x >>= f) (y >>= g) :=
  Couples.bind hxy fun a b s t hst => hfg a b hst.1 s t hst.2

theorem attempt (h : Matches I S x y) : Matches I (Answers S) x.attempt y.attempt := by
  intro s t hst
  have hagree := h s t hst
  rw [run_attempt, run_attempt]
  generalize x.run s = left at hagree
  generalize y.run t = right at hagree
  cases hagree with
  | ok h => exact .ok ⟨.ok h.1, h.2⟩
  | error fault h => exact .ok ⟨.error fault, h⟩

theorem mapM {f : α → Act γ} {g : β → Act δ} {as : List α} {bs : List β}
    (h : List.Forall₂ S as bs) (hfg : ∀ a b, S a b → Matches I S' (f a) (g b)) :
    Matches I (List.Forall₂ S') (as.mapM f) (bs.mapM g) := by
  induction h with
  | nil => exact pure .nil
  | @cons a b as bs hab _ ih =>
    rw [List.mapM_cons, List.mapM_cons]
    refine bind (hfg a b hab) fun c d hcd => ?_
    refine bind ih fun cs ds hcds => ?_
    exact pure (.cons hcd hcds)

end Matches

structure IsUniform (I : Scene → Scene → Prop) : Prop where
  here {s t : Scene} : I s t → s.files.here = t.files.here
  makeDirectory (p : List String) :
    Couples I (fun _ _ => I) I (onFiles (·.makeDirectory p)) (onFiles (·.makeDirectory p))
  touch (path : String) :
    Couples I (fun _ _ => I) I (onFiles (·.touch path)) (onFiles (·.touch path))

namespace IsUniform

variable {I : Scene → Scene → Prop}

theorem couples_makeDirectories (hI : IsUniform I) (path : String) :
    Couples I (fun _ _ => I) I (makeDirectories path) (makeDirectories path) := by
  by_cases hempty : path = ""
  · subst hempty
    exact Couples.pure fun _ _ h => h
  by_cases hwf : Path.isWellFormed path = true
  · rw [makeDirectories_eq hempty hwf]
    have hread : Matches I (· = ·) (readFiles (·.way path)) (readFiles (·.way path)) :=
      Couples.readFiles fun s t h => ⟨congrArg (Path.way · path) (hI.here h), h⟩
    apply Matches.bind hread
    rintro places _ rfl
    induction places with
    | nil => exact Couples.pure fun _ _ h => h
    | cons p places ih => exact Couples.bind (hI.makeDirectory p) fun _ _ => ih
  · unfold makeDirectories
    simp only [hempty, hwf, if_false]
    exact Couples.throw _ fun _ _ h => h

theorem couples_lock (hI : IsUniform I) (path : String) :
    Couples I (fun _ _ => I) I (Journal.lock path) (Journal.lock path) := by
  rw [Journal.lock_eq]
  refine Couples.bind (R := fun _ _ => I) ?_ fun _ _ => hI.touch _
  cases Path.parent? path with
  | none => exact Couples.pure fun _ _ h => h
  | some parent => exact hI.couples_makeDirectories parent

end IsUniform

/-- Scenes in `I` have the same files, and stay in `I` while they do and are told the same. -/
structure SeesFiles (I : Scene → Scene → Prop) : Prop where
  files {s t : Scene} : I s t → s.files = t.files
  put {s t : Scene} (files : Files) : I s t → I { s with files } { t with files }
  tell {s t : Scene} (event : LogEvent) : I s t → I (s.tell event) (t.tell event)

namespace SeesFiles

variable {I : Scene → Scene → Prop}

theorem couples_onFiles (hI : SeesFiles I) (change : Files → Except Fault Files) :
    Couples I (fun _ _ => I) I (onFiles change) (onFiles change) := by
  apply Couples.onFiles
  intro s t h
  rw [hI.files h]
  cases change t.files with
  | ok files => exact .inl ⟨files, files, rfl, rfl, hI.put files h⟩
  | error fault => exact .inr ⟨fault, rfl, rfl, h⟩

theorem isUniform (hI : SeesFiles I) : IsUniform I where
  here h := congrArg Files.here (hI.files h)
  makeDirectory _ := hI.couples_onFiles _
  touch _ := hI.couples_onFiles _

end SeesFiles

def SameFiles (s t : Scene) : Prop := s.files = t.files

theorem seesFiles_sameFiles : SeesFiles SameFiles where
  files h := h
  put _ _ := rfl
  tell _ h := h

end CallNotice.Act

namespace CallNotice.Scene

/-- Only the lines for the user may differ. -/
structure Unspoken (s t : Scene) : Prop where
  files : s.files = t.files
  log : s.log = t.log

theorem seesFiles_unspoken : Act.SeesFiles Unspoken where
  files h := h.files
  put _ h := ⟨rfl, h.log⟩
  tell event h := ⟨h.files, congrArg (· ++ [event]) h.log⟩

end CallNotice.Scene

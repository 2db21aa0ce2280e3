import CallNotice.Act
import Mathlib.Data.List.Forall2

namespace CallNotice.Act

variable {α β : Type}

theorem run_bind (x : Act α) (f : α → Act β) (s : Scene) :
    (x >>= f).run s =
      match x.run s with
      | (.ok a, s') => (f a).run s'
      | (.error fault, s') => (.error fault, s') := by
  change (ExceptT.bindCont f (x.run s).1) (x.run s).2 = _
  rcases x.run s with ⟨fault | a, s'⟩ <;> rfl

theorem run_bind_ok {x : Act α} {f : α → Act β} {s s' : Scene} {b : β}
    (h : (x >>= f).run s = (.ok b, s')) :
    ∃ a s₁, x.run s = (.ok a, s₁) ∧ (f a).run s₁ = (.ok b, s') := by
  rw [run_bind] at h
  rcases hx : x.run s with ⟨fault | a, s₁⟩
  · rw [hx] at h
    cases h
  · rw [hx] at h
    exact ⟨a, s₁, rfl, h⟩

theorem run_bind_of_ok {x : Act α} {f : α → Act β} {s s₁ : Scene} {a : α}
    (h : x.run s = (.ok a, s₁)) : (x >>= f).run s = (f a).run s₁ := by
  rw [run_bind, h]

theorem run_bind_error {x : Act α} {f : α → Act β} {s s' : Scene} {fault : Fault}
    (h : (x >>= f).run s = (.error fault, s')) :
    x.run s = (.error fault, s') ∨
      ∃ a s₁, x.run s = (.ok a, s₁) ∧ (f a).run s₁ = (.error fault, s') := by
  rw [run_bind] at h
  rcases hx : x.run s with ⟨fault' | a, s₁⟩
  · rw [hx] at h
    cases h
    exact .inl rfl
  · rw [hx] at h
    exact .inr ⟨a, s₁, rfl, h⟩

theorem snd_run_bind_pure (x : Act α) (f : α → β) (s : Scene) :
    ((x >>= fun a => Pure.pure (f a)).run s).2 = (x.run s).2 := by
  rw [run_bind]
  rcases x.run s with ⟨fault | a, s'⟩ <;> rfl

theorem run_mapM_cons {f : α → Act β} {a : α} {as : List α} {b : β} {bs : List β} {s s₁ s₂ : Scene}
    (h : (f a).run s = (.ok b, s₁)) (hs : (as.mapM f).run s₁ = (.ok bs, s₂)) :
    ((a :: as).mapM f).run s = (.ok (b :: bs), s₂) := by
  rw [List.mapM_cons, run_bind_of_ok h, run_bind_of_ok hs]
  rfl

theorem run_onFiles (change : Files → Except Fault Files) (s : Scene) :
    (onFiles change).run s =
      match change s.files with
      | .ok files => (.ok (), { s with files })
      | .error fault => (.error fault, s) := by
  rw [onFiles, run_bind]
  change (match change s.files with
    | .ok files => modify fun s => { s with files }
    | .error fault => throw fault : Act Unit).run s = _
  rcases change s.files with fault | files <;> rfl

theorem run_onFiles_ok {change : Files → Except Fault Files} {s s' : Scene}
    (h : (onFiles change).run s = (.ok (), s')) :
    ∃ files, change s.files = .ok files ∧ s' = { s with files } := by
  rw [run_onFiles] at h
  rcases hc : change s.files with fault | files
  · rw [hc] at h
    cases h
  · rw [hc] at h
    cases h
    exact ⟨files, rfl, rfl⟩

theorem run_onFiles_of_ok {change : Files → Except Fault Files} {s : Scene} {files : Files}
    (h : change s.files = .ok files) : (onFiles change).run s = (.ok (), { s with files }) := by
  rw [run_onFiles, h]

theorem run_onFiles_error {change : Files → Except Fault Files} {s s' : Scene} {fault : Fault}
    (h : (onFiles change).run s = (.error fault, s')) : change s.files = .error fault ∧ s' = s := by
  rw [run_onFiles] at h
  rcases hc : change s.files with fault' | files
  · rw [hc] at h
    cases h
    exact ⟨rfl, rfl⟩
  · rw [hc] at h
    cases h

theorem run_readFiles (look : Files → α) (s : Scene) :
    (readFiles look).run s = (.ok (look s.files), s) := rfl

theorem run_attempt (x : Act α) (s : Scene) : x.attempt.run s = (.ok (x.run s).1, (x.run s).2) := rfl

/-- Whatever is answered, the scene goes along `R`, and an answer is in `Q`. -/
def Ensures (R : Scene → Scene → Prop) (Q : α → Prop) (x : Act α) : Prop :=
  ∀ s, R s (x.run s).2 ∧ ∀ a, (x.run s).1 = .ok a → Q a

structure IsFrame (R : Scene → Scene → Prop) : Prop where
  rfl (s : Scene) : R s s
  trans {s s' s'' : Scene} : R s s' → R s' s'' → R s s''

namespace Ensures

variable {R : Scene → Scene → Prop} {P : α → Prop} {Q : β → Prop}

theorem pure (hR : IsFrame R) {a : α} (h : P a) : Ensures R P (Pure.pure a) := by
  intro s
  refine ⟨hR.rfl s, ?_⟩
  rintro _ ⟨⟩
  exact h

theorem throw (hR : IsFrame R) (fault : Fault) : Ensures R P (MonadExcept.throw fault) :=
  fun s => ⟨hR.rfl s, nofun⟩

theorem bind (hR : IsFrame R) {x : Act α} {f : α → Act β} (hx : Ensures R P x)
    (hf : ∀ a, P a → Ensures R Q (f a)) : Ensures R Q (x >>= f) := by
  intro s
  obtain ⟨hfirst, hanswer⟩ := hx s
  rw [run_bind]
  rcases hrun : x.run s with ⟨fault | a, s₁⟩
  · rw [hrun] at hfirst
    exact ⟨hfirst, nofun⟩
  · rw [hrun] at hfirst hanswer
    obtain ⟨hnext, hlast⟩ := hf a (hanswer a rfl) s₁
    exact ⟨hR.trans hfirst hnext, hlast⟩

theorem attempt {x : Act α} (hx : Ensures R P x) :
    Ensures R (fun result => ∀ a, result = .ok a → P a) x.attempt := by
  intro s
  refine ⟨(hx s).1, ?_⟩
  rintro _ ⟨⟩
  exact (hx s).2

theorem onFiles {change : Files → Except Fault Files} (hR : IsFrame R)
    (h : ∀ s files, change s.files = .ok files → R s { s with files }) :
    Ensures R (fun _ => True) (onFiles change) := by
  intro s
  refine ⟨?_, fun _ _ => trivial⟩
  rw [run_onFiles]
  cases hchange : change s.files with
  | error fault => exact hR.rfl s
  | ok files => exact h s files hchange

theorem readFiles (hR : IsFrame R) (look : Files → α) :
    Ensures R (fun _ => True) (readFiles look) := fun s => ⟨hR.rfl s, fun _ _ => trivial⟩

theorem forM (hR : IsFrame R) {f : α → Act PUnit} {as : List α}
    (h : ∀ a ∈ as, Ensures R (fun _ => True) (f a)) : Ensures R (fun _ => True) (as.forM f) := by
  induction as with
  | nil => exact pure hR trivial
  | cons a as ih =>
    exact bind hR (h a List.mem_cons_self) fun _ _ => ih fun b hb => h b (List.mem_cons_of_mem a hb)

theorem mapM (hR : IsFrame R) {S : α → β → Prop} {f : α → Act β} {as : List α}
    (h : ∀ a ∈ as, Ensures R (S a) (f a)) : Ensures R (List.Forall₂ S as) (as.mapM f) := by
  induction as with
  | nil => exact pure hR .nil
  | cons a as ih =>
    rw [List.mapM_cons]
    apply bind hR (h a List.mem_cons_self)
    intro b hb
    apply bind hR (ih fun c hc => h c (List.mem_cons_of_mem a hc))
    intro bs hbs
    exact pure hR (.cons hb hbs)

end Ensures

def Yields (Q : α → Prop) (x : Act α) : Prop := ∀ s, ∃ a s', x.run s = (.ok a, s') ∧ Q a

namespace Yields

variable {P : α → Prop} {Q : β → Prop}

theorem pure {a : α} (h : P a) : Yields P (Pure.pure a) := fun s => ⟨a, s, rfl, h⟩

theorem bind {x : Act α} {f : α → Act β} (hx : Yields P x) (hf : ∀ a, P a → Yields Q (f a)) :
    Yields Q (x >>= f) := by
  intro s
  obtain ⟨a, s₁, hrun, ha⟩ := hx s
  rw [run_bind_of_ok hrun]
  exact hf a ha s₁

theorem imp {P' : α → Prop} {x : Act α} (hx : Yields P x) (h : ∀ a, P a → P' a) : Yields P' x := by
  intro s
  obtain ⟨a, s', hrun, ha⟩ := hx s
  exact ⟨a, s', hrun, h a ha⟩

theorem mapM {S : α → β → Prop} {f : α → Act β} (h : ∀ a, Yields (S a) (f a)) (as : List α) :
    Yields (List.Forall₂ S as) (as.mapM f) := by
  induction as with
  | nil => exact pure .nil
  | cons a as ih =>
    rw [List.mapM_cons]
    apply bind (h a)
    intro b hb
    apply bind ih
    intro bs hbs
    exact pure (.cons hb hbs)

end Yields

/-- What holds of a value and the scene still holds after an action that gives the next value; if the
action is refused, the value is as it was. -/
structure Sustains (P : α → Scene → Prop) (a : α) (x : Act α) : Prop where
  ok {s s' : Scene} {next : α} : x.run s = (.ok next, s') → P a s → P next s'
  error {s s' : Scene} {fault : Fault} : x.run s = (.error fault, s') → P a s → P a s'

namespace Sustains

variable {P : α → Scene → Prop} {Q : β → Scene → Prop}

theorem pure {a b : α} (h : ∀ s, P a s → P b s) : Sustains P a (Pure.pure b) := by
  constructor
  · rintro s _ _ ⟨⟩ ha
    exact h s ha
  · rintro s _ _ ⟨⟩

theorem throw {a : α} (fault : Fault) : Sustains P a (MonadExcept.throw fault) := by
  constructor
  · rintro s _ _ ⟨⟩
  · rintro s _ _ ⟨⟩ ha
    exact ha

theorem map {f : α → β} {a : α} {x : Act α} (h : Sustains (fun a => Q (f a)) a x) :
    Sustains Q (f a) (return f (← x)) := by
  constructor
  · intro s s' next hrun ha
    obtain ⟨b, s₁, hx, hreturn⟩ := run_bind_ok hrun
    cases hreturn
    exact h.ok hx ha
  · intro s s' fault hrun ha
    obtain hx | ⟨b, s₁, -, hreturn⟩ := run_bind_error hrun
    · exact h.error hx ha
    · cases hreturn

theorem mapM {P : List α → Scene → Prop} {f : α → Act α} {as : List α}
    (hyields : ∀ a, Yields (fun _ => True) (f a))
    (h : ∀ before a after, a ∈ as → Sustains (fun next => P (before ++ next :: after)) a (f a))
    (before : List α) : Sustains (fun next => P (before ++ next)) as (as.mapM f) := by
  induction as generalizing before with
  | nil => exact pure fun _ => id
  | cons a as ih =>
    have hrest := ih (fun before b after hb => h before b after (List.mem_cons_of_mem a hb))
    constructor
    · intro s s' next hrun ha
      rw [List.mapM_cons] at hrun
      obtain ⟨b, s₁, hfirst, hrun⟩ := run_bind_ok hrun
      obtain ⟨bs, s₂, hlast, hreturn⟩ := run_bind_ok hrun
      cases hreturn
      have hnext := (h before a as List.mem_cons_self).ok hfirst ha
      rw [List.append_cons] at hnext ⊢
      exact (hrest (before ++ [b])).ok hlast hnext
    · intro s s' fault hrun
      obtain ⟨bs, s₁, hyield, -⟩ := Yields.mapM (S := fun _ _ => True) hyields (a :: as) s
      rw [hyield] at hrun
      cases hrun

end Sustains

end CallNotice.Act

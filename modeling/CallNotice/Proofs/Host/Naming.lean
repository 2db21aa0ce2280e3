import CallNotice.Host.Step
import CallNotice.Proofs.Notification.Codec
import Mathlib.Data.List.Forall2

namespace CallNotice

namespace IntentAction

open Text

variable {a : IntentAction} {s : String}

def IsNamed (s : String) (a : IntentAction) : Prop := s = a.identifier ∨ s = a.name

theorem mem_all (a : IntentAction) : a ∈ all := by cases a <;> decide

theorem isTrimmed_of_isNamed (h : IsNamed s a) : IsTrimmed s.toList := by
  have hnames : ∀ a ∈ all, (trim a.identifier = a.identifier ∧ trim a.name = a.name) := by decide
  obtain ⟨hidentifier, hname⟩ := hnames a a.mem_all
  rcases h with rfl | rfl
  · rw [← hidentifier, toList_trim]
    exact isTrimmed_trimChars _
  · rw [← hname, toList_trim]
    exact isTrimmed_trimChars _

theorem eq_of_isNamed {b : IntentAction} (ha : IsNamed s a) (hb : IsNamed s b) : a = b := by
  have hdistinct : ∀ a ∈ all, ∀ b ∈ all,
      a.identifier = b.identifier ∨ a.identifier = b.name ∨ a.name = b.identifier ∨
        a.name = b.name → a = b := by
    decide
  apply hdistinct a a.mem_all b b.mem_all
  rcases ha with rfl | rfl <;> rcases hb with h | h <;> simp [h]

theorem isNamed_of_ofName? (h : ofName? s = some a) : IsNamed s a := by
  have hfound := List.find?_some (p := fun b : IntentAction => b.identifier = s || b.name = s) h
  rw [Bool.or_eq_true, decide_eq_true_iff, decide_eq_true_iff] at hfound
  exact hfound.imp Eq.symm Eq.symm

theorem ofName?_eq_some_iff : ofName? s = some a ↔ IsNamed s a := by
  constructor
  · exact isNamed_of_ofName?
  · intro h
    have hfound : (ofName? s).isSome = true := by
      rw [ofName?, List.find?_isSome]
      refine ⟨a, a.mem_all, ?_⟩
      rw [Bool.or_eq_true, decide_eq_true_iff, decide_eq_true_iff]
      exact h.imp Eq.symm Eq.symm
    obtain ⟨b, hb⟩ := Option.isSome_iff_exists.mp hfound
    rw [hb, eq_of_isNamed h (isNamed_of_ofName? hb)]

theorem ofName?_eq_none_iff : ofName? s = none ↔ ∀ a : IntentAction, ¬IsNamed s a := by
  rw [Option.eq_none_iff_forall_ne_some]
  constructor
  · intro h a hnamed
    exact h a (ofName?_eq_some_iff.mpr hnamed)
  · intro h a hname
    exact h a (ofName?_eq_some_iff.mp hname)

theorem ofText_of_isNamed {before after : String} (hbefore : isBlankText before = true)
    (hafter : isBlankText after = true) (h : IsNamed s a) :
    IntentAction.ofText (before ++ s ++ after) = .ok a := by
  have htrim : trim s = s := by
    rw [trim, trimChars_of_isTrimmed (isTrimmed_of_isNamed h), String.ofList_toList]
  rw [IntentAction.ofText, trim_append hbefore hafter, htrim, ofName?_eq_some_iff.mpr h]

theorem ofText_of_not_isNamed (h : ∀ a : IntentAction, ¬IsNamed (trim s) a) :
    IntentAction.ofText s = .error (.unknownAction (trim s)) := by
  rw [IntentAction.ofText, ofName?_eq_none_iff.mpr h]

end IntentAction

theorem Intent.data_reread {i : Intent} (h : i.IsReadBack) :
    (i.data.map Handle.toText).map Handle.ofText = i.data := by
  rw [Option.map_map]
  exact congrArg Intent.data (Intent.isReadBack_iff.mp h)

namespace Host

open IntentAction Text

/-- The same step, but that an intent may be given as texts. -/
inductive IsToldAs : HostStep → HostStep → Prop
  | same (step : HostStep) : IsToldAs step step
  | intent {i : Intent} {name before after : String} (hi : i.IsReadBack)
      (hname : IsNamed name i.action) (hbefore : isBlankText before = true)
      (hafter : isBlankText after = true) :
      IsToldAs (.receive i) (.receiveAction (before ++ name ++ after) (i.data.map Handle.toText))

variable {i : Intent} {name before after : String}

theorem receive_broadcast (now : Timestamp) (h : Host) (i : Intent) :
    h.receive now (.broadcast i.action i.data) = h.receive now i := rfl

theorem receiveAction_of_isReadBack (now : Timestamp) (h : Host) (hi : i.IsReadBack)
    (hname : IsNamed name i.action) (hbefore : isBlankText before = true)
    (hafter : isBlankText after = true) :
    h.receiveAction now (before ++ name ++ after) (i.data.map Handle.toText) =
      h.receive now i := by
  rw [receiveAction, ofText_of_isNamed hbefore hafter hname, Intent.data_reread hi]
  exact receive_broadcast now h i

theorem receiveAction_of_not_isNamed (now : Timestamp) (h : Host) (data : Option String)
    (hname : ∀ a, ¬IsNamed (trim name) a) :
    h.receiveAction now name data = (.error (.unknownAction (trim name)), h) := by
  rw [receiveAction, ofText_of_not_isNamed hname]

theorem step_eq_of_isToldAs (now : Timestamp) (h : Host) {step step' : HostStep}
    (htold : IsToldAs step step') : h.step now step' = h.step now step := by
  cases htold with
  | same => rfl
  | intent hi hname hbefore hafter =>
    exact congrArg (reply .effect) (receiveAction_of_isReadBack now h hi hname hbefore hafter)

theorem run_eq_of_isToldAs {steps steps' : List (Timestamp × HostStep)}
    (htold : List.Forall₂ (fun s s' => s.1 = s'.1 ∧ IsToldAs s.2 s'.2) steps steps') (h : Host) :
    h.run steps' = h.run steps := by
  induction htold generalizing h with
  | nil => rfl
  | @cons s s' rest rest' hhead _ ih =>
    obtain ⟨now, step⟩ := s
    obtain ⟨now', step'⟩ := s'
    obtain ⟨rfl, hstep⟩ : now = now' ∧ IsToldAs step step' := hhead
    calc
      h.run ((now, step') :: rest') = (h.step now step').2.run rest' := rfl
      _ = (h.step now step).2.run rest := by rw [step_eq_of_isToldAs now h hstep, ih]
      _ = h.run ((now, step) :: rest) := rfl

theorem receives_texts_as_intents (now : Timestamp) (h : Host) :
    (∀ j i, Intent.ofJson? j = some i → ∀ name, name = i.action.identifier ∨ name = i.action.name →
      ∀ before after, isBlankText before = true → isBlankText after = true →
        h.receiveAction now (before ++ name ++ after) (i.data.map Handle.toText) =
          h.receive now i) ∧
    ∀ name data, (∀ a : IntentAction, trim name ≠ a.identifier ∧ trim name ≠ a.name) →
      h.receiveAction now name data = (.error (.unknownAction (trim name)), h) := by
  constructor
  · intro j i hj name hname before after hbefore hafter
    exact receiveAction_of_isReadBack now h (Intent.isReadBack_of_ofJson? hj) hname hbefore hafter
  · intro name data hname
    apply receiveAction_of_not_isNamed
    intro a hnamed
    exact hnamed.elim (hname a).1 (hname a).2

theorem receives_texts_as_intents_call_back :
    let moment : Timestamp := ⟨⟨2024, 1, 2, by decide⟩, 3, 4, 5, 0, by decide⟩
    let j : Json := .obj [("action", .text "call_back_from_notification"),
      ("data", .text " TEL:555\n"), ("target", .text "broadcast")]
    let i : Intent := .callBack ⟨some "tel", "555"⟩
    let host : Host := ⟨.ofFiles (.blank []), .memory [], .direct (.memory .empty),
      .ofSettings .standard, [], []⟩
    Intent.ofJson? j = some i ∧
      host.receiveAction moment (" " ++ "call_back_from_notification" ++ "\n") (some "tel:555") =
        host.receive moment i ∧
      host.receiveAction moment "Call_Back_From_Notification " none =
        (.error (.unknownAction "Call_Back_From_Notification"), host) := by
  intro moment j i host
  have hread : Intent.ofJson? j = some i := by decide
  obtain ⟨hsame, hother⟩ := receives_texts_as_intents moment host
  refine ⟨hread, ?_, ?_⟩
  · exact hsame j i hread _ (.inr rfl) " " "\n" (by decide) (by decide)
  · apply hother
    intro a
    cases a <;> decide

end Host

end CallNotice

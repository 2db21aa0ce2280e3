import CallNotice.Proofs.Bidi
import CallNotice.Proofs.CallLog.Description
import CallNotice.Proofs.Host.Notice
import CallNotice.Proofs.Host.Tally

namespace CallNotice

namespace Text

/-- What is not blank in such a text are control and format characters. -/
def IsHidden (s : String) : Prop :=
  (∃ c ∈ s.toList, isBlank c = false) ∧
    ∀ c ∈ s.toList, isBlank c = false → isControl c = true ∨ formats.holds c = true

theorem isBlankText_eq_false_iff {s : String} :
    isBlankText s = false ↔ ∃ c ∈ s.toList, isBlank c = false := by
  simp only [isBlankText, List.all_eq_false, Bool.not_eq_true]

theorem hasVisible_eq_false_iff {s : String} : hasVisible s = false ↔
    ∀ c ∈ s.toList, isBlank c = false → isControl c = true ∨ formats.holds c = true := by
  simp only [hasVisible, List.any_eq_false, isVisible, Bool.and_eq_true, Bool.not_eq_true',
    not_and, and_imp, Bool.not_eq_false, or_iff_not_imp_left, Bool.not_eq_true]

theorem isHidden_iff {s : String} : IsHidden s ↔ isBlankText s = false ∧ hasVisible s = false := by
  rw [isBlankText_eq_false_iff, hasVisible_eq_false_iff, IsHidden]

theorem isBlankText_of_hasVisible {s : String} (h : hasVisible s = true) : isBlankText s = false := by
  obtain ⟨c, hc, hvisible⟩ := List.any_eq_true.mp h
  simp only [isVisible, Bool.and_eq_true, Bool.not_eq_true'] at hvisible
  exact isBlankText_eq_false_iff.mpr ⟨c, hc, hvisible.1.1⟩

end Text

namespace Notifier

variable {p : Notifier} {call : Call} {name : String}

theorem shownName?_eq_some_iff :
    shownName? call = some name ↔ call.name = some name ∧ Text.hasVisible name = true :=
  Option.filter_eq_some_iff

theorem shownName?_eq_none_iff :
    shownName? call = none ↔ ∀ name ∈ call.name, Text.hasVisible name = false := by
  simp only [shownName?, Option.filter_eq_none_iff, Bool.not_eq_true, Option.mem_def]

theorem callerText_of_shown (h : shownName? call = some name) : p.callerText call = name := by
  rw [callerText, h]

end Notifier

namespace Host

open Notifier Text

variable {call : Call} {name : String}

theorem name_rowFor_eq_some_iff :
    (rowFor call).name = some name ↔ call.name = some name ∧ isBlankText name = false := by
  simp only [rowFor, CallLogEntry.missed, Option.filter_eq_some_iff, Bool.not_eq_true']

theorem name_rowFor_of_shown (h : shownName? call = some name) : (rowFor call).name = some name := by
  obtain ⟨hname, hvisible⟩ := shownName?_eq_some_iff.mp h
  exact name_rowFor_eq_some_iff.mpr ⟨hname, isBlankText_of_hasVisible hvisible⟩

theorem shownName?_of_name_rowFor (h : (rowFor call).name = none) : shownName? call = none := by
  rw [Option.eq_none_iff_forall_ne_some]
  intro name hshown
  rw [name_rowFor_of_shown hshown] at h
  cases h

theorem name_rowFor_of_isHidden (hname : call.name = some name) (h : IsHidden name) :
    (rowFor call).name = some name ∧ shownName? call = none := by
  obtain ⟨hblank, hvisible⟩ := isHidden_iff.mp h
  refine ⟨name_rowFor_eq_some_iff.mpr ⟨hname, hblank⟩, shownName?_eq_none_iff.mpr ?_⟩
  rw [hname]
  rintro _ ⟨⟩
  exact hvisible

theorem name_rowFor_eq_shownName?_iff :
    (rowFor call).name = shownName? call ↔ ∀ name ∈ call.name, ¬IsHidden name := by
  constructor
  · rintro hsame name hname hhidden
    obtain ⟨hrecorded, hshown⟩ := name_rowFor_of_isHidden hname hhidden
    rw [hrecorded, hshown] at hsame
    cases hsame
  · intro hplain
    cases hrecorded : (rowFor call).name with
    | none => rw [shownName?_of_name_rowFor hrecorded]
    | some name =>
      obtain ⟨hname, hblank⟩ := name_rowFor_eq_some_iff.mp hrecorded
      have hvisible : hasVisible name = true := by
        by_contra hnone
        exact hplain name hname (isHidden_iff.mpr ⟨hblank, Bool.eq_false_iff.mpr hnone⟩)
      exact (shownName?_eq_some_iff.mpr ⟨hname, hvisible⟩).symm

theorem hear_recorder {e : CallEvent} (hmissed : e.isMissed = true) (now : Timestamp) (h : Host) :
    ((∃ rows, h.store = .memory rows) → (h.hear now e .recorder).refusals = h.refusals) ∧
    ((h.hear now e .recorder).refusals = h.refusals → ∀ rows, h.store.Keeps rows h.scene.files →
      (h.hear now e .recorder).rows = rows.insert (rowFor e.call)) := by
  have hhear : h.hear now e .recorder = h.record e.call := if_pos hmissed
  rw [hhear, Host.record]
  split
  · rename_i id h' hrun
    have hchanges := insert_ok hrun
    refine ⟨fun _ => (refusals_tell _ h').trans hchanges.refusals, fun _ rows hkeeps => ?_⟩
    exact (hchanges.keeps rows hkeeps).2.rows_eq
  · rename_i fault h' hrun
    obtain ⟨hsame, hfiles⟩ := insert_error hrun
    constructor
    · rintro ⟨rows, hrows⟩
      exact absurd hrows (hfiles rows)
    · intro hrefused
      rw [refusals_tell, hsame] at hrefused
      exact absurd hrefused (Nat.ne_of_gt (Nat.lt_succ_self _))

/-- The recorder's row names the caller as the notification does, exactly if there is something to
be seen in the name of the call or nothing but blanks. A name in between is recorded, and so the
listing has it where the notification has the address. -/
theorem recorded_name_eq_shown_iff {e : CallEvent} (hmissed : e.isMissed = true) (h : Host)
    (now : Timestamp) :
    let call := e.call
    let row (id : UInt64) : CallLogEntry := { rowFor call with id := id }
    let after := h.hear now e .recorder
    ((∃ rows, h.store = .memory rows) → after.refusals = h.refusals) ∧
    (after.refusals = h.refusals → ∀ rows, h.store.Keeps rows h.scene.files →
      after.rows = rows ++ [row rows.nextId]) ∧
    ∃ n, h.notifier.compose call 1 = .ok n ∧ ∀ id,
      (row id).describe.toList =
        (row id).frontColumns ++ (row id).caller.toList ++ (row id).backColumns ∧
      ((row id).name = shownName? call ↔ ∀ name ∈ call.name, ¬IsHidden name) ∧
      (∀ name, shownName? call = some name →
        (row id).name = some name ∧ (row id).caller = name ∧ n.text = name) ∧
      ((row id).name = none →
        (row id).caller = call.handle.address ∧ n.text = h.notifier.fallbackText call) ∧
      ∀ name, call.name = some name → IsHidden name →
        (row id).name = some name ∧ (row id).caller = name ∧
          n.text = h.notifier.fallbackText call := by
  intro call row after
  obtain ⟨hmemory, hinserted⟩ := hear_recorder hmissed now h
  refine ⟨hmemory, hinserted, h.notifier.singleNotice call, h.notifier.compose_single call,
    fun id => ?_⟩
  have hcaller {name : String} (hname : (row id).name = some name) : (row id).caller = name := by
    rw [CallLogEntry.caller, hname, Option.getD_some]
  refine ⟨(row id).toList_describe, name_rowFor_eq_shownName?_iff, fun name hshown => ?_,
    fun hnone => ?_, fun name hname hhidden => ?_⟩
  · have hrecorded := name_rowFor_of_shown hshown
    exact ⟨hrecorded, hcaller hrecorded, callerText_of_shown hshown⟩
  · have hshown : shownName? call = none := shownName?_of_name_rowFor hnone
    refine ⟨?_, callerText_of_not_shown hshown⟩
    rw [CallLogEntry.caller, hnone]
    rfl
  · obtain ⟨hrecorded, hshown⟩ := name_rowFor_of_isHidden hname hhidden
    exact ⟨hrecorded, hcaller hrecorded, callerText_of_not_shown hshown⟩

theorem recorded_name_eq_shown_iff_of_mark :
    let now : Timestamp := ⟨⟨2024, 1, 2, by decide⟩, 3, 4, 5, 0, by decide⟩
    let call (name : String) : Call :=
      ⟨⟨some "tel", "555-9999"⟩, some name, now, .incomingMissed, none, none⟩
    let host : Host := ⟨.ofFiles (.blank ["home"]), .memory [], .direct .log, .standard,
      [.recorder, .notifier], []⟩
    let rows (name : String) := (host.hear now ⟨call name, .ringing, .disconnected⟩ .recorder).rows
    (rows "\u200E").map CallLogEntry.caller = ["\u200E"] ∧
      (∃ n, host.notifier.compose (call "\u200E") 1 = .ok n ∧ n.text = "555-9999") ∧
      (rows "Ann").map CallLogEntry.caller = ["Ann"] ∧
      (rows " ").map CallLogEntry.caller = ["555-9999"] := by
  intro now call host rows
  have htells (name : String) :=
    recorded_name_eq_shown_iff (e := ⟨call name, .ringing, .disconnected⟩) rfl host now
  have hrows (name : String) : rows name = [{ rowFor (call name) with id := 1 }] := by
    obtain ⟨hmemory, hinserted, -⟩ := htells name
    exact hinserted (hmemory ⟨[], rfl⟩) [] rfl
  have hmark : IsHidden "\u200E" := isHidden_iff.mpr (by decide +kernel)
  obtain ⟨-, -, n, hn, hmarked⟩ := htells "\u200E"
  obtain ⟨-, -, -, -, hhidden⟩ := hmarked 1
  obtain ⟨-, hcaller, htext⟩ := hhidden _ rfl hmark
  obtain ⟨-, -, _, -, hvisible⟩ := htells "Ann"
  obtain ⟨-, -, hshown, -, -⟩ := hvisible 1
  obtain ⟨-, hann, -⟩ := hshown "Ann" (by decide +kernel)
  obtain ⟨-, -, _, -, hblank⟩ := htells " "
  obtain ⟨-, -, -, hnone, -⟩ := hblank 1
  obtain ⟨hnumber, -⟩ := hnone (by decide +kernel)
  rw [hrows, hrows, hrows]
  refine ⟨congrArg ([·]) hcaller, ⟨n, hn, ?_⟩, congrArg ([·]) hann, congrArg ([·]) hnumber⟩
  rw [htext]
  decide +kernel

end Host

end CallNotice

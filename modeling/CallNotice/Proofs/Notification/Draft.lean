import CallNotice.Notifier
import Mathlib.Data.List.Induction

namespace CallNotice

inductive PartKind
  | smallIcon
  | moment
  | title
  | text
  | contentIntent
  | deleteIntent
  | autoCancel
  | button
  | largeIcon

namespace PartKind

abbrev Content : PartKind → Type
  | .smallIcon | .title | .text => String
  | .moment => Timestamp
  | .contentIntent | .deleteIntent => Intent
  | .autoCancel => Bool
  | .button => Button
  | .largeIcon => Bitmap

def part : (kind : PartKind) → kind.Content → DraftPart
  | .smallIcon => .smallIcon
  | .moment => .moment
  | .title => .title
  | .text => .text
  | .contentIntent => .contentIntent
  | .deleteIntent => .deleteIntent
  | .autoCancel => .autoCancel
  | .button => .button
  | .largeIcon => .largeIcon

def content? : (kind : PartKind) → DraftPart → Option kind.Content
  | .smallIcon, .smallIcon icon => some icon
  | .moment, .moment time => some time
  | .title, .title words => some words
  | .text, .text words => some words
  | .contentIntent, .contentIntent intent => some intent
  | .deleteIntent, .deleteIntent intent => some intent
  | .autoCancel, .autoCancel on => some on
  | .button, .button added => some added
  | .largeIcon, .largeIcon bitmap => some bitmap
  | _, _ => none

variable (kind : PartKind) (parts : List DraftPart)

def contents : List kind.Content := parts.filterMap kind.content?

def last? : Option kind.Content := (kind.contents parts).getLast?

theorem content?_eq_some_iff {part : DraftPart} {content : kind.Content} :
    kind.content? part = some content ↔ kind.part content = part := by
  cases kind <;> cases part <;> simp [content?, PartKind.part, eq_comm]

theorem mem_contents_iff {content : kind.Content} :
    content ∈ kind.contents parts ↔ kind.part content ∈ parts := by
  simp [contents, content?_eq_some_iff]

theorem last?_eq_none_iff : kind.last? parts = none ↔ ∀ content, kind.part content ∉ parts := by
  rw [last?, List.getLast?_eq_none_iff, List.eq_nil_iff_forall_not_mem]
  simp only [mem_contents_iff]

theorem last?_ne_none_iff : kind.last? parts ≠ none ↔ ∃ content, kind.part content ∈ parts := by
  rw [Ne, last?_eq_none_iff, not_forall_not]

theorem contents_concat (part : DraftPart) :
    kind.contents (parts ++ [part]) = kind.contents parts ++ (kind.content? part).toList := by
  rw [contents, List.filterMap_append, ← contents]
  cases h : kind.content? part with
  | none => simp [h]
  | some content => simp [h]

theorem last?_concat (part : DraftPart) :
    kind.last? (parts ++ [part]) = (kind.content? part).or (kind.last? parts) := by
  rw [last?, contents_concat, List.getLast?_append, ← last?]
  cases kind.content? part <;> rfl

end PartKind

namespace Draft

open PartKind

/-- The draft with the last part of each kind, each looked up on its own. -/
def ofLast (parts : List DraftPart) : Draft where
  smallIcon := last? .smallIcon parts
  moment := last? .moment parts
  title := last? .title parts
  text := last? .text parts
  contentIntent := last? .contentIntent parts
  deleteIntent := last? .deleteIntent parts
  autoCancel := (last? .autoCancel parts).getD false
  buttons := contents .button parts
  largeIcon := last? .largeIcon parts

theorem ofLast_concat (parts : List DraftPart) (part : DraftPart) :
    ofLast (parts ++ [part]) = (ofLast parts).set part := by
  cases part <;> simp [ofLast, last?_concat, contents_concat, content?, set]

-- The parts are set from the left, so that the induction takes them off at the end.
theorem ofParts_eq_ofLast (parts : List DraftPart) : ofParts parts = ofLast parts := by
  induction parts using List.reverseRecOn with
  | nil => rfl
  | append_singleton parts part ih =>
    rw [ofLast_concat, ← ih, ofParts, ofParts, List.foldl_append, List.foldl_cons, List.foldl_nil]

/-- The notification has the last of each kind of part, and a default where there is none. -/
structure IsBuiltFrom (parts : List DraftPart) (now : Timestamp) (n : Notification) : Prop where
  smallIcon : n.smallIcon = (last? .smallIcon parts).getD Notification.missedCallIcon
  moment : n.moment = (last? .moment parts).getD now
  title : last? .title parts = some n.title
  text : n.text = (last? .text parts).getD ""
  contentIntent : last? .contentIntent parts = some n.contentIntent
  deleteIntent : n.deleteIntent = last? .deleteIntent parts
  autoCancel : n.autoCancel = (last? .autoCancel parts).getD false
  buttons : n.buttons = contents .button parts
  largeIcon : n.largeIcon = last? .largeIcon parts
  showLights : n.showLights = false
  defaultLights : n.defaultLights = false

variable {parts : List DraftPart} {now : Timestamp} {n : Notification}

theorem build_eq_ok_iff : (ofParts parts).build now = .ok n ↔ IsBuiltFrom parts now n := by
  rw [ofParts_eq_ofLast, build]
  constructor
  · intro h
    split at h
    · cases h
    · cases h
    · rename_i title intent htitle hintent
      cases h
      exact ⟨rfl, rfl, htitle, rfl, hintent, rfl, rfl, rfl, rfl, rfl, rfl⟩
  · intro h
    have htitle : (ofLast parts).title = some n.title := h.title
    have hintent : (ofLast parts).contentIntent = some n.contentIntent := h.contentIntent
    rw [htitle, hintent]
    obtain ⟨hicon, hmoment, -, htext, -, hdelete, hcancel, hbuttons, hlarge, hshow, hdefault⟩ := h
    cases n
    subst_vars
    rfl

theorem build_eq_error_iff {fault : Fault} :
    (ofParts parts).build now = .error fault ↔
      fault = .titleRequired ∧ last? .title parts = none ∨
      fault = .contentIntentRequired ∧ last? .title parts ≠ none ∧
        last? .contentIntent parts = none := by
  rw [ofParts_eq_ofLast]
  cases htitle : last? .title parts <;> cases hintent : last? .contentIntent parts <;>
    simp [build, ofLast, htitle, hintent, eq_comm]

theorem exists_build_eq_ok_iff :
    (∃ n, (ofParts parts).build now = .ok n) ↔
      last? .title parts ≠ none ∧ last? .contentIntent parts ≠ none := by
  constructor
  · rintro ⟨n, hn⟩
    have hbuilt := build_eq_ok_iff.mp hn
    rw [hbuilt.title, hbuilt.contentIntent]
    exact ⟨Option.some_ne_none _, Option.some_ne_none _⟩
  · rintro ⟨htitle, hintent⟩
    cases h : (ofParts parts).build now with
    | ok n => exact ⟨n, rfl⟩
    | error fault =>
      rcases build_eq_error_iff.mp h with ⟨-, hnone⟩ | ⟨-, -, hnone⟩
      · exact absurd hnone htitle
      · exact absurd hnone hintent

theorem IsBuiltFrom.hasAction_iff (h : IsBuiltFrom parts now n) (action : IntentAction) :
    n.hasAction action = true ↔
      ∃ button, DraftPart.button button ∈ parts ∧ button.intent.action = action := by
  have hbutton (button : Button) : button ∈ n.buttons ↔ DraftPart.button button ∈ parts := by
    rw [h.buttons]
    exact mem_contents_iff .button parts
  simp only [Notification.hasAction, List.any_eq_true, hbutton, decide_eq_true_eq]

theorem IsBuiltFrom.of_moment (h : IsBuiltFrom parts now n) {time : Timestamp}
    (htime : DraftPart.moment time ∈ parts) (now' : Timestamp) : IsBuiltFrom parts now' n := by
  have hmoment : last? .moment parts ≠ none := (last?_ne_none_iff .moment parts).mpr ⟨time, htime⟩
  obtain ⟨last, hlast⟩ := Option.ne_none_iff_exists'.mp hmoment
  refine { h with moment := ?_ }
  rw [h.moment, hlast, Option.getD_some, Option.getD_some]

theorem ofParts_eq_of_contents {parts' : List DraftPart}
    (h : ∀ kind : PartKind, kind.contents parts' = kind.contents parts) :
    ofParts parts' = ofParts parts := by
  simp only [ofParts_eq_ofLast, ofLast, last?, h]

end Draft

theorem Notifier.exists_build_parts (p : Notifier) (call : Call) (missed : UInt32) :
    ∃ n, (∀ now, (Draft.ofParts (p.parts call missed)).build now = .ok n) ∧
      p.compose call missed = .ok n.withLights := by
  have htitle : DraftPart.title (p.title missed) ∈ p.parts call missed := by simp [parts]
  have hintent : DraftPart.contentIntent .viewCallLog ∈ p.parts call missed := by simp [parts]
  have hmoment : DraftPart.moment call.created ∈ p.parts call missed := by simp [parts]
  have hset := And.intro ((PartKind.last?_ne_none_iff .title _).mpr ⟨_, htitle⟩)
    ((PartKind.last?_ne_none_iff .contentIntent _).mpr ⟨_, hintent⟩)
  obtain ⟨n, hn⟩ := Draft.exists_build_eq_ok_iff.mpr hset
  refine ⟨n, ?_, by rw [compose, hn]; rfl⟩
  intro now
  have hbuilt := Draft.build_eq_ok_iff.mp hn
  exact Draft.build_eq_ok_iff.mpr (hbuilt.of_moment hmoment now)

namespace Draft

/-- What is built from any parts, from the same parts in an order that differs only between kinds,
and from the parts of a notice of missed calls. -/
theorem builds_last_parts (parts : List DraftPart) (now : Timestamp) :
    (∀ fault, (ofParts parts).build now = .error fault ↔
      fault = .titleRequired ∧ (∀ title, DraftPart.title title ∉ parts) ∨
      fault = .contentIntentRequired ∧ (∃ title, DraftPart.title title ∈ parts) ∧
        ∀ intent, DraftPart.contentIntent intent ∉ parts) ∧
    ((∃ n, (ofParts parts).build now = .ok n) ↔
      (∃ title, DraftPart.title title ∈ parts) ∧
        ∃ intent, DraftPart.contentIntent intent ∈ parts) ∧
    (∀ n, (ofParts parts).build now = .ok n ↔ IsBuiltFrom parts now n) ∧
    (∀ n, (ofParts parts).build now = .ok n → ∀ action, (n.hasAction action = true ↔
      ∃ button, DraftPart.button button ∈ parts ∧ button.intent.action = action)) ∧
    (∀ parts', (∀ kind : PartKind, kind.contents parts' = kind.contents parts) →
      (ofParts parts').build now = (ofParts parts).build now) ∧
    ∀ (p : Notifier) (call : Call) (missed : UInt32), ∃ n,
      (∀ time, (ofParts (p.parts call missed)).build time = .ok n) ∧
      p.compose call missed = .ok n.withLights := by
  have htitle := PartKind.last?_eq_none_iff .title parts
  have htitle' := PartKind.last?_ne_none_iff .title parts
  have hintent := PartKind.last?_eq_none_iff .contentIntent parts
  have hintent' := PartKind.last?_ne_none_iff .contentIntent parts
  refine ⟨fun fault => ?_, ?_, fun n => build_eq_ok_iff, fun n hn => ?_, fun parts' h => ?_, ?_⟩
  · rw [build_eq_error_iff, htitle', htitle, hintent]
    rfl
  · rw [exists_build_eq_ok_iff, htitle', hintent']
    rfl
  · exact (build_eq_ok_iff.mp hn).hasAction_iff
  · rw [ofParts_eq_of_contents h]
  · intro p call missed
    exact p.exists_build_parts call missed

theorem builds_last_parts_of_two_titles :
    let now : Timestamp := ⟨⟨2024, 1, 2, by decide⟩, 3, 4, 5, 0, by decide⟩
    let callBack : Button := ⟨"", "Call back", .callBack ⟨some "tel", "555-1234"⟩⟩
    let message : Button := ⟨"", "Message", .sendMessage ⟨some "tel", "555-1234"⟩⟩
    let parts : List DraftPart := [.title "Missed call", .button callBack, .autoCancel true,
      .title "Missed calls", .contentIntent .viewCallLog, .button message]
    let parts' : List DraftPart := [.button callBack, .contentIntent .viewCallLog,
      .title "Missed call", .button message, .title "Missed calls", .autoCancel true]
    (∀ kind : PartKind, kind.contents parts' = kind.contents parts) ∧
      ∃ n, (ofParts parts).build now = .ok n ∧ (ofParts parts').build now = .ok n ∧
        n.title = "Missed calls" ∧ n.buttons = [callBack, message] ∧
        n.hasAction .callBack = true ∧ n.hasAction .clearMissedCalls = false := by
  intro now callBack message parts parts'
  obtain ⟨-, hbuilds, hlast, haction, hreordered, -⟩ := builds_last_parts parts now
  have hsame : ∀ kind : PartKind, kind.contents parts' = kind.contents parts := by
    intro kind
    cases kind <;> rfl
  obtain ⟨n, hn⟩ := hbuilds.mpr ⟨⟨"Missed calls", by simp [parts]⟩, .viewCallLog, by simp [parts]⟩
  have hbuilt := (hlast n).mp hn
  refine ⟨hsame, n, hn, (hreordered parts' hsame).trans hn, ?_, hbuilt.buttons, ?_, ?_⟩
  · exact (Option.some.inj hbuilt.title).symm
  · exact (haction n hn .callBack).mpr ⟨callBack, by simp [parts], rfl⟩
  · rw [Bool.eq_false_iff, Ne, haction n hn]
    rintro ⟨button, hbutton, hclears⟩
    have hadded : button = callBack ∨ button = message := by simpa [parts] using hbutton
    rcases hadded with h | h <;> rw [h] at hclears <;> cases hclears

end Draft

end CallNotice

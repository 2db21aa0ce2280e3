import CallNotice.Proofs.Host.Notice
import CallNotice.Proofs.Json.Numerals
import CallNotice.Proofs.Text.Template

namespace CallNotice

namespace Phrases

open Text

variable {template : List Char}

theorem placeholder_ne_nil : placeholder ≠ [] := by decide

theorem countChars_ne_nil (n : Nat) : countChars n ≠ [] := Nat.toDigits_ne_nil

theorem not_mem_placeholder_of_mem_countChars {n : Nat} :
    ∀ c ∈ countChars n, c ∉ placeholder := by
  have hmark : placeholder.any Json.Lexer.isDigit = false := by decide
  intro c hc hd
  exact List.any_eq_false.mp hmark c hd (Json.Lexer.isDigit_of_mem_toDigits hc)

theorem countChars_injective : Function.Injective countChars := by
  intro m n h
  calc
    m = Nat.ofDigitChars 10 (countChars m) 0 := Nat.ofDigitChars_ten_toDigits.symm
    _ = Nat.ofDigitChars 10 (countChars n) 0 := by rw [h]
    _ = n := Nat.ofDigitChars_ten_toDigits

theorem messageChars_of_placeholder {pieces : List (List Char)}
    (hpieces : IsPieces placeholder template pieces) (h : placeholder <:+: template) (n : Nat) :
    messageChars template n = (countChars n).intercalate pieces := by
  obtain ⟨first, second, others, rfl⟩ := hpieces.exists_two h
  rw [messageChars, hpieces.pieces_eq placeholder_ne_nil]

theorem messageChars_of_no_placeholder (h : ¬placeholder <:+: template) (n : Nat) :
    messageChars template n = countChars n ++ ' ' :: template := by
  rw [messageChars, (IsPieces.last h).pieces_eq placeholder_ne_nil]

theorem countChars_infix_messageChars (template : List Char) (n : Nat) :
    countChars n <:+: messageChars template n := by
  have hpieces := isPieces_pieces placeholder_ne_nil template
  by_cases h : placeholder <:+: template
  · obtain ⟨first, second, others, htwo⟩ := hpieces.exists_two h
    rw [messageChars_of_placeholder hpieces h, htwo, List.intercalate_cons_cons]
    exact List.infix_append first (countChars n) _
  · rw [messageChars_of_no_placeholder h]
    exact (List.prefix_append (countChars n) _).isInfix

theorem not_infix_messageChars (template : List Char) (n : Nat) :
    ¬placeholder <:+: messageChars template n := by
  have hpieces := isPieces_pieces placeholder_ne_nil template
  by_cases h : placeholder <:+: template
  · rw [messageChars_of_placeholder hpieces h]
    exact not_infix_intercalate placeholder_ne_nil (countChars_ne_nil n)
      not_mem_placeholder_of_mem_countChars hpieces.not_infix_of_mem
  · rw [messageChars_of_no_placeholder h]
    intro hwithin
    have hspace : ' ' ∉ placeholder := by decide
    rcases infix_or_infix_of_not_mem hspace hwithin with hcount | htemplate
    · have hcount' : placeholder <:+: [] ++ countChars n ++ [] := by simpa using hcount
      have hnone := infix_or_infix_of_disjoint (countChars_ne_nil n)
        not_mem_placeholder_of_mem_countChars hcount'
      rw [or_self, List.infix_nil] at hnone
      exact placeholder_ne_nil hnone
    · exact h htemplate

theorem messageChars_injective (template : List Char) :
    Function.Injective (messageChars template) := by
  have hpieces := isPieces_pieces placeholder_ne_nil template
  intro m n hmessage
  apply countChars_injective
  by_cases h : placeholder <:+: template
  · obtain ⟨first, second, others, htwo⟩ := hpieces.exists_two h
    rw [messageChars_of_placeholder hpieces h, messageChars_of_placeholder hpieces h, htwo]
      at hmessage
    exact intercalate_inj hmessage
  · rw [messageChars_of_no_placeholder h, messageChars_of_no_placeholder h] at hmessage
    exact List.append_cancel_right hmessage

variable (p : Phrases)

theorem toList_countMessage (n : UInt32) :
    (p.countMessage n).toList = messageChars p.missedCallsMessage.toList n.toNat :=
  String.toList_ofList

theorem countMessage_injective : Function.Injective p.countMessage := by
  intro m n h
  have hchars := congrArg String.toList h
  rw [toList_countMessage, toList_countMessage] at hchars
  exact UInt32.toNat_inj.mp (messageChars_injective _ hchars)

end Phrases

namespace Notifier

open Phrases Text

theorem text_notice {missed : UInt32} (h : missed ≠ 1) (p : Notifier) (call : Call) :
    (p.notice call missed).text = p.phrases.countMessage missed := by
  rw [notice, if_neg h]
  rfl

theorem buttons_notice_eq_nil_iff (p : Notifier) (call : Call) (missed : UInt32) :
    (p.notice call missed).buttons = [] ↔ missed ≠ 1 := by
  rw [notice]
  by_cases h : missed = 1
  · rw [if_pos h]
    exact ⟨fun hnil => absurd hnil (List.cons_ne_nil _ _), fun hne => absurd h hne⟩
  · rw [if_neg h]
    exact ⟨fun _ => h, fun _ => rfl⟩

theorem notice_ne {m n : UInt32} (h : m ≠ n) (p : Notifier) (call call' : Call) :
    p.notice call m ≠ p.notice call' n := by
  intro heq
  have hbuttons : m ≠ 1 ↔ n ≠ 1 := by
    rw [← p.buttons_notice_eq_nil_iff call, heq, p.buttons_notice_eq_nil_iff call']
  by_cases hm : m = 1
  · have hn : n = 1 := not_not.mp fun hn => hbuttons.mpr hn hm
    exact h (hm.trans hn.symm)
  · have htext := congrArg Notification.text heq
    rw [text_notice hm, text_notice (hbuttons.mp hm)] at htext
    exact h (p.phrases.countMessage_injective htext)

/-- The message has the digits of the count and no placeholder. The pieces of the template are
joined by the count, and a template of one piece has the count in front. Other counts give other
messages, so that the notification changes with each further call. -/
theorem message_shows_count (p : Notifier) :
    let template := p.phrases.missedCallsMessage.toList
    let message (n : UInt32) := (p.phrases.countMessage n).toList
    (∀ n, Nat.toDigits 10 n.toNat <:+: message n ∧ ¬placeholder <:+: message n) ∧
    (placeholder <:+: template → ∃ pieces,
      (∀ pieces', IsPieces placeholder template pieces' ↔ pieces' = pieces) ∧
        ∀ n, message n = (Nat.toDigits 10 n.toNat).intercalate pieces) ∧
    (¬placeholder <:+: template → ∀ n, message n = Nat.toDigits 10 n.toNat ++ ' ' :: template) ∧
    Function.Injective p.phrases.countMessage ∧
    ∀ call call' m n, m ≠ n → ∃ notice notice',
      p.compose call m = .ok notice ∧ p.compose call' n = .ok notice' ∧ notice ≠ notice' ∧
        (m ≠ 1 → notice.text = p.phrases.countMessage m) ∧
        (m ≠ 1 → n ≠ 1 → notice.text ≠ notice'.text) := by
  intro template message
  have hmessage (n : UInt32) : message n = messageChars template n.toNat :=
    p.phrases.toList_countMessage n
  refine ⟨fun n => ?_, fun h => ?_, fun h n => ?_, p.phrases.countMessage_injective, ?_⟩
  · rw [hmessage]
    exact ⟨countChars_infix_messageChars template n.toNat, not_infix_messageChars template n.toNat⟩
  · refine ⟨pieces placeholder template, fun pieces' => isPieces_iff placeholder_ne_nil, fun n => ?_⟩
    rw [hmessage]
    exact messageChars_of_placeholder (isPieces_pieces placeholder_ne_nil template) h n.toNat
  · rw [hmessage]
    exact messageChars_of_no_placeholder h n.toNat
  · intro call call' m n hne
    refine ⟨_, _, p.compose_eq call m, p.compose_eq call' n, notice_ne hne p call call',
      fun hm => text_notice hm p call, fun hm hn => ?_⟩
    rw [text_notice hm, text_notice hn]
    exact p.phrases.countMessage_injective.ne hne

theorem message_shows_count_of_nested :
    let call : Call := ⟨⟨some "tel", "555"⟩, none, ⟨⟨2024, 1, 2, by decide⟩, 3, 4, 5, 0, by decide⟩,
      .incomingMissed, none, none⟩
    let p : Notifier := ⟨{ Phrases.english with
      missedCallsMessage := "1\x7bcou\x7bcount\x7dnt\x7d\x7bcount" }, false, false, 0⟩
    p.phrases.countMessage 12 = "1\x7bcou12nt\x7d\x7bcount" ∧
      ¬placeholder <:+: (p.phrases.countMessage 12).toList ∧
      ∃ notice notice', p.compose call 2 = .ok notice ∧ p.compose call 12 = .ok notice' ∧
        notice.text ≠ notice'.text := by
  intro call p
  obtain ⟨hshown, hpieces, -, -, hother⟩ := message_shows_count p
  have hmark : placeholder <:+: p.phrases.missedCallsMessage.toList := by decide
  obtain ⟨pieces, hunique, hfilled⟩ := hpieces hmark
  have htwo : ["1\x7bcou".toList, "nt\x7d\x7bcount".toList] = pieces := by
    rw [← hunique]
    exact (isPieces_iff placeholder_ne_nil).mpr (by decide)
  obtain ⟨notice, notice', hcompose, hcompose', -, -, hchanged⟩ := hother call call 2 12 (by decide)
  have htext : notice.text ≠ notice'.text := hchanged (by decide) (by decide)
  refine ⟨?_, (hshown 12).2, notice, notice', hcompose, hcompose', htext⟩
  have hjoined : (Nat.toDigits 10 12).intercalate pieces = "1\x7bcou12nt\x7d\x7bcount".toList := by
    rw [← htwo]
    decide
  exact String.toList_inj.mp ((hfilled 12).trans hjoined)

end Notifier

end CallNotice

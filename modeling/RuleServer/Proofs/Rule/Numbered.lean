import Mathlib
import RuleServer.Proofs.Rule.Report

/-!
Results that begin with their line number. A text is such a result exactly when its first colon
stands after the word `line` and a number of 32 bits, and something other than blanks comes after
it; whatever colons the message has are its own.
-/

namespace RuleServer

namespace Report

/-- A result `line N: message`, with any blanks around its words and its message. -/
structure IsResult (result : List Char) (n : Nat) (message : List Char) : Prop where
  text : ∃ head number tail, result = head ++ ':' :: tail ∧ ':' ∉ head ∧
    Spaced ["line".toList, number] head ∧ IsNumeral number n ∧
    ∃ before after, tail = before ++ message ++ after ∧
      (∀ c ∈ before, isBlank c) ∧ ∀ c ∈ after, isBlank c
  line_le : n ≤ maxUnsigned 32
  trimmed : IsTrimmed message
  message_ne_nil : message ≠ []

theorem cutWhere?_colon_iff {result head tail : List Char} :
    cutWhere? (· = ':') result = some (head, tail) ↔
      result = head ++ ':' :: tail ∧ ':' ∉ head := by
  rw [cutWhere?_eq_some_iff]
  constructor
  · rintro ⟨a, rfl, ha, hhead⟩
    obtain rfl : a = ':' := of_decide_eq_true ha
    exact ⟨rfl, fun hmem => by simpa using hhead ':' hmem⟩
  · rintro ⟨rfl, hhead⟩
    exact ⟨':', rfl, decide_eq_true rfl, fun c hc => decide_eq_false fun h => hhead (h ▸ hc)⟩

theorem parse_eq_ok_iff_isResult {result message : List Char} {n : Nat} :
    parse result = .ok (n, message) ↔ IsResult result n message := by
  rw [parse_eq_ok_iff]
  simp only [cutWhere?_colon_iff, words_eq_iff, readNumeral_eq_ok_iff, trim_eq_iff]
  constructor
  · rintro ⟨head, tail, number, ⟨hresult, hcolon⟩, hhead, ⟨hnumber, hle⟩, ⟨htrimmed, htail⟩, hne⟩
    exact ⟨⟨head, number, tail, hresult, hcolon, hhead, hnumber, htail⟩, hle, htrimmed, hne⟩
  · rintro ⟨⟨head, number, tail, hresult, hcolon, hhead, hnumber, htail⟩, hle, htrimmed, hne⟩
    exact ⟨head, tail, number, ⟨hresult, hcolon⟩, hhead, ⟨hnumber, hle⟩, ⟨htrimmed, htail⟩, hne⟩

theorem spaced_decimal (n : Nat) :
    Spaced ["line".toList, decimal n] ("line ".toList ++ decimal n) := by
  have hdigits : ∀ c ∈ decimal n, isBlank c = false := fun c hc =>
    isBlank_of_visible (decimal_visible n c hc)
  have hnumber : Spaced [decimal n] (decimal n ++ []) :=
    .word (decimal_ne_nil n) hdigits (by simp) .nil
  have hspace : isBlank ' ' := by decide
  have hletters : ∀ c ∈ ['l', 'i', 'n', 'e'], 33 ≤ c.toNat ∧ c.toNat < 0x80 := by simp
  have hline : "line ".toList = "line".toList ++ [' '] := rfl
  rw [List.append_nil] at hnumber
  rw [hline, List.append_assoc]
  exact .word (by decide) (fun c hc => isBlank_of_visible (hletters c hc)) (by simpa using hspace)
    (.blank hspace hnumber)

theorem isResult_written {n : Nat} {message : List Char} (hn : n ≤ maxUnsigned 32)
    (hne : message ≠ []) (htrimmed : IsTrimmed message) :
    IsResult ("line ".toList ++ decimal n ++ ": ".toList ++ message) n message where
  text := by
    have hcolon : ':' ∉ "line ".toList ++ decimal n := by
      rw [List.mem_append, not_or]
      exact ⟨by decide, fun hmem => absurd (isDigit_of_mem_decimal hmem) (by decide)⟩
    have hspace : ∀ c ∈ [' '], isBlank c := List.forall_mem_singleton.mpr (by decide)
    have hseparator : ": ".toList = [':', ' '] := rfl
    refine ⟨"line ".toList ++ decimal n, decimal n, ' ' :: message, ?_, hcolon,
      spaced_decimal n, isNumeral_decimal n, [' '], [], by simp, hspace, by simp⟩
    rw [hseparator, List.append_assoc]
    rfl
  line_le := hn
  trimmed := htrimmed
  message_ne_nil := hne

/-- Exactly the results are read, as their number and their message, and every other text is
refused. A number and a message that are written down in this form are read back. -/
theorem numbered_result_read :
    (∀ result n message, parse result = .ok (n, message) ↔ IsResult result n message) ∧
    (∀ result, (∀ n message, ¬ IsResult result n message) ↔
      ∃ fault, parse result = .error fault) ∧
    ∀ n ≤ maxUnsigned 32, ∀ message ≠ [], IsTrimmed message →
      parse ("line ".toList ++ decimal n ++ ": ".toList ++ message) = .ok (n, message) := by
  refine ⟨fun result n message => parse_eq_ok_iff_isResult, fun result => ?_,
    fun n hn message hne htrimmed => ?_⟩
  · simp only [← parse_eq_ok_iff_isResult]
    cases hparse : parse result with
    | error fault => simp
    | ok r =>
      obtain ⟨n, message⟩ := r
      simp
  · exact parse_eq_ok_iff_isResult.mpr (isResult_written hn hne htrimmed)

end Report

end RuleServer

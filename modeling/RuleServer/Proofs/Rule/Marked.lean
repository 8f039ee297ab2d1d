import Mathlib
import RuleServer.Proofs.Rule.Report

/-!
Results in the compiler's own style. A line with a file, a line number in parentheses and a marked
message reads back as the number, the severity and the message, whatever an error's message holds.
Error markers are looked for first and anywhere in a line, so a warning that quotes an error result
is read as that error.
-/

namespace RuleServer

namespace Report

/-- A line in the compiler's own style: the name of a file, the number of a line in it, and a
message behind its marker, which closes the parentheses. -/
def markedLine (file : List Char) (n : Nat) (marker message : List Char) : List Char :=
  file ++ '(' :: decimal n ++ marker ++ message

theorem afterLastParen?_append (as bs : List Char) :
    afterLastParen? (as ++ bs) = (afterLastParen? bs).or ((afterLastParen? as).map (· ++ bs)) := by
  rw [afterLastParen?, List.reverse_append, cutWhere?_append, afterLastParen?, afterLastParen?]
  cases cutWhere? (· = '(') bs.reverse <;> cases cutWhere? (· = '(') as.reverse <;> simp

theorem afterLastParen?_eq_some_iff {cs number : List Char} :
    afterLastParen? cs = some number ↔ (∃ before, cs = before ++ '(' :: number) ∧ '(' ∉ number := by
  simp only [afterLastParen?, Option.map_eq_some_iff, Prod.exists, cutWhere?_eq_some_iff]
  constructor
  · rintro ⟨tail, before, ⟨a, hcs, ha, htail⟩, rfl⟩
    obtain rfl : a = '(' := of_decide_eq_true ha
    refine ⟨⟨before.reverse, ?_⟩, fun hmem => ?_⟩
    · rw [← List.reverse_reverse cs, hcs]
      simp
    · exact absurd (htail '(' (List.mem_reverse.mp hmem)) (by simp)
  · rintro ⟨⟨before, rfl⟩, hnumber⟩
    refine ⟨number.reverse, before.reverse, ⟨'(', by simp, by simp, fun c hc => ?_⟩, by simp⟩
    exact decide_eq_false fun h => hnumber (h ▸ List.mem_reverse.mp hc)

theorem paren_notMem {cs : List Char} {n : Nat} (h : IsNumeral cs n) : '(' ∉ cs ∧ ')' ∉ cs :=
  ⟨fun hmem => absurd (h.digit_or_plus hmem) (by decide),
    fun hmem => absurd (h.digit_or_plus hmem) (by decide)⟩

theorem errorMarker_eq : errorMarker = ')' :: ": error: ".toList := rfl

theorem marker_absent {marker file : List Char} (n : Nat) (hopen : '(' ∉ marker)
    (hclose : ')' ∈ marker) (hfile : ¬ marker <:+: file) :
    ¬ marker <:+: file ++ '(' :: decimal n := by
  rw [infix_append_cons_iff hopen]
  rintro (h | h)
  · exact hfile h
  · exact (paren_notMem (isNumeral_decimal n)).2 (h.subset hclose)

theorem parseMarked?_markedLine {tail file message : List Char} {n : Nat} (severity : Severity)
    (htail : '(' ∉ tail ∧ ')' ∉ tail) (hfile : ¬ ')' :: tail <:+: file)
    (hn : n ≤ maxUnsigned 32) (hne : message ≠ []) (htrimmed : IsTrimmed message) :
    parseMarked? severity (')' :: tail) (markedLine file n (')' :: tail) message) =
      some ⟨n, severity, message⟩ := by
  refine parseMarked?_eq_some_iff.mpr ⟨file ++ '(' :: decimal n, message, decimal n, ?_, ?_, ?_,
    rfl, trim_of_isTrimmed htrimmed, hne⟩
  · exact (cutAt?_eq_some_iff htail.2).mpr
      ⟨rfl, marker_absent n (by simp [htail.1]) List.mem_cons_self hfile⟩
  · exact afterLastParen?_eq_some_iff.mpr ⟨⟨file, rfl⟩, (paren_notMem (isNumeral_decimal n)).1⟩
  · exact readNumeral_eq_ok_iff.mpr ⟨isNumeral_decimal n, hn⟩

theorem errorMarker_of_warning {file text : List Char} {n : Nat} (hfile : ¬ errorMarker <:+: file)
    (h : errorMarker <:+: markedLine file n warningMarker text) : errorMarker <:+: text := by
  have hopen : '(' ∉ errorMarker := by decide
  have hletter : 'w' ∉ errorMarker := by decide
  have hmarker : warningMarker = "): ".toList ++ 'w' :: "arning: ".toList := rfl
  have hline : markedLine file n warningMarker text =
      file ++ '(' :: ((decimal n ++ "): ".toList) ++ 'w' :: ("arning: ".toList ++ text)) := by
    rw [markedLine, hmarker]
    simp only [List.append_assoc, List.cons_append]
  rw [hline, infix_append_cons_iff hopen, infix_append_cons_iff hletter] at h
  rcases h with hinside | hnumber | htext
  · exact absurd hinside hfile
  · -- the number and the start of the marker have no letter
    have he : 'e' ∈ decimal n ++ "): ".toList := hnumber.subset (by decide)
    rcases List.mem_append.mp he with hdigit | hmark
    · exact absurd (isDigit_of_mem_decimal hdigit) (by decide)
    · exact absurd hmark (by decide)
  · exact infix_of_infix_append (by decide) htext

theorem readNumeral_marked (n : Nat) (before : List Char) :
    (readNumeral (maxUnsigned 32) (decimal n ++ (warningMarker ++ before))).toOption = none := by
  rw [Option.eq_none_iff_forall_ne_some]
  intro k hk
  obtain ⟨hnumeral, -⟩ := readNumeral_eq_ok_iff.mp (toOption_eq_some_iff.mp hk)
  have hclose : ')' ∈ warningMarker := by decide
  exact (paren_notMem hnumeral).2 (by simp [hclose])

theorem afterLastParen?_warning (file : List Char) (n : Nat) (before : List Char) :
    afterLastParen? (markedLine file n warningMarker before) =
      (afterLastParen? before).or (some (decimal n ++ (warningMarker ++ before))) := by
  have hopen : '(' ∉ decimal n ++ warningMarker := by
    rw [List.mem_append, not_or]
    exact ⟨(paren_notMem (isNumeral_decimal n)).1, by decide⟩
  have hnumber : afterLastParen? (file ++ '(' :: (decimal n ++ warningMarker)) =
      some (decimal n ++ warningMarker) := afterLastParen?_eq_some_iff.mpr ⟨⟨file, rfl⟩, hopen⟩
  rw [markedLine, List.append_assoc file, List.cons_append, afterLastParen?_append, hnumber,
    Option.map_some, List.append_assoc]

theorem parseMarked?_warning {file message : List Char} {n : Nat}
    (hfile : ¬ errorMarker <:+: file) :
    parseMarked? .error errorMarker (markedLine file n warningMarker message) =
      parseMarked? .error errorMarker message := by
  have hmarker : errorMarker ≠ [] := by decide
  cases hcut : cutAt? errorMarker message with
  | none =>
    have hmessage := (cutAt?_eq_none_iff hmarker).mp hcut
    have hline : cutAt? errorMarker (markedLine file n warningMarker message) = none :=
      (cutAt?_eq_none_iff hmarker).mpr fun h => hmessage (errorMarker_of_warning hfile h)
    simp [parseMarked?, hcut, hline]
  | some cut =>
    obtain ⟨before, after⟩ := cut
    obtain ⟨hmessage, hbefore⟩ := eq_of_cutAt? hmarker hcut
    have hline : cutAt? errorMarker (markedLine file n warningMarker message) =
        some (markedLine file n warningMarker before, after) := by
      rw [errorMarker_eq, cutAt?_eq_some_iff (by decide)]
      refine ⟨?_, fun h => hbefore (errorMarker_of_warning hfile h)⟩
      rw [hmessage, errorMarker_eq]
      simp [markedLine]
    cases hlast : afterLastParen? before with
    | some number => simp [parseMarked?, hcut, hline, afterLastParen?_warning, hlast]
    | none =>
      -- the last parenthesis is the line's own, and its number has the marker behind it
      have hnumeral := readNumeral_marked n before
      simp [parseMarked?, hcut, hline, afterLastParen?_warning, hlast, hnumeral]

/-- A message that quotes an error: before its first error marker it has a line number behind an
opening parenthesis, and after it something to say. -/
structure QuotesError (message : List Char) (r : Result) : Prop where
  severity : r.severity = .error
  line_le : r.line ≤ maxUnsigned 32
  text : ∃ before number after, message = before ++ '(' :: number ++ errorMarker ++ after ∧
    ¬ errorMarker <:+: before ++ '(' :: number ∧ IsNumeral number r.line ∧ trim after = r.message
  message_ne_nil : r.message ≠ []

theorem parseMarked?_eq_some_iff_quotesError {message : List Char} {r : Result} :
    parseMarked? .error errorMarker message = some r ↔ QuotesError message r := by
  have htail : ')' ∉ ": error: ".toList := by decide
  rw [parseMarked?_eq_some_iff]
  constructor
  · rintro ⟨head, after, number, hcut, hparen, hnumber, hseverity, hmessage, hne⟩
    obtain ⟨rfl, habsent⟩ := (cutAt?_eq_some_iff htail).mp hcut
    obtain ⟨⟨before, rfl⟩, -⟩ := afterLastParen?_eq_some_iff.mp hparen
    obtain ⟨hnumeral, hle⟩ := readNumeral_eq_ok_iff.mp hnumber
    exact ⟨hseverity.symm, hle, ⟨before, number, after, rfl, habsent, hnumeral, hmessage⟩, hne⟩
  · rintro ⟨hseverity, hle, ⟨before, number, after, rfl, habsent, hnumeral, hmessage⟩, hne⟩
    refine ⟨before ++ '(' :: number, after, number, ?_, ?_, ?_, hseverity.symm, hmessage, hne⟩
    · exact (cutAt?_eq_some_iff htail).mpr ⟨rfl, habsent⟩
    · exact afterLastParen?_eq_some_iff.mpr ⟨⟨before, rfl⟩, (paren_notMem hnumeral).1⟩
    · exact readNumeral_eq_ok_iff.mpr ⟨hnumeral, hle⟩

theorem parseLine?_of_not_parse {line : List Char} (h : ∀ r, parse line ≠ .ok r) :
    parseLine? line =
      (parseMarked? .error errorMarker line).or (parseMarked? .warning warningMarker line) := by
  unfold parseLine?
  split
  · rename_i hparse
    exact absurd hparse (h _)
  · rfl

/-- A line in the compiler's own style, unless it is also one of the form `line N: message`, reads
back as its number, its severity and its message. That holds of all errors, and of those warnings
whose message quotes no error; any other warning is read as the error that it quotes. -/
theorem marked_line_read (file : List Char) (n : Nat) (message : List Char)
    (herror : ¬ errorMarker <:+: file) (hwarning : ¬ warningMarker <:+: file)
    (hn : n ≤ maxUnsigned 32) (hne : message ≠ []) (htrimmed : IsTrimmed message) :
    ((∀ r, parse (markedLine file n errorMarker message) ≠ .ok r) →
      parseLine? (markedLine file n errorMarker message) = some ⟨n, .error, message⟩) ∧
    ((∀ r, parse (markedLine file n warningMarker message) ≠ .ok r) →
      ((∀ r, ¬ QuotesError message r) →
        parseLine? (markedLine file n warningMarker message) = some ⟨n, .warning, message⟩) ∧
      ∀ r, QuotesError message r →
        parseLine? (markedLine file n warningMarker message) = some r) := by
  refine ⟨fun hparse => ?_, fun hparse => ?_⟩
  · have hread : parseMarked? .error errorMarker (markedLine file n errorMarker message) =
        some ⟨n, .error, message⟩ :=
      parseMarked?_markedLine .error (by decide) herror hn hne htrimmed
    rw [parseLine?_of_not_parse hparse, hread, Option.some_or]
  · have hread : parseMarked? .warning warningMarker (markedLine file n warningMarker message) =
        some ⟨n, .warning, message⟩ :=
      parseMarked?_markedLine .warning (by decide) hwarning hn hne htrimmed
    rw [parseLine?_of_not_parse hparse, hread, parseMarked?_warning herror]
    refine ⟨fun hquotes => ?_, fun r hquotes => ?_⟩
    · have hnone : parseMarked? .error errorMarker message = none :=
        Option.eq_none_iff_forall_ne_some.mpr fun r h =>
          hquotes r (parseMarked?_eq_some_iff_quotesError.mp h)
      rw [hnone, Option.none_or]
    · rw [parseMarked?_eq_some_iff_quotesError.mpr hquotes, Option.some_or]

/-- Parentheses in the name of the file and text like a marker in the message do no harm. -/
theorem marked_line_read_old :
    let file := "rules (old)/a.yar".toList
    let message := "see (4): warning: x".toList
    parseLine? (markedLine file 3 errorMarker message) = some ⟨3, .error, message⟩ ∧
      parseLine? (markedLine file 3 warningMarker message) = some ⟨3, .warning, message⟩ := by
  intro file message
  have htrimmed : IsTrimmed message := isTrimmed_trim message
  have hread := marked_line_read file 3 message (by decide) (by decide) (by decide) (by decide)
    htrimmed
  have hquotes : ∀ r, ¬ QuotesError message r := by
    rintro r ⟨-, -, ⟨before, number, after, hmessage, -⟩, -⟩
    have habsent : ¬ errorMarker <:+: message := by decide
    exact habsent ⟨before ++ '(' :: number, after, hmessage.symm⟩
  have herror : parse (markedLine file 3 errorMarker message) =
      .error (.expectedLine (String.ofList (markedLine file 3 errorMarker message))) := rfl
  have hwarning : parse (markedLine file 3 warningMarker message) =
      .error (.expectedLine (String.ofList (markedLine file 3 warningMarker message))) := rfl
  exact ⟨hread.1 (by simp [herror]), (hread.2 (by simp [hwarning])).1 hquotes⟩

/-- A warning about line 3 that quotes an error about line 4 is read as the error. -/
theorem warning_read_as_error :
    let file := "a.yar".toList
    let message := "see b.yar(4): error: x".toList
    (Unbroken file ∧ ¬ errorMarker <:+: file ∧ ¬ warningMarker <:+: file) ∧
      (message ≠ [] ∧ Unbroken message ∧ IsTrimmed message) ∧
      (∀ r, parse (markedLine file 3 warningMarker message) ≠ .ok r) ∧
      parseLine? (markedLine file 3 warningMarker message) = some ⟨4, .error, "x".toList⟩ ∧
      parseLine? (markedLine file 3 warningMarker message) ≠ some ⟨3, .warning, message⟩ := by
  intro file message
  have hparse : parse (markedLine file 3 warningMarker message) =
      .error (.expectedLine (String.ofList (markedLine file 3 warningMarker message))) := rfl
  have hread : parseLine? (markedLine file 3 warningMarker message) =
      some ⟨4, .error, "x".toList⟩ := rfl
  refine ⟨⟨?_, by decide, by decide⟩, ⟨by decide, ?_, isTrimmed_trim message⟩, by simp [hparse],
    hread, ?_⟩
  · exact ⟨by decide, by decide⟩
  · exact ⟨by decide, by decide⟩
  · rw [hread]
    decide

end Report

end RuleServer

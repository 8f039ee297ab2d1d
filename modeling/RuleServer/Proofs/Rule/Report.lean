import Mathlib
import RuleServer.Proofs.Decode.Record
import RuleServer.Proofs.Rule.Block
import RuleServer.Proofs.Text.Blank
import RuleServer.Proofs.Text.Numeral
import RuleServer.Rule.Report

/-!
From a compiler's output to diagnostics. Every line that is a result gives one diagnostic, in the
order of the lines; it covers the reported line, and nothing is lost where messages are trimmed or
line numbers come to an end.
-/

namespace RuleServer

def Position.Le (p q : Position) : Prop :=
  p.line < q.line ∨ p.line = q.line ∧ p.character ≤ q.character

def Range.Within (inner outer : Range) : Prop :=
  outer.start.Le inner.start ∧ inner.stop.Le outer.stop

namespace Report

theorem parse_eq_ok_iff {result message : List Char} {n : Nat} :
    parse result = .ok (n, message) ↔
      ∃ head tail number, cutWhere? (· = ':') result = some (head, tail) ∧
        words head = ["line".toList, number] ∧ readNumeral (maxUnsigned 32) number = .ok n ∧
        trim tail = message ∧ message ≠ [] := by
  unfold parse
  constructor
  · intro h
    split at h
    · cases h
    · rename_i head tail hcut
      split at h
      · rename_i word number hwords
        split_ifs at h with hword
        subst hword
        split at h
        · cases h
        · rename_i hnumber
          dsimp only at h
          split_ifs at h with hmessage
          cases h
          exact ⟨head, tail, number, hcut, hwords, hnumber, rfl, hmessage⟩
      · cases h
  · rintro ⟨head, tail, number, hcut, hwords, hnumber, rfl, hmessage⟩
    rw [hcut]
    dsimp only
    rw [hwords]
    dsimp only
    rw [if_pos rfl, hnumber]
    dsimp only
    rw [if_neg hmessage]

/-- A line in the compiler's own style is cut at the first marker, and before it at the last opening
parenthesis. -/
theorem parseMarked?_eq_some_iff {severity : Severity} {marker line : List Char} {r : Result} :
    parseMarked? severity marker line = some r ↔
      ∃ head tail number, cutAt? marker line = some (head, tail) ∧
        afterLastParen? head = some number ∧ readNumeral (maxUnsigned 32) number = .ok r.line ∧
        severity = r.severity ∧ trim tail = r.message ∧ r.message ≠ [] := by
  simp only [parseMarked?, Option.bind_eq_bind, Option.bind_eq_some_iff, toOption_eq_some_iff,
    Option.ite_none_left_eq_some]
  constructor
  · rintro ⟨⟨head, tail⟩, hcut, number, hparen, n, hnumber, hmessage, h⟩
    cases h
    exact ⟨head, tail, number, hcut, hparen, hnumber, rfl, rfl, hmessage⟩
  · rintro ⟨head, tail, number, hcut, hparen, hnumber, rfl, hmessage, hne⟩
    rw [← hmessage] at hne
    refine ⟨(head, tail), hcut, number, hparen, r.line, hnumber, hne, ?_⟩
    dsimp only
    rw [hmessage]
    rfl

/-- What all results have in common: a line number of 32 bits, and something to say. -/
structure Result.Sound (r : Result) : Prop where
  line_le : r.line ≤ maxUnsigned 32
  trimmed : IsTrimmed r.message
  message_ne_nil : r.message ≠ []

theorem sound_of_parse {line message : List Char} {n : Nat} (h : parse line = .ok (n, message)) :
    Result.Sound ⟨n, .error, message⟩ := by
  obtain ⟨head, tail, number, -, -, hnumber, rfl, hmessage⟩ := parse_eq_ok_iff.mp h
  exact ⟨(readNumeral_eq_ok_iff.mp hnumber).2, isTrimmed_trim tail, hmessage⟩

theorem sound_of_parseMarked? {severity : Severity} {marker line : List Char} {r : Result}
    (h : parseMarked? severity marker line = some r) : r.Sound := by
  obtain ⟨head, tail, number, -, -, hnumber, -, hmessage, hne⟩ := parseMarked?_eq_some_iff.mp h
  exact ⟨(readNumeral_eq_ok_iff.mp hnumber).2, hmessage ▸ isTrimmed_trim tail, hne⟩

theorem sound_of_parseLine? {line : List Char} {r : Result} (h : parseLine? line = some r) :
    r.Sound := by
  unfold parseLine? at h
  split at h
  · rename_i n message hparse
    cases h
    exact sound_of_parse hparse
  · obtain h | ⟨-, h⟩ := Option.or_eq_some_iff.mp h
    · exact sound_of_parseMarked? h
    · exact sound_of_parseMarked? h

theorem parseLine?_nil : parseLine? [] = none := rfl

theorem trim_dropCr (line : List Char) : trim (dropCr line) = trim line := by
  unfold dropCr
  split_ifs with hcr
  · obtain ⟨start, rfl⟩ := List.getLast?_eq_some_iff.mp hcr
    rw [List.dropLast_concat, trim_concat (by decide)]
  · rfl

/-- How the lines of an output end makes no difference to its results: the CR of a pair is trimmed
away, and an empty part after the last LF is no result. -/
theorem results_eq (output : String) :
    results output = ((outputLines output.toList).map trim).filterMap parseLine? := by
  have hne : outputLines output.toList ≠ [] := splitWhere_ne_nil _ _
  rw [results, printedLines]
  nth_rewrite 3 [← List.dropLast_append_getLast hne]
  simp only [List.filterMap_append, List.map_append, List.filterMap_map, Function.comp_def,
    trim_dropCr, List.getLast?_eq_getLast_of_ne_nil hne]
  congr 1
  by_cases hlast : (outputLines output.toList).getLast hne = []
  · simp [hlast, show trim [] = [] from rfl, parseLine?_nil]
  · simp [hlast]

/-- The line of a result in the document, where lines are counted from zero. A result about line
zero is one about the first line. -/
def Result.index (r : Result) : Nat :=
  max r.line 1 - 1

/-- The diagnostic that a result calls for: on the rule around its line, or else on the line, with
the line itself as the only related place. -/
structure Shows (uri text : String) (r : Result) (d : Diagnostic) : Prop where
  severity : d.severity = some r.severity
  code : d.code = none
  source : d.source = some "yara-lang"
  message : d.message = String.ofList r.message
  range : d.range = (Rule.rangeAt? text ⟨r.index, 0⟩).getD (.ofLine r.index)
  columns : d.range.start.character = 0 ∧ d.range.stop.character = 0
  around : d.range.start.line ≤ r.index ∧ r.index < d.range.stop.line
  related : ∃ note, d.related = some [⟨⟨uri, .ofLine r.index⟩, note⟩]
  plain : d.explanation = none ∧ d.tags = none ∧ d.data = none
  within : (Range.ofLine r.index).Within d.range

theorem ofLine_index {r : Result} (h : r.Sound) :
    Range.ofLine r.index = .lines r.index (r.index + 1) := by
  have hline := h.line_le
  have hmax : 0 < maxUnsigned 32 := by decide
  have hnext : r.index + 1 ≤ maxUnsigned 32 := by
    rw [Result.index]
    omega
  rw [Range.ofLine, Nat.min_eq_left hnext]

theorem range_around {r : Result} (h : r.Sound) (text : String) :
    ∃ start stop, (Rule.rangeAt? text ⟨r.index, 0⟩).getD (.ofLine r.index) = .lines start stop ∧
      start ≤ r.index ∧ r.index < stop := by
  cases hrange : Rule.rangeAt? text ⟨r.index, 0⟩ with
  | none => exact ⟨r.index, r.index + 1, ofLine_index h, le_rfl, Nat.lt_succ_self _⟩
  | some range =>
    obtain ⟨start, stop, rfl, hstart, hstop, -⟩ := Rule.rangeAt?_eq_some_iff.mp hrange
    exact ⟨start, stop, rfl, hstart, hstop⟩

theorem make?_of_trimmed {message : List Char} (htrimmed : IsTrimmed message) (hne : message ≠ [])
    (range : Range) (severity : Severity) (code : Option DiagnosticCode) (related : List Related) :
    Diagnostic.make? range severity code (String.ofList message) related =
      some
        { range, severity := some severity, code, source := some Diagnostic.sourceName
          message := String.ofList message, related := some related } := by
  have htrim : trimText (String.ofList message) = String.ofList message := by
    rw [trimText, String.toList_ofList, trim_of_isTrimmed htrimmed]
  have hnonblank : String.ofList message ≠ "" := by
    intro h
    have hlist := congrArg String.toList h
    rw [String.toList_ofList] at hlist
    exact hne hlist
  simp only [Diagnostic.make?, htrim, if_neg hnonblank]

theorem diagnostic?_shows (uri text : String) {r : Result} (h : r.Sound) :
    ∃ d, diagnostic? uri text r = some d ∧ Shows uri text r d := by
  have hindex : r.line - 1 = r.index := by
    rw [Result.index]
    omega
  obtain ⟨start, stop, hrange, hstart, hstop⟩ := range_around h text
  simp only [diagnostic?, hindex, make?_of_trimmed h.trimmed h.message_ne_nil]
  refine ⟨_, rfl, ?_⟩
  constructor
  case severity => rfl
  case code => rfl
  case source => rfl
  case message => rfl
  case range => rfl
  case columns =>
    rw [hrange]
    exact ⟨rfl, rfl⟩
  case around =>
    rw [hrange]
    exact ⟨hstart, hstop⟩
  case related => exact ⟨_, rfl⟩
  case plain => exact ⟨rfl, rfl, rfl⟩
  case within =>
    rw [hrange, ofLine_index h]
    simp only [Range.Within, Position.Le, Range.lines]
    omega

/-- Every line of an output that is a result, once the blanks around it are gone, gives one
diagnostic, and nothing else gives any. The message is the result's, which is not blank, and the
range covers the line that the result names, whatever its number. -/
theorem diagnostics_of_results (uri text output : String) :
    List.Forall₂
      (fun line d => ∃ r, parseLine? line = some r ∧ r.Sound ∧
        Range.ofLine r.index = .lines r.index (r.index + 1) ∧ Shows uri text r d)
      (((outputLines output.toList).map trim).filter
        fun line => line ≠ [] ∧ (parseLine? line).isSome)
      (diagnostics uri text output) := by
  rw [diagnostics, results_eq]
  induction (outputLines output.toList).map trim with
  | nil => exact .nil
  | cons line lines ih =>
    cases hparse : parseLine? line with
    | none =>
      rw [List.filter_cons_of_neg (by simp [hparse]), List.filterMap_cons_none hparse]
      exact ih
    | some r =>
      have hne : line ≠ [] := by
        rintro rfl
        rw [parseLine?_nil] at hparse
        cases hparse
      have hsound := sound_of_parseLine? hparse
      obtain ⟨d, hd, hshows⟩ := diagnostic?_shows uri text hsound
      rw [List.filter_cons_of_pos (by simp [hne, hparse]), List.filterMap_cons_some hparse,
        List.filterMap_cons_some hd]
      exact .cons ⟨r, hparse, hsound, ofLine_index hsound, hshows⟩ ih

end Report

end RuleServer

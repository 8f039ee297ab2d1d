import Mathlib
import RuleServer.Toml.Parser
import RuleServer.Toml.Printer

/-!
Strings and names of documents as they are written. Each of the ways to write a string reads back as
the string, with whatever follows its closing quotes left over.
-/

namespace RuleServer

namespace Toml

/-- What stands after a backslash for a character. -/
structure Escapes (code : List Char) (c : Char) : Prop where
  readEscape_append : ∀ rest, readEscape (code ++ rest) = some (c, rest)
  continued?_append : ∀ rest, continued? (code ++ rest) = none

theorem newline?_of_ne {c : Char} (hlf : c ≠ '\n') (hcr : c ≠ '\r') (cs : List Char) :
    newline? (c :: cs) = none := by
  unfold newline?
  split
  · rename_i h
    exact absurd (List.cons.inj h).1 hlf
  · rename_i h
    exact absurd (List.cons.inj h).1 hcr
  · rfl

theorem continued?_of_ne {c : Char} (hspace : isSpace c = false) (hlf : c ≠ '\n') (hcr : c ≠ '\r')
    (cs : List Char) : continued? (c :: cs) = none := by
  rw [continued?, List.dropWhile_cons_of_neg (by simp [hspace]), newline?_of_ne hlf hcr]

theorem escapes_letters :
    Escapes ['"'] '"' ∧ Escapes ['\\'] '\\' ∧ Escapes ['t'] '\t' ∧ Escapes ['b'] '\x08' ∧
      Escapes ['f'] '\x0c' ∧ Escapes ['r'] '\r' ∧ Escapes ['n'] '\n' := by
  refine ⟨?_, ?_, ?_, ?_, ?_, ?_, ?_⟩ <;>
    exact ⟨fun _ => rfl, continued?_of_ne (by decide) (by decide) (by decide)⟩

theorem numbered_digits : ∀ n < 128, (numbered (Char.ofNat n)).length = 6 ∧
    (numbered (Char.ofNat n)).take 2 = ['\\', 'u'] ∧
    scalar? ((numbered (Char.ofNat n)).drop 2) = some (Char.ofNat n) := by
  decide +kernel

theorem toNat_of_needsEscape {c : Char} (h : needsEscape c) : c.toNat < 128 := by
  simp only [needsEscape, Bool.or_eq_true, Bool.and_eq_true, decide_eq_true_eq] at h
  rcases h with ⟨⟨hlow, -⟩, -⟩ | rfl
  · have hnat : c.toNat < 32 := hlow
    omega
  · decide

theorem numbered_of_needsEscape {c : Char} (h : needsEscape c) :
    ∃ code, Escapes code c ∧ numbered c = '\\' :: code := by
  obtain ⟨hlength, hstart, hscalar⟩ := numbered_digits c.toNat (toNat_of_needsEscape h)
  rw [Char.ofNat_toNat] at hlength hstart hscalar
  match hnumbered : numbered c, hlength with
  | [x, y, d₁, d₂, d₃, d₄], _ =>
    rw [hnumbered] at hstart hscalar
    obtain ⟨rfl, rfl⟩ : x = '\\' ∧ y = 'u' := by simpa using hstart
    refine ⟨['u', d₁, d₂, d₃, d₄], ⟨fun rest => ?_, fun rest => ?_⟩, rfl⟩
    · change (scalar? [d₁, d₂, d₃, d₄]).map (·, rest) = some (c, rest)
      rw [show scalar? [d₁, d₂, d₃, d₄] = some c from hscalar]
      rfl
    · exact continued?_of_ne (by decide) (by decide) (by decide) _

theorem isControl_of_not_needsEscape {c : Char} (h : needsEscape c = false) (hlf : c ≠ '\n') :
    isControl c = false := by
  simpa [needsEscape, isControl, hlf] using h

theorem ne_of_isControl {c : Char} (h : isControl c = false) : c ≠ '\n' ∧ c ≠ '\r' := by
  constructor <;> rintro rfl <;> revert h <;> decide

/-- The ways in which one character stands between double quotes, after a run of quotes and with
the run that it leaves. -/
inductive Spelling (allowed : Nat) (lines : Bool) : Char → Nat → List Char → Nat → Prop
  | quote {run : Nat} (h : run < allowed) : Spelling allowed lines '"' run ['"'] (run + 1)
  | lineEnd {run : Nat} (h : lines = true) : Spelling allowed lines '\n' run ['\n'] 0
  | plain {c : Char} {run : Nat} (hquote : c ≠ '"') (hslash : c ≠ '\\')
      (hcontrol : isControl c = false) : Spelling allowed lines c run [c] 0
  | escape {c : Char} {run : Nat} {code : List Char} (h : Escapes code c) :
      Spelling allowed lines c run ('\\' :: code) 0

theorem escaped_cons (allowed : Nat) (lines : Bool) (c : Char) (cs : List Char) (run : Nat) :
    ∃ text next, Spelling allowed lines c run text next ∧
      escaped allowed lines (c :: cs) run = text ++ escaped allowed lines cs next := by
  obtain ⟨quote, slash, tab, backspace, feed, carriage, lineFeed⟩ := escapes_letters
  rw [escaped.eq_def allowed lines (c :: cs) run]
  dsimp only
  split
  · split_ifs with hrun
    · exact ⟨_, _, .quote hrun, rfl⟩
    · exact ⟨_, _, .escape quote, rfl⟩
  · exact ⟨_, _, .escape slash, rfl⟩
  · exact ⟨_, _, .escape tab, rfl⟩
  · exact ⟨_, _, .escape backspace, rfl⟩
  · exact ⟨_, _, .escape feed, rfl⟩
  · exact ⟨_, _, .escape carriage, rfl⟩
  · split_ifs with hlines
    · exact ⟨_, _, .lineEnd hlines, rfl⟩
    · exact ⟨_, _, .escape lineFeed, rfl⟩
  · rename_i hquote hslash _ _ _ _ hlf
    split_ifs with hneeds
    · obtain ⟨code, hcode, hnumbered⟩ := numbered_of_needsEscape hneeds
      exact ⟨_, _, .escape hcode, by rw [hnumbered]⟩
    · have hcontrol := isControl_of_not_needsEscape (Bool.eq_false_iff.mpr hneeds) hlf
      exact ⟨_, _, .plain hquote hslash hcontrol, rfl⟩

theorem basic_plain {c : Char} (hquote : c ≠ '"') (hslash : c ≠ '\\') (hcontrol : isControl c = false)
    (fuel : Nat) (cs : List Char) :
    basic (fuel + 1) (c :: cs) = (basic fuel cs).map fun (s, rest) => (c :: s, rest) := by
  rw [basic]
  · rw [hcontrol]
    change (basic fuel cs >>= _) = _
    cases basic fuel cs <;> rfl
  · exact hquote
  · exact hslash

theorem basic_escape {code : List Char} {c : Char} (h : Escapes code c) (fuel : Nat)
    (cs : List Char) :
    basic (fuel + 1) ('\\' :: (code ++ cs)) =
      (basic fuel cs).map fun (s, rest) => (c :: s, rest) := by
  rw [basic, h.readEscape_append]
  change (basic fuel cs >>= _) = _
  cases basic fuel cs <;> rfl

theorem basic_escaped (cs rest : List Char) (run : Nat) {fuel : Nat}
    (hfuel : (escaped 0 false cs run).length < fuel) :
    basic fuel (escaped 0 false cs run ++ '"' :: rest) = some (cs, rest) := by
  induction cs generalizing run fuel with
  | nil =>
    obtain ⟨fuel, rfl⟩ : ∃ k, fuel = k + 1 := ⟨fuel - 1, by omega⟩
    rfl
  | cons c cs ih =>
    obtain ⟨text, next, hspelling, hescaped⟩ := escaped_cons 0 false c cs run
    obtain ⟨fuel, rfl⟩ : ∃ k, fuel = k + 1 := ⟨fuel - 1, by omega⟩
    rw [hescaped, List.length_append] at hfuel
    rw [hescaped]
    cases hspelling with
    | quote h => cases h
    | lineEnd h => cases h
    | plain hquote hslash hcontrol =>
      rw [List.append_assoc, List.singleton_append, basic_plain hquote hslash hcontrol,
        ih _ (by simp at hfuel; omega)]
      rfl
    | escape h =>
      rw [List.append_assoc, List.cons_append, basic_escape h, ih _ (by simp at hfuel; omega)]
      rfl

theorem literal_append {cs : List Char} (hquote : '\'' ∉ cs) (hcontrol : ∀ c ∈ cs, isControl c = false)
    (rest : List Char) : literal (cs ++ '\'' :: rest) = some (cs, rest) := by
  induction cs with
  | nil => rfl
  | cons c cs ih =>
    rw [List.cons_append, literal, hcontrol c (by simp)]
    · change (literal _ >>= _) = _
      rw [ih (fun h => hquote (by simp [h])) fun d hd => hcontrol d (by simp [hd])]
      rfl
    · rintro rfl
      simp at hquote

/-- A text starts with fewer than three quotes and goes on with something else. -/
def StartsShort (quote : Char) (text : List Char) : Prop :=
  ∃ n < 3, ∃ c cs, c ≠ quote ∧ text = List.replicate n quote ++ c :: cs

theorem startsShort_of_ne {quote c : Char} (h : c ≠ quote) (cs : List Char) :
    StartsShort quote (c :: cs) :=
  ⟨0, by decide, c, cs, h, rfl⟩

theorem StartsShort.closing? {quote : Char} {text : List Char} (h : StartsShort quote text)
    (rest : List Char) : closing? quote (text ++ rest) = none := by
  obtain ⟨n, hn, c, cs, hc, rfl⟩ := h
  have htake : (List.replicate n quote ++ c :: cs ++ rest).takeWhile (· = quote) =
      List.replicate n quote := by
    rw [List.append_assoc, List.takeWhile_append_of_pos (by simp), List.cons_append,
      List.takeWhile_cons_of_neg (by simpa using hc), List.append_nil]
  simp only [Toml.closing?, htake, List.length_replicate, if_pos hn]

theorem closing?_replicate {quote : Char} {n : Nat} (hn : n ≤ 2) {rest : List Char}
    (hrest : rest.head? ≠ some quote) :
    closing? quote (List.replicate n quote ++ (List.replicate 3 quote ++ rest)) =
      some (List.replicate n quote, rest) := by
  have hstop : rest.takeWhile (· = quote) = [] := by
    cases rest with
    | nil => rfl
    | cons c rest => exact List.takeWhile_cons_of_neg (by simpa using hrest)
  have htake : (List.replicate (n + 3) quote ++ rest).takeWhile (· = quote) =
      List.replicate (n + 3) quote := by
    rw [List.takeWhile_append_of_pos (by simp), hstop, List.append_nil]
  rw [← List.append_assoc, List.replicate_append_replicate]
  have hmin : min (n + 3) 5 = n + 3 := by omega
  simp [closing?, htake, hmin, List.drop_left']

theorem basicLines_closing {cs : List Char} {done : List Char × List Char}
    (h : closing? '"' cs = some done) (fuel : Nat) : basicLines (fuel + 1) cs = some done := by
  simp only [basicLines, h]

theorem basicLines_lineEnd (fuel : Nat) (cs : List Char) :
    basicLines (fuel + 1) ('\n' :: cs) =
      (basicLines fuel cs).map fun (s, rest) => ('\n' :: s, rest) := by
  have hclosing := (startsShort_of_ne (show '\n' ≠ '"' by decide) cs).closing? []
  rw [List.append_nil] at hclosing
  simp only [basicLines, hclosing, newline?]

theorem basicLines_plain {c : Char} {cs : List Char} (hclosing : closing? '"' (c :: cs) = none)
    (hslash : c ≠ '\\') (hcontrol : isControl c = false) (fuel : Nat) :
    basicLines (fuel + 1) (c :: cs) =
      (basicLines fuel cs).map fun (s, rest) => (c :: s, rest) := by
  obtain ⟨hlf, hcr⟩ := ne_of_isControl hcontrol
  simp only [basicLines, hclosing, newline?_of_ne hlf hcr, hcontrol]
  cases basicLines fuel cs <;> rfl

theorem basicLines_escape {code : List Char} {c : Char} (h : Escapes code c) (fuel : Nat)
    (cs : List Char) :
    basicLines (fuel + 1) ('\\' :: (code ++ cs)) =
      (basicLines fuel cs).map fun (s, rest) => (c :: s, rest) := by
  have hclosing := (startsShort_of_ne (show '\\' ≠ '"' by decide) (code ++ cs)).closing? []
  rw [List.append_nil] at hclosing
  simp only [basicLines, hclosing, newline?_of_ne (show '\\' ≠ '\n' by decide)
    (show '\\' ≠ '\r' by decide), h.continued?_append, h.readEscape_append]
  change (basicLines fuel cs >>= _) = _
  cases basicLines fuel cs <;> rfl

/-- Between the quotes of a string of many lines three quotes never stand in a row: the text is a
short run of quotes, or goes on after one. -/
theorem quotes_of_escaped (cs : List Char) {run : Nat} (hrun : run ≤ 2) :
    (∃ n, n + run ≤ 2 ∧ cs = List.replicate n '"' ∧
        escaped 2 true cs run = List.replicate n '"') ∨
      ∃ n c tail, n + run ≤ 2 ∧ c ≠ '"' ∧
        escaped 2 true cs run = List.replicate n '"' ++ c :: tail := by
  induction cs generalizing run with
  | nil => exact .inl ⟨0, by omega, rfl, rfl⟩
  | cons c cs ih =>
    obtain ⟨text, next, hspelling, hescaped⟩ := escaped_cons 2 true c cs run
    rw [hescaped]
    cases hspelling with
    | quote h =>
      rcases ih (Nat.succ_le_of_lt h) with ⟨n, hn, rfl, hrest⟩ | ⟨n, d, tail, hn, hd, hrest⟩
      · exact .inl ⟨n + 1, by omega, rfl, by rw [hrest]; rfl⟩
      · exact .inr ⟨n + 1, d, tail, by omega, hd, by rw [hrest]; rfl⟩
    | lineEnd => exact .inr ⟨0, _, _, by omega, by decide, rfl⟩
    | plain hquote => exact .inr ⟨0, _, _, by omega, hquote, rfl⟩
    | escape => exact .inr ⟨0, _, _, by omega, by decide, rfl⟩

theorem basicLines_escaped (cs : List Char) {rest : List Char} (hrest : rest.head? ≠ some '"')
    {run fuel : Nat} (hrun : run ≤ 2) (hfuel : (escaped 2 true cs run).length < fuel) :
    basicLines fuel (escaped 2 true cs run ++ (List.replicate 3 '"' ++ rest)) = some (cs, rest) := by
  induction cs generalizing run fuel with
  | nil =>
    obtain ⟨fuel, rfl⟩ : ∃ k, fuel = k + 1 := ⟨fuel - 1, by omega⟩
    exact basicLines_closing (closing?_replicate (Nat.zero_le _) hrest) fuel
  | cons c cs ih =>
    obtain ⟨fuel, rfl⟩ : ∃ k, fuel = k + 1 := ⟨fuel - 1, by omega⟩
    rcases quotes_of_escaped (c :: cs) hrun with ⟨n, hn, hcs, htext⟩ | ⟨n, d, tail, hn, hd, htext⟩
    · -- the quotes that end the string stand right before those that close it
      rw [htext, hcs]
      exact basicLines_closing (closing?_replicate (by omega) hrest) fuel
    · have hclosing := StartsShort.closing? ⟨n, by omega, d, tail, hd, htext⟩
        (List.replicate 3 '"' ++ rest)
      obtain ⟨text, next, hspelling, hescaped⟩ := escaped_cons 2 true c cs run
      rw [hescaped, List.append_assoc] at hclosing
      rw [hescaped, List.length_append] at hfuel
      rw [hescaped, List.append_assoc]
      cases hspelling with
      | quote h =>
        rw [List.singleton_append] at hclosing ⊢
        rw [basicLines_plain hclosing (by decide) (by decide), ih (by omega) (by simp at hfuel; omega)]
        rfl
      | lineEnd =>
        rw [List.singleton_append, basicLines_lineEnd, ih (by omega) (by simp at hfuel; omega)]
        rfl
      | plain hquote hslash hcontrol =>
        rw [List.singleton_append] at hclosing ⊢
        rw [basicLines_plain hclosing hslash hcontrol, ih (by omega) (by simp at hfuel; omega)]
        rfl
      | escape h =>
        rw [List.cons_append, basicLines_escape h, ih (by omega) (by simp at hfuel; omega)]
        rfl

theorem literalLines_closing {cs : List Char} {done : List Char × List Char}
    (h : closing? '\'' cs = some done) (fuel : Nat) : literalLines (fuel + 1) cs = some done := by
  simp only [literalLines, h]

theorem literalLines_cons {c : Char} {cs : List Char} (hclosing : closing? '\'' (c :: cs) = none)
    (h : needsEscape c = false) (fuel : Nat) :
    literalLines (fuel + 1) (c :: cs) =
      (literalLines fuel cs).map fun (s, rest) => (c :: s, rest) := by
  by_cases hlf : c = '\n'
  · subst hlf
    simp only [literalLines, hclosing, newline?]
  · have hcontrol := isControl_of_not_needsEscape h hlf
    simp only [literalLines, hclosing, newline?_of_ne hlf (ne_of_isControl hcontrol).2, hcontrol]
    cases literalLines fuel cs <;> rfl

theorem le_longestRun (quote : Char) (cs : List Char) (run best : Nat) :
    best ≤ longestRun quote cs run best := by
  induction cs generalizing run best with
  | nil => exact le_rfl
  | cons c cs ih => exact (Nat.le_max_left _ _).trans (ih _ _)

theorem quotes_of_longestRun {quote : Char} (cs : List Char) {run best : Nat} (hrun : run ≤ 2)
    (h : longestRun quote cs run best ≤ 2) :
    (∃ n, n + run ≤ 2 ∧ cs = List.replicate n quote) ∨
      ∃ n c tail, n + run ≤ 2 ∧ c ≠ quote ∧ cs = List.replicate n quote ++ c :: tail := by
  induction cs generalizing run best with
  | nil => exact .inl ⟨0, by omega, rfl⟩
  | cons c cs ih =>
    by_cases hc : c = quote
    · subst hc
      simp only [longestRun, if_true] at h
      have hnext : run + 1 ≤ 2 := ((Nat.le_max_right _ _).trans (le_longestRun _ _ _ _)).trans h
      rcases ih hnext h with ⟨n, hn, rfl⟩ | ⟨n, d, tail, hn, hd, rfl⟩
      · exact .inl ⟨n + 1, by omega, rfl⟩
      · exact .inr ⟨n + 1, d, tail, by omega, hd, rfl⟩
    · exact .inr ⟨0, c, cs, by omega, hc, rfl⟩

theorem literalLines_append (cs : List Char) {rest : List Char} (hrest : rest.head? ≠ some '\'')
    (hplain : ∀ c ∈ cs, needsEscape c = false) {run best fuel : Nat} (hrun : run ≤ 2)
    (h : longestRun '\'' cs run best ≤ 2) (hfuel : cs.length < fuel) :
    literalLines fuel (cs ++ (List.replicate 3 '\'' ++ rest)) = some (cs, rest) := by
  induction cs generalizing run best fuel with
  | nil =>
    obtain ⟨fuel, rfl⟩ : ∃ k, fuel = k + 1 := ⟨fuel - 1, by omega⟩
    exact literalLines_closing (closing?_replicate (Nat.zero_le _) hrest) fuel
  | cons c cs ih =>
    obtain ⟨fuel, rfl⟩ : ∃ k, fuel = k + 1 := ⟨fuel - 1, by omega⟩
    rcases quotes_of_longestRun (c :: cs) hrun h with ⟨n, hn, hcs⟩ | ⟨n, d, tail, hn, hd, hcs⟩
    · rw [hcs]
      exact literalLines_closing (closing?_replicate (by omega) hrest) fuel
    · have hclosing := StartsShort.closing? ⟨n, by omega, d, tail, hd, hcs⟩
        (List.replicate 3 '\'' ++ rest)
      have hnext : (if c = '\'' then run + 1 else 0) ≤ 2 :=
        ((Nat.le_max_right _ _).trans (le_longestRun _ _ _ _)).trans h
      rw [List.cons_append] at hclosing ⊢
      rw [literalLines_cons hclosing (hplain c (by simp)),
        ih (fun d hd => hplain d (by simp [hd])) hnext h (by simp at hfuel; omega)]
      rfl

theorem head?_escaped (cs : List Char) : (escaped 0 false cs 0).head? ≠ some '"' := by
  cases cs with
  | nil => exact nofun
  | cons c cs =>
    obtain ⟨text, next, hspelling, hescaped⟩ := escaped_cons 0 false c cs 0
    rw [hescaped]
    cases hspelling with
    | quote h => cases h
    | lineEnd h => cases h
    | plain hquote => exact fun h => hquote (Option.some.inj h)
    | escape => exact fun h => absurd (Option.some.inj h) (by decide)

theorem basicText_append (cs rest : List Char) :
    basicText cs ++ rest = '"' :: (escaped 0 false cs 0 ++ '"' :: rest) := by
  simp [basicText]

theorem literalText_append (cs rest : List Char) :
    literalText cs ++ rest = '\'' :: (cs ++ '\'' :: rest) := by
  simp [literalText]

theorem string?_basicText (cs : List Char) {rest : List Char} (hrest : rest.head? ≠ some '"') :
    string? (basicText cs ++ rest) = some (String.ofList cs, rest) := by
  have hread : basic ((escaped 0 false cs 0 ++ '"' :: rest).length + 1)
      (escaped 0 false cs 0 ++ '"' :: rest) = some (cs, rest) :=
    basic_escaped cs rest 0 (by simp)
  rw [basicText_append, string?]
  · rw [hread]
    rfl
  · -- the text does not open a string of many lines
    intro more heq
    have hhead := head?_escaped cs
    cases hescaped : escaped 0 false cs 0 with
    | nil =>
      rw [hescaped, List.nil_append, List.cons.injEq] at heq
      exact hrest (by rw [heq.2]; rfl)
    | cons c tail =>
      rw [hescaped, List.cons_append, List.cons.injEq] at heq
      exact hhead (by rw [hescaped, heq.1]; rfl)

theorem string?_literalText {cs : List Char} (hquote : '\'' ∉ cs)
    (hcontrol : ∀ c ∈ cs, isControl c = false) {rest : List Char}
    (hrest : rest.head? ≠ some '\'') :
    string? (literalText cs ++ rest) = some (String.ofList cs, rest) := by
  rw [literalText_append, string?]
  · rw [literal_append hquote hcontrol]
    rfl
  · intro more heq
    cases cs with
    | nil =>
      rw [List.nil_append, List.cons.injEq] at heq
      exact hrest (by rw [heq.2]; rfl)
    | cons c tail =>
      rw [List.cons_append, List.cons.injEq] at heq
      exact hquote (by simp [heq.1])

theorem afterOpening_opening {cs text : List Char} (h : '\n' ∉ cs → newline? text = none) :
    afterOpening ((if '\n' ∈ cs then ['\n'] else []) ++ text) = text := by
  split_ifs with hmem
  · rfl
  · rw [List.nil_append, afterOpening, h hmem]
    rfl

theorem string?_basicLinesText (cs : List Char) {rest : List Char}
    (hrest : rest.head? ≠ some '"') :
    string? (basicLinesText cs ++ rest) = some (String.ofList cs, rest) := by
  have htext : basicLinesText cs ++ rest = '"' :: '"' :: '"' ::
      ((if '\n' ∈ cs then ['\n'] else []) ++
        (escaped 2 true cs 0 ++ (List.replicate 3 '"' ++ rest))) := by
    simp [basicLinesText, opening]
  have hfirst : '\n' ∉ cs →
      newline? (escaped 2 true cs 0 ++ (List.replicate 3 '"' ++ rest)) = none := by
    intro hmem
    cases cs with
    | nil => exact newline?_of_ne (by decide) (by decide) _
    | cons c cs =>
      obtain ⟨text, next, hspelling, hescaped⟩ := escaped_cons 2 true c cs 0
      rw [hescaped, List.append_assoc]
      cases hspelling with
      | quote => exact newline?_of_ne (by decide) (by decide) _
      | lineEnd => simp at hmem
      | plain _ _ hcontrol =>
        exact newline?_of_ne (ne_of_isControl hcontrol).1 (ne_of_isControl hcontrol).2 _
      | escape => exact newline?_of_ne (by decide) (by decide) _
  rw [htext, string?, afterOpening_opening hfirst,
    basicLines_escaped cs hrest (by omega) (by simp; omega)]
  rfl

theorem string?_literalLinesText {cs : List Char} (hplain : ∀ c ∈ cs, needsEscape c = false)
    (hruns : longestRun '\'' cs 0 0 ≤ 2) {rest : List Char} (hrest : rest.head? ≠ some '\'') :
    string? (literalLinesText cs ++ rest) = some (String.ofList cs, rest) := by
  have htext : literalLinesText cs ++ rest = '\'' :: '\'' :: '\'' ::
      ((if '\n' ∈ cs then ['\n'] else []) ++ (cs ++ (List.replicate 3 '\'' ++ rest))) := by
    simp [literalLinesText, opening]
  have hfirst : '\n' ∉ cs → newline? (cs ++ (List.replicate 3 '\'' ++ rest)) = none := by
    intro hmem
    cases cs with
    | nil => exact newline?_of_ne (by decide) (by decide) _
    | cons c cs =>
      have hlf : c ≠ '\n' := by
        rintro rfl
        simp at hmem
      have hcontrol := isControl_of_not_needsEscape (hplain c (by simp)) hlf
      exact newline?_of_ne hlf (ne_of_isControl hcontrol).2 _
  rw [htext, string?, afterOpening_opening hfirst,
    literalLines_append cs hrest hplain (by omega) hruns (by simp; omega)]
  rfl

theorem not_mem_of_longestRun {quote : Char} {cs : List Char} {run : Nat}
    (h : longestRun quote cs run 0 = 0) : quote ∉ cs := by
  induction cs generalizing run with
  | nil => simp
  | cons c cs ih =>
    have hc : c ≠ quote := by
      rintro rfl
      have hbest := le_longestRun c cs (run + 1) (max 0 (run + 1))
      simp only [longestRun, if_true] at h
      omega
    simp only [longestRun, if_neg hc, Nat.max_self] at h
    simpa [hc.symm] using ih h

/-- A string is read back however it is written, where no quote follows it. -/
theorem string?_stringText (s : String) {rest : List Char} (hdouble : rest.head? ≠ some '"')
    (hsingle : rest.head? ≠ some '\'') :
    string? ((stringText s).toList ++ rest) = some (s, rest) := by
  have hplain : (!s.toList.any needsEscape) = true → ∀ c ∈ s.toList, needsEscape c = false := by
    simp
  have hs : String.ofList s.toList = s := String.ofList_toList
  rw [stringText, String.toList_ofList]
  split_ifs with hbasic hliteral hbasicLines hliteralLines hbroken
  · rw [string?_basicText _ hdouble, hs]
  · simp only [Bool.and_eq_true, decide_eq_true_eq] at hliteral
    obtain ⟨⟨hcontrol, hruns⟩, hbroken⟩ := hliteral
    have hlf : '\n' ∉ s.toList := by simpa using hbroken
    rw [string?_literalText (not_mem_of_longestRun hruns) _ hsingle, hs]
    exact fun c hc => isControl_of_not_needsEscape (hplain hcontrol c hc) fun h => hlf (h ▸ hc)
  · rw [string?_basicLinesText _ hdouble, hs]
  · simp only [Bool.and_eq_true, decide_eq_true_eq] at hliteralLines
    rw [string?_literalLinesText (hplain hliteralLines.1) hliteralLines.2 hsingle, hs]
  · rw [string?_basicLinesText _ hdouble, hs]
  · rw [string?_basicText _ hdouble, hs]

theorem name_bare {cs : List Char} (hcs : cs ≠ []) (h : ∀ c ∈ cs, isBare c = true) {rest : List Char}
    (hrest : ∀ c ∈ rest.head?, isBare c = false) :
    name (cs ++ rest) = some (String.ofList cs, rest) := by
  have hstop : rest.takeWhile isBare = [] ∧ rest.dropWhile isBare = rest := by
    cases rest with
    | nil => exact ⟨rfl, rfl⟩
    | cons c rest =>
      have hc : ¬ isBare c = true := by simp [hrest c rfl]
      exact ⟨List.takeWhile_cons_of_neg hc, List.dropWhile_cons_of_neg hc⟩
  have hfirst : ∀ (quote : Char) (more : List Char), isBare quote = false →
      cs ++ rest ≠ quote :: more := by
    intro quote more hquote heq
    obtain ⟨c, tail, rfl⟩ := List.exists_cons_of_ne_nil hcs
    rw [List.cons_append, List.cons.injEq] at heq
    have hc := h c (by simp)
    rw [heq.1, hquote] at hc
    cases hc
  rw [name]
  · rw [List.takeWhile_append_of_pos h, List.dropWhile_append_of_pos h, hstop.1, hstop.2,
      List.append_nil, if_neg hcs]
  · exact fun more => hfirst '"' more (by decide)
  · exact fun more => hfirst '\'' more (by decide)

theorem name_basicText (cs rest : List Char) :
    name (basicText cs ++ rest) = some (String.ofList cs, rest) := by
  rw [basicText_append, name, basic_escaped cs rest 0 (by simp)]
  rfl

theorem name_literalText {cs : List Char} (hquote : '\'' ∉ cs)
    (hcontrol : ∀ c ∈ cs, isControl c = false) (rest : List Char) :
    name (literalText cs ++ rest) = some (String.ofList cs, rest) := by
  rw [literalText_append, name, literal_append hquote hcontrol]
  rfl

theorem name_nameText (s : String) {rest : List Char}
    (hrest : ∀ c ∈ rest.head?, isBare c = false) :
    name ((nameText s).toList ++ rest) = some (s, rest) := by
  have hs : String.ofList s.toList = s := String.ofList_toList
  rw [nameText]
  split_ifs with hbare hbasic hliteral
  · have hall : ∀ c ∈ s.toList, isBare c = true := List.all_eq_true.mp hbare.2
    rw [name_bare hbare.1 hall hrest, hs]
  · rw [String.toList_ofList, name_basicText, hs]
  · simp only [Bool.and_eq_true, Bool.not_eq_true'] at hliteral
    obtain ⟨hcontrol, hquote⟩ := hliteral
    have hplain : ∀ c ∈ s.toList, needsEscape c = false ∧ c ≠ '\n' := by
      simpa using hcontrol
    rw [String.toList_ofList, name_literalText (by simpa using hquote) _ rest, hs]
    exact fun c hc => isControl_of_not_needsEscape (hplain c hc).1 (hplain c hc).2
  · rw [String.toList_ofList, name_basicText, hs]

end Toml

end RuleServer

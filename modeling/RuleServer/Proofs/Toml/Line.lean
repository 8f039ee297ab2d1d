import Mathlib
import RuleServer.Proofs.Text.Numeral
import RuleServer.Proofs.Toml.Text

/-!
Documents line by line. A document that is written as lines, each a header or a name with the text
of a value, is read as the effect of these lines one after the other.
-/

namespace RuleServer

namespace Toml

/-- Something other than blanks, a comment or a line end starts with this character. -/
def IsToken (c : Char) : Prop :=
  isSpace c = false ∧ c ≠ '#' ∧ c ≠ '\n' ∧ c ≠ '\r'

instance (c : Char) : Decidable (IsToken c) :=
  inferInstanceAs (Decidable (_ ∧ _))

theorem skipSpaces_token {spaces : List Char} (hspaces : ∀ s ∈ spaces, isSpace s = true) {c : Char}
    (hc : isSpace c = false) (cs : List Char) : skipSpaces (spaces ++ c :: cs) = c :: cs := by
  rw [skipSpaces, List.dropWhile_append_of_pos hspaces, List.dropWhile_cons_of_neg (by simp [hc])]

theorem skipComment_of_ne {c : Char} (hc : c ≠ '#') (cs : List Char) :
    skipComment (c :: cs) = some (c :: cs) := by
  rw [skipComment]
  exact fun more heq => hc (List.cons.inj heq).1

theorem skipLines_token {spaces : List Char} (hspaces : ∀ s ∈ spaces, isSpace s = true) {c : Char}
    (hc : IsToken c) (fuel : Nat) (cs : List Char) :
    skipLines (fuel + 1) (spaces ++ c :: cs) = some (c :: cs) := by
  obtain ⟨hspace, hcomment, hlf, hcr⟩ := hc
  simp only [skipLines, skipSpaces_token hspaces hspace, skipComment_of_ne hcomment,
    Option.bind_eq_bind, Option.bind_some, newline?_of_ne hlf hcr]
  rfl

theorem skipLines_lineEnd (fuel : Nat) (cs : List Char) :
    skipLines (fuel + 1) ('\n' :: cs) = skipLines fuel cs :=
  rfl

theorem skipAll_token {c : Char} (hc : IsToken c) (cs : List Char) :
    skipAll (c :: cs) = some (c :: cs) :=
  skipLines_token (List.forall_mem_nil _) hc _ cs

theorem skipAll_lineEnd {spaces : List Char} (hspaces : ∀ s ∈ spaces, isSpace s = true) {c : Char}
    (hc : IsToken c) (cs : List Char) : skipAll ('\n' :: (spaces ++ c :: cs)) = some (c :: cs) := by
  rw [skipAll, List.length_cons, skipLines_lineEnd, skipLines_token hspaces hc]

theorem stringText_cons (s : String) :
    ∃ quote tail, (stringText s).toList = quote :: tail ∧ (quote = '"' ∨ quote = '\'') := by
  rw [stringText, String.toList_ofList]
  split_ifs
  · exact ⟨_, _, rfl, .inl rfl⟩
  · exact ⟨_, _, rfl, .inr rfl⟩
  · exact ⟨_, _, rfl, .inl rfl⟩
  · exact ⟨_, _, rfl, .inr rfl⟩
  · exact ⟨_, _, rfl, .inl rfl⟩
  · exact ⟨_, _, rfl, .inl rfl⟩

theorem isToken_quote {quote : Char} (h : quote = '"' ∨ quote = '\'') : IsToken quote := by
  rcases h with rfl | rfl <;> decide

theorem value_stringText (s : String) {rest : List Char} (hdouble : rest.head? ≠ some '"')
    (hsingle : rest.head? ≠ some '\'') (fuel depth : Nat) :
    value (fuel + 1) depth ((stringText s).toList ++ rest) = some (.string s, rest) := by
  have hread := string?_stringText s hdouble hsingle
  obtain ⟨quote, tail, htext, hquote⟩ := stringText_cons s
  rw [htext, List.cons_append] at hread ⊢
  rcases hquote with rfl | rfl <;> simp [value, hread]

theorem word_lineEnd {cs : List Char} (h : ∀ c ∈ cs, isWordChar c = true) (rest : List Char) :
    word (cs ++ '\n' :: rest) = (cs, '\n' :: rest) := by
  have hstop : ¬ isWordChar '\n' = true := by decide
  have htake : (cs ++ '\n' :: rest).takeWhile isWordChar = cs := by
    rw [List.takeWhile_append_of_pos h, List.takeWhile_cons_of_neg hstop, List.append_nil]
  have hdrop : (cs ++ '\n' :: rest).dropWhile isWordChar = '\n' :: rest := by
    rw [List.dropWhile_append_of_pos h, List.dropWhile_cons_of_neg hstop]
  simp only [word, htake, hdrop]
  rfl

/-- What a word starts with, other than the signs of strings, lists and tables. -/
def StartsWord (c : Char) : Prop :=
  c ≠ '[' ∧ c ≠ '\x7b' ∧ c ≠ '"' ∧ c ≠ '\''

instance (c : Char) : Decidable (StartsWord c) :=
  inferInstanceAs (Decidable (_ ∧ _))

theorem value_word {c : Char} {cs : List Char} {v : Json} (hc : StartsWord c)
    (hchars : ∀ d ∈ c :: cs, isWordChar d = true) (hword : word? (c :: cs) = some v)
    (fuel depth : Nat) (rest : List Char) :
    value (fuel + 1) depth (c :: cs ++ '\n' :: rest) = some (v, '\n' :: rest) := by
  obtain ⟨hlist, htable, hdouble, hsingle⟩ := hc
  have hsplit := word_lineEnd hchars rest
  rw [List.cons_append] at hsplit ⊢
  rw [value]
  · simp [hdouble, hsingle, hsplit, hword]
  · exact hlist
  · exact htable

theorem digits?_of_forall {cs : List Char} (hcs : cs ≠ []) (h : ∀ c ∈ cs, isDigit c = true) :
    digits? isDigit cs = some cs := by
  fun_induction digits? isDigit cs with
  | case1 => exact absurd rfl hcs
  | case2 c hc => rfl
  | case3 c hc => exact absurd (h c (by simp)) hc
  | case4 c cs => exact absurd (h '_' (by simp)) (by decide)
  | case5 c cs => exact absurd (h '_' (by simp)) (by decide)
  | case6 c cs hne _ hc ih =>
    rw [ih hne fun d hd => h d (by simp [hd])]
    rfl
  | case7 c cs _ _ hc => exact absurd (h c (by simp)) hc

theorem inBase_eq_ofDigitChars {cs : List Char} (h : ∀ c ∈ cs, isDigit c = true) :
    inBase 10 cs = Nat.ofDigitChars 10 cs 0 := by
  rw [inBase, Nat.ofDigitChars]
  refine List.foldl_ext _ _ _ fun n c hc => ?_
  rw [hexDigitValue, if_pos (h c hc), digitValue, Nat.mul_comm]

theorem expect_digits {c : Char} (hc : isDigit c = false) {cs : List Char}
    (h : ∀ d ∈ cs, isDigit d = true) : expect c cs = none := by
  cases cs with
  | nil => rfl
  | cons d cs =>
    have hne : c ≠ d := by
      rintro rfl
      have hd := h c (by simp)
      rw [hc] at hd
      cases hd
    rw [expect, if_neg hne]

/-- Digits alone are no date and no time: these have other signs after the first digits. -/
theorem isMoment_digits {cs : List Char} (h : ∀ c ∈ cs, isDigit c = true) : isMoment cs = false := by
  have hexpect : ∀ (c : Char) (n : Nat), isDigit c = false → expect c (cs.drop n) = none :=
    fun c n hc => expect_digits hc fun d hd => h d (List.mem_of_mem_drop hd)
  have hdate : afterDate cs = none := by
    rw [afterDate, fixedDigits]
    split_ifs
    · simp [hexpect '-' 4 (by decide)]
    · rfl
  have htime : afterTime cs = none := by
    rw [afterTime, fixedDigits]
    split_ifs
    · simp [hexpect ':' 2 (by decide)]
    · rfl
  rw [isMoment, hdate, htime]
  rfl

theorem whole?_decimal (n : Nat) : whole? (decimal n) = some (decimal n) := by
  have hdigits := digits?_of_forall (decimal_ne_nil n) fun _ h => isDigit_of_mem_decimal h
  rw [whole?, hdigits]
  rcases Nat.eq_zero_or_pos n with rfl | hn
  · rw [decimal_zero]
    rfl
  · obtain ⟨c, cs, hdecimal, hc⟩ := decimal_head hn
    rw [hdecimal]
    split
    · rename_i heq
      exact heq.symm
    · rename_i heq
      exact absurd (List.cons.inj (Option.some.inj heq)).1 hc
    · rfl

theorem inRange_natCast {n : Nat} (hn : n < twoTo 128) : inRange n = true := by
  have hlow : -(twoTo 127 : Int) ≤ n :=
    (Int.neg_nonpos_of_nonneg (Int.natCast_nonneg _)).trans (Int.natCast_nonneg n)
  have hhigh : (n : Int) < twoTo 128 := Int.ofNat_lt.mpr hn
  rw [inRange, decide_eq_true hlow, decide_eq_true hhigh]
  rfl

theorem integer?_unsigned {word : List Char} (hzero : ∀ c cs, word ≠ '0' :: c :: cs)
    (hsigned : signed word = (false, word)) {ds : List Char} (hwhole : whole? word = some ds)
    (hrange : inRange (inBase 10 ds) = true) : integer? word = some (inBase 10 ds : Int) := by
  rw [integer?]
  · rw [hsigned]
    refine Option.bind_eq_some_iff.mpr ⟨(inBase 10 ds : Int), ?_, if_pos hrange⟩
    rw [hwhole]
    rfl
  · exact fun c cs => hzero c cs

theorem integer?_decimal {n : Nat} (hn : n < twoTo 128) : integer? (decimal n) = some (n : Int) := by
  have hsign : ∀ c, isDigit c = false → ∀ cs, decimal n ≠ c :: cs := by
    intro c hc cs heq
    have hdigit : isDigit c = true := isDigit_of_mem_decimal (n := n) (by rw [heq]; simp)
    rw [hc] at hdigit
    cases hdigit
  have hsigned : signed (decimal n) = (false, decimal n) := by
    rw [signed]
    · exact hsign '-' (by decide)
    · exact hsign '+' (by decide)
  -- only zero is written with a zero in front
  have hzero : ∀ c cs, decimal n ≠ '0' :: c :: cs := by
    intro d ds heq
    rcases Nat.eq_zero_or_pos n with rfl | hpos
    · simp [decimal_zero] at heq
    · obtain ⟨c, cs, hdecimal, hc⟩ := decimal_head hpos
      rw [hdecimal] at heq
      exact hc (List.cons.inj heq).1
  have hvalue : inBase 10 (decimal n) = n := by
    rw [inBase_eq_ofDigitChars fun _ h => isDigit_of_mem_decimal h, ofDigitChars_decimal]
  have hread := integer?_unsigned hzero hsigned (whole?_decimal n)
  rw [hvalue] at hread
  exact hread (inRange_natCast hn)

theorem isWordChar_of_isDigit {c : Char} (h : isDigit c = true) : isWordChar c = true := by
  have hc := isDigit_iff.mp h
  have hne : ∀ d : Char, (d.toNat < 48 ∨ 57 < d.toNat) → c ≠ d := by
    rintro d hd rfl
    omega
  have hlow : ¬ c < ' ' := by
    have : ' '.toNat ≤ c.toNat := by
      have : ' '.toNat = 32 := rfl
      omega
    exact Nat.not_lt.mpr this
  simp [isWordChar, isSpace, isControl, hlow, hne ' ' (by decide), hne '\t' (by decide),
    hne '\x7f' (by decide), hne ',' (by decide), hne ']' (by decide), hne '\x7d' (by decide),
    hne '#' (by decide)]

theorem word?_decimal {n : Nat} (hn : n < twoTo 128) : word? (decimal n) = some (.nat n) := by
  have hdigits : ∀ c ∈ decimal n, isDigit c = true := fun _ h => isDigit_of_mem_decimal h
  have hne : ∀ text : List Char, (∃ c ∈ text, isDigit c = false) → decimal n ≠ text := by
    rintro text ⟨c, hc, hdigit⟩ rfl
    rw [hdigits c hc] at hdigit
    cases hdigit
  rw [word?, if_neg (hne _ ⟨'t', by decide, by decide⟩), if_neg (hne _ ⟨'f', by decide, by decide⟩),
    isMoment_digits hdigits, integer?_decimal hn]
  rfl

def itemLines (ss : List String) : List Char :=
  ss.flatMap fun s => ("    " ++ stringText s ++ ",\n").toList

theorem itemLines_cons (s : String) (ss : List String) :
    itemLines (s :: ss) =
      List.replicate 4 ' ' ++ ((stringText s).toList ++ ',' :: '\n' :: itemLines ss) := by
  simp [itemLines]

theorem length_le_itemLines (ss : List String) : ss.length ≤ (itemLines ss).length := by
  induction ss with
  | nil => simp
  | cons s ss ih =>
    rw [itemLines_cons]
    simp
    omega

theorem elements_end {cs rest : List Char} (hcs : skipAll cs = some (']' :: rest))
    (fuel depth : Nat) : elements (fuel + 1) depth cs = some ([], rest) := by
  rw [elements, hcs]
  rfl

theorem elements_comma (s : String) {cs rest : List Char}
    (hcs : skipAll cs = some ((stringText s).toList ++ ',' :: rest)) (fuel depth : Nat) :
    elements (fuel + 2) depth cs =
      (elements (fuel + 1) depth rest).map fun (vs, rest) => (.string s :: vs, rest) := by
  have hvalue : value (fuel + 1) depth ((stringText s).toList ++ ',' :: rest) =
      some (.string s, ',' :: rest) := value_stringText s (by simp) (by simp) fuel depth
  obtain ⟨quote, tail, htext, hquote⟩ := stringText_cons s
  rw [htext, List.cons_append] at hcs hvalue
  have hnext : skipAll (',' :: rest) = some (',' :: rest) := skipAll_token (by decide) rest
  rw [elements, hcs]
  rcases hquote with rfl | rfl <;>
  · change (value (fuel + 1) depth _ >>= _) = _
    simp only [hvalue, hnext, Option.bind_eq_bind, Option.bind_some]
    cases elements (fuel + 1) depth rest <;> rfl

theorem elements_last (s : String) {cs rest : List Char}
    (hcs : skipAll cs = some ((stringText s).toList ++ ']' :: rest)) (fuel depth : Nat) :
    elements (fuel + 2) depth cs = some ([.string s], rest) := by
  have hvalue : value (fuel + 1) depth ((stringText s).toList ++ ']' :: rest) =
      some (.string s, ']' :: rest) := value_stringText s (by simp) (by simp) fuel depth
  obtain ⟨quote, tail, htext, hquote⟩ := stringText_cons s
  rw [htext, List.cons_append] at hcs hvalue
  have hnext : skipAll (']' :: rest) = some (']' :: rest) := skipAll_token (by decide) rest
  rw [elements, hcs]
  rcases hquote with rfl | rfl <;>
  · change (value (fuel + 1) depth _ >>= _) = _
    simp only [hvalue, hnext, Option.bind_eq_bind, Option.bind_some]
    rfl

theorem elements_itemLines (ss : List String) (rest : List Char) {fuel : Nat}
    (hfuel : ss.length < fuel) (depth : Nat) :
    elements fuel depth ('\n' :: (itemLines ss ++ ']' :: rest)) =
      some (ss.map .string, rest) := by
  induction ss generalizing fuel with
  | nil =>
    obtain ⟨fuel, rfl⟩ : ∃ k, fuel = k + 1 := ⟨fuel - 1, by omega⟩
    have hskip : skipAll ('\n' :: ']' :: rest) = some (']' :: rest) :=
      skipAll_lineEnd (List.forall_mem_nil _) (by decide) rest
    exact elements_end hskip fuel depth
  | cons s ss ih =>
    rw [List.length_cons] at hfuel
    obtain ⟨fuel, rfl⟩ : ∃ k, fuel = k + 2 := ⟨fuel - 2, by omega⟩
    obtain ⟨quote, tail, htext, hquote⟩ := stringText_cons s
    have hskip : skipAll ('\n' :: (itemLines (s :: ss) ++ ']' :: rest)) =
        some ((stringText s).toList ++ ',' :: '\n' :: (itemLines ss ++ ']' :: rest)) := by
      rw [itemLines_cons, htext]
      simp only [List.append_assoc, List.cons_append]
      exact skipAll_lineEnd (by simp [isSpace]) (isToken_quote hquote) _
    rw [elements_comma s hskip, ih (by omega)]
    rfl

theorem readValue_list {cs rest : List Char} {vs : List Json}
    (h : ∀ fuel, cs.length < fuel → ∀ depth, elements fuel depth cs = some (vs, rest)) :
    readValue ('[' :: cs) = some (.array vs, rest) := by
  rw [readValue, depthLimit, value, h _ (by simp; omega)]
  rfl

theorem readValue_listText (ss : List String) (rest : List Char) :
    readValue ((listText ss).toList ++ rest) = some (.array (ss.map .string), rest) := by
  match ss with
  | [] =>
    refine readValue_list fun fuel hfuel depth => ?_
    obtain ⟨fuel, rfl⟩ : ∃ k, fuel = k + 1 := ⟨fuel - 1, by omega⟩
    exact elements_end (skipAll_token (by decide) rest) fuel depth
  | [s] =>
    have htext : (listText [s]).toList ++ rest = '[' :: ((stringText s).toList ++ ']' :: rest) := by
      simp [listText]
    rw [htext]
    refine readValue_list fun fuel hfuel depth => ?_
    obtain ⟨fuel, rfl⟩ : ∃ k, fuel = k + 2 := ⟨fuel - 2, by simp at hfuel; omega⟩
    obtain ⟨quote, tail, hs, hquote⟩ := stringText_cons s
    refine elements_last s ?_ fuel depth
    rw [hs]
    exact skipAll_token (isToken_quote hquote) _
  | s :: t :: ss =>
    have htext : (listText (s :: t :: ss)).toList ++ rest =
        '[' :: '\n' :: (itemLines (s :: t :: ss) ++ ']' :: rest) := by
      simp [listText, itemLines, String.toList_join, List.flatMap_map]
    have hlength := length_le_itemLines (s :: t :: ss)
    rw [htext]
    refine readValue_list fun fuel hfuel depth => ?_
    exact elements_itemLines _ rest (by simp at hfuel hlength ⊢; omega) depth

theorem isBare_ne {c d : Char} (hc : isBare c = true) (hd : isBare d = false) : c ≠ d := by
  rintro rfl
  rw [hc] at hd
  cases hd

/-- What a name starts with is not mistaken for anything else. -/
structure StartsName (c : Char) : Prop where
  isToken : IsToken c
  ne_bracket : c ≠ '['
  ne_mark : c ≠ '\ufeff'

theorem startsName_quote {quote : Char} (h : quote = '"' ∨ quote = '\'') : StartsName quote := by
  refine ⟨isToken_quote h, ?_, ?_⟩ <;> rcases h with rfl | rfl <;> decide

theorem startsName_bare {c : Char} (h : isBare c = true) : StartsName c := by
  have hspace : isSpace c = false := by
    simp [isSpace, isBare_ne h (show isBare ' ' = false by decide),
      isBare_ne h (show isBare '\t' = false by decide)]
  exact ⟨⟨hspace, isBare_ne h (by decide), isBare_ne h (by decide), isBare_ne h (by decide)⟩,
    isBare_ne h (by decide), isBare_ne h (by decide)⟩

theorem nameText_cons (s : String) : ∃ c tail, (nameText s).toList = c :: tail ∧ StartsName c := by
  rw [nameText]
  split_ifs with hbare hbasic hliteral
  · obtain ⟨c, cs, hcs⟩ := List.exists_cons_of_ne_nil hbare.1
    exact ⟨c, cs, hcs, startsName_bare (List.all_eq_true.mp hbare.2 c (by rw [hcs]; simp))⟩
  · exact ⟨_, _, String.toList_ofList, startsName_quote (.inl rfl)⟩
  · exact ⟨_, _, String.toList_ofList, startsName_quote (.inr rfl)⟩
  · exact ⟨_, _, String.toList_ofList, startsName_quote (.inl rfl)⟩

theorem skipSpaces_nameText (s : String) (rest : List Char) :
    skipSpaces ((nameText s).toList ++ rest) = (nameText s).toList ++ rest := by
  obtain ⟨c, tail, htext, hc⟩ := nameText_cons s
  rw [htext]
  exact skipSpaces_token (List.forall_mem_nil _) hc.isToken.1 _

theorem key_single (s : String) {c : Char} {rest : List Char} (hbare : isBare c = false)
    (hdot : (skipSpaces (c :: rest)).head? ≠ some '.') (fuel : Nat) :
    key (fuel + 1) ((nameText s).toList ++ c :: rest) = some ([s], skipSpaces (c :: rest)) := by
  have hname : name ((nameText s).toList ++ c :: rest) = some (s, c :: rest) :=
    name_nameText s (by simpa using hbare)
  rw [key, skipSpaces_nameText, hname]
  simp only [Option.bind_eq_bind, Option.bind_some]
  split
  · rename_i heq
    rw [heq] at hdot
    exact absurd rfl hdot
  · rfl

theorem key_dotted (s : String) (rest : List Char) (fuel : Nat) :
    key (fuel + 1) ((nameText s).toList ++ '.' :: rest) =
      (key fuel rest).map fun (names, rest) => (s :: names, rest) := by
  have hname : name ((nameText s).toList ++ '.' :: rest) = some (s, '.' :: rest) :=
    name_nameText s (by simp [isBare, isDigit])
  have hdot : skipSpaces ('.' :: rest) = '.' :: rest :=
    skipSpaces_token (List.forall_mem_nil _) (by decide) rest
  rw [key, skipSpaces_nameText, hname]
  simp only [Option.bind_eq_bind, Option.bind_some, hdot]
  cases key fuel rest <;> rfl

def keyText (names : List String) : List Char :=
  ['.'].intercalate (names.map fun s => (nameText s).toList)

theorem keyText_singleton (s : String) : keyText [s] = (nameText s).toList := by
  simp [keyText]

theorem keyText_cons_cons (s t : String) (names : List String) :
    keyText (s :: t :: names) = (nameText s).toList ++ '.' :: keyText (t :: names) := by
  simp [keyText]

theorem key_keyText {names : List String} (hnames : names ≠ []) (rest : List Char) {fuel : Nat}
    (hfuel : names.length ≤ fuel) :
    key fuel (keyText names ++ ']' :: rest) = some (names, ']' :: rest) := by
  induction names generalizing fuel with
  | nil => exact absurd rfl hnames
  | cons s names ih =>
    obtain ⟨fuel, rfl⟩ : ∃ k, fuel = k + 1 := ⟨fuel - 1, by simp at hfuel; omega⟩
    cases names with
    | nil =>
      have hrest : skipSpaces (']' :: rest) = ']' :: rest :=
        skipSpaces_token (List.forall_mem_nil _) (by decide) rest
      have hkey : key (fuel + 1) ((nameText s).toList ++ ']' :: rest) =
          some ([s], skipSpaces (']' :: rest)) := key_single s (by decide) (by simp [hrest]) fuel
      rwa [hrest, ← keyText_singleton] at hkey
    | cons t names =>
      rw [keyText_cons_cons, List.append_assoc, List.cons_append, key_dotted,
        ih (by simp) (by simpa using hfuel)]
      rfl

theorem length_le_keyText (names : List String) : names.length ≤ (keyText names).length := by
  induction names with
  | nil => simp
  | cons s names ih =>
    obtain ⟨c, tail, htext, -⟩ := nameText_cons s
    cases names with
    | nil => simp [keyText_singleton, htext]
    | cons t names =>
      rw [keyText_cons_cons, htext]
      simp only [List.length_cons, List.length_append] at ih ⊢
      omega

theorem keyText_cons {names : List String} (hnames : names ≠ []) :
    ∃ c tail, keyText names = c :: tail ∧ c ≠ '[' := by
  obtain ⟨s, names, rfl⟩ := List.exists_cons_of_ne_nil hnames
  obtain ⟨c, tail, htext, hc⟩ := nameText_cons s
  cases names with
  | nil => exact ⟨c, tail, by rw [keyText_singleton, htext], hc.ne_bracket⟩
  | cons t names =>
    exact ⟨c, _, by rw [keyText_cons_cons, htext, List.cons_append], hc.ne_bracket⟩

/-- A text that is read as a value, up to the end of its line. -/
def Denotes (text : String) (v : Json) : Prop :=
  ∀ rest, readValue (skipSpaces (text.toList ++ '\n' :: rest)) = some (v, '\n' :: rest)

theorem denotes_stringText (s : String) : Denotes (stringText s) (.string s) := by
  intro rest
  obtain ⟨quote, tail, htext, hquote⟩ := stringText_cons s
  have hskip : skipSpaces ((stringText s).toList ++ '\n' :: rest) =
      (stringText s).toList ++ '\n' :: rest := by
    rw [htext]
    exact skipSpaces_token (List.forall_mem_nil _) (isToken_quote hquote).1 _
  rw [hskip, readValue]
  exact value_stringText s (by simp) (by simp) _ _

theorem denotes_listText (ss : List String) : Denotes (listText ss) (.array (ss.map .string)) := by
  intro rest
  have hskip : skipSpaces ((listText ss).toList ++ '\n' :: rest) =
      (listText ss).toList ++ '\n' :: rest := by
    match ss with
    | [] => rfl
    | [s] => simp [listText, skipSpaces, isSpace]
    | s :: t :: ss => simp [listText, skipSpaces, isSpace]
  rw [hskip, readValue_listText]

theorem denotes_word {text : String} {c : Char} {cs : List Char} {v : Json}
    (htext : text.toList = c :: cs) (hc : StartsWord c)
    (hchars : ∀ d ∈ c :: cs, isWordChar d = true) (hword : word? (c :: cs) = some v) :
    Denotes text v := by
  intro rest
  have hspace : isSpace c = false := by
    have hfirst := hchars c (by simp)
    simp only [isWordChar, Bool.not_eq_true', Bool.or_eq_false_iff] at hfirst
    tauto
  have hskip : skipSpaces (c :: cs ++ '\n' :: rest) = c :: cs ++ '\n' :: rest :=
    skipSpaces_token (List.forall_mem_nil _) hspace _
  rw [htext, hskip, readValue]
  exact value_word hc hchars hword _ _ rest

theorem denotes_boolText (b : Bool) : Denotes (boolText b) (.bool b) := by
  cases b with
  | true =>
    have htext : (boolText true).toList = ['t', 'r', 'u', 'e'] := rfl
    exact denotes_word htext (by decide) (List.all_eq_true.mp (by decide)) rfl
  | false =>
    have htext : (boolText false).toList = ['f', 'a', 'l', 's', 'e'] := rfl
    exact denotes_word htext (by decide) (List.all_eq_true.mp (by decide)) rfl

theorem denotes_decimalText {n : Nat} (hn : n < twoTo 128) : Denotes (decimalText n) (.nat n) := by
  obtain ⟨c, cs, hdecimal⟩ := List.exists_cons_of_ne_nil (decimal_ne_nil n)
  have hdigits : ∀ d ∈ c :: cs, isDigit d = true :=
    fun d hd => isDigit_of_mem_decimal (hdecimal ▸ hd)
  have hc : StartsWord c := by
    have hdigit := isDigit_iff.mp (hdigits c (by simp))
    refine ⟨?_, ?_, ?_, ?_⟩ <;> rintro rfl <;> revert hdigit <;> decide
  refine denotes_word (by rw [decimalText, String.toList_ofList, hdecimal]) hc
    (fun d hd => isWordChar_of_isDigit (hdigits d hd)) ?_
  rw [← hdecimal]
  exact word?_decimal hn

/-- A line of a document, with the value that its text denotes. -/
inductive Line
  | pair (name text : String) (value : Json)
  | header (names : List String)

namespace Line

def text : Line → String
  | pair name text _ => pairLine name text
  | header names => headerLine names

def WellWritten : Line → Prop
  | pair _ text value => Denotes text value
  | header names => names ≠ []

/-- What a line adds to a document. -/
def perform (d : Document) : Line → Option Document
  | pair name _ value => d.addValue [name] value
  | header names => d.openTable names

end Line

theorem statement_pair {text : String} {v : Json} (h : Denotes text v) (name : String)
    (d : Document) (rest : List Char) :
    statement d ((nameText name).toList ++ ' ' :: '=' :: ' ' :: (text.toList ++ '\n' :: rest)) =
      (d.addValue [name] v).map (·, '\n' :: rest) := by
  obtain ⟨c, tail, htext, hc⟩ := nameText_cons name
  set after := text.toList ++ '\n' :: rest
  have hequals : skipSpaces (' ' :: '=' :: ' ' :: after) = '=' :: ' ' :: after := rfl
  have hkey : readKey ((nameText name).toList ++ ' ' :: '=' :: ' ' :: after) =
      some ([name], '=' :: ' ' :: after) :=
    key_single name (by decide) (by simp [hequals]) _
  have hvalue : readValue (skipSpaces (' ' :: after)) = some (v, '\n' :: rest) := h rest
  rw [htext, List.cons_append] at hkey ⊢
  rw [statement]
  · rw [hkey]
    change (readValue (skipSpaces (' ' :: after)) >>= _) = _
    rw [hvalue]
    change (d.addValue [name] v >>= _) = _
    cases d.addValue [name] v <;> rfl
  · exact fun cs heq => hc.ne_bracket (List.cons.inj heq).1
  · exact fun cs heq => hc.ne_bracket (List.cons.inj heq).1

theorem statement_header {names : List String} (hnames : names ≠ []) (d : Document)
    (rest : List Char) :
    statement d ('[' :: (keyText names ++ ']' :: rest)) = (d.openTable names).map (·, rest) := by
  obtain ⟨c, tail, htext, hc⟩ := keyText_cons hnames
  have hlength := length_le_keyText names
  have hkey : readKey (keyText names ++ ']' :: rest) = some (names, ']' :: rest) :=
    key_keyText hnames rest (by simp; omega)
  rw [htext, List.cons_append] at hkey ⊢
  rw [statement]
  · rw [hkey]
    change (d.openTable names >>= _) = _
    cases d.openTable names <;> rfl
  · exact fun cs heq => hc (List.cons.inj heq).1

theorem statements_of_statement {d : Document} {c : Char} {cs next rest : List Char}
    {step : Option Document} (hskip : skipAll cs = some (c :: next))
    (h : statement d (c :: next) = step.map (·, '\n' :: rest)) (fuel : Nat) :
    statements (fuel + 1) d cs = step.bind (statements fuel · rest) := by
  rw [statements, hskip]
  change (statement d (c :: next) >>= _) = _
  rw [h]
  cases step <;> rfl

theorem statements_line {line : Line} (h : line.WellWritten) (d : Document) (rest : List Char)
    (fuel : Nat) :
    statements (fuel + 1) d (line.text.toList ++ rest) =
      (line.perform d).bind (statements fuel · rest) := by
  cases line with
  | pair name text value =>
    have htext : (pairLine name text).toList ++ rest =
        (nameText name).toList ++ ' ' :: '=' :: ' ' :: (text.toList ++ '\n' :: rest) := by
      simp [pairLine]
    have hstatement := statement_pair h name d rest
    obtain ⟨c, tail, hname, hc⟩ := nameText_cons name
    rw [Line.text, htext]
    rw [hname, List.cons_append] at hstatement ⊢
    exact statements_of_statement (skipAll_token hc.isToken _) hstatement fuel
  | header names =>
    have htext : (headerLine names).toList ++ rest =
        '\n' :: '[' :: (keyText names ++ ']' :: '\n' :: rest) := by
      simp [headerLine, keyText, String.toList_intercalate, Function.comp_def]
    have hskip : skipAll ('\n' :: '[' :: (keyText names ++ ']' :: '\n' :: rest)) =
        some ('[' :: (keyText names ++ ']' :: '\n' :: rest)) :=
      skipAll_lineEnd (List.forall_mem_nil _) (by decide) _
    rw [Line.text, htext]
    exact statements_of_statement hskip (statement_header h d ('\n' :: rest)) fuel

/-- A document is read as the effect of its lines, one after the other. -/
theorem statements_lines {lines : List Line} (h : ∀ line ∈ lines, line.WellWritten) (d : Document)
    {fuel : Nat} (hfuel : lines.length < fuel) :
    statements fuel d (lines.flatMap (·.text.toList)) = lines.foldlM Line.perform d := by
  induction lines generalizing d fuel with
  | nil =>
    obtain ⟨fuel, rfl⟩ : ∃ k, fuel = k + 1 := ⟨fuel - 1, by omega⟩
    rfl
  | cons line lines ih =>
    obtain ⟨fuel, rfl⟩ : ∃ k, fuel = k + 1 := ⟨fuel - 1, by omega⟩
    rw [List.length_cons] at hfuel
    rw [List.flatMap_cons, statements_line (h line (by simp)), List.foldlM_cons]
    change _ = (line.perform d).bind _
    congr 1
    funext next
    exact ih (fun line' hline => h line' (by simp [hline])) next (by omega)

theorem length_le_flatMap (lines : List Line) :
    lines.length ≤ (lines.flatMap (·.text.toList)).length := by
  induction lines with
  | nil => simp
  | cons line lines ih =>
    have hline : 1 ≤ line.text.toList.length := by
      cases line with
      | pair name text value =>
        simp only [Line.text, pairLine, String.toList_append, List.length_append]
        simp
      | header names => simp [Line.text, headerLine]
    rw [List.flatMap_cons, List.length_append, List.length_cons]
    omega

theorem skipMark_of_ne {c : Char} (hc : c ≠ '\ufeff') (cs : List Char) :
    skipMark (c :: cs) = c :: cs := by
  rw [skipMark]
  exact fun more heq => hc (List.cons.inj heq).1

theorem skipMark_lines (lines : List Line) :
    skipMark (lines.flatMap (·.text.toList)) = lines.flatMap (·.text.toList) := by
  cases lines with
  | nil => rfl
  | cons line lines =>
    rw [List.flatMap_cons]
    cases line with
    | pair name text value =>
      obtain ⟨c, tail, hname, hc⟩ := nameText_cons name
      simp only [Line.text, pairLine, String.toList_append, hname, List.cons_append]
      exact skipMark_of_ne hc.ne_mark _
    | header names =>
      simp only [Line.text, headerLine, String.toList_append]
      exact skipMark_of_ne (by decide) _

theorem parse?_lines {lines : List Line} (h : ∀ line ∈ lines, line.WellWritten) {text : String}
    (htext : text.toList = lines.flatMap (·.text.toList)) :
    parse? text = (lines.foldlM Line.perform {}).map fun d => d.root.toJson := by
  have hlength := length_le_flatMap lines
  rw [parse?, htext, skipMark_lines, statements_lines h _ (by omega)]

namespace Table

theorem find?_eq_none {t : Table} {name : String} (h : name ∉ t.map Prod.fst) :
    t.find? name = none := by
  induction t with
  | nil => rfl
  | cons p t ih =>
    rw [List.map_cons, List.mem_cons, not_or] at h
    rw [find?, List.lookup_cons, beq_false_of_ne h.1]
    exact ih h.2

theorem put_fresh {t : Table} {name : String} (h : name ∉ t.map Prod.fst) (item : Item) :
    put name item t = t ++ [(name, item)] := by
  induction t with
  | nil => rfl
  | cons p t ih =>
    rw [List.map_cons, List.mem_cons, not_or] at h
    rw [put, if_neg (Ne.symm h.1), ih h.2]
    rfl

theorem insertNew_fresh {t : Table} {name : String} (h : name ∉ t.map Prod.fst)
    (item : Item) : insertNew name item t = some (t ++ [(name, item)]) := by
  rw [insertNew, find?_eq_none h, put_fresh h]
  rfl

end Table

end Toml

end RuleServer

import Mathlib
import RuleServer.Config.Command
import RuleServer.Proofs.Text.Cut

/-!
Arguments with file names in place of the placeholders. The input's name goes in first, and then the
output's name wherever its placeholder stands, also where the input's name has made one. So a
template is filled as it should be for exactly those input names that cannot be a part of the
output's placeholder.
-/

namespace RuleServer

namespace CompilerConfig

/-- A template with both names filled in at once: each placeholder is replaced by its name, every
other character stays, and a name that has been filled in is not looked at again. -/
inductive Filled (input output : List Char) : (template result : List Char) → Prop
  | nil : Filled input output [] []
  | input {template result : List Char} (h : Filled input output template result) :
      Filled input output (inputPlaceholder ++ template) (input ++ result)
  | output {template result : List Char} (h : Filled input output template result) :
      Filled input output (outputPlaceholder ++ template) (output ++ result)
  | char {c : Char} {template result : List Char} (hinput : ¬ inputPlaceholder <+: c :: template)
      (houtput : ¬ outputPlaceholder <+: c :: template) (h : Filled input output template result) :
      Filled input output (c :: template) (c :: result)

/-- A text that is not, and never becomes, a part of the output's placeholder: there is none in it,
and nothing around it makes one, not even what closes no brace before it and opens none after it. -/
def Inert (text : List Char) : Prop :=
  ∀ before after, '\x7d' ∉ before → '\x7b' ∉ after →
    ¬ outputPlaceholder <:+: before ++ text ++ after

theorem inputPlaceholder_eq : inputPlaceholder = ['\x7b', 'i'] ++ 'n' :: ['p', 'u', 't', '\x7d'] := rfl

theorem outputPlaceholder_eq :
    outputPlaceholder = '\x7b' :: ['o', 'u', 't', 'p', 'u', 't', '\x7d'] := rfl

theorem outputPlaceholder_eq_concat :
    outputPlaceholder = ['\x7b', 'o', 'u', 't', 'p', 'u', 't'] ++ ['\x7d'] := rfl

theorem placeholders_ne_nil : inputPlaceholder ≠ [] ∧ outputPlaceholder ≠ [] := by
  constructor <;> decide

theorem open_notMem_of_append {before after : List Char} (h : outputPlaceholder = before ++ after)
    (hbefore : before ≠ []) : '\x7b' ∉ after := by
  obtain ⟨c, before, rfl⟩ := List.exists_cons_of_ne_nil hbefore
  rw [outputPlaceholder_eq, List.cons_append] at h
  have hrest := (List.cons.inj h).2
  intro hmem
  have hin : '\x7b' ∈ ['o', 'u', 't', 'p', 'u', 't', '\x7d'] := by
    rw [hrest]
    exact List.mem_append_right before hmem
  exact absurd hin (by decide)

theorem close_notMem_of_append {before after : List Char} (h : outputPlaceholder = before ++ after)
    (hafter : after ≠ []) : '\x7d' ∉ before := by
  obtain ⟨after, c, rfl⟩ := (List.eq_nil_or_concat after).resolve_left hafter
  rw [outputPlaceholder_eq_concat, List.concat_eq_append, ← List.append_assoc] at h
  have hrest := (List.append_inj' h rfl).1
  intro hmem
  have hin : '\x7d' ∈ ['\x7b', 'o', 'u', 't', 'p', 'u', 't'] := by
    rw [hrest]
    exact List.mem_append_left after hmem
  exact absurd hin (by decide)

/-- A text that begins and ends with characters foreign to the placeholder, such as an absolute path
with an extension, is inert unless it holds the placeholder. -/
theorem inert_iff_of_foreign_ends {first last : Char} {middle : List Char}
    (hfirst : first ∉ outputPlaceholder) (hlast : last ∉ outputPlaceholder) :
    Inert (first :: middle ++ [last]) ↔ ¬ outputPlaceholder <:+: first :: middle ++ [last] := by
  constructor
  · intro h
    have hself := h [] [] (by simp) (by simp)
    simpa using hself
  · intro habsent before after hbefore hafter hinfix
    have htext : before ++ (first :: middle ++ [last]) ++ after =
        before ++ first :: (middle ++ last :: after) := by simp
    rw [htext, infix_append_cons_iff hfirst, infix_append_cons_iff hlast] at hinfix
    rcases hinfix with hin | hin | hin
    · exact hbefore (hin.subset (by decide))
    · exact habsent (hin.trans ⟨[first], [last], by simp⟩)
    · exact hafter (hin.subset (by decide))

theorem Inert.not_begins {text tail rest : List Char} (h : Inert text) (htail : tail ≠ [])
    (hsuffix : tail <:+ text) : ¬ outputPlaceholder <+: tail ++ rest := by
  intro hbegins
  obtain ⟨front, rfl⟩ := hsuffix
  rcases List.prefix_or_prefix_of_prefix hbegins (List.prefix_append tail rest) with
    hwhole | ⟨more, hmore⟩
  · have hinfix : outputPlaceholder <:+: [] ++ (front ++ tail) ++ [] := by
      simpa using hwhole.isInfix.trans (List.suffix_append front tail).isInfix
    exact h [] [] (by simp) (by simp) hinfix
  · -- the placeholder goes on after the text
    have hinfix : outputPlaceholder <:+: [] ++ (front ++ tail) ++ more :=
      ⟨front, [], by rw [← hmore]; simp⟩
    exact h [] more (by simp) (open_notMem_of_append hmore.symm htail) hinfix

theorem Inert.not_begins_append {text front tail rest : List Char} (h : Inert text)
    (hplaceholder : outputPlaceholder = front ++ tail) (hfront : front ≠ []) (htail : tail ≠ []) :
    ¬ tail <+: text ++ rest := by
  have hclose := close_notMem_of_append hplaceholder htail
  have hopen := open_notMem_of_append hplaceholder hfront
  intro hbegins
  rcases List.prefix_or_prefix_of_prefix hbegins (List.prefix_append text rest) with
    ⟨others, hothers⟩ | ⟨more, hmore⟩
  · have hinfix : outputPlaceholder <:+: front ++ text ++ [] :=
      ⟨[], others, by rw [hplaceholder, ← hothers]; simp⟩
    exact h front [] hclose (by simp) hinfix
  · have hafter : '\x7b' ∉ more := fun hmem => hopen (hmore ▸ List.mem_append_right text hmem)
    have hinfix : outputPlaceholder <:+: front ++ text ++ more :=
      ⟨[], [], by rw [hplaceholder, ← hmore]; simp⟩
    exact h front more hclose hafter hinfix

theorem replaceAll_inert_append {text : List Char} (h : Inert text) (output rest : List Char) :
    replaceAll outputPlaceholder output (text ++ rest) =
      text ++ replaceAll outputPlaceholder output rest := by
  suffices hpart : ∀ tail, tail <:+ text → replaceAll outputPlaceholder output (tail ++ rest) =
      tail ++ replaceAll outputPlaceholder output rest from hpart text List.suffix_rfl
  intro tail
  induction tail with
  | nil => intro _; rfl
  | cons c tail ih =>
    intro hsuffix
    have hstart : ¬ outputPlaceholder <+: c :: (tail ++ rest) := h.not_begins (by simp) hsuffix
    have hrest : tail <:+ text := (List.suffix_cons c tail).trans hsuffix
    rw [List.cons_append, replaceAll_cons placeholders_ne_nil.2 hstart, ih hrest,
      List.cons_append]

theorem replaceAll_outputPlaceholder_append (input rest : List Char) :
    replaceAll inputPlaceholder input (outputPlaceholder ++ rest) =
      outputPlaceholder ++ replaceAll inputPlaceholder input rest := by
  have hne := placeholders_ne_nil.1
  have hfirst : ∀ cs, ¬ inputPlaceholder <+: '\x7b' :: 'o' :: cs := by
    intro cs h
    rw [inputPlaceholder_eq] at h
    simp at h
  have hother : ∀ c cs, c ≠ '\x7b' → ¬ inputPlaceholder <+: c :: cs := by
    intro c cs hc h
    rw [inputPlaceholder_eq] at h
    simp [Ne.symm hc] at h
  rw [outputPlaceholder_eq]
  simp only [List.cons_append, List.nil_append]
  rw [replaceAll_cons hne (hfirst _), replaceAll_cons hne (hother 'o' _ (by decide)),
    replaceAll_cons hne (hother 'u' _ (by decide)), replaceAll_cons hne (hother 't' _ (by decide)),
    replaceAll_cons hne (hother 'p' _ (by decide)), replaceAll_cons hne (hother 'u' _ (by decide)),
    replaceAll_cons hne (hother 't' _ (by decide)),
    replaceAll_cons hne (hother '\x7d' _ (by decide))]

/-- What stands at the start of a filled template and may end a placeholder stood there before. -/
theorem prefix_of_prefix_replaceAll {input : List Char} (h : Inert input) {front tail : List Char}
    (hplaceholder : outputPlaceholder = front ++ tail) (hfront : front ≠ []) {template : List Char}
    (hbegins : tail <+: replaceAll inputPlaceholder input template) : tail <+: template := by
  have hne := placeholders_ne_nil.1
  induction tail generalizing front template with
  | nil => exact List.nil_prefix
  | cons c tail ih =>
    by_cases hinput : inputPlaceholder <+: template
    · obtain ⟨rest, rfl⟩ := hinput
      rw [replaceAll_append hne] at hbegins
      exact absurd hbegins (h.not_begins_append hplaceholder hfront (by simp))
    · cases template with
      | nil => exact hbegins
      | cons d template =>
        rw [replaceAll_cons hne hinput] at hbegins
        obtain ⟨rfl, hrest⟩ := List.cons_prefix_cons.mp hbegins
        have hnext : outputPlaceholder = (front ++ [c]) ++ tail := by rw [hplaceholder]; simp
        exact List.cons_prefix_cons.mpr ⟨rfl, ih hnext (by simp) hrest⟩

theorem renderArg_char {input : List Char} (h : Inert input) (output : List Char) {c : Char}
    {template : List Char} (hinput : ¬ inputPlaceholder <+: c :: template)
    (houtput : ¬ outputPlaceholder <+: c :: template) :
    renderArg input output (c :: template) = c :: renderArg input output template := by
  have hstart : ¬ outputPlaceholder <+: c :: replaceAll inputPlaceholder input template := by
    have hcut : outputPlaceholder = ['\x7b'] ++ ['o', 'u', 't', 'p', 'u', 't', '\x7d'] := rfl
    rw [outputPlaceholder_eq] at houtput ⊢
    intro hbegins
    obtain ⟨rfl, hrest⟩ := List.cons_prefix_cons.mp hbegins
    have htail := prefix_of_prefix_replaceAll h hcut (by simp) hrest
    exact houtput (List.cons_prefix_cons.mpr ⟨rfl, htail⟩)
  rw [renderArg, replaceAll_cons placeholders_ne_nil.1 hinput,
    replaceAll_cons placeholders_ne_nil.2 hstart, renderArg]

/-- With an inert input name, filling in one name after the other comes to filling in both. -/
theorem filled_renderArg {input : List Char} (h : Inert input) (output template : List Char) :
    Filled input output template (renderArg input output template) := by
  obtain ⟨hin, hout⟩ := placeholders_ne_nil
  induction hn : template.length using Nat.strong_induction_on generalizing template with
  | _ n ih =>
    by_cases hinput : inputPlaceholder <+: template
    · obtain ⟨rest, rfl⟩ := hinput
      have hpos := List.length_pos_iff.mpr hin
      have hrest := ih rest.length (by rw [List.length_append] at hn; omega) rest rfl
      rw [renderArg, replaceAll_append hin, replaceAll_inert_append h]
      exact .input hrest
    · by_cases houtput : outputPlaceholder <+: template
      · obtain ⟨rest, rfl⟩ := houtput
        have hpos := List.length_pos_iff.mpr hout
        have hrest := ih rest.length (by rw [List.length_append] at hn; omega) rest rfl
        rw [renderArg, replaceAll_outputPlaceholder_append, replaceAll_append hout]
        exact .output hrest
      · cases template with
        | nil => exact .nil
        | cons c template =>
          rw [renderArg_char h output hinput houtput]
          exact .char hinput houtput (ih template.length (by simp [← hn]) template rfl)

theorem Filled.cases_start {input output template result : List Char}
    (h : Filled input output template result) :
    (template = [] ∧ result = []) ∨
    (∃ rest filled, template = inputPlaceholder ++ rest ∧ result = input ++ filled ∧
      Filled input output rest filled) ∨
    (∃ rest filled, template = outputPlaceholder ++ rest ∧ result = output ++ filled ∧
      Filled input output rest filled) ∨
    ∃ c rest filled, template = c :: rest ∧ result = c :: filled ∧
      ¬ inputPlaceholder <+: template ∧ ¬ outputPlaceholder <+: template ∧
      Filled input output rest filled := by
  cases h with
  | nil => exact .inl ⟨rfl, rfl⟩
  | input h => exact .inr (.inl ⟨_, _, rfl, rfl, h⟩)
  | output h => exact .inr (.inr (.inl ⟨_, _, rfl, rfl, h⟩))
  | char hinput houtput h => exact .inr (.inr (.inr ⟨_, _, _, rfl, rfl, hinput, houtput, h⟩))

theorem Filled.unique {input output other template result result' : List Char}
    (h : Filled input output template result) (h' : Filled input other template result')
    (habsent : ¬ outputPlaceholder <:+: template) : result = result' := by
  induction h generalizing result' with
  | nil =>
    rcases h'.cases_start with ⟨-, rfl⟩ | ⟨rest, _, hrest, -⟩ | ⟨rest, _, hrest, -⟩ |
      ⟨c, rest, _, hrest, -⟩
    · rfl
    · exact absurd (List.append_eq_nil_iff.mp hrest.symm).1 placeholders_ne_nil.1
    · exact absurd (List.append_eq_nil_iff.mp hrest.symm).1 placeholders_ne_nil.2
    · cases hrest
  | @input template result h ih =>
    have hbegins := List.prefix_append inputPlaceholder template
    rcases h'.cases_start with ⟨hnil, -⟩ | ⟨rest, filled, hrest, rfl, hfilled⟩ |
      ⟨rest, _, hrest, -⟩ | ⟨_, _, _, -, -, hinput, -⟩
    · exact absurd (List.append_eq_nil_iff.mp hnil).1 placeholders_ne_nil.1
    · have hrest' : template = rest := List.append_cancel_left hrest
      subst hrest'
      have habsent' : ¬ outputPlaceholder <:+: template := fun hin =>
        habsent (hin.trans (List.suffix_append _ _).isInfix)
      rw [ih hfilled habsent']
    · exact absurd ⟨[], rest, by simp [hrest]⟩ habsent
    · exact absurd hbegins hinput
  | output h ih => exact absurd (List.prefix_append _ _).isInfix habsent
  | @char c template result hinput houtput h ih =>
    rcases h'.cases_start with ⟨hnil, -⟩ | ⟨rest, _, hrest, -⟩ | ⟨rest, _, hrest, -⟩ |
      ⟨d, rest, filled, hrest, rfl, -, -, hfilled⟩
    · cases hnil
    · exact absurd ⟨rest, hrest.symm⟩ hinput
    · exact absurd ⟨rest, hrest.symm⟩ houtput
    · obtain ⟨rfl, rfl⟩ := List.cons.inj hrest
      have habsent' : ¬ outputPlaceholder <:+: template := fun hin =>
        habsent (hin.trans (List.suffix_cons c template).isInfix)
      rw [ih hfilled habsent']

/-- A template that the name of the input completes to a placeholder of the output. -/
def trap (before after : List Char) : List Char :=
  before ++ inputPlaceholder ++ after

section Trap

variable {before after : List Char} (hbefore : '\x7d' ∉ before) (hafter : '\x7b' ∉ after)
include hbefore hafter

theorem outputPlaceholder_absent_trap : ¬ outputPlaceholder <:+: trap before after := by
  have htrap : trap before after =
      (before ++ ['\x7b', 'i']) ++ 'n' :: (['p', 'u', 't', '\x7d'] ++ after) := by
    rw [trap, inputPlaceholder_eq]
    simp
  rw [htrap, infix_append_cons_iff (by decide)]
  rintro (hin | hin)
  · have hclose : '\x7d' ∈ before ++ ['\x7b', 'i'] := hin.subset (by decide)
    simp [hbefore] at hclose
  · have hopen : '\x7b' ∈ ['p', 'u', 't', '\x7d'] ++ after := hin.subset (by decide)
    simp [hafter] at hopen

theorem replaceAll_trap (input : List Char) :
    replaceAll inputPlaceholder input (trap before after) = before ++ input ++ after := by
  have hfirst : '\x7b' ∉ ['i', 'n', 'p', 'u', 't', '\x7d'] := by decide
  have hin : ¬ inputPlaceholder <:+: before := fun h => hbefore (h.subset (by decide))
  have hrest : ¬ inputPlaceholder <:+: after := fun h => hafter (h.subset (by decide))
  have hcut : cutAt? inputPlaceholder (trap before after) = some (before, after) :=
    (cutAt?_eq_some_iff hfirst).mpr ⟨rfl, hin⟩
  rw [replaceAll_of_cutAt? placeholders_ne_nil.1 hcut,
    replaceAll_of_absent placeholders_ne_nil.1 hrest]

end Trap

theorem exists_length_replaceAll {part : List Char} (hpart : part ≠ []) (list : List Char) :
    ∃ count, (part <:+: list → 0 < count) ∧ ∀ other,
      (replaceAll part other list).length + count * part.length =
        list.length + count * other.length := by
  induction hn : list.length using Nat.strong_induction_on generalizing list with
  | _ n ih =>
    cases hcut : cutAt? part list with
    | none =>
      have habsent := (cutAt?_eq_none_iff hpart).mp hcut
      refine ⟨0, fun h => absurd h habsent, fun other => ?_⟩
      rw [replaceAll_of_absent hpart habsent, hn, Nat.zero_mul, Nat.zero_mul]
    | some cut =>
      obtain ⟨before, after⟩ := cut
      obtain ⟨hlist, -⟩ := eq_of_cutAt? hpart hcut
      obtain ⟨count, -, hcount⟩ := ih after.length (hn ▸ length_after_lt hpart hcut) after rfl
      refine ⟨count + 1, fun _ => Nat.succ_pos count, fun other => ?_⟩
      have hafter := hcount other
      have hlength := congrArg List.length hlist
      rw [replaceAll_of_cutAt? hpart hcut]
      simp only [List.length_append] at hlength ⊢
      rw [Nat.succ_mul, Nat.succ_mul]
      omega

/-- A name that is not inert shows: some template comes out wrong. -/
theorem inert_of_filled {input : List Char}
    (h : ∀ template, Filled input [] template (renderArg input [] template) ∧
      Filled input ['-'] template (renderArg input ['-'] template)) : Inert input := by
  intro before after hbefore hafter hinfix
  obtain ⟨hempty, hdash⟩ := h (trap before after)
  have hsame := hempty.unique hdash (outputPlaceholder_absent_trap hbefore hafter)
  rw [renderArg, renderArg, replaceAll_trap hbefore hafter] at hsame
  -- yet the placeholder that has come about is gone in one, and has left a dash in the other
  obtain ⟨count, hpos, hlength⟩ :=
    exists_length_replaceAll placeholders_ne_nil.2 (before ++ input ++ after)
  have hcount := hpos hinfix
  have hshort := hlength []
  have hlong := hlength ['-']
  rw [hsame] at hshort
  simp only [List.length_nil, List.length_singleton] at hshort hlong
  omega

/-- Each rendered argument is its template with the names of both files filled in. -/
def FillsTemplates (c : CompilerConfig) (input output : Path) : Prop :=
  List.Forall₂
    (fun arg result =>
      Filled input.display.toList output.display.toList arg.toList result.toList)
    c.args (c.renderArgs input output)

theorem fillsTemplates_iff {c : CompilerConfig} {input output : Path} :
    c.FillsTemplates input output ↔ ∀ arg ∈ c.args,
      Filled input.display.toList output.display.toList arg.toList
        (renderArg input.display.toList output.display.toList arg.toList) := by
  simp only [FillsTemplates, renderArgs, List.forall₂_map_right_iff, List.forall₂_same,
    String.toList_ofList]

/-- Every list of arguments comes out as it should with this input, whatever the output is called,
exactly when the input's name is inert. An absolute path with an extension is inert unless the
output's placeholder stands in it. -/
theorem arguments_filled_iff_inert (input : Path) :
    ((∀ (c : CompilerConfig) (output : Path), c.FillsTemplates input output) ↔
        Inert input.display.toList) ∧
      ∀ first last middle, first ∉ outputPlaceholder → last ∉ outputPlaceholder →
        input.display.toList = first :: middle ++ [last] →
          (Inert input.display.toList ↔ ¬ outputPlaceholder <:+: input.display.toList) := by
  refine ⟨⟨fun h => inert_of_filled fun template => ?_, fun h c output => ?_⟩,
    fun first last middle hfirst hlast hname => ?_⟩
  · let c : CompilerConfig := { command := "", args := [String.ofList template] }
    have hempty := fillsTemplates_iff.mp (h c (.ofText "")) (String.ofList template) (by simp [c])
    have hdash := fillsTemplates_iff.mp (h c (.ofText "-")) (String.ofList template) (by simp [c])
    rw [String.toList_ofList] at hempty hdash
    exact ⟨hempty, hdash⟩
  · exact fillsTemplates_iff.mpr fun arg _ => filled_renderArg h _ arg.toList
  · rw [hname]
    exact inert_iff_of_foreign_ends hfirst hlast

/-- In a directory that is called like the output's placeholder, the compiler is not given the name of
its input. -/
theorem directory_named_like_placeholder :
    let input := Path.ofText "/tmp/\x7boutput\x7d/document.yar"
    let output := Path.ofText "/tmp/\x7boutput\x7d/document.yarc"
    standard.renderArgs input output =
        ["/tmp//tmp/\x7boutput\x7d/document.yarc/document.yar",
          "/tmp/\x7boutput\x7d/document.yarc"] ∧
      ¬ standard.FillsTemplates input output := by
  intro input output
  have hrender : standard.renderArgs input output =
      ["/tmp//tmp/\x7boutput\x7d/document.yarc/document.yar",
        "/tmp/\x7boutput\x7d/document.yarc"] := by decide +kernel
  have habsent : ¬ outputPlaceholder <:+: inputPlaceholder := by decide
  have hwanted : Filled input.display.toList output.display.toList inputPlaceholder
      input.display.toList := by
    have hwhole : Filled input.display.toList output.display.toList (inputPlaceholder ++ [])
        (input.display.toList ++ []) := .input .nil
    rwa [List.append_nil, List.append_nil] at hwhole
  refine ⟨hrender, fun h => ?_⟩
  have hfilled := fillsTemplates_iff.mp h "\x7binput\x7d" (by decide)
  have hsame := congrArg List.length (hwanted.unique hfilled habsent)
  have hlength : input.display.toList.length = 26 := by decide +kernel
  have hlonger : (renderArg input.display.toList output.display.toList
      "\x7binput\x7d".toList).length = 45 := by decide +kernel
  rw [hlength, hlonger] at hsame
  exact absurd hsame (by decide)

end CompilerConfig

end RuleServer

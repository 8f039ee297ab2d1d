import Mathlib
import RuleServer.Proofs.Text.Cut
import RuleServer.Text.Blank

/-!
Blanks. Trimming takes away those around a text, and the words of a text are what stands between
them.
-/

namespace RuleServer

theorem isBlank_of_visible {c : Char} (h : 33 ≤ c.toNat ∧ c.toNat < 0x80) :
    isBlank c = false := by
  have h133 : c.toNat < 133 := by omega
  have h33 : ¬ c.toNat < 33 := by omega
  have h32 : ¬ c.toNat < 32 := by omega
  have h14 : ¬ c.toNat < 14 := by omega
  have h9 : ¬ c.toNat < 9 := by omega
  simp [isBlank, blankClass, CharClass.contains, CharClass.inside, h133, h33, h32, h14, h9]

/-- A text without blanks around it. -/
structure IsTrimmed (cs : List Char) : Prop where
  head : ∀ c ∈ cs.head?, isBlank c = false
  last : ∀ c ∈ cs.getLast?, isBlank c = false

theorem trimEnd_eq_rdropWhile (cs : List Char) : trimEnd cs = cs.rdropWhile isBlank := rfl

theorem isTrimmed_trim (cs : List Char) : IsTrimmed (trim cs) where
  head := by
    intro c hc
    -- what trimming the end leaves is a first part of what trimming the start leaves
    obtain ⟨rest, hrest⟩ := List.rdropWhile_prefix isBlank (trimStart cs)
    rw [← trimEnd_eq_rdropWhile] at hrest
    have hhead : (trimStart cs).head? = some c := by
      rw [← hrest, List.head?_append]
      simp [show (trimEnd (trimStart cs)).head? = some c from hc]
    have hnot := List.head?_dropWhile_not isBlank cs
    rw [← trimStart, hhead] at hnot
    exact hnot
  last := by
    intro c hc
    obtain ⟨hne, rfl⟩ := List.mem_getLast?_eq_getLast hc
    have hlast := List.rdropWhile_last_not isBlank (trimStart cs) hne
    exact Bool.eq_false_iff.mpr hlast

theorem trim_of_isTrimmed {cs : List Char} (h : IsTrimmed cs) : trim cs = cs := by
  have hstart : trimStart cs = cs := by
    cases cs with
    | nil => rfl
    | cons c cs => simp [trimStart, h.head c rfl]
  rw [trim, hstart, trimEnd_eq_rdropWhile, List.rdropWhile_eq_self_iff]
  intro hne
  simp [h.last _ (List.getLast?_eq_getLast_of_ne_nil hne)]

theorem trim_concat {c : Char} (hc : isBlank c) (cs : List Char) : trim (cs ++ [c]) = trim cs := by
  simp only [trim, trimStart, List.dropWhile_append, trimEnd_eq_rdropWhile]
  split_ifs with hall
  · simp [hc, List.isEmpty_iff.mp hall]
  · exact List.rdropWhile_concat_pos isBlank _ c hc

theorem trim_of_visible {cs : List Char} (h : ∀ c ∈ cs, isBlank c = false) : trim cs = cs := by
  refine trim_of_isTrimmed ⟨fun c hc => h c ?_, fun c hc => h c ?_⟩
  · exact List.mem_of_mem_head? hc
  · exact List.mem_of_getLast? hc

theorem trim_eq_iff {cs text : List Char} :
    trim cs = text ↔ IsTrimmed text ∧ ∃ before after, cs = before ++ text ++ after ∧
      (∀ c ∈ before, isBlank c) ∧ ∀ c ∈ after, isBlank c := by
  constructor
  · rintro rfl
    refine ⟨isTrimmed_trim cs, cs.takeWhile isBlank, (trimStart cs).rtakeWhile isBlank, ?_, ?_, ?_⟩
    · rw [trim, trimEnd_eq_rdropWhile, List.append_assoc, List.rdropWhile_append_rtakeWhile,
        trimStart, List.takeWhile_append_dropWhile]
    · exact fun c hc => List.mem_takeWhile_imp hc
    · exact fun c hc => List.mem_rtakeWhile_imp hc
  · rintro ⟨htrimmed, before, after, rfl, hbefore, hafter⟩
    induction after using List.reverseRecOn with
    | nil =>
      have hstart : trimStart (before ++ text) = trimStart text :=
        List.dropWhile_append_of_pos hbefore
      rw [List.append_nil, trim, hstart]
      exact trim_of_isTrimmed htrimmed
    | append_singleton after c ih =>
      rw [← List.append_assoc, trim_concat (hafter c (by simp))]
      exact ih fun d hd => hafter d (by simp [hd])

/-- A text made of words and of the blanks around and between them. -/
inductive Spaced : (words : List (List Char)) → List Char → Prop
  | nil : Spaced [] []
  | blank {c : Char} {ws : List (List Char)} {cs : List Char} (hc : isBlank c) (h : Spaced ws cs) :
      Spaced ws (c :: cs)
  | word {w : List Char} {ws : List (List Char)} {cs : List Char} (hne : w ≠ [])
      (hw : ∀ c ∈ w, isBlank c = false) (hnext : ∀ c ∈ cs.head?, isBlank c) (h : Spaced ws cs) :
      Spaced (w :: ws) (w ++ cs)

theorem words_nil : words [] = [] := rfl

theorem words_blank {c : Char} (hc : isBlank c) (cs : List Char) : words (c :: cs) = words cs := by
  simp [words, splitWhere, hc]

theorem words_word {w cs : List Char} (hne : w ≠ []) (hw : ∀ c ∈ w, isBlank c = false)
    (hnext : ∀ c ∈ cs.head?, isBlank c) : words (w ++ cs) = w :: words cs := by
  have hsplit : splitWhere isBlank w = [w] := splitWhere_of_forall_not hw
  cases cs with
  | nil => simp [words, hsplit, hne, splitWhere]
  | cons c cs =>
    have hc : isBlank c := hnext c rfl
    rw [words_blank hc, words, splitWhere_append_cons hc, hsplit]
    simp [words, hne]

theorem words_of_spaced {ws : List (List Char)} {cs : List Char} (h : Spaced ws cs) :
    words cs = ws := by
  induction h with
  | nil => exact words_nil
  | blank hc _ ih => rw [words_blank hc, ih]
  | word hne hw hnext _ ih => rw [words_word hne hw hnext, ih]

theorem spaced_words (cs : List Char) : Spaced (words cs) cs := by
  induction hn : cs.length using Nat.strong_induction_on generalizing cs with
  | _ n ih =>
    cases cs with
    | nil => exact .nil
    | cons c cs =>
      by_cases hc : isBlank c
      · rw [words_blank hc]
        exact .blank hc (ih cs.length (by simp [← hn]) cs rfl)
      · -- the first word is all that stands before the first blank
        have hparts := List.takeWhile_append_dropWhile (p := fun c => !isBlank c) (l := c :: cs)
        have hne : (c :: cs).takeWhile (fun c => !isBlank c) ≠ [] := by simp [hc]
        have hw : ∀ d ∈ (c :: cs).takeWhile (fun c => !isBlank c), isBlank d = false :=
          fun d hd => by simpa using List.mem_takeWhile_imp hd
        have hnext : ∀ d ∈ ((c :: cs).dropWhile (fun c => !isBlank c)).head?, isBlank d := by
          intro d hd
          have hnot := List.head?_dropWhile_not (fun c => !isBlank c) (c :: cs)
          rw [hd] at hnot
          simpa using hnot
        have hshort : ((c :: cs).dropWhile (fun c => !isBlank c)).length < n := by
          have hlength := congrArg List.length hparts
          rw [List.length_append, hn] at hlength
          have hpos := List.length_pos_iff.mpr hne
          omega
        rw [← hparts, words_word hne hw hnext]
        exact .word hne hw hnext (ih _ hshort _ rfl)

theorem words_eq_iff {cs : List Char} {ws : List (List Char)} : words cs = ws ↔ Spaced ws cs :=
  ⟨fun h => h ▸ spaced_words cs, words_of_spaced⟩

end RuleServer

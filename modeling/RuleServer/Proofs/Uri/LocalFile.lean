import Mathlib
import RuleServer.Proofs.Decode.Record
import RuleServer.Proofs.Text.Cut
import RuleServer.Proofs.Text.Numeral
import RuleServer.Proofs.Text.Utf8
import RuleServer.Uri.Url

/-!
Files named by their path. Every path of plain segments, whatever bytes these are made of, is the
local file of the URI in which it is written with percent signs; URIs with a scheme of another kind
have no local file.
-/

namespace RuleServer

open UriReference (isUnreserved isAsciiLetter)

theorem isAsciiLetter_iff {c : Char} :
    isAsciiLetter c ↔ (97 ≤ c.toNat ∧ c.toNat ≤ 122) ∨ (65 ≤ c.toNat ∧ c.toNat ≤ 90) := by
  simp only [isAsciiLetter, Bool.or_eq_true, Bool.and_eq_true, decide_eq_true_eq]
  rfl

theorem isUnreserved_iff {c : Char} :
    isUnreserved c ↔ isAsciiLetter c ∨ isDigit c ∨ c ∈ ['-', '.', '_', '~'] := by
  have hmarks : "-._~".toList = ['-', '.', '_', '~'] := rfl
  simp only [isUnreserved, hmarks, Bool.or_eq_true, List.contains_iff_mem, or_assoc]

theorem isHexDigit_iff {c : Char} :
    isHexDigit c ↔ isDigit c ∨ (97 ≤ c.toNat ∧ c.toNat ≤ 102) ∨ (65 ≤ c.toNat ∧ c.toNat ≤ 70) := by
  simp only [isHexDigit, Bool.or_eq_true, Bool.and_eq_true, decide_eq_true_eq, or_assoc]
  rfl

theorem isUnreserved_of_isHexDigit {c : Char} (h : isHexDigit c) : isUnreserved c := by
  rw [isUnreserved_iff, isAsciiLetter_iff]
  rcases isHexDigit_iff.mp h with hdigit | hletter
  · exact .inr (.inl hdigit)
  · exact .inl (by omega)

theorem toNat_of_isUnreserved {c : Char} (h : isUnreserved c) :
    45 ≤ c.toNat ∧ c.toNat < 0x80 ∧ c.toNat ≠ 47 ∧ c.toNat ≠ 63 ∧ c.toNat ≠ 92 := by
  rcases isUnreserved_iff.mp h with hletter | hdigit | hmark
  · have hrange := isAsciiLetter_iff.mp hletter
    omega
  · have hrange := isDigit_iff.mp hdigit
    omega
  · simp only [List.mem_cons, List.not_mem_nil, or_false] at hmark
    rcases hmark with rfl | rfl | rfl | rfl <;> decide

namespace Percent

/-- How a byte of a path is written: a letter, a digit or one of the marks `-`, `.`, `_` and `~` as
itself, any other byte as a percent sign and two hexadecimal digits. -/
inductive Spells : UInt8 → List Char → Prop
  | plain {c : Char} (hc : isUnreserved c) : Spells (asciiByte c) [c]
  | escaped {b : UInt8} {high low : Char} (hb : isUnreserved (Char.ofNat b.toNat) = false)
      (hhigh : isHexDigit high) (hlow : isHexDigit low)
      (hvalue : hexDigitValue high * 16 + hexDigitValue low = b.toNat) :
      Spells b ['%', high, low]

/-- A text in which the bytes are written one after another. -/
inductive Encodes : Bytes → List Char → Prop
  | nil : Encodes [] []
  | cons {b : UInt8} {bytes : Bytes} {spelling text : List Char} (hb : Spells b spelling)
      (h : Encodes bytes text) : Encodes (b :: bytes) (spelling ++ text)

theorem Spells.chars {b : UInt8} {spelling : List Char} (h : Spells b spelling) :
    ∀ c ∈ spelling, isUnreserved c ∨ c = '%' := by
  cases h with
  | plain hc =>
    intro c hmem
    rw [List.mem_singleton.mp hmem]
    exact .inl hc
  | escaped hb hhigh hlow hvalue =>
    intro c hmem
    simp only [List.mem_cons, List.not_mem_nil, or_false] at hmem
    rcases hmem with rfl | rfl | rfl
    · exact .inr rfl
    · exact .inl (isUnreserved_of_isHexDigit hhigh)
    · exact .inl (isUnreserved_of_isHexDigit hlow)

theorem Encodes.chars {bytes : Bytes} {text : List Char} (h : Encodes bytes text) :
    ∀ c ∈ text, isUnreserved c ∨ c = '%' := by
  induction h with
  | nil => simp
  | cons hb h ih =>
    intro c hmem
    rcases List.mem_append.mp hmem with hspelling | htext
    · exact hb.chars c hspelling
    · exact ih c htext

theorem Encodes.toNat_of_mem {bytes : Bytes} {text : List Char} (h : Encodes bytes text) {c : Char}
    (hc : c ∈ text) :
    33 ≤ c.toNat ∧ c.toNat < 0x80 ∧ c.toNat ≠ 35 ∧ c.toNat ≠ 47 ∧ c.toNat ≠ 63 ∧ c.toNat ≠ 92 := by
  rcases h.chars c hc with hplain | rfl
  · have hrange := toNat_of_isUnreserved hplain
    omega
  · decide

theorem decode_of_ne {b : UInt8} (hb : b ≠ 37) (s : Bytes) : decode (b :: s) = b :: decode s := by
  rw [decode]
  rintro a c rest rfl rfl
  exact hb rfl

theorem ofNat_asciiByte {c : Char} (h : c.toNat < 0x80) : Char.ofNat (asciiByte c).toNat = c := by
  rw [toNat_asciiByte h, Char.ofNat_toNat]

theorem isHexByte_asciiByte {c : Char} (h : isHexDigit c) : isHexByte (asciiByte c) := by
  have hc := (toNat_of_isUnreserved (isUnreserved_of_isHexDigit h)).2.1
  have hlt : asciiByte c < 128 := by
    rw [UInt8.lt_iff_toNat_lt, toNat_asciiByte hc]
    exact hc
  simp [isHexByte, ofNat_asciiByte hc, h, hlt]

theorem hexByteValue_asciiByte {c : Char} (h : isHexDigit c) :
    hexByteValue (asciiByte c) = hexDigitValue c := by
  have hc := (toNat_of_isUnreserved (isUnreserved_of_isHexDigit h)).2.1
  rw [hexByteValue, ofNat_asciiByte hc]

theorem decode_spelling {b : UInt8} {spelling : List Char} (h : Spells b spelling) (rest : Bytes) :
    decode (Utf8.encode spelling ++ rest) = b :: decode rest := by
  have hascii : Utf8.encode spelling = spelling.map asciiByte :=
    Utf8.encode_ascii fun c hc => (h.chars c hc).elim
      (fun hplain => (toNat_of_isUnreserved hplain).2.1) (fun heq => by rw [heq]; decide)
  rw [hascii]
  cases h with
  | @plain c hc =>
    have hrange := toNat_of_isUnreserved hc
    have hne : asciiByte c ≠ 37 := by
      intro heq
      have hnat := congrArg UInt8.toNat heq
      rw [toNat_asciiByte hrange.2.1] at hnat
      have h37 : (37 : UInt8).toNat = 37 := rfl
      omega
    rw [List.map_singleton, List.singleton_append, decode_of_ne hne]
  | escaped hb hhigh hlow hvalue =>
    have hpercent : asciiByte '%' = 37 := rfl
    simp only [List.map_cons, List.map_nil, List.cons_append, List.nil_append, hpercent]
    rw [decode, isHexByte_asciiByte hhigh, isHexByte_asciiByte hlow, hexByteValue_asciiByte hhigh,
      hexByteValue_asciiByte hlow, hvalue]
    simp [Nat.toUInt8]

theorem Encodes.decode {bytes : Bytes} {text : List Char} (h : Encodes bytes text) :
    decode (Utf8.encode text) = bytes := by
  induction h with
  | nil => rfl
  | cons hb _ ih => rw [Utf8.encode_append, decode_spelling hb, ih]

end Percent

namespace Url

open Percent (Spells Encodes)

theorem plainDots_of_ne {c : Char} (hc : c ≠ '%') (cs : List Char) :
    plainDots (c :: cs) = c :: plainDots cs := by
  rw [plainDots]
  · rintro rest rfl
    exact absurd rfl hc
  · rintro rest rfl
    exact absurd rfl hc

theorem ne_percent {c : Char} (h : isUnreserved c) : c ≠ '%' := by
  rintro rfl
  exact absurd h (by decide)

/-- A dot is never written with a percent sign. -/
theorem plainDots_spelling {b : UInt8} {spelling : List Char} (h : Spells b spelling)
    (text : List Char) : plainDots (spelling ++ text) = spelling ++ plainDots text := by
  cases h with
  | plain hc => exact plainDots_of_ne (ne_percent hc) text
  | @escaped b high low hb hhigh hlow hvalue =>
    have hdot : b ≠ 46 := by
      rintro rfl
      exact absurd hb (by decide)
    have hstart : plainDots ('%' :: high :: low :: text) = '%' :: plainDots (high :: low :: text) := by
      rw [plainDots]
      · rintro rest - heq
        obtain ⟨rfl, rfl, -⟩ : high = '2' ∧ low = 'e' ∧ text = rest := by simpa using heq
        exact hdot (UInt8.toNat_inj.mp hvalue.symm)
      · rintro rest - heq
        obtain ⟨rfl, rfl, -⟩ : high = '2' ∧ low = 'E' ∧ text = rest := by simpa using heq
        exact hdot (UInt8.toNat_inj.mp hvalue.symm)
    simp only [List.cons_append, List.nil_append]
    rw [hstart, plainDots_of_ne (ne_percent (isUnreserved_of_isHexDigit hhigh)),
      plainDots_of_ne (ne_percent (isUnreserved_of_isHexDigit hlow))]

theorem plainDots_of_encodes {bytes : Bytes} {text : List Char} (h : Encodes bytes text) :
    plainDots text = text := by
  induction h with
  | nil => rfl
  | cons hb _ ih => rw [plainDots_spelling hb, ih]

/-- A segment of a path: not empty, without slashes, and no dot segment. -/
structure IsSegment (bytes : Bytes) : Prop where
  ne_nil : bytes ≠ []
  slash_notMem : Path.slash ∉ bytes
  ne_dot : bytes ≠ Path.dot
  ne_dotDot : bytes ≠ Path.dotDot

theorem isSlash_of_encodes {bytes : Bytes} {text : List Char} (h : Encodes bytes text) :
    ∀ c ∈ text, isSlash c = false := by
  intro c hc
  have hrange := h.toNat_of_mem hc
  have hslash : c ≠ '/' := fun heq => hrange.2.2.2.1 (by rw [heq]; rfl)
  have hback : c ≠ '\\' := fun heq => hrange.2.2.2.2.2 (by rw [heq]; rfl)
  simp [isSlash, hslash, hback]

theorem splitWhere_segments {text : List Char} {texts : List (List Char)}
    (h : ∀ t ∈ text :: texts, ∀ c ∈ t, isSlash c = false) :
    splitWhere isSlash (text ++ texts.flatMap ('/' :: ·)) = text :: texts := by
  induction texts generalizing text with
  | nil => simpa using splitWhere_of_forall_not (h text (by simp))
  | cons next texts ih =>
    have hfirst : splitWhere isSlash text = [text] := splitWhere_of_forall_not (h text (by simp))
    have hrest := ih fun t ht => h t (List.mem_cons_of_mem text ht)
    rw [List.flatMap_cons, List.cons_append, splitWhere_append_cons (by rfl), hfirst, hrest]
    rfl

theorem resolve_of_plain {segments : List (List Char)}
    (h : ∀ s ∈ segments, plainDots s ≠ ['.', '.'] ∧ plainDots s ≠ ['.']) (done : List (List Char)) :
    resolve segments done = segments.reverse ++ done := by
  induction segments generalizing done with
  | nil => rfl
  | cons s segments ih =>
    have hs := h s (by simp)
    cases segments with
    | nil => simp [resolve, hs]
    | cons next segments =>
      have hrest := ih (fun t ht => h t (List.mem_cons_of_mem s ht)) (s :: done)
      rw [resolve, if_neg hs.1, if_neg hs.2, hrest]
      · simp
      · simp

theorem ne_nil_of_encodes {bytes : Bytes} {text : List Char} (h : Encodes bytes text)
    (hbytes : IsSegment bytes) : text ≠ [] := by
  rintro rfl
  exact hbytes.ne_nil h.decode.symm

theorem plainDots_ne_of_encodes {bytes : Bytes} {text : List Char} (h : Encodes bytes text)
    (hbytes : IsSegment bytes) : plainDots text ≠ ['.', '.'] ∧ plainDots text ≠ ['.'] := by
  rw [plainDots_of_encodes h]
  constructor
  · rintro rfl
    exact hbytes.ne_dotDot h.decode.symm
  · rintro rfl
    exact hbytes.ne_dot h.decode.symm

/-- Texts in which the segments of a path are written. -/
def Written (segments : List Bytes) (texts : List (List Char)) : Prop :=
  List.Forall₂ (fun bytes text => IsSegment bytes ∧ Encodes bytes text) segments texts

theorem Written.exists_of_mem {segments : List Bytes} {texts : List (List Char)}
    (h : Written segments texts) : ∀ text ∈ texts, ∃ bytes, IsSegment bytes ∧ Encodes bytes text := by
  induction h with
  | nil => simp
  | @cons bytes text segments texts hs _ ih =>
    intro t ht
    rcases List.mem_cons.mp ht with rfl | hrest
    · exact ⟨bytes, hs⟩
    · exact ih t hrest

theorem Written.toNat_of_mem {segments : List Bytes} {texts : List (List Char)}
    (h : Written segments texts) :
    ∀ c ∈ texts.flatMap ('/' :: ·), 33 ≤ c.toNat ∧ c.toNat ≠ 35 ∧ c.toNat ≠ 63 := by
  intro c hc
  obtain ⟨text, htext, hmem⟩ := List.mem_flatMap.mp hc
  rcases List.mem_cons.mp hmem with rfl | hin
  · decide
  · obtain ⟨bytes, -, hencodes⟩ := h.exists_of_mem text htext
    have hrange := hencodes.toNat_of_mem hin
    omega

theorem fileSegments_written {segments : List Bytes} {text : List Char} {texts : List (List Char)}
    (h : Written segments (text :: texts)) :
    fileSegments (text ++ texts.flatMap ('/' :: ·)) = text :: texts := by
  have hpath : (text ++ texts.flatMap ('/' :: ·)).takeWhile (fun c => c ≠ '?' ∧ c ≠ '#') =
      text ++ texts.flatMap ('/' :: ·) := by
    rw [List.takeWhile_eq_self_iff]
    intro c hc
    have hrange := h.toNat_of_mem c (List.mem_cons_of_mem '/' hc)
    have hquery : c ≠ '?' := fun heq => hrange.2.2 (by rw [heq]; rfl)
    have hfragment : c ≠ '#' := fun heq => hrange.2.1 (by rw [heq]; rfl)
    simp [hquery, hfragment]
  have hsplit : splitWhere isSlash (text ++ texts.flatMap ('/' :: ·)) = text :: texts := by
    refine splitWhere_segments fun t ht => ?_
    obtain ⟨bytes, -, hencodes⟩ := h.exists_of_mem t ht
    exact isSlash_of_encodes hencodes
  have hresolve : resolve (text :: texts) [] = (text :: texts).reverse ++ [] := by
    refine resolve_of_plain (fun t ht => ?_) []
    obtain ⟨bytes, hsegment, hencodes⟩ := h.exists_of_mem t ht
    exact plainDots_ne_of_encodes hencodes hsegment
  have hfirst : text ≠ [] := by
    obtain ⟨bytes, hsegment, hencodes⟩ := h.exists_of_mem text (by simp)
    exact ne_nil_of_encodes hencodes hsegment
  simp only [fileSegments, hpath, hsplit, hresolve, List.append_nil, List.reverse_reverse]
  rw [List.dropWhile_cons_of_neg (by simpa using hfirst)]

/-- The path made of segments, each behind a slash. -/
def joined (segments : List Bytes) : Bytes :=
  segments.flatMap (Path.slash :: ·)

/-- A path that ends in a letter and a colon or a bar, as a drive does. -/
def EndsInDrive (bytes : Bytes) : Prop :=
  ∃ front letter mark, bytes = front ++ [letter, mark] ∧ isLetterByte letter ∧
    (mark = 58 ∨ mark = 124)

theorem endsInDrive_eq_false {bytes : Bytes} (h : ¬ EndsInDrive bytes) :
    endsInDrive bytes = false := by
  unfold endsInDrive
  split
  · rename_i mark letter first front hreverse
    have hbytes : bytes = (first :: front).reverse ++ [letter, mark] := by
      rw [← List.reverse_reverse bytes, hreverse]
      simp
    by_contra hdrive
    simp only [Bool.not_eq_false, Bool.and_eq_true, Bool.or_eq_true, decide_eq_true_eq] at hdrive
    exact h ⟨_, letter, mark, hbytes, hdrive⟩
  · rfl

theorem pathBytes_written {segments : List Bytes} {texts : List (List Char)}
    (h : Written segments texts) : pathBytes texts = joined segments := by
  induction h with
  | nil => rfl
  | cons hs _ ih =>
    simp only [pathBytes, joined, List.flatMap_cons] at ih ⊢
    rw [hs.2.decode, ih]

theorem tidy_of_visible {cs : List Char} (h : ∀ c ∈ cs, 33 ≤ c.toNat) : tidy cs = cs := by
  have hkept : ∀ c ∈ cs, ¬ isStripped c := by
    intro c hc
    have hvisible := h c hc
    simp only [isStripped, decide_eq_true_eq]
    omega
  have hstart : cs.dropWhile isStripped = cs := by
    cases cs with
    | nil => rfl
    | cons c cs => exact List.dropWhile_cons_of_neg (hkept c (by simp))
  have hend : cs.reverse.dropWhile isStripped = cs.reverse := by
    cases hreverse : cs.reverse with
    | nil => rfl
    | cons c rest =>
      refine List.dropWhile_cons_of_neg (hkept c ?_)
      rw [← List.mem_reverse, hreverse]
      simp
  have hplain : ∀ c ∈ cs, c ≠ '\t' ∧ c ≠ '\n' ∧ c ≠ '\r' := by
    intro c hc
    have hvisible := h c hc
    refine ⟨?_, ?_, ?_⟩ <;> rintro rfl <;> exact absurd hvisible (by decide)
  rw [tidy, hstart, hend, List.reverse_reverse, List.filter_eq_self]
  intro c hc
  simpa using hplain c hc

theorem scheme?_file (rest : List Char) :
    scheme? ("file:".toList ++ rest) = some ("file".toList, rest) := rfl

theorem fileWithHost_written {segments : List Bytes} {text : List Char} {texts : List (List Char)}
    (h : Written segments (text :: texts)) :
    fileWithHost ((text :: texts).flatMap ('/' :: ·)) = .ok (.file none (text :: texts)) := by
  have hslash : endsAuthority true '/' = true := rfl
  have hdrive : isDriveLetter [] = false := rfl
  have hafter : ∀ cs, afterSlash ('/' :: cs) = cs := fun _ => rfl
  rw [List.flatMap_cons, List.cons_append, fileWithHost]
  simp only [List.takeWhile_cons, hslash, Bool.not_true, Bool.false_eq_true, if_false, hdrive,
    List.length_nil, List.drop_zero, hafter, fileSegments_written h, if_true, pure_bind]
  -- without a host there is none to be dropped
  rw [ite_self]
  rfl

theorem parse_written {segments : List Bytes} {text : List Char} {texts : List (List Char)}
    (h : Written segments (text :: texts)) :
    parse (String.ofList ("file://".toList ++ (text :: texts).flatMap ('/' :: ·))) =
      .ok (.file none (text :: texts)) := by
  have htidy : tidy ("file://".toList ++ (text :: texts).flatMap ('/' :: ·)) =
      "file:".toList ++ ('/' :: '/' :: (text :: texts).flatMap ('/' :: ·)) := by
    refine tidy_of_visible fun c hc => ?_
    rcases List.mem_append.mp hc with hscheme | hpath
    · have hvisible : ∀ c ∈ ['f', 'i', 'l', 'e', ':', '/', '/'], 33 ≤ c.toNat := by simp
      exact hvisible c hscheme
    · exact (h.toNat_of_mem c hpath).1
  have hslashes : ∀ cs, afterFileScheme ('/' :: '/' :: cs) = fileWithHost cs := fun _ => rfl
  rw [parse, String.toList_ofList, htidy, scheme?_file]
  simp only [if_true, hslashes, fileWithHost_written h]

theorem file_of_fileWithHost {cs : List Char} {url : Url} (h : fileWithHost cs = .ok url) :
    ∃ host segments, url = .file host segments := by
  simp only [fileWithHost] at h
  split_ifs at h
  · cases h
    exact ⟨_, _, rfl⟩
  · obtain ⟨host, -, hurl⟩ := bind_eq_ok_iff.mp h
    cases hurl
    exact ⟨_, _, rfl⟩
  · obtain ⟨host, -, hurl⟩ := bind_eq_ok_iff.mp h
    cases hurl
    exact ⟨_, _, rfl⟩

theorem file_of_afterFileScheme {cs : List Char} {url : Url} (h : afterFileScheme cs = .ok url) :
    ∃ host segments, url = .file host segments := by
  unfold afterFileScheme at h
  split at h
  · split_ifs at h
    · exact file_of_fileWithHost h
    · cases h
      exact ⟨_, _, rfl⟩
  · cases h
    exact ⟨_, _, rfl⟩

def scheme : Url → String
  | file _ _ => "file"
  | other name => name

theorem scheme?_of_parse {uri : String} {url : Url} (h : parse uri = .ok url) :
    ∃ rest, scheme? (tidy uri.toList) = some (url.scheme.toList, rest) := by
  unfold parse at h
  cases hscheme : scheme? (tidy uri.toList) with
  | none =>
    rw [hscheme] at h
    cases h
  | some found =>
    obtain ⟨name, rest⟩ := found
    rw [hscheme] at h
    refine ⟨rest, ?_⟩
    dsimp only at h
    split_ifs at h with hfile hspecial
    · obtain ⟨host, segments, rfl⟩ := file_of_afterFileScheme h
      rw [hfile]
      rfl
    · obtain ⟨-, -, hurl⟩ := bind_eq_ok_iff.mp h
      cases hurl
      rw [scheme, String.toList_ofList]
    · have hurl : url = .other (String.ofList name) := by
        split at h
        · obtain ⟨-, -, hurl⟩ := bind_eq_ok_iff.mp h
          exact (Except.ok.inj hurl).symm
        · exact (Except.ok.inj h).symm
      rw [hurl, scheme, String.toList_ofList]

/-- The local file of a written path is the path itself, byte for byte, and a URI with a scheme other
than that of files has none. -/
theorem written_path_read :
    (∀ segments texts, segments ≠ [] → Written segments texts → ¬ EndsInDrive (joined segments) →
      localFile (String.ofList ("file://".toList ++ texts.flatMap ('/' :: ·))) =
        .ok ⟨joined segments⟩) ∧
    ∀ uri url, parse uri = .ok url →
      (∃ rest, scheme? (tidy uri.toList) = some (url.scheme.toList, rest)) ∧
      (url.scheme ≠ "file" → localFile uri = .error (.unsupportedScheme uri url.scheme)) := by
  refine ⟨fun segments texts hne h hdrive => ?_, fun uri url hparse => ⟨scheme?_of_parse hparse, ?_⟩⟩
  · cases texts with
    | nil =>
      cases h
      exact absurd rfl hne
    | cons text texts =>
      rw [localFile, parse_written h]
      simp only [localPath, pathBytes_written h, endsInDrive_eq_false hdrive]
      rfl
  · intro hscheme
    cases url with
    | file host segments => exact absurd rfl hscheme
    | other name => rw [localFile, hparse]; rfl

/-- A folder with a blank in its name, a file whose name is no text, and a page of the web. -/
theorem written_path_read_blank :
    localFile "file:///a%20b/%ff" = .ok ⟨[47, 97, 32, 98, 47, 255]⟩ ∧
      localFile "http://a/b" = .error (.unsupportedScheme "http://a/b" "http") := by
  have hfolder : Encodes [97, 32, 98] "a%20b".toList :=
    .cons (.plain (c := 'a') rfl) (.cons (.escaped rfl (by decide) (by decide) rfl)
      (.cons (.plain (c := 'b') rfl) .nil))
  have hfile : Encodes [255] "%ff".toList :=
    .cons (.escaped (by decide) (by decide) (by decide) rfl) .nil
  have hwritten : Written [[97, 32, 98], [255]] ["a%20b".toList, "%ff".toList] :=
    .cons ⟨⟨by decide, by decide, by decide, by decide⟩, hfolder⟩
      (.cons ⟨⟨by decide, by decide, by decide, by decide⟩, hfile⟩ .nil)
  have hdrive : ¬ EndsInDrive (joined [[97, 32, 98], [255]]) := by
    rintro ⟨front, letter, mark, hbytes, -, hmark⟩
    have hlast : some (255 : UInt8) = some mark := by
      simpa [joined] using congrArg List.getLast? hbytes
    obtain rfl := Option.some.inj hlast
    exact absurd hmark (by decide)
  have hweb : parse "http://a/b" = .ok (.other "http") := by decide +kernel
  exact ⟨written_path_read.1 _ _ (by decide) hwritten hdrive,
    (written_path_read.2 _ _ hweb).2 (by decide)⟩

end Url

end RuleServer

import Mathlib
import RuleServer.Proofs.Json.RoundTrip
import RuleServer.Proofs.Rpc.Grammar
import RuleServer.Proofs.Session.Wire

/-!
What is written as frames is read back as the same payloads, and JSON values as the messages that
they are.
-/

namespace RuleServer

namespace Frame

/-- The header line that is written for a payload of `n` bytes. -/
def lengthField (n : Nat) : Field where
  line := Utf8.encode (lengthKey ++ ' ' :: (decimal n ++ ['\r', '\n']))
  key := lengthKey
  value := decimal n

theorem lengthKey_length : lengthKey.length = 15 := rfl

theorem lengthKey_visible : ∀ c ∈ lengthKey, 33 ≤ c.toNat ∧ c.toNat < 0x80 := by
  have h : lengthKey =
      ['C', 'o', 'n', 't', 'e', 'n', 't', '-', 'L', 'e', 'n', 'g', 't', 'h', ':'] := rfl
  rw [h]
  simp

theorem lengthField_isLine {n : Nat} (h : n ≤ payloadLimit) : IsLine (lengthField n).line := by
  have hascii : ∀ c ∈ lengthKey ++ ' ' :: (decimal n ++ ['\r']),
      c.toNat < 0x80 ∧ c.toNat ≠ 10 := by
    intro c hc
    simp only [List.mem_append, List.mem_cons, List.not_mem_nil, or_false] at hc
    rcases hc with hc | rfl | hc | rfl
    · have h := lengthKey_visible c hc
      omega
    · decide
    · have h := decimal_visible n c hc
      omega
    · decide
  have hdigits : (decimal n).length ≤ 8 :=
    Nat.toDigits_length 10 n 8 (by decide) (by simp only [payloadLimit] at h; omega)
  have hbody := Utf8.encode_ascii fun c hc => (hascii c hc).1
  refine ⟨Utf8.encode (lengthKey ++ ' ' :: (decimal n ++ ['\r'])), ?_, ?_, ?_⟩
  · have hend : Utf8.encode ['\n'] = [10] := rfl
    rw [← hend, ← Utf8.encode_append]
    simp [lengthField]
  · rw [hbody, List.mem_map]
    rintro ⟨c, hc, h10⟩
    have hv := toNat_asciiByte (hascii c hc).1
    rw [h10] at hv
    exact (hascii c hc).2 hv.symm
  · have hline : ∀ c ∈ lengthKey ++ ' ' :: (decimal n ++ ['\r', '\n']), c.toNat < 0x80 := by
      intro c hc
      by_cases h10 : c = '\n'
      · rw [h10]
        decide
      · exact (hascii c (by simpa [h10] using hc)).1
    simp only [lengthField, Utf8.encode_ascii hline, List.length_map, List.length_append,
      List.length_cons, List.length_nil, lengthKey_length, lineLimit]
    omega

theorem isLineEnd_of_visible {c : Char} (h : 33 ≤ c.toNat ∧ c.toNat < 0x80) :
    isLineEnd c = false := by
  have hcr : c ≠ '\r' := by
    rintro rfl
    exact absurd h (by decide)
  have hlf : c ≠ '\n' := by
    rintro rfl
    exact absurd h (by decide)
  simp [isLineEnd, hcr, hlf]

theorem stripLineEnd_append (cs : List Char) {c : Char} (h : isLineEnd c = false) :
    stripLineEnd (cs ++ [c] ++ ['\r', '\n']) = cs ++ [c] := by
  have hcr : isLineEnd '\r' = true := rfl
  have hlf : isLineEnd '\n' = true := rfl
  simp [stripLineEnd, hcr, hlf, h]

theorem lengthField_wellFormed {n : Nat} (h1 : 1 ≤ n) (h : n ≤ payloadLimit) :
    (lengthField n).WellFormed where
  isLine := lengthField_isLine h
  parts := by
    obtain ⟨digits, c, hdigits⟩ := (List.eq_nil_or_concat (decimal n)).resolve_left (decimal_ne_nil n)
    have hc : isLineEnd c = false :=
      isLineEnd_of_visible (decimal_visible n c (by rw [hdigits]; simp))
    have hstrip := stripLineEnd_append (lengthKey ++ ' ' :: digits) hc
    have htrim : trim (decimal n) = decimal n :=
      trim_of_visible fun d hd => isBlank_of_visible (decimal_visible n d hd)
    refine ⟨_, ' ', decimal n, rfl, ?_, by decide,
      fun d hd => isBlank_of_visible (lengthKey_visible d hd), htrim.symm⟩
    rw [hdigits]
    simpa [lengthField] using hstrip
  key_ne_nil := List.ne_nil_of_length_pos (by simp [lengthField, lengthKey_length])
  value_ne_nil := decimal_ne_nil n
  length_allowed := fun _ => ⟨n, isNumeral_decimal n, h1, h⟩

theorem wrap_eq (payload : Bytes) :
    wrap payload = headerBytes [lengthField payload.length] ++ ([13, 10] ++ payload) := by
  have hkey : "Content-Length: ".toList = lengthKey ++ [' '] := rfl
  have hend : "\r\n\r\n".toList = ['\r', '\n'] ++ ['\r', '\n'] := rfl
  have hblank : Utf8.encode ['\r', '\n'] = [13, 10] := rfl
  rw [wrap, utf8Bytes, String.toList_append, String.toList_append, hkey, hend, decimalText,
    String.toList_ofList, headerBytes, List.flatMap_singleton, lengthField, ← hblank]
  simp only [List.append_assoc, List.singleton_append, Utf8.encode_append, Utf8.encode_cons]

theorem one_lt_length_ofJson (v : Json) : 1 < (ofJson v).length := by
  rw [ofJson, wrap_eq]
  simp only [List.length_append, List.length_cons, List.length_nil]
  omega

theorem isFrame_wrap {payload : Bytes} (h1 : payload ≠ []) (h : payload.length ≤ payloadLimit) :
    IsFrame [lengthField payload.length] [13, 10] payload where
  wellFormed := by
    rintro f hf
    rw [List.mem_singleton.mp hf]
    exact lengthField_wellFormed (List.length_pos_of_ne_nil h1) h
  isBlankLine := ⟨1, rfl, by decide⟩
  givesLength := ⟨[], _, [], rfl, rfl, isNumeral_decimal _, by simp⟩

theorem read_wrap {payload : Bytes} (h1 : payload ≠ []) (h : payload.length ≤ payloadLimit)
    (rest : Bytes) (failure : Option IoFault) :
    read ⟨wrap payload ++ rest, failure⟩ = .ok (some (payload, ⟨rest, failure⟩)) := by
  have hread := read_of_isFrame (isFrame_wrap h1 h) rest failure
  rwa [wrap_eq, List.append_assoc, List.append_assoc]

/-- Reading a stream to its end gives these one after another, then nothing, and leaves no byte. -/
inductive Yields {α : Type} (next : ByteStream → Except ReadFault (Option (α × ByteStream))) :
    ByteStream → List α → Prop
  | done {stream : ByteStream} (h : next stream = .ok none) (hempty : stream.bytes = []) :
    Yields next stream []
  | more {stream rest : ByteStream} {a : α} {as : List α} (h : next stream = .ok (some (a, rest)))
    (hrest : Yields next rest as) : Yields next stream (a :: as)

theorem yields_wraps {payloads : List Bytes}
    (h : ∀ payload ∈ payloads, payload ≠ [] ∧ payload.length ≤ payloadLimit) :
    Yields read ⟨payloads.flatMap wrap, none⟩ payloads := by
  induction payloads with
  | nil => exact .done rfl rfl
  | cons payload payloads ih =>
    obtain ⟨⟨hne, hlimit⟩, hpayloads⟩ := List.forall_mem_cons.mp h
    exact .more (read_wrap hne hlimit _ none) (ih hpayloads)

theorem yields_ofJson {vs : List Json}
    (h : ∀ v ∈ vs, (Utf8.encode v.render).length ≤ payloadLimit) :
    Yields read ⟨vs.flatMap ofJson, none⟩ (vs.map fun v => Utf8.encode v.render) := by
  have hwraps : vs.flatMap ofJson = (vs.map fun v => Utf8.encode v.render).flatMap wrap := by
    rw [List.flatMap_map]
    rfl
  rw [hwraps]
  refine yields_wraps fun payload hpayload => ?_
  obtain ⟨v, hv, rfl⟩ := List.mem_map.mp hpayload
  exact ⟨v.encode_render_ne_nil, h v hv⟩

/-- What a client finds in bytes that were written to it: the text of each value behind a header that
gives the length of the text. So it reads the texts back, unless one is longer than it takes, and
from each text the value, its members in order. -/
structure Carries (s : Bytes) (vs : List Json) : Prop where
  frames : s = vs.flatMap fun v =>
    utf8Bytes ("Content-Length: " ++ decimalText (Utf8.encode v.render).length ++ "\r\n\r\n") ++
      Utf8.encode v.render
  texts : (∀ v ∈ vs, (Utf8.encode v.render).length ≤ payloadLimit) →
    Yields read ⟨s, none⟩ (vs.map fun v => Utf8.encode v.render)
  values : ∀ v ∈ vs, v.Exact → v.depth ≤ 127 →
    Json.parse (Utf8.encode v.render) = .ok v.arrange

theorem carries_ofJson (vs : List Json) : Carries (vs.flatMap ofJson) vs where
  frames := rfl
  texts := yields_ofJson
  values _ _ hexact hdepth := Json.parse_render hexact (Nat.lt_succ_of_le hdepth)

end Frame

namespace Message

/-- The next message and the rest of the stream; nothing at the end of the stream. -/
def read (stream : ByteStream) : Except ReadFault (Option (Message × ByteStream)) :=
  (Frame.read stream).map fun next => next.map fun (payload, rest) => (ofBytes payload, rest)

theorem yields_of_payloads {stream : ByteStream} {payloads : List Bytes}
    (h : Frame.Yields Frame.read stream payloads) :
    Frame.Yields read stream (payloads.map ofBytes) := by
  induction h with
  | done h hempty => exact .done (by simp [read, h, Except.map]) hempty
  | more h _ ih => exact .more (by simp [read, h, Except.map]) ih

theorem ofBytes_render {v : Json} (hexact : v.Exact) (hdepth : v.depth < Json.Read.depthLimit) :
    ofBytes (Utf8.encode v.render) = ofJson v.arrange := by
  rw [ofBytes, Json.parse_render hexact hdepth]

end Message

namespace Wire

/-- Values that are written one after another are read back as their texts; and as the messages that
they are, where they nest no deeper than a reader goes, their members are in order, and their
numbers are integers of 64 bits. -/
theorem written_values_read_back (vs : List Json)
    (hlimit : ∀ v ∈ vs, (Utf8.encode v.render).length ≤ Frame.payloadLimit) :
    ∃ w, ({} : Wire).writeAll vs = (w, .ok ()) ∧
      Frame.Yields Frame.read ⟨w.written, none⟩ (vs.map fun v => Utf8.encode v.render) ∧
      ((∀ v ∈ vs, v.depth ≤ 127 ∧ v.Exact ∧ v.InOrder) →
        Frame.Yields Message.read ⟨w.written, none⟩ (vs.map Message.ofJson)) := by
  obtain ⟨w, hwrite, -, hwritten⟩ := writeAll_open (w := {}) ⟨by simp, rfl⟩ vs
  have hyields : Frame.Yields Frame.read ⟨w.written, none⟩
      (vs.map fun v => Utf8.encode v.render) := by
    rw [hwritten]
    exact Frame.yields_ofJson hlimit
  refine ⟨w, hwrite, hyields, fun h => ?_⟩
  have hmessages := Message.yields_of_payloads hyields
  rw [List.map_map] at hmessages
  have heq : ∀ v ∈ vs, (Message.ofBytes ∘ fun v => Utf8.encode v.render) v = Message.ofJson v := by
    intro v hv
    obtain ⟨hdepth, hexact, horder⟩ := h v hv
    have hv := Message.ofBytes_render hexact (Nat.lt_succ_of_le hdepth)
    rwa [Json.arrange_of_inOrder horder] at hv
  rwa [List.map_congr_left heq] at hmessages

/-- Two frames without anything between them, with escapes, characters of several bytes and the
outermost integers. -/
theorem written_values_read_back_pair :
    let vs : List Json := [
      .object [("id", .int (-9223372036854775808)), ("jsonrpc", .string "2.0"),
        ("method", .string "\"\\\n\x01é"),
        ("params", .array [.array [], .nat 18446744073709551615])],
      .object []]
    (∀ v ∈ vs, (Utf8.encode v.render).length ≤ Frame.payloadLimit) ∧
      (∀ v ∈ vs, v.depth ≤ 127 ∧ v.Exact ∧ v.InOrder) ∧
      ∃ w, ({} : Wire).writeAll vs = (w, .ok ()) ∧
        Frame.Yields Frame.read ⟨w.written, none⟩ (vs.map fun v => Utf8.encode v.render) ∧
        Frame.Yields Message.read ⟨w.written, none⟩ (vs.map Message.ofJson) := by
  intro vs
  have hlimit : ∀ v ∈ vs, (Utf8.encode v.render).length ≤ Frame.payloadLimit := by
    simp only [vs, List.forall_mem_cons]
    exact ⟨by decide +kernel, by decide, by simp⟩
  have hvalues : ∀ v ∈ vs, v.depth ≤ 127 ∧ v.Exact ∧ v.InOrder := by
    simp only [vs, List.forall_mem_cons, Json.Exact, Json.InOrder, Json.All, Json.AllMembers,
      Json.AllItems, Json.numberIsWord, Json.namesAscend, Json.int, Json.nat, JsonNumber.IsWord]
    refine ⟨⟨by decide, by decide, by decide⟩, by decide, by simp⟩
  obtain ⟨w, hw, hpayloads, hmessages⟩ := written_values_read_back vs hlimit
  exact ⟨hlimit, hvalues, w, hw, hpayloads, hmessages hvalues⟩

end Wire

end RuleServer

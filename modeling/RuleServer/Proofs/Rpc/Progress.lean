import Mathlib
import RuleServer.Proofs.Rpc.RoundTrip
import RuleServer.Proofs.Rpc.Sequence

/-!
Progress in reading. Every turn of the header loop that goes on takes a bounded part off the stream,
and every frame takes at least the bytes of the shortest one, so that the loop over lines and the
loop over frames come to an end and the number of frames is bounded by that of the bytes. A line
without an end in reach is refused for the bytes in reach, whatever follows them.
-/

namespace RuleServer

namespace Frame

theorem length_takeLine_le (limit : Nat) (s : Bytes) : (takeLine limit s).1.length ≤ limit := by
  induction s generalizing limit with
  | nil => cases limit <;> simp [takeLine]
  | cons b s ih =>
    cases limit with
    | zero => simp [takeLine]
    | succ limit =>
      by_cases hb : b = 10
      · simp [takeLine, hb]
      · simpa [takeLine, hb] using ih limit

theorem takeLine_of_notMem {limit : Nat} {s : Bytes} (h : 10 ∉ s.take limit)
    (hlimit : limit ≤ s.length) : takeLine limit s = (s.take limit, s.drop limit) := by
  induction s generalizing limit with
  | nil =>
    obtain rfl : limit = 0 := by simpa using hlimit
    rfl
  | cons b s ih =>
    cases limit with
    | zero => rfl
    | succ limit =>
      simp only [List.take_succ_cons, List.mem_cons, not_or] at h
      have hb : b ≠ 10 := fun he => h.1 he.symm
      have hrest := ih h.2 (by simpa using hlimit)
      simp [takeLine, hb, hrest]

/-- Why a line without an end in reach is refused. -/
def overlongFault (line : Bytes) : FrameFault :=
  if (Utf8.decode? line).isSome then .lineTooLong else .headerNotUtf8

theorem lineText_of_overlong {line : Bytes} (hlength : line.length = lineLimit) (h : 10 ∉ line)
    (failure : Option IoFault) :
    lineText failure line = .error (.framing (overlongFault line)) := by
  have hwhole := isWhole_of_not_mem h
  have hcheck : checkLine line = .error (overlongFault line) := by
    cases hd : Utf8.decode? line <;> simp [checkLine, overlongFault, hd, hwhole, hlength]
  cases failure <;> simp [lineText, hwhole, hlength, hcheck, Except.mapError]

theorem lineText_eq_or_io (failure : Option IoFault) (line : Bytes) :
    lineText failure line = lineText none line ∨
      ∃ fault, lineText failure line = .error (.io fault) := by
  cases failure with
  | none => exact .inl rfl
  | some fault =>
    by_cases hcut : !isWhole line && line.length < lineLimit
    · exact .inr ⟨fault, by simp only [lineText, if_pos hcut]⟩
    · exact .inl (by simp only [lineText, if_neg hcut])

theorem overlong_of_lineText {failure : Option IoFault} {line : Bytes}
    (h : lineText failure line = .error (.framing .lineTooLong)) :
    (Utf8.decode? line).isSome ∧ isWhole line = false ∧ lineLimit ≤ line.length := by
  have hnone : lineText none line = .error (.framing .lineTooLong) := by
    rcases lineText_eq_or_io failure line with hsame | ⟨fault, hio⟩
    · rw [← hsame, h]
    · simp [h] at hio
  cases hdecode : Utf8.decode? line with
  | none => simp [lineText, checkLine, hdecode, Except.mapError] at hnone
  | some cs =>
    by_cases hlong : !isWhole line && lineLimit ≤ line.length
    · simpa using hlong
    · simp [lineText, checkLine, hdecode, hlong, Except.mapError] at hnone

theorem take_of_takeLine {limit : Nat} {s line rest : Bytes}
    (htake : takeLine limit s = (line, rest)) (hwhole : isWhole line = false)
    (hlong : limit ≤ line.length) : limit ≤ s.length ∧ s.take limit = line ∧ 10 ∉ line := by
  have hparts := takeLine_cases limit s
  have hlimit := length_takeLine_le limit s
  rw [htake] at hparts hlimit
  obtain ⟨rfl, hline | ⟨hmem, -⟩⟩ := hparts
  · obtain ⟨body, rfl, -⟩ := hline
    simp [isWhole] at hwhole
  · have hlength : line.length = limit := Nat.le_antisymm hlimit hlong
    exact ⟨by simp [hlength], List.take_left' hlength, hmem⟩

theorem afterField_ne_lineTooLong (length : Option Nat) (text : List Char) :
    afterField length text ≠ .error .lineTooLong := by
  unfold afterField
  cases headerField? text with
  | none => simp
  | some field =>
    by_cases hkey : field.1 = lengthKey
    · simp only [if_pos hkey, payloadLength]
      cases readNumeral (maxUnsigned 64) field.2 with
      | error fault => simp [Except.map]
      | ok n => by_cases hzero : n = 0 <;> by_cases hlarge : payloadLimit < n <;>
          simp [hzero, hlarge, Except.map]
    · simp [hkey]

/-- The state of the header loop at the start of a line: whether the line is the first, the length
known so far, and the bytes that are left. -/
structure HeaderState where
  first : Bool
  length : Option Nat
  rest : Bytes

/-- What a turn of the header loop comes to. -/
inductive HeaderTurn
  | returns (result : Except ReadFault (Option (Nat × Bytes)))
  | goesOn (next : HeaderState)

namespace HeaderState

variable {failure : Option IoFault}

def atEnd (failure : Option IoFault) (h : HeaderState) :
    Except ReadFault (Option (Nat × Bytes)) :=
  match failure with
  | some fault => .error (.io fault)
  | none => if h.first then .ok none else .error (.framing .endedInHeader)

def atBlank (h : HeaderState) (rest : Bytes) : Except ReadFault (Option (Nat × Bytes)) :=
  match h.length with
  | some n => .ok (some (n, rest))
  | none => .error (.framing .missingLength)

/-- One turn: a line is taken off the stream and looked at. -/
def turn (failure : Option IoFault) (h : HeaderState) : HeaderTurn :=
  if h.rest = [] then .returns (h.atEnd failure)
  else
    let (line, rest) := takeLine lineLimit h.rest
    match lineText failure line with
    | .error fault => .returns (.error fault)
    | .ok text =>
      if text = [] then .returns (h.atBlank rest)
      else match afterField h.length text with
        | .error fault => .returns (.error (.framing fault))
        | .ok length => .goesOn ⟨false, length, rest⟩

def start (s : Bytes) : HeaderState :=
  ⟨true, none, s⟩

/-- The loop comes to a result from a state, by turns that go on and a last one that returns. -/
inductive Ends (failure : Option IoFault) :
    HeaderState → Except ReadFault (Option (Nat × Bytes)) → Prop
  | returns {h : HeaderState} {result : Except ReadFault (Option (Nat × Bytes))}
    (hturn : h.turn failure = .returns result) : Ends failure h result
  | goesOn {h next : HeaderState} {result : Except ReadFault (Option (Nat × Bytes))}
    (hturn : h.turn failure = .goesOn next) (hend : Ends failure next result) :
    Ends failure h result

/-- The loop started on a stream comes to a state. -/
def Reached (stream : ByteStream) (h : HeaderState) : Prop :=
  Relation.ReflTransGen (fun a b => a.turn stream.failure = .goesOn b) (start stream.bytes) h

/-- The reader of headers goes through the loop turn by turn. -/
theorem readHeader_succ (fuel : Nat) (h : HeaderState) :
    readHeader failure (fuel + 1) h.first h.length h.rest =
      match h.turn failure with
      | .returns result => result
      | .goesOn next => readHeader failure fuel next.first next.length next.rest := by
  obtain ⟨first, length, rest⟩ := h
  cases rest with
  | nil => cases failure <;> simp [readHeader, turn, atEnd]
  | cons b s =>
    obtain ⟨line, rest, htake, hcases⟩ := readHeader_cons failure fuel first length b s
    rcases hcases with ⟨fault, ht, he⟩ | ⟨ht, rfl, he⟩ | ⟨n, ht, rfl, he⟩ |
      ⟨text, fault, ht, hne, hf, he⟩ | ⟨text, next, ht, hne, hf, he⟩
    · simp [he, turn, htake, ht]
    · simp [he, turn, htake, ht, atBlank]
    · simp [he, turn, htake, ht, atBlank]
    · simp [he, turn, htake, ht, hne, hf]
    · simp [he, turn, htake, ht, hne, hf]

theorem turn_eq_goesOn_iff {h next : HeaderState} :
    h.turn failure = .goesOn next ↔
      h.rest ≠ [] ∧ next.first = false ∧
        ∃ line text, takeLine lineLimit h.rest = (line, next.rest) ∧
          lineText failure line = .ok text ∧ text ≠ [] ∧
          afterField h.length text = .ok next.length := by
  obtain ⟨first, length, rest⟩ := next
  rcases htake : takeLine lineLimit h.rest with ⟨line, after⟩
  unfold turn
  rw [htake]
  by_cases hrest : h.rest = []
  · simp [hrest]
  · rw [if_neg hrest]
    cases htext : lineText failure line with
    | error fault => simp [htext]
    | ok text =>
      by_cases hne : text = []
      · simp [htext, hne]
      · cases hf : afterField h.length text with
        | error fault => simp [hne, hf, htext]
        | ok known => simp [hne, hf, htext, hrest, eq_comm, and_comm]

/-- A turn that goes on takes a line off the stream: a byte at least, and no more than a line may
have. -/
theorem taken_of_goesOn {h next : HeaderState} (hturn : h.turn failure = .goesOn next) :
    ∃ line, h.rest = line ++ next.rest ∧ 1 ≤ line.length ∧ line.length ≤ lineLimit := by
  obtain ⟨hrest, -, line, text, htake, -⟩ := turn_eq_goesOn_iff.mp hturn
  have hparts : line ++ next.rest = h.rest := by
    simpa [htake] using (takeLine_cases lineLimit h.rest).1
  have hlimit : line.length ≤ lineLimit := by
    simpa [htake] using length_takeLine_le lineLimit h.rest
  have hshorter : next.rest.length < h.rest.length := by
    obtain ⟨b, s, hs⟩ := List.exists_cons_of_ne_nil hrest
    rw [hs] at htake ⊢
    exact takeLine_shorter htake
  refine ⟨line, hparts.symm, ?_, hlimit⟩
  rw [← hparts, List.length_append] at hshorter
  omega

theorem shorter_of_goesOn {h next : HeaderState} (hturn : h.turn failure = .goesOn next) :
    next.rest.length < h.rest.length := by
  obtain ⟨line, hrest, hpos, -⟩ := taken_of_goesOn hturn
  rw [hrest, List.length_append]
  omega

/-- The loop comes to an end, and to what the reader of headers gives: with more turns than bytes
it never runs out of them. -/
theorem ends_readHeader {fuel : Nat} {h : HeaderState} (hfuel : h.rest.length < fuel) :
    h.Ends failure (readHeader failure fuel h.first h.length h.rest) := by
  induction fuel generalizing h with
  | zero => omega
  | succ fuel ih =>
    rw [readHeader_succ]
    cases hturn : h.turn failure with
    | returns result => exact .returns hturn
    | goesOn next =>
      have hshorter := shorter_of_goesOn hturn
      exact .goesOn hturn (ih (by omega))

theorem Ends.unique {h : HeaderState} {result result' : Except ReadFault (Option (Nat × Bytes))}
    (hend : h.Ends failure result) (hend' : h.Ends failure result') : result = result' := by
  induction hend with
  | returns hturn =>
    cases hend' with
    | returns hturn' => exact HeaderTurn.returns.inj (hturn.symm.trans hturn')
    | goesOn hturn' => simp [hturn] at hturn'
  | goesOn hturn _ ih =>
    cases hend' with
    | returns hturn' => simp [hturn] at hturn'
    | goesOn hturn' hrest =>
      rw [hturn] at hturn'
      exact ih (HeaderTurn.goesOn.inj hturn' ▸ hrest)

theorem start_ends_iff {s : Bytes} {result : Except ReadFault (Option (Nat × Bytes))} :
    (start s).Ends failure result ↔ readHeader failure (s.length + 1) true none s = result := by
  have hends : (start s).Ends failure _ := ends_readHeader (Nat.lt_succ_self s.length)
  constructor
  · intro h
    exact hends.unique h
  · rintro rfl
    exact hends

theorem Reached.ends {stream : ByteStream} {h : HeaderState}
    {result : Except ReadFault (Option (Nat × Bytes))} (hreached : Reached stream h)
    (hend : h.Ends stream.failure result) : (start stream.bytes).Ends stream.failure result := by
  unfold Reached at hreached
  generalize start stream.bytes = first at hreached ⊢
  induction hreached using Relation.ReflTransGen.head_induction_on with
  | refl => exact hend
  | head hturn _ ih => exact .goesOn hturn ih

theorem Reached.read_of_error {stream : ByteStream} {h : HeaderState} {fault : ReadFault}
    (hreached : Reached stream h) (hturn : h.turn stream.failure = .returns (.error fault)) :
    read stream = .error fault := by
  rw [read, start_ends_iff.mp (hreached.ends (.returns hturn))]

theorem turn_of_overlong {h : HeaderState} (hlimit : lineLimit ≤ h.rest.length)
    (hline : 10 ∉ h.rest.take lineLimit) (failure : Option IoFault) :
    h.turn failure = .returns (.error (.framing (overlongFault (h.rest.take lineLimit)))) := by
  have hrest : h.rest ≠ [] := by
    intro he
    simp [he, lineLimit] at hlimit
  have hlength : (h.rest.take lineLimit).length = lineLimit := by simpa using hlimit
  have htext := lineText_of_overlong hlength hline failure
  simp only [turn, if_neg hrest, takeLine_of_notMem hline hlimit, htext]

/-- The limit is exact: a line is refused as too long where it has as many bytes as a line may have
and none of them is its end. -/
theorem turn_eq_lineTooLong_iff {h : HeaderState} :
    h.turn failure = .returns (.error (.framing .lineTooLong)) ↔
      lineLimit ≤ h.rest.length ∧ 10 ∉ h.rest.take lineLimit ∧
        (Utf8.decode? (h.rest.take lineLimit)).isSome := by
  constructor
  · intro hturn
    rcases htake : takeLine lineLimit h.rest with ⟨line, after⟩
    by_cases hrest : h.rest = []
    · cases failure <;> cases hfirst : h.first <;> simp [turn, hrest, atEnd, hfirst] at hturn
    · simp only [turn, if_neg hrest, htake] at hturn
      cases htext : lineText failure line with
      | error fault =>
        obtain rfl : fault = .framing .lineTooLong := by simpa [htext] using hturn
        obtain ⟨hdecode, hwhole, hlong⟩ := overlong_of_lineText htext
        obtain ⟨hlimit, rfl, hline⟩ := take_of_takeLine htake hwhole hlong
        exact ⟨hlimit, hline, hdecode⟩
      | ok text =>
        by_cases hne : text = []
        · cases hlength : h.length <;> simp [htext, hne, atBlank, hlength] at hturn
        · cases hfield : afterField h.length text with
          | error fault =>
            obtain rfl : fault = .lineTooLong := by simpa [htext, hne, hfield] using hturn
            exact absurd hfield (afterField_ne_lineTooLong h.length text)
          | ok length => simp [htext, hne, hfield] at hturn
  · rintro ⟨hlimit, hline, hdecode⟩
    rw [turn_of_overlong hlimit hline, overlongFault, if_pos hdecode]

theorem turn_eq_or_io (failure : Option IoFault) (h : HeaderState) :
    h.turn failure = h.turn none ∨ ∃ fault, h.turn failure = .returns (.error (.io fault)) := by
  by_cases hrest : h.rest = []
  · cases failure with
    | none => exact .inl rfl
    | some fault => exact .inr ⟨fault, by simp [turn, hrest, atEnd]⟩
  · rcases lineText_eq_or_io failure (takeLine lineLimit h.rest).1 with hsame | ⟨fault, hio⟩
    · exact .inl (by simp only [turn, if_neg hrest, hsame])
    · exact .inr ⟨fault, by simp only [turn, if_neg hrest, hio]⟩

theorem Ends.of_failing {h : HeaderState} {found : Option (Nat × Bytes)}
    (hend : h.Ends failure (.ok found)) : h.Ends none (.ok found) := by
  -- every turn on the way went on or gave a result, so that none of them saw the failure
  generalize hresult : Except.ok found = result at hend
  induction hend with
  | @returns h result hturn =>
    subst hresult
    rcases turn_eq_or_io failure h with hsame | ⟨fault, hio⟩
    · exact .returns (hsame ▸ hturn)
    · simp [hturn] at hio
  | @goesOn h next result hturn _ ih =>
    rcases turn_eq_or_io failure h with hsame | ⟨fault, hio⟩
    · exact .goesOn (hsame ▸ hturn) (ih hresult)
    · simp [hturn] at hio

end HeaderState

/-- A frame that is read from a stream which fails later is read from one which ends there. -/
theorem read_of_failing {s payload : Bytes} {failure : Option IoFault} {rest : ByteStream}
    (h : read ⟨s, failure⟩ = .ok (some (payload, rest))) :
    read ⟨s, none⟩ = .ok (some (payload, ⟨rest.bytes, none⟩)) := by
  simp only [read] at h
  split at h
  · simp at h
  · simp at h
  · rename_i n after hheader
    have hnone : readHeader none (s.length + 1) true none s = .ok (some (n, after)) :=
      HeaderState.start_ends_iff.mp (HeaderState.start_ends_iff.mpr hheader).of_failing
    by_cases hshort : after.length < n
    · rw [if_pos hshort] at h
      cases failure <;> simp at h
    · rw [if_neg hshort] at h
      obtain ⟨rfl, rfl⟩ := Prod.mk.inj (Option.some.inj (Except.ok.inj h))
      simp only [read, hnone, if_neg hshort]

theorem length_stripLineEnd_lt {line : Bytes} {cs : List Char} (h : IsLine line)
    (hcs : line = Utf8.encode cs) : (stripLineEnd cs).length < line.length := by
  obtain ⟨body, hbody, -, -⟩ := h
  obtain rfl | ⟨init, c, rfl⟩ := List.eq_nil_or_concat' cs
  · simp [hcs, Utf8.encode_nil] at hbody
  · -- the last byte is an LF, and of all characters only LF is written with that byte
    have hencode : Utf8.encode (init ++ [c]) = Utf8.encode init ++ Utf8.encodeChar c := by
      simp [Utf8.encode_append, Utf8.encode_cons, Utf8.encode_nil]
    have hlast : (Utf8.encodeChar c).getLast? = some 10 := by
      have hne : Utf8.encodeChar c ≠ [] :=
        List.ne_nil_of_length_pos (by rw [Utf8.length_encodeChar]; exact c.utf8Size_pos)
      rw [← List.getLast?_append_of_ne_nil (Utf8.encode init) hne, ← hencode, ← hcs, hbody,
        List.getLast?_concat]
    have hc : c = '\n' := Utf8.eq_of_mem_encodeChar (by decide) (List.mem_of_getLast? hlast)
    have hstrip : stripLineEnd (init ++ [c]) = stripLineEnd init := by
      simp [stripLineEnd, hc, isLineEnd]
    have hinit : (stripLineEnd init).length ≤ init.length := by
      simpa [stripLineEnd] using List.length_dropWhile_le isLineEnd init.reverse
    have hchars := Utf8.length_le_encode (init ++ [c])
    rw [hstrip, hcs]
    simp only [List.length_append, List.length_singleton] at hchars
    omega

/-- A field that gives the length of the payload is as long as its key, a blank, a digit and an
LF. -/
theorem Field.WellFormed.length_line {f : Field} (h : f.WellFormed) (hkey : f.key = lengthKey) :
    18 ≤ f.line.length := by
  obtain ⟨cs, gap, rest, hcs, hstrip, -, -, hvalue⟩ := h.parts
  have hlt := length_stripLineEnd_lt h.isLine hcs
  have hrest : rest ≠ [] := by
    rintro rfl
    exact h.value_ne_nil hvalue
  have hpos := List.length_pos_iff.mpr hrest
  rw [hstrip, hkey, List.length_append, List.length_cons, lengthKey_length] at hlt
  omega

/-- The shortest frame has one field, one digit, a blank line of one byte and one byte of
payload. -/
theorem IsFrame.length_le {fields : List Field} {blank payload : Bytes}
    (h : IsFrame fields blank payload) :
    20 ≤ (headerBytes fields ++ (blank ++ payload)).length := by
  obtain ⟨before, f, after, rfl, hkey, hnumeral, -⟩ := h.givesLength
  have hf : f.WellFormed := h.wellFormed f (by simp)
  have hline := hf.length_line hkey
  have hpayload : 1 ≤ payload.length := by
    obtain ⟨n, hn, hpos, -⟩ := hf.length_allowed hkey
    rwa [hnumeral.unique hn]
  have hblank : 1 ≤ blank.length := by
    obtain ⟨n, hn, -⟩ := h.isBlankLine
    simp [hn]
  simp only [headerBytes, List.flatMap_append, List.flatMap_cons, List.length_append]
  omega

example : read ⟨utf8Bytes "Content-Length: 1\n\nx", none⟩ = .ok (some ([120], ⟨[], none⟩)) := rfl

theorem taken_of_read {stream rest : ByteStream} {payload : Bytes}
    (h : read stream = .ok (some (payload, rest))) :
    ∃ frame, stream.bytes = frame ++ rest.bytes ∧ 20 ≤ frame.length := by
  obtain ⟨-, fields, blank, hframe, hbytes⟩ := isFrame_of_read (read_of_failing h)
  refine ⟨headerBytes fields ++ (blank ++ payload), ?_, hframe.length_le⟩
  simpa only [List.append_assoc] using hbytes

/-- Frames are read until none is there: at the end of the stream, or where reading fails. -/
inductive Drains : ByteStream → List Bytes → End → Prop
  | clean {stream : ByteStream} (h : read stream = .ok none) : Drains stream [] .clean
  | failed {stream : ByteStream} {fault : ReadFault} (h : read stream = .error fault) :
    Drains stream [] (.failed fault)
  | frame {stream rest : ByteStream} {payload : Bytes} {payloads : List Bytes} {ending : End}
    (h : read stream = .ok (some (payload, rest))) (hrest : Drains rest payloads ending) :
    Drains stream (payload :: payloads) ending

theorem drains_readAllFrom {fuel : Nat} {stream : ByteStream} (hfuel : stream.bytes.length < fuel) :
    Drains stream (readAllFrom fuel stream).1 (readAllFrom fuel stream).2 := by
  induction fuel generalizing stream with
  | zero => omega
  | succ fuel ih =>
    rw [readAllFrom]
    cases hread : read stream with
    | error fault => exact .failed hread
    | ok next =>
      cases next with
      | none => exact .clean hread
      | some next =>
        have hshorter := read_shorter hread
        exact .frame hread (ih (by omega))

theorem Drains.length_le {stream : ByteStream} {payloads : List Bytes} {ending : End}
    (h : Drains stream payloads ending) : 20 * payloads.length ≤ stream.bytes.length := by
  induction h with
  | clean => simp
  | failed => simp
  | frame hread _ ih =>
    obtain ⟨frame, hbytes, hframe⟩ := taken_of_read hread
    rw [hbytes, List.length_append, List.length_cons]
    omega

/-- Reading makes progress, within bounds. A turn of the header loop that goes on takes between one
byte and the limit of a line off the stream, so that the loop ends and so does reading all frames; a
frame takes at least twenty bytes, so that there are at most as many payloads as twenties in the
stream. At the start of a header line with no LF among as many bytes as a line may have, reading
fails for its framing, and for these bytes alone: every stream on which a header line starts with
them fails in the same way. -/
theorem reading_progress_bounded (stream : ByteStream) :
    (∀ h next : HeaderState, h.turn stream.failure = .goesOn next →
      ∃ line, h.rest = line ++ next.rest ∧ 1 ≤ line.length ∧ line.length ≤ 8192) ∧
    (HeaderState.start stream.bytes).Ends stream.failure
      (readHeader stream.failure (stream.bytes.length + 1) true none stream.bytes) ∧
    Drains stream (readAll stream).1 (readAll stream).2 ∧
    (∀ payload rest, read stream = .ok (some (payload, rest)) →
      ∃ frame, stream.bytes = frame ++ rest.bytes ∧ 20 ≤ frame.length) ∧
    (readAll stream).1.length ≤ stream.bytes.length / 20 ∧
    (∀ h : HeaderState, h.turn stream.failure = .returns (.error (.framing .lineTooLong)) ↔
      8192 ≤ h.rest.length ∧ 10 ∉ h.rest.take 8192 ∧
        (Utf8.decode? (h.rest.take 8192)).isSome) ∧
    ∀ h, HeaderState.Reached stream h → 8192 ≤ h.rest.length → 10 ∉ h.rest.take 8192 →
      read stream = .error (.framing (overlongFault (h.rest.take 8192))) ∧
      ∀ other h', HeaderState.Reached other h' → h'.rest.take 8192 = h.rest.take 8192 →
        read other = read stream := by
  have hdrains : Drains stream (readAll stream).1 (readAll stream).2 :=
    drains_readAllFrom (Nat.lt_succ_self stream.bytes.length)
  have hoverlong : ∀ (s : ByteStream) (h : HeaderState), HeaderState.Reached s h →
      8192 ≤ h.rest.length → 10 ∉ h.rest.take 8192 →
      read s = .error (.framing (overlongFault (h.rest.take 8192))) := by
    intro s h hreached hlimit hline
    exact hreached.read_of_error (HeaderState.turn_of_overlong hlimit hline s.failure)
  refine ⟨fun h next => HeaderState.taken_of_goesOn, HeaderState.start_ends_iff.mpr rfl, hdrains,
    fun payload rest => taken_of_read, ?_, fun h => HeaderState.turn_eq_lineTooLong_iff, ?_⟩
  · have hlength := hdrains.length_le
    omega
  · intro h hreached hlimit hline
    have hread := hoverlong stream h hreached hlimit hline
    refine ⟨hread, fun other h' hreached' hsame => ?_⟩
    have hlimit' : 8192 ≤ h'.rest.length := by
      have hlength := congrArg List.length hsame
      simp only [List.length_take] at hlength
      omega
    rw [hoverlong other h' hreached' hlimit' (hsame ▸ hline), hsame, hread]

end Frame

end RuleServer

import Mathlib
import RuleServer.Proofs.Rpc.Grammar

/-!
Frames one after another. Every frame takes bytes off its stream, so that reading comes to an end:
at the end of the stream, or where what is left starts with no frame.
-/

namespace RuleServer

namespace Frame

theorem takeLine_shorter {b : UInt8} {s line rest : Bytes}
    (h : takeLine lineLimit (b :: s) = (line, rest)) : rest.length < (b :: s).length := by
  have hparts := (takeLine_cases lineLimit (b :: s)).1
  have hline : (takeLine lineLimit (b :: s)).1 ≠ [] := by
    rw [show lineLimit = 8191 + 1 from rfl, takeLine]
    split_ifs <;> simp
  rw [h] at hparts hline
  have hpos : 0 < line.length := List.length_pos_iff.mpr hline
  rw [← hparts, List.length_append]
  exact Nat.lt_add_of_pos_left hpos

theorem readHeader_shorter {failure : Option IoFault} {fuel : Nat} {first : Bool}
    {length : Option Nat} {s rest : Bytes} {n : Nat}
    (h : readHeader failure fuel first length s = .ok (some (n, rest))) :
    rest.length < s.length := by
  induction fuel generalizing first length s with
  | zero => simp [readHeader] at h
  | succ fuel ih =>
    cases s with
    | nil => cases failure <;> cases first <;> simp [readHeader] at h
    | cons b s =>
      obtain ⟨line, after, htake, hcases⟩ := readHeader_cons failure fuel first length b s
      have hshorter := takeLine_shorter htake
      rcases hcases with ⟨fault, -, he⟩ | ⟨-, -, he⟩ | ⟨n', -, -, he⟩ | ⟨text, fault, -, -, -, he⟩ |
        ⟨text, next, -, -, -, he⟩
      · simp [he] at h
      · simp [he] at h
      · rw [he] at h
        obtain ⟨rfl, rfl⟩ : n' = n ∧ after = rest := by simpa using h
        exact hshorter
      · simp [he] at h
      · exact (ih (he ▸ h)).trans hshorter

theorem read_shorter {stream rest : ByteStream} {payload : Bytes}
    (h : read stream = .ok (some (payload, rest))) : rest.bytes.length < stream.bytes.length := by
  simp only [read] at h
  split at h
  · simp at h
  · simp at h
  · rename_i n after hheader
    have hshorter := readHeader_shorter hheader
    split at h
    · split at h <;> simp at h
    · obtain ⟨-, rfl⟩ : after.take n = payload ∧ _ = rest := by simpa using h
      simp only [List.length_drop]
      omega

def Starts (s : Bytes) : Prop :=
  ∃ fields blank payload rest, IsFrame fields blank payload ∧
    s = headerBytes fields ++ (blank ++ (payload ++ rest))

/-- The bytes are frames with these payloads, one after another, and then the last ones. -/
inductive Chain : Bytes → List Bytes → Bytes → Prop
  | nil (last : Bytes) : Chain last [] last
  | cons {fields : List Field} {blank payload s last : Bytes} {payloads : List Bytes}
    (h : IsFrame fields blank payload) (hrest : Chain s payloads last) :
    Chain (headerBytes fields ++ (blank ++ (payload ++ s))) (payload :: payloads) last

/-- Bytes are taken apart into frames in one way, as long as they go. -/
theorem Chain.unique {s last last' : Bytes} {payloads payloads' : List Bytes}
    (h : Chain s payloads last) (hlast : ¬ Starts last) (h' : Chain s payloads' last')
    (hlast' : ¬ Starts last') : payloads' = payloads ∧ last' = last := by
  induction h generalizing payloads' with
  | nil last =>
    cases h' with
    | nil => exact ⟨rfl, rfl⟩
    | cons hframe hrest => exact absurd ⟨_, _, _, _, hframe, rfl⟩ hlast
  | @cons fields blank payload s last payloads hframe hrest ih =>
    generalize hs : headerBytes fields ++ (blank ++ (payload ++ s)) = t at h'
    cases h' with
    | nil => exact absurd ⟨_, _, _, _, hframe, hs.symm⟩ hlast'
    | cons hframe' hrest' =>
      obtain ⟨-, -, rfl, rfl⟩ := isFrame_unique hframe hframe' hs
      obtain ⟨rfl, rfl⟩ := ih hlast hrest'
      exact ⟨rfl, rfl⟩

theorem not_starts_of_read {s : Bytes}
    (h : ∀ payload rest, read ⟨s, none⟩ ≠ .ok (some (payload, rest))) : ¬ Starts s := by
  rintro ⟨fields, blank, payload, rest, hframe, rfl⟩
  exact h payload _ (read_of_isFrame hframe rest none)

/-- All payloads of a stream are read. What is left of it starts with no frame: it is nothing, or it
is refused for its framing. -/
theorem readAllFrom_chain {fuel : Nat} {s : Bytes} (hfuel : s.length < fuel) :
    ∃ last, Chain s (readAllFrom fuel ⟨s, none⟩).1 last ∧ ¬ Starts last ∧
      ((last = [] ∧ (readAllFrom fuel ⟨s, none⟩).2 = .clean) ∨
        ∃ fault, read ⟨last, none⟩ = .error (.framing fault) ∧
          (readAllFrom fuel ⟨s, none⟩).2 = .failed (.framing fault)) := by
  induction fuel generalizing s with
  | zero => omega
  | succ fuel ih =>
    rw [readAllFrom]
    cases hread : read ⟨s, none⟩ with
    | error fault =>
      obtain ⟨fault, rfl⟩ := framing_of_read hread
      exact ⟨s, .nil s, not_starts_of_read (by simp [hread]), .inr ⟨fault, hread, rfl⟩⟩
    | ok next =>
      obtain _ | ⟨payload, rest⟩ := next
      · exact ⟨s, .nil s, not_starts_of_read (by simp [hread]),
          .inl ⟨read_eq_none_iff.mp hread, rfl⟩⟩
      · have hless : rest.bytes.length < fuel :=
          (read_shorter hread).trans_le (Nat.lt_succ_iff.mp hfuel)
        obtain ⟨rest, failure⟩ := rest
        obtain ⟨rfl, fields, blank, hframe, rfl⟩ := isFrame_of_read hread
        obtain ⟨last, hchain, hend⟩ := ih hless
        exact ⟨last, .cons hframe hchain, hend⟩

end Frame

end RuleServer

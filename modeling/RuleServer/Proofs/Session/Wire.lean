import Mathlib
import RuleServer.Session.Run

/-!
The writing side of a connection: nothing that was written is taken back, and where nothing breaks,
everything arrives.
-/

namespace RuleServer

namespace Wire

/-- Everything that is written from now on arrives. -/
def Open (w : Wire) : Prop :=
  (∀ d ∈ w.deliveries, d = .whole) ∧ w.room = none

theorem write_cases (w : Wire) (bytes : Bytes) :
    (w.write bytes = ({ (w.take bytes.length).1 with written := w.written ++ bytes }, .ok ()) ∧
      (w.take bytes.length).2 = .whole) ∨
    ∃ n fault, w.write bytes =
      ({ (w.take bytes.length).1 with written := w.written ++ bytes.take n },
        .error (.io fault)) := by
  simp only [write]
  cases (w.take bytes.length).2 with
  | whole => exact .inl ⟨rfl, rfl⟩
  | broken n fault => exact .inr ⟨n, fault, rfl⟩

theorem take_open {w : Wire} (h : w.Open) (length : Nat) :
    (w.take length).1.Open ∧ (w.take length).2 = .whole := by
  obtain ⟨hwhole, hroom⟩ := h
  unfold take
  cases hdeliveries : w.deliveries with
  | nil => simp [Open, roomFor, hroom]
  | cons d deliveries =>
    rw [hdeliveries] at hwhole
    obtain ⟨rfl, hrest⟩ := List.forall_mem_cons.mp hwhole
    exact ⟨⟨hrest, hroom⟩, rfl⟩

theorem write_open {w : Wire} (h : w.Open) (bytes : Bytes) :
    ∃ w', w.write bytes = (w', .ok ()) ∧ w'.Open ∧ w'.written = w.written ++ bytes := by
  obtain ⟨hopen, hwhole⟩ := take_open h bytes.length
  refine ⟨{ (w.take bytes.length).1 with written := w.written ++ bytes }, ?_, hopen, rfl⟩
  simp only [write, hwhole]

theorem writeAll_open {w : Wire} (h : w.Open) (vs : List Json) :
    ∃ w', w.writeAll vs = (w', .ok ()) ∧ w'.Open ∧
      w'.written = w.written ++ vs.flatMap Frame.ofJson := by
  induction vs generalizing w with
  | nil => exact ⟨w, rfl, h, by simp⟩
  | cons v vs ih =>
    obtain ⟨w₁, hwrite, hopen, hwritten⟩ := write_open h (Frame.ofJson v)
    obtain ⟨w₂, hrest, hopen', hwritten'⟩ := ih hopen
    refine ⟨w₂, ?_, hopen', ?_⟩
    · rw [writeAll, hwrite]
      exact hrest
    · rw [hwritten', hwritten, List.flatMap_cons, List.append_assoc]

theorem written_write (w : Wire) (bytes : Bytes) : w.written <+: (w.write bytes).1.written := by
  obtain ⟨hwrite, -⟩ | ⟨n, fault, hwrite⟩ := write_cases w bytes <;> rw [hwrite] <;>
    exact List.prefix_append _ _

theorem write_closeFault (w : Wire) (bytes : Bytes) :
    (w.write bytes).1.closeFault = w.closeFault := by
  have htake : (w.take bytes.length).1.closeFault = w.closeFault := by
    unfold take
    split <;> rfl
  obtain ⟨hwrite, -⟩ | ⟨n, fault, hwrite⟩ := write_cases w bytes <;> rw [hwrite] <;> exact htake

/-- What every write preserves holds after several. -/
theorem writeAll_preserves {P : Wire → Prop} (hstep : ∀ w bytes, P w → P (w.write bytes).1)
    {w : Wire} (hw : P w) (vs : List Json) : P (w.writeAll vs).1 := by
  induction vs generalizing w with
  | nil => exact hw
  | cons v vs ih =>
    have hv := hstep w (Frame.ofJson v) hw
    rw [writeAll]
    split
    · rename_i w' fault hwrite
      rwa [hwrite] at hv
    · rename_i w' hwrite
      rw [hwrite] at hv
      exact ih hv

theorem writeAll_append_of_error {w : Wire} {vs : List Json} {fault : Fault}
    (h : (w.writeAll vs).2 = .error fault) (more : List Json) :
    w.writeAll (vs ++ more) = w.writeAll vs := by
  induction vs generalizing w with
  | nil => cases h
  | cons v vs ih =>
    rw [writeAll] at h
    rw [List.cons_append, writeAll, writeAll]
    split
    · rfl
    · rename_i w' hw
      rw [hw] at h
      exact ih h

theorem writeAll_append_of_ok {w : Wire} {vs : List Json} (h : (w.writeAll vs).2 = .ok ())
    (more : List Json) : w.writeAll (vs ++ more) = (w.writeAll vs).1.writeAll more := by
  induction vs generalizing w with
  | nil => rfl
  | cons v vs ih =>
    rw [writeAll] at h
    rw [List.cons_append, writeAll, writeAll]
    split
    · rename_i w' fault hw
      rw [hw] at h
      cases h
    · rename_i w' hw
      rw [hw] at h
      exact ih h

/-- Where no failures are given, a write fails only for want of room, and then there is none left. -/
theorem write_of_no_deliveries {w : Wire} (h : w.deliveries = []) (bytes : Bytes) :
    (w.write bytes).1.deliveries = [] ∧
      ∀ fault, (w.write bytes).2 = .error fault → (w.write bytes).1.room = some 0 := by
  simp only [write, take, h, roomFor]
  cases w.room with
  | none => simp
  | some n =>
    by_cases hfits : bytes.length ≤ n
    · simp [hfits]
    · simp [hfits]
      omega

theorem writeAll_of_no_deliveries {w : Wire} (h : w.deliveries = []) {vs : List Json}
    {fault : Fault} (hfault : (w.writeAll vs).2 = .error fault) :
    (w.writeAll vs).1.room = some 0 := by
  induction vs generalizing w with
  | nil => cases hfault
  | cons v vs ih =>
    obtain ⟨hdeliveries, hroom⟩ := write_of_no_deliveries h (Frame.ofJson v)
    rw [writeAll] at hfault ⊢
    split
    · rename_i w' fault' hwrite
      rw [hwrite] at hroom
      exact hroom fault' rfl
    · rename_i w' hwrite
      rw [hwrite] at hdeliveries hfault
      exact ih hdeliveries hfault

end Wire

/-- What every write preserves holds of the connection when a message has been handled. -/
theorem Session.handle_wire {P : Wire → Prop} (hstep : ∀ w bytes, P w → P (w.write bytes).1)
    (r : Resources) {x : Session} (hx : P x.wire) (m : Message) :
    P (x.handle r m).session.wire := by
  have hresponse := Wire.writeAll_preserves hstep hx
    ((x.context.accept r m).result.map Response.toJson).toList
  simp only [handle]
  split
  · exact hresponse
  · exact Wire.writeAll_preserves hstep hresponse _

end RuleServer

import Mathlib
import RuleServer.Proofs.Listener.Independence

/-!
The count of live connections. Every connection is registered once, when it comes, and released
once, when it is gone, so that the registry holds the number of those in between.
-/

namespace RuleServer

theorem Registry.toNat_release {r : Registry} (h : 0 < r.live.toNat) :
    r.release.live.toNat + 1 = r.live.toNat := by
  have hle : (1 : UInt64) ≤ r.live := UInt64.le_iff_toNat_le.mpr h
  have hsub : r.release.live.toNat = r.live.toNat - 1 := UInt64.toNat_sub_of_le _ _ hle
  omega

theorem Connection.isLive_of_left {c : Connection} (h : c.phase.left = 0) : c.isLive = false := by
  obtain ⟨id, phase⟩ := c
  cases phase with
  | serving x input => simp [Phase.left] at h
  | closing x result => simp [Phase.left] at h
  | gone x result => rfl

namespace Listener

/-- A change of the registry, with the index of the connection that it is for. -/
inductive Entry
  | registered (index : Nat)
  | released (index : Nat)
deriving DecidableEq

def Entry.apply (r : Registry) : Entry → Registry
  | registered _ => r.register
  | released _ => r.release

/-- The change that an action makes to the registry. -/
def change? (l : Listener) : Action → Option Entry
  | .accept _ _ => some (.registered l.connections.length)
  | .advance index =>
    match l.connections[index]?.map Connection.phase with
    | some (.closing _ _) => some (.released index)
    | _ => none

/-- All changes that actions make to the registry. -/
def account (l : Listener) : List Action → List Entry
  | [] => []
  | a :: actions => (l.change? a).toList ++ (l.act a).1.account actions

theorem map_set_of_eq {α β : Type} {f : α → β} {l : List α} {i : Nat} {a b : α}
    (hb : l[i]? = some b) (h : f a = f b) : (l.set i a).map f = l.map f := by
  refine List.ext_getElem? fun j => ?_
  by_cases hj : i = j
  · subst hj
    have hi := (List.getElem?_eq_some_iff.mp hb).1
    rw [List.getElem?_map, List.getElem?_map, List.getElem?_set_self hi, hb, Option.map_some,
      Option.map_some, h]
  · rw [List.getElem?_map, List.getElem?_map, List.getElem?_set_ne hj]

/-- A step either leaves the registry and the connections that count as they are, or it takes a
connection that counts, releases it, and it counts no longer. -/
theorem advance_cases (l : Listener) (index : Nat) :
    (l.change? (.advance index) = none ∧ ∃ connections,
      (l.advance index).1 = { l with connections } ∧
      connections.map Connection.id = l.connections.map Connection.id ∧
      connections.map Connection.isLive = l.connections.map Connection.isLive) ∨
    (l.change? (.advance index) = some (.released index) ∧ ∃ c d : Connection,
      l.connections[index]? = some c ∧ c.isLive = true ∧ d.isLive = false ∧ d.id = c.id ∧
      (l.advance index).1 =
        { l with registry := l.registry.release, connections := l.connections.set index d }) := by
  simp only [change?, advance]
  cases hc : l.connections[index]? with
  | none => exact .inl ⟨rfl, l.connections, rfl, rfl, rfl⟩
  | some c =>
    obtain ⟨id, phase⟩ := c
    cases phase with
    | serving x input =>
      have hlive : Connection.isLive ⟨id, (turn l.resources (.serving x input)).1⟩ = true := by
        simp only [turn]
        split <;> rfl
      exact .inl ⟨rfl, _, rfl, map_set_of_eq hc rfl, map_set_of_eq hc hlive⟩
    | closing x result =>
      exact .inr ⟨rfl, _, ⟨id, .gone x result⟩, rfl, rfl, rfl, rfl, rfl⟩
    | gone x result => exact .inl ⟨rfl, _, rfl, map_set_of_eq hc rfl, map_set_of_eq hc rfl⟩

theorem registry_act (l : Listener) (a : Action) :
    (l.act a).1.registry = (l.change? a).toList.foldl Entry.apply l.registry := by
  cases a with
  | accept input wire => rfl
  | advance index =>
    obtain ⟨hchange, connections, hact, -⟩ | ⟨hchange, c, d, -, -, -, -, hact⟩ :=
      l.advance_cases index <;> rw [hchange, act, hact] <;> rfl

theorem registry_actAll (l : Listener) (actions : List Action) :
    (l.actAll actions).1.registry = (l.account actions).foldl Entry.apply l.registry := by
  induction actions generalizing l with
  | nil => rfl
  | cons a actions ih => rw [actAll_cons, ih, registry_act, account, List.foldl_append]

/-- How often a change has to be made by now: a connection is registered when it comes, and released
when it is gone. -/
def due (l : Listener) : Entry → Nat
  | .registered i => if i < l.connections.length then 1 else 0
  | .released i => if l.connections[i]?.map Connection.isLive = some false then 1 else 0

theorem due_registered_act (l : Listener) (a : Action) (i : Nat) :
    (l.act a).1.due (.registered i) =
      l.due (.registered i) + (l.change? a).toList.count (.registered i) := by
  cases a with
  | accept input wire =>
    simp only [due, act, accept, change?, List.length_append, List.length_singleton,
      Option.toList_some, List.count_singleton, beq_iff_eq, Entry.registered.injEq]
    split_ifs <;> omega
  | advance index =>
    obtain ⟨hchange, connections, hact, hids, -⟩ | ⟨hchange, c, d, -, -, -, -, hact⟩ :=
      l.advance_cases index
    · have hlength : connections.length = l.connections.length := by
        simpa using congrArg List.length hids
      simp [due, act, hact, hchange, hlength]
    · simp [due, act, hact, hchange]

theorem due_released_act (l : Listener) (a : Action) (i : Nat) :
    (l.act a).1.due (.released i) =
      l.due (.released i) + (l.change? a).toList.count (.released i) := by
  cases a with
  | accept input wire =>
    -- a connection that has just come is live
    have hsame : (l.act (.accept input wire)).1.connections[i]?.map Connection.isLive = some false ↔
        l.connections[i]?.map Connection.isLive = some false := by
      simp only [act, accept, List.getElem?_append]
      split_ifs with hi
      · rfl
      · rw [List.getElem?_eq_none (Nat.le_of_not_lt hi), List.getElem?_singleton]
        split_ifs <;> simp [Connection.isLive]
    simp [due, hsame, change?]
  | advance index =>
    obtain ⟨hchange, connections, hact, -, hlive⟩ | ⟨hchange, c, d, hc, hcounts, hgone, -, hact⟩ :=
      l.advance_cases index
    · rw [due, due, act, hact, hchange, ← List.getElem?_map, hlive, List.getElem?_map]
      rfl
    · rw [due, due, act, hact, hchange]
      by_cases hi : index = i
      · subst hi
        have hlt := (List.getElem?_eq_some_iff.mp hc).1
        rw [List.getElem?_set_self hlt, hc]
        simp [hcounts, hgone]
      · rw [List.getElem?_set_ne hi]
        simp [hi]

theorem due_act (l : Listener) (a : Action) (e : Entry) :
    (l.act a).1.due e = l.due e + (l.change? a).toList.count e := by
  cases e with
  | registered i => exact l.due_registered_act a i
  | released i => exact l.due_released_act a i

theorem due_actAll (l : Listener) (actions : List Action) (e : Entry) :
    (l.actAll actions).1.due e = l.due e + (l.account actions).count e := by
  induction actions generalizing l with
  | nil => rfl
  | cons a actions ih => rw [actAll_cons, ih, due_act, account, List.count_append, Nat.add_assoc]

/-- The connections whose sessions have not ended yet. -/
def live (l : Listener) : Nat :=
  l.connections.countP Connection.isLive

/-- The registry holds the number of live connections and the ids are numbered from one, both as far
as a machine word goes. -/
structure Exact (l : Listener) : Prop where
  live : l.registry.live = UInt64.ofNat l.live
  nextId : l.nextId = UInt64.ofNat (l.connections.length + 1)
  ids : l.connections.map Connection.id =
    (List.range l.connections.length).map fun i => UInt64.ofNat (i + 1)

theorem live_pos {l : Listener} {i : Nat} {c : Connection} (hc : l.connections[i]? = some c)
    (h : c.isLive = true) : 0 < l.live :=
  List.countP_pos_iff.mpr ⟨c, List.mem_of_getElem? hc, h⟩

theorem live_accept (l : Listener) (input : ByteStream) (wire : Wire) :
    (l.act (.accept input wire)).1.live = l.live + 1 := by
  simp [live, act, accept, Connection.isLive]

theorem Exact.act {l : Listener} (h : l.Exact) (a : Action) : (l.act a).1.Exact := by
  obtain ⟨hregistry, hnext, hids⟩ := h
  cases a with
  | accept input wire =>
    constructor
    · rw [live_accept, UInt64.ofNat_add, ← hregistry]
      rfl
    · simp only [Listener.act, accept, hnext, List.length_append, List.length_singleton]
      exact (UInt64.ofNat_add (l.connections.length + 1) 1).symm
    · simp only [Listener.act, accept, List.map_append, List.length_append, List.length_singleton,
        List.range_succ, hids, hnext, List.map_singleton]
  | advance index =>
    obtain ⟨-, connections, hact, hsame, hlive⟩ | ⟨-, c, d, hc, hcounts, hgone, hid, hact⟩ :=
      l.advance_cases index
    · have hlength : connections.length = l.connections.length := by
        simpa using congrArg List.length hsame
      have hcount : connections.countP Connection.isLive =
          l.connections.countP Connection.isLive := by
        simpa [List.countP_map, Function.comp_def] using congrArg (List.countP id) hlive
      rw [Listener.act, hact]
      exact ⟨by rw [hregistry, Listener.live, Listener.live, hcount], by rw [hnext, hlength],
        by rw [hsame, hids, hlength]⟩
    · obtain ⟨hlt, rfl⟩ := List.getElem?_eq_some_iff.mp hc
      have hpos : 0 < l.live := live_pos hc hcounts
      have hcount : (l.connections.set index d).countP Connection.isLive = l.live - 1 := by
        simp [List.countP_set hlt, hcounts, hgone, Listener.live]
      rw [Listener.act, hact]
      refine ⟨?_, ?_, ?_⟩
      · rw [Listener.live, hcount, UInt64.ofNat_sub hpos, ← hregistry]
        rfl
      · simpa using hnext
      · rw [map_set_of_eq hc hid, hids, List.length_set]

theorem Exact.actAll {l : Listener} (h : l.Exact) (actions : List Action) :
    (l.actAll actions).1.Exact := by
  induction actions generalizing l with
  | nil => exact h
  | cons a actions ih => exact ih (h.act a)

theorem live_pos_of_released {l : Listener} {i : Nat}
    (h : l.change? (.advance i) = some (.released i)) : 0 < l.live := by
  obtain ⟨hchange, -⟩ | ⟨-, c, d, hc, hcounts, -⟩ := l.advance_cases i
  · simp [hchange] at h
  · exact live_pos hc hcounts

theorem Exact.toNat_live {l : Listener} (h : l.Exact) (hl : l.live < 2 ^ 64) :
    l.registry.live.toNat = l.live := by
  rw [h.live, UInt64.toNat_ofNat', Nat.mod_eq_of_lt hl]

/-- As long as a machine word can number the connections, no two have the same id. -/
theorem Exact.nodup_ids {l : Listener} (h : l.Exact) (hl : l.connections.length ≤ 2 ^ 64) :
    (l.connections.map Connection.id).Nodup := by
  rw [h.ids]
  refine List.Nodup.map_on ?_ List.nodup_range
  intro i hi j hj heq
  have hmod := congrArg UInt64.toNat heq
  rw [UInt64.toNat_ofNat', UInt64.toNat_ofNat'] at hmod
  rw [List.mem_range] at hi hj
  omega

/-- Whatever the clients of a listener send, however their sessions end and in whatever order, the
registry has been told of every connection once when it came and once when it was gone, and so it
holds the number of the connections in between, which a release never takes below zero. Every
connection is gone after as many steps as its client sent bytes, and two. The connections have
different ids, as long as there are enough. -/
theorem live_count_exact (r : Resources) (settingsKey : String) (actions : List Action) :
    let start : Listener := { resources := r, settingsKey }
    let l := (start.actAll actions).1
    let entries := start.account actions
    l.connections.length = (actions.filterMap Action.client?).length ∧
    (l.registry = entries.foldl Entry.apply {} ∧
      (l.live < 2 ^ 64 → l.registry.live.toNat = l.live)) ∧
    (∀ i, entries.count (.registered i) = (if i < l.connections.length then 1 else 0) ∧
      entries.count (.released i) =
        if l.connections[i]?.map Connection.isLive = some false then 1 else 0) ∧
    (∀ i, l.change? (.advance i) = some (.released i) → 0 < l.live ∧
      (l.live < 2 ^ 64 → l.registry.release.live.toNat + 1 = l.registry.live.toNat)) ∧
    (∀ i c input wire, l.connections[i]? = some c →
      (actions.filterMap Action.client?)[i]? = some (input, wire) →
      input.bytes.length + 1 < steps i 0 actions → c.isLive = false) ∧
    (l.connections.length ≤ 2 ^ 64 → (l.connections.map Connection.id).Nodup) := by
  intro start l entries
  have hexact : l.Exact := Exact.actAll ⟨rfl, rfl, rfl⟩ actions
  refine ⟨length_connections rfl actions,
    ⟨start.registry_actAll actions, hexact.toNat_live⟩, fun i => ⟨?_, ?_⟩, ?_, ?_,
    hexact.nodup_ids⟩
  · simpa [due, start] using (start.due_actAll actions (.registered i)).symm
  · simpa [due, start] using (start.due_actAll actions (.released i)).symm
  · intro i hchange
    have hpos := live_pos_of_released hchange
    refine ⟨hpos, fun hlive => ?_⟩
    exact Registry.toNat_release ((hexact.toNat_live hlive).symm ▸ hpos)
  · intro i c input wire hc hclient hsteps
    have hleft := Phase.left_iterate r (Phase.start settingsKey (input, wire)) (steps i 0 actions)
    rw [← phase_of_client hc hclient] at hleft
    have hstart : (Phase.start settingsKey (input, wire)).left = input.bytes.length + 2 := rfl
    exact Connection.isLive_of_left (by omega)

/-- Of two clients one breaks off in the middle of a frame and is released, the other has just come.
-/
example :
    let r : Resources :=
      { symbols := .empty, diagnostics := .unavailable "", readText := fun _ => .ok "" }
    let start : Listener := { resources := r, settingsKey := "" }
    let actions : List Action :=
      [.accept ⟨[67], none⟩, .advance 0, .accept ⟨[], none⟩, .advance 0]
    (start.actAll actions).1.registry.live = 1 ∧
      start.account actions = [.registered 0, .registered 1, .released 0] := by
  decide +kernel

end Listener

end RuleServer

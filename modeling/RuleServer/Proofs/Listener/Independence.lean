import Mathlib
import RuleServer.Listener.Basic
import RuleServer.Proofs.Rpc.Sequence
import RuleServer.Proofs.Session.Causality

/-!
Connections side by side. Whatever the sessions of a listener do in between, each of them goes on as
if it were alone: how far it has come depends on its own input and on the number of its own steps,
and when it is over, it is where its run on that input ends.
-/

namespace RuleServer

namespace Session

variable {r : Resources} {x y : Session} {stream rest : ByteStream} {events : List Event}

theorem step_shorter (h : x.step r stream = .goOn y rest events) :
    rest.bytes.length < stream.bytes.length := by
  by_cases hframe : ∃ payload after, Frame.read stream = .ok (some (payload, after))
  · obtain ⟨payload, after, hread⟩ := hframe
    rw [step_of_frame hread] at h
    rw [Step.rest_of_after h]
    exact Frame.read_shorter hread
  · obtain ⟨progress, hended, -⟩ :=
      step_without_frame (fun payload after hread => hframe ⟨payload, after, hread⟩) r x
    simp [hended] at h

/-- More fuel than there are bytes makes no difference. -/
theorem serve_congr {fuel fuel' : Nat} (h : stream.bytes.length < fuel)
    (h' : stream.bytes.length < fuel') : serve fuel (fun _ => r) x stream = serve fuel' (fun _ => r) x stream := by
  induction fuel generalizing fuel' x stream with
  | zero => simp at h
  | succ fuel ih =>
    obtain ⟨left, rfl⟩ : ∃ left, fuel' = left + 1 := ⟨fuel' - 1, by omega⟩
    rw [serve, serve]
    cases hstep : x.step r stream with
    | ended progress => rfl
    | goOn y rest events =>
      have hshorter := step_shorter hstep
      simp only [ih (x := y) (show rest.bytes.length < fuel by omega)
        (show rest.bytes.length < left by omega)]

theorem run_of_goOn (h : x.step r stream = .goOn y rest events) :
    run r x stream = { run r y rest with events := events ++ (run r y rest).events } := by
  have hrest : serve stream.bytes.length (fun _ => r) y rest = run r y rest :=
    serve_congr (step_shorter h) (Nat.lt_succ_self _)
  rw [run, runOver, serve, h]
  simp only [hrest]

theorem run_of_ended {progress : Progress SessionEnd} (h : x.step r stream = .ended progress) :
    run r x stream = progress := by
  rw [run, runOver, serve, h]

end Session

namespace Phase

def start (settingsKey : String) (client : ByteStream × Wire) : Phase :=
  .serving { context := { settingsKey }, wire := client.2 } client.1

/-- The phase after a connection's next step. -/
def next (r : Resources) (p : Phase) : Phase :=
  (Listener.turn r p).1

/-- What a connection comes to if it is left alone: the session at its end, and how it ended. -/
def outcome (r : Resources) : Phase → Session × Except Fault SessionEnd
  | serving x input => ((Session.run r x input).session, (Session.run r x input).result)
  | closing x result => (x, result)
  | gone x result => (x, result)

theorem outcome_next (r : Resources) (p : Phase) : (p.next r).outcome r = p.outcome r := by
  cases p with
  | serving x input =>
    simp only [next, Listener.turn]
    cases hstep : x.step r input with
    | goOn y rest events => simp only [outcome, Session.run_of_goOn hstep]
    | ended progress => simp only [outcome, Session.run_of_ended hstep]
  | closing x result => rfl
  | gone x result => rfl

theorem outcome_iterate (r : Resources) (p : Phase) (n : Nat) :
    ((next r)^[n] p).outcome r = p.outcome r := by
  induction n generalizing p with
  | zero => rfl
  | succ n ih => rw [Function.iterate_succ_apply, ih, outcome_next]

/-- The most steps that a connection can still take. -/
def left : Phase → Nat
  | serving _ input => input.bytes.length + 2
  | closing _ _ => 1
  | gone _ _ => 0

theorem left_next (r : Resources) (p : Phase) : (p.next r).left ≤ p.left - 1 := by
  cases p with
  | serving x input =>
    simp only [next, Listener.turn]
    cases hstep : x.step r input with
    | goOn y rest events =>
      have hshorter := Session.step_shorter hstep
      simp only [left]
      omega
    | ended progress => simp [left]
  | closing x result => simp [next, Listener.turn, left]
  | gone x result => simp [next, Listener.turn, left]

theorem left_iterate (r : Resources) (p : Phase) (n : Nat) :
    ((next r)^[n] p).left ≤ p.left - n := by
  induction n generalizing p with
  | zero => exact Nat.le_refl _
  | succ n ih =>
    rw [Function.iterate_succ_apply]
    have hnext := p.left_next r
    have hrest := ih (p.next r)
    omega

end Phase

namespace Connection

theorem outcome_of_result? {r : Resources} {c : Connection} {result : Except Fault SessionEnd}
    (h : c.result? = some result) : c.phase.outcome r = (c.session, result) := by
  obtain ⟨id, phase⟩ := c
  cases phase with
  | serving x input => simp [result?] at h
  | closing x result' =>
    obtain rfl : result' = result := by simpa [result?] using h
    rfl
  | gone x result' =>
    obtain rfl : result' = result := by simpa [result?] using h
    rfl

theorem written_outcome (r : Resources) (c : Connection) :
    c.session.wire.written <+: (c.phase.outcome r).1.wire.written := by
  obtain ⟨id, phase⟩ := c
  cases phase with
  | serving x input => exact Session.written_serve _ _ x input
  | closing x result => exact List.prefix_refl _
  | gone x result => exact List.prefix_refl _

theorem isSome_result?_of_left {c : Connection} (h : c.phase.left ≤ 1) : c.result?.isSome := by
  obtain ⟨id, phase⟩ := c
  cases phase with
  | serving x input => simp [Phase.left] at h
  | closing x result => rfl
  | gone x result => rfl

end Connection

namespace Listener

def phases (l : Listener) : List Phase :=
  l.connections.map Connection.phase

/-- The client that comes with an action: all that it will send, and the way to write to it. -/
def Action.client? : Action → Option (ByteStream × Wire)
  | accept input wire => some (input, wire)
  | advance _ => none

/-- The steps of the connection with an index, among actions at a listener that had `n` connections
before. A step that was asked for before there was such a connection does not count. -/
def steps (index : Nat) : (n : Nat) → List Action → Nat
  | _, [] => 0
  | n, .accept _ _ :: actions => steps index (n + 1) actions
  | n, .advance i :: actions =>
    (if i = index ∧ index < n then 1 else 0) + steps index n actions

theorem act_resources (l : Listener) (a : Action) : (l.act a).1.resources = l.resources := by
  cases a with
  | accept input wire => rfl
  | advance index =>
    simp only [act, advance]
    split <;> rfl

theorem act_settingsKey (l : Listener) (a : Action) : (l.act a).1.settingsKey = l.settingsKey := by
  cases a with
  | accept input wire => rfl
  | advance index =>
    simp only [act, advance]
    split <;> rfl

theorem phases_accept (l : Listener) (input : ByteStream) (wire : Wire) :
    (l.act (.accept input wire)).1.phases =
      l.phases ++ [Phase.start l.settingsKey (input, wire)] := by
  simp [act, accept, phases, Phase.start]

theorem phases_advance (l : Listener) (index : Nat) :
    (l.act (.advance index)).1.phases = l.phases.modify index (Phase.next l.resources) := by
  simp only [List.modify_eq_set_getElem?, phases, List.getElem?_map, act, advance]
  cases hc : l.connections[index]? with
  | none => rfl
  | some c => simp [List.map_set, Phase.next]

theorem actAll_cons (l : Listener) (a : Action) (actions : List Action) :
    (l.actAll (a :: actions)).1 = ((l.act a).1.actAll actions).1 := rfl

/-- Every connection has come as far as it would have come alone, with as many steps. -/
theorem phases_actAll (l : Listener) (actions : List Action) (i : Nat) :
    (l.actAll actions).1.phases[i]? =
      (l.phases ++ (actions.filterMap Action.client?).map (Phase.start l.settingsKey))[i]?.map
        (Phase.next l.resources)^[steps i l.phases.length actions] := by
  induction actions generalizing l with
  | nil => simp [actAll, steps]
  | cons a actions ih =>
    rw [actAll_cons, ih, act_resources, act_settingsKey]
    cases a with
    | accept input wire =>
      rw [phases_accept]
      simp [steps, Action.client?]
    | advance j =>
      rw [phases_advance]
      simp only [List.length_modify, steps, List.filterMap_cons, Action.client?]
      by_cases hi : i < l.phases.length
      · rw [List.getElem?_append_left (by simpa using hi), List.getElem?_append_left hi,
          List.getElem?_modify]
        by_cases hj : j = i
        · subst hj
          simp [hi, Nat.add_comm 1, Function.iterate_succ]
        · simp [hj]
      · rw [List.getElem?_append_right (by simpa using hi),
          List.getElem?_append_right (by simpa using hi)]
        simp [hi]

theorem length_actAll (l : Listener) (actions : List Action) :
    (l.actAll actions).1.phases.length =
      l.phases.length + (actions.filterMap Action.client?).length := by
  induction actions generalizing l with
  | nil => rfl
  | cons a actions ih =>
    rw [actAll_cons, ih]
    cases a with
    | accept input wire =>
      rw [phases_accept]
      simp only [List.length_append, List.filterMap_cons, Action.client?, List.length_cons,
        List.length_nil]
      omega
    | advance j =>
      rw [phases_advance, List.length_modify]
      rfl

theorem length_connections {l : Listener} (h : l.connections = []) (actions : List Action) :
    (l.actAll actions).1.connections.length = (actions.filterMap Action.client?).length := by
  simpa [phases, h] using l.length_actAll actions

theorem phase_of_client {r : Resources} {settingsKey : String} {actions : List Action} {i : Nat}
    {c : Connection} {client : ByteStream × Wire}
    (hc : (actAll { resources := r, settingsKey } actions).1.connections[i]? = some c)
    (hclient : (actions.filterMap Action.client?)[i]? = some client) :
    c.phase = (Phase.next r)^[steps i 0 actions] (Phase.start settingsKey client) := by
  have hrun := phases_actAll { resources := r, settingsKey } actions i
  simp only [phases, List.map_nil, List.nil_append, List.getElem?_map, hc, hclient] at hrun
  exact Option.some.inj hrun

/-- Whatever the clients of a listener send and in whatever order their sessions take their steps,
each connection is where its own steps alone would have brought it. It has written nothing but what
the session writes that is run alone on the client's input, and when it is over, it is where that
run ends, in its session and in its result. It is over after as many steps as there are bytes, and
one. -/
theorem connections_independent (r : Resources) (settingsKey : String) (actions : List Action) :
    let l : Listener := { resources := r, settingsKey }
    let connections := (l.actAll actions).1.connections
    let clients := actions.filterMap Action.client?
    connections.length = clients.length ∧
    ∀ i c input wire, connections[i]? = some c → clients[i]? = some (input, wire) →
      let x : Session := { context := { settingsKey }, wire }
      let alone := Session.run r x input
      c.phase = (Phase.next r)^[steps i 0 actions] (.serving x input) ∧
      c.session.wire.written <+: alone.session.wire.written ∧
      (∀ result, c.result? = some result → c.session = alone.session ∧ result = alone.result) ∧
      (input.bytes.length < steps i 0 actions → c.result? = some alone.result) := by
  intro l connections clients
  refine ⟨length_connections rfl actions, ?_⟩
  intro i c input wire hc hclient x alone
  have hphase : c.phase = (Phase.next r)^[steps i 0 actions] (.serving x input) :=
    phase_of_client hc hclient
  have houtcome : c.phase.outcome r = (alone.session, alone.result) := by
    rw [hphase, Phase.outcome_iterate]
    rfl
  have hover : ∀ result, c.result? = some result →
      c.session = alone.session ∧ result = alone.result := by
    intro result hresult
    rw [Connection.outcome_of_result? hresult] at houtcome
    exact Prod.mk.inj houtcome
  refine ⟨hphase, ?_, hover, fun hsteps => ?_⟩
  · have hwritten := c.written_outcome r
    rwa [houtcome] at hwritten
  · have hleft := Phase.left_iterate r (.serving x input) (steps i 0 actions)
    rw [← hphase, Phase.left] at hleft
    obtain ⟨result, hresult⟩ :=
      Option.isSome_iff_exists.mp (c.isSome_result?_of_left (by omega))
    rw [hresult, (hover result hresult).2]

end Listener

end RuleServer

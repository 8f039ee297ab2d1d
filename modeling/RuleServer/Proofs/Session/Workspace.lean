import Mathlib
import RuleServer.Proofs.Session.Notices

/-!
What a session knows of its client's workspace. The folder is the one that the client named when it
was allowed to start, and the settings are those of the last change of configuration that came while
the session was initialized; no other message touches either of them.
-/

namespace RuleServer

/-- The folder that the parameters of a request to start name: by a URI, else by a path, else none. -/
inductive Json.NamesFolder (v : Json) : Option Path → Prop
  | byUri {uri : String} {path : Path} (huri : (v.member? "rootUri").bind string? = some uri)
    (hpath : localFile uri = .ok path) : NamesFolder v (some path)
  | byPath {path : String} (huri : (v.member? "rootUri").bind string? = none)
    (hpath : (v.member? "rootPath").bind string? = some path) : NamesFolder v (some (.ofText path))
  | nowhere (huri : (v.member? "rootUri").bind string? = none)
    (hpath : (v.member? "rootPath").bind string? = none) : NamesFolder v none

theorem Context.namesFolder_of_workspaceRoot {v : Json} {root : Option Path}
    (h : workspaceRoot v = .ok root) : v.NamesFolder root := by
  unfold workspaceRoot at h
  cases huri : (v.member? "rootUri").bind Json.string? with
  | some uri =>
    rw [huri] at h
    cases hpath : localFile uri with
    | error fault => simp [hpath, Except.map] at h
    | ok path =>
      obtain rfl : some path = root := by simpa [hpath, Except.map] using h
      exact .byUri huri hpath
  | none =>
    rw [huri] at h
    cases hpath : (v.member? "rootPath").bind Json.string? with
    | some path =>
      obtain rfl : some (Path.ofText path) = root := by simpa [hpath] using h
      exact .byPath huri hpath
    | none =>
      obtain rfl : none = root := by simpa [hpath] using h
      exact .nowhere huri hpath

namespace Message

/-- The settings under a key that a change of configuration brings, if the message is one. Settings
that are missing or no object count as empty. -/
def settings? (key : String) : Message → Option Members
  | .notification n =>
    if n.method = "workspace/didChangeConfiguration" then
      match (n.params.getD .null).path? ["settings", key] with
      | some (.object members) => some members
      | _ => some []
    else none
  | _ => none

def isSave : Message → Bool
  | .notification n => n.method = "textDocument/didSave"
  | _ => false

theorem settings?_eq (key : String) (m : Message) :
    m.settings? key =
      if m.method? = some (.notification .didChangeConfiguration) then
        some (Context.configOf key m.params)
      else none := by
  by_cases hmethod : m.method? = some (.notification .didChangeConfiguration)
  · rw [if_pos hmethod]
    obtain ⟨n, rfl, hname⟩ := method?_eq_notification_iff.mp hmethod
    have hname : n.method = "workspace/didChangeConfiguration" := hname
    rw [settings?, if_pos hname, Context.configOf, params]
    cases hpath : (n.params.getD .null).path? ["settings", key] with
    | none => rfl
    | some v => cases v <;> rfl
  · rw [if_neg hmethod]
    cases m with
    | notification n =>
      have hname : n.method ≠ "workspace/didChangeConfiguration" := fun hname =>
        hmethod (method?_eq_notification_iff.mpr ⟨n, rfl, hname⟩)
      rw [settings?, if_neg hname]
    | _ => rfl

end Message

namespace Effect

def config? : Effect → Option Members
  | configure config => some config
  | _ => none

def root? : Effect → Option (Option Path)
  | start root => some root
  | _ => none

theorem apply_config (e : Effect) (c : Context) : (e.apply c).config = e.config?.getD c.config := by
  cases e <;> rfl

theorem apply_root (e : Effect) (c : Context) : (e.apply c).root = e.root?.getD c.root := by
  cases e <;> rfl

theorem apply_settingsKey (e : Effect) (c : Context) :
    (e.apply c).settingsKey = c.settingsKey := by
  cases e <;> rfl

theorem ofDocument_workspace (r : Resources) (document? : Option (String × String)) :
    (ofDocument r document?).config? = none ∧ (ofDocument r document?).root? = none := by
  cases document? with
  | none => exact ⟨rfl, rfl⟩
  | some document =>
    simp only [ofDocument, ofDiagnosis]
    cases (r.diagnostics.diagnose document.1 document.2).result <;> exact ⟨rfl, rfl⟩

end Effect

namespace Context

variable {r : Resources} {c : Context}

theorem callEffect_workspace (v : Json) (k : Method) :
    (c.callEffect r v k).config? =
        (if k = .notification .didChangeConfiguration then some (configOf c.settingsKey v) else none) ∧
      (c.callEffect r v k).root? =
        (if k = .request .start then (workspaceRoot v).toOption else none) := by
  obtain k | k := k
  · cases k with
    | start =>
      simp only [callEffect]
      cases workspaceRoot v <;> exact ⟨rfl, rfl⟩
    | executeCommand => exact Effect.ofDocument_workspace r _
    | _ => exact ⟨rfl, rfl⟩
  · cases k with
    | didOpen => exact Effect.ofDocument_workspace r _
    | didSave => exact Effect.ofDocument_workspace r _
    | _ => exact ⟨rfl, rfl⟩

theorem effect_workspace (m : Message) :
    (c.effect r m).config? =
        (if c.call? m = some (.notification .didChangeConfiguration) then
          some (configOf c.settingsKey m.params) else none) ∧
      (c.effect r m).root? =
        (if c.call? m = some (.request .start) then (workspaceRoot m.params).toOption else none) := by
  have hkey : (c.note m).settingsKey = c.settingsKey := by cases m <;> rfl
  unfold effect
  cases c.call? m with
  | none => exact ⟨rfl, rfl⟩
  | some k =>
    simpa only [Option.some.injEq, hkey] using
      callEffect_workspace (r := r) (c := c.note m) m.params k

theorem accept_config (m : Message) : (c.accept r m).context.config =
    if c.state = .initialized then (m.settings? c.settingsKey).getD c.config else c.config := by
  have hnote : (c.note m).config = c.config := by cases m <;> rfl
  have hcalls : c.call? m = some (.notification .didChangeConfiguration) ↔
      c.state = .initialized ∧ m.method? = some (.notification .didChangeConfiguration) :=
    call?_eq_some_iff rfl
  rw [accept_context, Effect.apply_config, hnote, (effect_workspace m).1, Message.settings?_eq]
  simp only [hcalls]
  by_cases hstate : c.state = .initialized
  · simp only [hstate, true_and, if_true]
  · simp only [hstate, false_and, if_false, Option.getD_none]

theorem accept_root_of_grants {m : Message} (h : c.Grants r "initialize" m) :
    workspaceRoot m.params = .ok (c.accept r m).context.root := by
  obtain ⟨hstate, hopens⟩ := grants_start_iff.mp h
  obtain ⟨hmethod, hok⟩ := Message.opens_iff.mp hopens
  have hcall : c.call? m = some (.request .start) := by
    rw [call?, hmethod, hstate]
    rfl
  rw [accept_context, Effect.apply_root, (effect_workspace m).2, if_pos hcall]
  cases hroot : workspaceRoot m.params with
  | error fault => simp [hroot, Except.isOk, Except.toBool] at hok
  | ok root => rfl

theorem accept_root_of_not_grants {m : Message} (h : ¬ c.Grants r "initialize" m) :
    (c.accept r m).context.root = c.root := by
  have hnote : (c.note m).root = c.root := by cases m <;> rfl
  rw [accept_context, Effect.apply_root, hnote, (effect_workspace m).2]
  split_ifs with hcall
  · have hpermits := permits_of_call? hcall
    cases hroot : workspaceRoot m.params with
    | error fault => rfl
    | ok root =>
      refine absurd (grants_start_iff.mpr ⟨?_, Message.opens_iff.mpr ⟨method?_of_call? hcall, ?_⟩⟩) h
      · simpa [Method.precondition, RequestMethod.precondition, Precondition.permits] using hpermits
      · rw [hroot]
        rfl
  · rfl

end Context

namespace Visit

/-- The configuration that the message puts in place, if it comes in time. -/
def configuration? (key : String) (v : Visit) : Option Members :=
  if v.session.context.state = .initialized then v.message.settings? key else none

/-- The message is a request to start that is granted. -/
def Starts (v : Visit) : Prop :=
  v.session.context.Grants v.resources "initialize" v.message

theorem done_config (v : Visit) : v.done.session.context.config =
    (v.configuration? v.session.context.settingsKey).getD v.session.context.config := by
  obtain ⟨outbox, hcontext⟩ := Session.handle_context (r := v.resources) v.session v.message
  rw [done, hcontext, configuration?]
  refine (Context.accept_config v.message).trans ?_
  split_ifs <;> rfl

theorem done_settingsKey (v : Visit) :
    v.done.session.context.settingsKey = v.session.context.settingsKey := by
  obtain ⟨outbox, hcontext⟩ := Session.handle_context (r := v.resources) v.session v.message
  have hnote : (v.session.context.note v.message).settingsKey = v.session.context.settingsKey := by
    cases v.message <;> rfl
  rw [done, hcontext, Context.accept_context, Effect.apply_settingsKey, hnote]

theorem namesFolder_of_starts {v : Visit} (h : v.Starts) :
    v.message.params.NamesFolder v.done.session.context.root := by
  obtain ⟨outbox, hcontext⟩ := Session.handle_context (r := v.resources) v.session v.message
  rw [done, hcontext]
  exact Context.namesFolder_of_workspaceRoot (Context.accept_root_of_grants h)

theorem done_root_of_not_starts {v : Visit} (h : ¬ v.Starts) :
    v.done.session.context.root = v.session.context.root := by
  obtain ⟨outbox, hcontext⟩ := Session.handle_context (r := v.resources) v.session v.message
  rw [done, hcontext]
  exact Context.accept_root_of_not_grants h

theorem uninitialized_of_starts {v : Visit} (h : v.Starts) :
    v.session.context.state = .uninitialized :=
  (Context.grants_start_iff.mp h).1

theorem done_state_ne {v : Visit} (h : v.Starts ∨ v.session.context.state ≠ .uninitialized) :
    v.done.session.context.state ≠ .uninitialized := by
  rw [done, Session.handle_state]
  unfold SessionState.next
  obtain hstarts | hstate := h
  · obtain ⟨hstate, hopens⟩ := Context.grants_start_iff.mp hstarts
    rw [hstate]
    split_ifs <;> simp_all
  · cases hs : v.session.context.state with
    | uninitialized => exact absurd hs hstate
    | _ => split_ifs <;> simp

theorem not_asks_of_isSave {v : Visit} (hsave : v.message.isSave)
    (h : Members.find? "compileOnSave" v.session.context.config ≠ some (.bool true))
    (uri text : String) : ¬ v.Asks uri text := by
  obtain ⟨⟨r, m⟩, x⟩ := v
  rintro ⟨-, hwants⟩
  cases hwants with
  | opened hname => simp [Message.isSave, hname] at hsave
  | saved _ _ hcompile => exact h hcompile
  | compiled => simp [Message.isSave] at hsave

end Visit

namespace Session

theorem attend_config (x : Session) (occasions : List Occasion) :
    (x.attend occasions).context.config =
      ((x.visits occasions).filterMap
        (Visit.configuration? x.context.settingsKey)).getLast?.getD x.context.config := by
  induction occasions using List.reverseRecOn with
  | nil => rfl
  | append_singleton occasions o ih =>
    have hkey : (x.attend occasions).context.settingsKey = x.context.settingsKey :=
      attend_preserves (P := fun y => y.context.settingsKey = x.context.settingsKey)
        (fun v hv => v.done_settingsKey.trans hv) rfl occasions
    rw [attend_concat, Visit.done_config, visits_concat, List.filterMap_append, hkey, ih]
    cases hbrings : Visit.configuration? x.context.settingsKey ⟨o, x.attend occasions⟩ with
    | none => simp [hbrings]
    | some config => simp [hbrings]

/-- The visits that start a session, and the folder after them. -/
theorem attend_root {x : Session} (hroot : x.context.root = none) (occasions : List Occasion) :
    (∀ v ∈ x.visits occasions, v.Starts →
      (x.attend occasions).context.state ≠ .uninitialized ∧
        v.message.params.NamesFolder (x.attend occasions).context.root) ∧
    ((∀ v ∈ x.visits occasions, ¬ v.Starts) → (x.attend occasions).context.root = none) ∧
    (x.visits occasions).Pairwise (fun v w => ¬ (v.Starts ∧ w.Starts)) := by
  induction occasions using List.reverseRecOn with
  | nil => exact ⟨by simp, fun _ => hroot, .nil⟩
  | append_singleton occasions o ih =>
    obtain ⟨hfolder, hnone, honce⟩ := ih
    have hlater : ∀ v ∈ x.visits occasions, v.Starts → ¬ (Visit.mk o (x.attend occasions)).Starts :=
      fun v hv hstarts hagain => (hfolder v hv hstarts).1 (Visit.uninitialized_of_starts hagain)
    rw [attend_concat, visits_concat]
    refine ⟨fun v hv hstarts => ?_, fun hno => ?_, ?_⟩
    · obtain hv | hv := List.mem_append.mp hv
      · obtain ⟨hstate, hnames⟩ := hfolder v hv hstarts
        rw [Visit.done_root_of_not_starts (hlater v hv hstarts)]
        exact ⟨Visit.done_state_ne (.inr hstate), hnames⟩
      · obtain rfl := List.mem_singleton.mp hv
        exact ⟨Visit.done_state_ne (.inl hstarts), Visit.namesFolder_of_starts hstarts⟩
    · rw [List.forall_mem_append] at hno
      rw [Visit.done_root_of_not_starts (hno.2 _ (List.mem_singleton_self _))]
      exact hnone hno.1
    · rw [List.pairwise_append]
      refine ⟨honce, List.pairwise_singleton _ _, fun v hv w hw hboth => ?_⟩
      obtain rfl := List.mem_singleton.mp hw
      exact hlater v hv hboth.1 hboth.2

/-- What a session that is just starting knows of the workspace after messages, whatever could be
written meanwhile. The configuration is the one that the last change of configuration put in place,
and empty before. The folder is the one named by the request to start that was granted, of which
there is at most one, and none before. No other message changes either of them, whatever the state.
A saved document does not get to the provider of diagnostics unless that configuration says so. -/
theorem workspace_of_history (settingsKey : String) (wire : Wire) (occasions : List Occasion) :
    let x : Session := { context := { settingsKey }, wire }
    let y := x.attend occasions
    let visits := x.visits occasions
    let config := (visits.filterMap (Visit.configuration? settingsKey)).getLast?.getD []
    y.context.config = config ∧
    (∀ v ∈ visits, v.Starts → v.message.params.NamesFolder y.context.root) ∧
    ((∀ v ∈ visits, ¬ v.Starts) → y.context.root = none) ∧
    visits.Pairwise (fun v w => ¬ (v.Starts ∧ w.Starts)) ∧
    (∀ v : Visit,
      (v.configuration? v.session.context.settingsKey = none →
        v.done.session.context.config = v.session.context.config) ∧
      (¬ v.Starts → v.done.session.context.root = v.session.context.root)) ∧
    ∀ o : Occasion, o.message.isSave →
      Members.find? "compileOnSave" config ≠ some (.bool true) →
        Visit.diagnoses ⟨o, y⟩ = [] ∧
        ∀ p, y.handle { o.resources with diagnostics := p } o.message =
          y.handle o.resources o.message := by
  intro x y visits config
  have hconfig : y.context.config = config := attend_config x occasions
  obtain ⟨hfolder, hnone, honce⟩ := attend_root (x := x) rfl occasions
  refine ⟨hconfig, fun v hv hstarts => (hfolder v hv hstarts).2, hnone, honce,
    fun v => ⟨fun hbrings => ?_, Visit.done_root_of_not_starts⟩, fun o hsave hcompile => ?_⟩
  · rw [v.done_config, hbrings]
    rfl
  · have hasks := Visit.not_asks_of_isSave (v := ⟨o, y⟩) hsave (hconfig ▸ hcompile)
    refine ⟨?_, fun p => Visit.handle_of_agrees ⟨o, y⟩ fun uri text h => absurd h (hasks uri text)⟩
    obtain ⟨hdiagnoses, -⟩ | ⟨uri, text, h, -⟩ := Visit.diagnoses_cases ⟨o, y⟩
    · exact hdiagnoses
    · exact absurd h (hasks uri text)

end Session

end RuleServer

import Mathlib
import RuleServer.Proofs.Json.Member
import RuleServer.Proofs.Session.Effect

/-!
When the provider of diagnostics is asked. A message asks it at most once: for a document that was
opened, for one that was saved where saved documents are compiled, or for one that the client wants
compiled. Its answers to anything else do not matter.
-/

namespace RuleServer

/-- A question to the provider of diagnostics, with what it gave. -/
structure Diagnosis where
  uri : String
  text : String
  result : Except Fault (List Diagnostic)

/-- Ask the provider about a document. -/
def Diagnosis.ask (r : Resources) (uri text : String) : Diagnosis :=
  ⟨uri, text, (r.diagnostics.diagnose uri text).result⟩

namespace Event

def diagnosis? : Event → Option Diagnosis
  | consulted (.diagnosis uri text result) => some ⟨uri, text, result⟩
  | _ => none

def diagnoses (events : List Event) : List Diagnosis :=
  events.filterMap diagnosis?

@[simp] theorem diagnoses_nil : diagnoses [] = [] := rfl

@[simp] theorem diagnoses_append (events more : List Event) :
    diagnoses (events ++ more) = diagnoses events ++ diagnoses more :=
  List.filterMap_append

@[simp] theorem diagnoses_logged (line : LogLine) (events : List Event) :
    diagnoses (.logged line :: events) = diagnoses events := rfl

@[simp] theorem diagnoses_moved (source target : SessionState) (events : List Event) :
    diagnoses (.moved source target :: events) = diagnoses events := rfl

@[simp] theorem diagnoses_symbols (events : List Event) :
    diagnoses (.consulted .symbols :: events) = diagnoses events := rfl

@[simp] theorem diagnoses_diagnosis (uri text : String) (result : Except Fault (List Diagnostic))
    (events : List Event) :
    diagnoses (.consulted (.diagnosis uri text result) :: events) =
      ⟨uri, text, result⟩ :: diagnoses events := rfl

@[simp] theorem diagnoses_log (log : List LogLine) : diagnoses (log.map .logged) = [] := by
  induction log with
  | nil => rfl
  | cons line log ih => exact ih

end Event

open Event (diagnoses)

namespace Context

variable {r : Resources} {c : Context}

/-- The document that a message has diagnosed, by its URI and its text. -/
def asked? (r : Resources) (c : Context) (m : Message) : Option (String × String) :=
  (c.call? m).bind ((c.note m).document? r m.params)

def asks (r : Resources) (document? : Option (String × String)) : List Diagnosis :=
  (document?.map fun (uri, text) => Diagnosis.ask r uri text).toList

theorem publish_diagnoses (uri text : String) :
    diagnoses (c.publish r uri text).events = [.ask r uri text] := by
  simp only [publish]
  split <;> simp [Event.warn, Event.debug, Diagnosis.ask]

theorem respond_diagnoses (reply : Reply (Option Json)) : diagnoses (respond reply).1 = [] := by
  unfold respond
  split <;> rfl

theorem askSymbols_diagnoses {α : Type} (decode : Decoder α) (ask : α → Reply (Option Json))
    (v : Json) : diagnoses (c.askSymbols decode ask v).events = [] := by
  unfold askSymbols
  split
  · rfl
  · simp [respond_diagnoses]

theorem request_diagnoses (k : RequestMethod) (v : Json) :
    diagnoses (c.request r k v).events = asks r (c.document? r v (.request k)) := by
  cases k with
  | start =>
    simp only [request, start]
    cases workspaceRoot v <;> rfl
  | shutdown => rfl
  | executeCommand =>
    simp only [request, executeCommand, document?]
    cases commandDocument r v with
    | error e => rfl
    | ok document => exact publish_diagnoses _ _
  | _ => exact askSymbols_diagnoses _ _ v

theorem changeConfiguration_diagnoses (v : Json) :
    diagnoses (c.changeConfiguration v).events = [] := by
  simp only [changeConfiguration]
  split_ifs <;> rfl

theorem exit_diagnoses : diagnoses c.exit.events = [] := by
  simp only [exit, move]
  split_ifs <;> rfl

theorem notification_diagnoses (k : NotificationMethod) (v : Json) :
    diagnoses (c.notification r k v).events = asks r (c.document? r v (.notification k)) := by
  cases k with
  | initialized => rfl
  | exit => exact exit_diagnoses
  | didChangeConfiguration => exact changeConfiguration_diagnoses v
  | didOpen =>
    simp only [notification, opened, document?]
    cases OpenedDocument.decode .message v with
    | error fault => rfl
    | ok document => exact publish_diagnoses _ _
  | didSave =>
    simp only [notification, saved, document?]
    cases SavedDocument.decode .message v with
    | error fault => rfl
    | ok document =>
      cases c.settings.compileOnSave with
      | false => rfl
      | true =>
        simp only [Except.toOption, Option.bind_some, if_true]
        cases savedText r document with
        | error fault => rfl
        | ok text => exact publish_diagnoses _ _

theorem answerRequest_diagnoses (q : Request) : diagnoses (c.answerRequest r q).events =
    diagnoses ((c.note (.request q)).answer r q.method q.params).events := by
  unfold answerRequest
  dsimp only
  split <;> simp [Event.debug, note]

theorem accept_diagnoses (m : Message) :
    diagnoses (c.accept r m).events = asks r (c.asked? r m) := by
  cases m with
  | request q =>
    refine (answerRequest_diagnoses q).trans ?_
    obtain ⟨hcall, e, hanswer⟩ | ⟨k, hcall, hanswer⟩ := c.answer_cases r q
    · rw [hanswer, asked?, hcall]
      rfl
    · rw [hanswer, asked?, hcall]
      exact request_diagnoses k _
  | notification n =>
    change diagnoses (c.receive r n).events = _
    obtain ⟨hcall, -, hevents⟩ | ⟨k, hcall, -, hevents⟩ := c.receive_cases r n
    · rw [asked?, hcall]
      obtain hevents | ⟨remark, -, hevents⟩ := hevents <;> rw [hevents] <;> rfl
    · have hasks := notification_diagnoses (r := r) (c := c) k (Message.notification n).params
      rw [asked?, hcall]
      obtain hevents | ⟨remark, -, hevents⟩ := hevents
      · rw [hevents]
        exact hasks
      · rw [hevents, Event.diagnoses_append, hasks]
        exact List.append_nil _
  | response _ => rfl
  | malformed _ _ => rfl

/-- Another provider gives the same answer about a document that may be there. -/
def Agrees (r : Resources) (p : DiagnosticsProvider) (document? : Option (String × String)) : Prop :=
  ∀ uri text, document? = some (uri, text) → p.diagnose uri text = r.diagnostics.diagnose uri text

variable {p : DiagnosticsProvider}

theorem publish_of_agrees {uri text : String} (h : Agrees r p (some (uri, text))) :
    c.publish { r with diagnostics := p } uri text = c.publish r uri text := by
  simp only [publish, h uri text rfl]

theorem request_of_agrees {k : RequestMethod} {v : Json}
    (h : Agrees r p (c.document? r v (.request k))) :
    c.request { r with diagnostics := p } k v = c.request r k v := by
  cases k with
  | executeCommand =>
    have hsame : commandDocument { r with diagnostics := p } v = commandDocument r v := rfl
    simp only [request, executeCommand, hsame]
    cases hdocument : commandDocument r v with
    | error e => rfl
    | ok document =>
      simp only [document?, hdocument] at h
      simp only [publish_of_agrees h]
  | _ => rfl

theorem notification_of_agrees {k : NotificationMethod} {v : Json}
    (h : Agrees r p (c.document? r v (.notification k))) :
    c.notification { r with diagnostics := p } k v = c.notification r k v := by
  cases k with
  | didOpen =>
    simp only [notification, opened, publishQuietly]
    cases hdocument : OpenedDocument.decode .message v with
    | error fault => rfl
    | ok document =>
      simp only [document?, hdocument] at h
      simp only [publish_of_agrees h]
  | didSave =>
    simp only [notification, saved, publishQuietly]
    cases hdocument : SavedDocument.decode .message v with
    | error fault => rfl
    | ok document =>
      have hsame : savedText { r with diagnostics := p } document = savedText r document := rfl
      simp only [document?, hdocument, Except.toOption, Option.bind_some] at h
      cases hcompile : c.settings.compileOnSave with
      | false => rfl
      | true =>
        simp only [hcompile, if_true] at h
        simp only [if_true, hsame]
        cases htext : savedText r document with
        | error fault => rfl
        | ok text =>
          rw [htext] at h
          simp only [publish_of_agrees h]
  | _ => rfl

/-- A provider that agrees about the one document of a message, if there is one, does as well. -/
theorem accept_of_agrees {m : Message} (h : Agrees r p (c.asked? r m)) :
    c.accept { r with diagnostics := p } m = c.accept r m := by
  refine accept_congr (fun k hcall => ?_) (fun k hcall => ?_)
  · rw [asked?, hcall] at h
    exact request_of_agrees h
  · obtain ⟨n, rfl, -⟩ := Message.method?_eq_notification_iff.mp (Option.filter_eq_some_iff.mp hcall).1
    rw [asked?, hcall] at h
    exact notification_of_agrees h

/-- The message is about a document that is to be diagnosed: one that was opened, one that was saved
where saved documents are compiled and whose text is at hand, or one that the client wants compiled
and whose file can be read. -/
inductive Wants (r : Resources) (c : Context) : Message → (uri text : String) → Prop
  | opened {n : Notification} {document : OpenedDocument}
    (hname : n.method = "textDocument/didOpen")
    (hdecode : OpenedDocument.decode .message (n.params.getD .null) = .ok document) :
    Wants r c (.notification n) document.uri document.text
  | saved {n : Notification} {document : SavedDocument} {text : String}
    (hname : n.method = "textDocument/didSave")
    (hdecode : SavedDocument.decode .message (n.params.getD .null) = .ok document)
    (hcompile : Members.find? "compileOnSave" c.config = some (.bool true))
    (htext : document.text = some text ∨ document.text = none ∧
      ∃ path, localFile document.uri = .ok path ∧ r.readText path = .ok text) :
    Wants r c (.notification n) document.uri text
  | compiled {q : Request} {p : CommandParams} {uri text : String} {path : Path}
    (hname : q.method = "workspace/executeCommand")
    (hdecode : CommandParams.decode .message (q.params.getD .null) = .ok p)
    (hcommand : p.command = "yara.CompileRule")
    (hargument : p.arguments.head? = some (.string uri))
    (hpath : localFile uri = .ok path) (huri : UriReference.check uri.toList = .ok ())
    (hread : r.readText path = .ok text) :
    Wants r c (.request q) uri text

theorem commandTarget_eq_ok_iff {p : CommandParams} {uri : String} {path : Path} :
    commandTarget p = .ok (uri, path) ↔
      p.command = "yara.CompileRule" ∧ p.arguments.head? = some (.string uri) ∧
        localFile uri = .ok path ∧ UriReference.check uri.toList = .ok () := by
  have hargument : ∀ uri, p.arguments.head? = some (.string uri) ↔
      p.arguments.head?.bind Json.string? = some uri := by
    simp [Option.bind_eq_some_iff, Json.string?_eq_some_iff]
  unfold commandTarget
  split_ifs with hcommand
  · have hother : p.command ≠ "yara.CompileRule" := hcommand
    simp [hother]
  · have hname : p.command = "yara.CompileRule" := not_not.mp hcommand
    rw [hargument]
    cases p.arguments.head?.bind Json.string? with
    | none => simp
    | some uri' =>
      simp only [hname, true_and, Option.some.injEq]
      constructor
      · intro h
        split at h
        · simp at h
        · split at h
          · simp at h
          · obtain ⟨rfl, rfl⟩ := Prod.mk.inj (Except.ok.inj h)
            exact ⟨rfl, by assumption, by assumption⟩
      · rintro ⟨rfl, hpath, hcheck⟩
        simp only [hpath, hcheck]

theorem commandDocument_eq_ok_iff {v : Json} {uri text : String} {path : Path} :
    commandDocument r v = .ok (uri, path, text) ↔
      ∃ p, CommandParams.decode .message v = .ok p ∧ commandTarget p = .ok (uri, path) ∧
        r.readText path = .ok text := by
  simp only [commandDocument, params, bind, Except.bind, Except.mapError]
  cases CommandParams.decode .message v with
  | error fault => simp
  | ok p =>
    simp only [Except.ok.injEq, exists_eq_left']
    cases commandTarget p with
    | error e => simp
    | ok target =>
      obtain ⟨uri', path'⟩ := target
      simp only [Except.ok.injEq, Prod.mk.injEq]
      constructor
      · intro h
        split at h
        · simp [throw, throwThe, MonadExceptOf.throw] at h
        · rename_i text' hread
          obtain ⟨rfl, rfl, rfl⟩ : uri' = uri ∧ path' = path ∧ text' = text := by
            simpa [pure, Except.pure] using h
          exact ⟨⟨rfl, rfl⟩, hread⟩
      · rintro ⟨⟨rfl, rfl⟩, hread⟩
        simp only [hread]
        rfl

theorem savedText_eq_ok_iff {document : SavedDocument} {text : String} :
    savedText r document = .ok text ↔
      document.text = some text ∨ document.text = none ∧
        ∃ path, localFile document.uri = .ok path ∧ r.readText path = .ok text := by
  unfold savedText
  cases document.text with
  | some sent => simp
  | none =>
    cases localFile document.uri with
    | error fault => simp
    | ok path => cases hread : r.readText path <;> simp [Except.mapError, hread]

theorem compileOnSave_iff :
    c.settings.compileOnSave ↔ Members.find? "compileOnSave" c.config = some (.bool true) := by
  simp [settings, Settings.ofMembers, Option.bind_eq_some_iff, Json.bool?_eq_some_iff]

theorem call?_eq_some_iff {k : Method} (hk : k.precondition = .initialized) {m : Message} :
    c.call? m = some k ↔ c.state = .initialized ∧ m.method? = some k := by
  have hpermits : k.precondition.permits c.state ↔ c.state = .initialized := by
    simp [hk, Precondition.permits]
  rw [call?, Option.filter_eq_some_iff, hpermits, and_comm]

theorem wants_of_asked? {m : Message} {uri text : String} (h : c.asked? r m = some (uri, text)) :
    c.state = .initialized ∧ c.Wants r m uri text := by
  obtain ⟨k, hcall, hdocument⟩ := Option.bind_eq_some_iff.mp h
  obtain k | k := k
  · cases k with
    | executeCommand =>
      obtain ⟨hstate, hmethod⟩ := (call?_eq_some_iff rfl).mp hcall
      obtain ⟨q, rfl, hname⟩ := Message.method?_eq_request_iff.mp hmethod
      refine ⟨hstate, ?_⟩
      cases hcommand : commandDocument r (Message.request q).params with
      | error e => simp [document?, hcommand, Except.toOption] at hdocument
      | ok target =>
        obtain ⟨uri', path, text'⟩ := target
        obtain ⟨rfl, rfl⟩ : uri' = uri ∧ text' = text := by
          simpa [document?, hcommand, Except.toOption] using hdocument
        obtain ⟨p, hdecode, htarget, hread⟩ := commandDocument_eq_ok_iff.mp hcommand
        obtain ⟨hcompile, hargument, hpath, huri⟩ := commandTarget_eq_ok_iff.mp htarget
        exact .compiled hname hdecode hcompile hargument hpath huri hread
    | _ => simp [document?] at hdocument
  · cases k with
    | didOpen =>
      obtain ⟨hstate, hmethod⟩ := (call?_eq_some_iff rfl).mp hcall
      obtain ⟨n, rfl, hname⟩ := Message.method?_eq_notification_iff.mp hmethod
      refine ⟨hstate, ?_⟩
      cases hdecode : OpenedDocument.decode .message (Message.notification n).params with
      | error fault => simp [document?, hdecode, Except.toOption] at hdocument
      | ok document =>
        obtain ⟨rfl, rfl⟩ : document.uri = uri ∧ document.text = text := by
          simpa [document?, hdecode, Except.toOption] using hdocument
        exact .opened hname hdecode
    | didSave =>
      obtain ⟨hstate, hmethod⟩ := (call?_eq_some_iff rfl).mp hcall
      obtain ⟨n, rfl, hname⟩ := Message.method?_eq_notification_iff.mp hmethod
      refine ⟨hstate, ?_⟩
      cases hdecode : SavedDocument.decode .message (Message.notification n).params with
      | error fault => simp [document?, hdecode, Except.toOption] at hdocument
      | ok document =>
        by_cases hcompile : c.settings.compileOnSave
        · cases htext : savedText r document with
          | error fault => simp [document?, hdecode, note, hcompile, htext, Except.toOption] at hdocument
          | ok text' =>
            obtain ⟨rfl, rfl⟩ : document.uri = uri ∧ text' = text := by
              simpa [document?, hdecode, note, hcompile, htext, Except.toOption] using hdocument
            exact .saved hname hdecode (compileOnSave_iff.mp hcompile) (savedText_eq_ok_iff.mp htext)
        · simp [document?, hdecode, note, hcompile, Except.toOption] at hdocument
    | _ => simp [document?] at hdocument

theorem asked?_of_wants {m : Message} {uri text : String} (hstate : c.state = .initialized)
    (h : c.Wants r m uri text) : c.asked? r m = some (uri, text) := by
  cases h with
  | @opened n document hname hdecode =>
    have hmethod := Message.method?_eq_notification_iff (k := .didOpen).mpr ⟨n, rfl, hname⟩
    rw [asked?, (call?_eq_some_iff rfl).mpr ⟨hstate, hmethod⟩]
    simp [document?, Message.params, hdecode, Except.toOption]
  | @saved n document text hname hdecode hcompile htext =>
    have hmethod := Message.method?_eq_notification_iff (k := .didSave).mpr ⟨n, rfl, hname⟩
    have hsetting := compileOnSave_iff.mpr hcompile
    have hsaved := savedText_eq_ok_iff.mpr htext
    rw [asked?, (call?_eq_some_iff rfl).mpr ⟨hstate, hmethod⟩]
    simp [document?, Message.params, hdecode, hsaved, note, hsetting, Except.toOption]
  | @compiled q p uri text path hname hdecode hcommand hargument hpath huri hread =>
    have hmethod := Message.method?_eq_request_iff (k := .executeCommand).mpr ⟨q, rfl, hname⟩
    have htarget := commandTarget_eq_ok_iff.mpr ⟨hcommand, hargument, hpath, huri⟩
    have hdocument := commandDocument_eq_ok_iff.mpr ⟨p, hdecode, htarget, hread⟩
    rw [asked?, (call?_eq_some_iff rfl).mpr ⟨hstate, hmethod⟩]
    simp [document?, Message.params, hdocument, Except.toOption]

theorem asked?_eq_some_iff {m : Message} {uri text : String} :
    c.asked? r m = some (uri, text) ↔ c.state = .initialized ∧ c.Wants r m uri text :=
  ⟨wants_of_asked?, fun ⟨hstate, h⟩ => asked?_of_wants hstate h⟩

end Context

end RuleServer

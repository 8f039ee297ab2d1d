import Mathlib
import RuleServer.Proofs.Json.Member
import RuleServer.Protocol.Diagnostic

/-!
Diagnostics as the client gets them. Every field that is there can be looked up by its name, so that
different diagnostics never look alike.
-/

namespace RuleServer

theorem Position.toJson_injective : Function.Injective toJson := by
  intro p q h
  have hline : p.line = q.line := by
    simpa [toJson, Json.member?_ofPairs, Json.nat_injective.eq_iff] using
      congrArg (Json.member? · "line") h
  have hcharacter : p.character = q.character := by
    simpa [toJson, Json.member?_ofPairs, Json.nat_injective.eq_iff] using
      congrArg (Json.member? · "character") h
  cases p
  cases q
  simp_all

theorem Range.toJson_injective : Function.Injective toJson := by
  intro a b h
  have hstart : a.start = b.start := by
    simpa [toJson, Json.member?_ofPairs, Position.toJson_injective.eq_iff] using
      congrArg (Json.member? · "start") h
  have hstop : a.stop = b.stop := by
    simpa [toJson, Json.member?_ofPairs, Position.toJson_injective.eq_iff] using
      congrArg (Json.member? · "end") h
  cases a
  cases b
  simp_all

theorem Location.toJson_injective : Function.Injective toJson := by
  intro a b h
  have huri : a.uri = b.uri := by
    simpa [toJson, Json.member?_ofPairs] using congrArg (Json.member? · "uri") h
  have hrange : a.range = b.range := by
    simpa [toJson, Json.member?_ofPairs, Range.toJson_injective.eq_iff] using
      congrArg (Json.member? · "range") h
  cases a
  cases b
  simp_all

theorem Related.toJson_injective : Function.Injective toJson := by
  intro a b h
  have hlocation : a.location = b.location := by
    simpa [toJson, Json.member?_ofPairs, Location.toJson_injective.eq_iff] using
      congrArg (Json.member? · "location") h
  have hmessage : a.message = b.message := by
    simpa [toJson, Json.member?_ofPairs] using congrArg (Json.member? · "message") h
  cases a
  cases b
  simp_all

theorem DiagnosticCode.toJson_injective : Function.Injective toJson := by
  intro a b h
  cases a <;> cases b <;> simp_all [toJson, Json.int]

namespace Diagnostic

/-- The value has a member for each field of a diagnostic that is there, and none for one that is
not. -/
structure IsShownAs (d : Diagnostic) (v : Json) : Prop where
  range : v.member? "range" = some d.range.toJson
  severity : v.member? "severity" = d.severity.map fun s => .int s.number
  code : v.member? "code" = d.code.map DiagnosticCode.toJson
  explanation : v.member? "codeDescription" =
    d.explanation.map fun uri => .object [("href", .string uri)]
  source : v.member? "source" = d.source.map .string
  message : v.member? "message" = some (.string d.message)
  related : v.member? "relatedInformation" =
    d.related.map fun related => .array (related.map Related.toJson)
  tags : v.member? "tags" = d.tags.map fun tags => .array (tags.map fun tag => .int tag.number)
  data : v.member? "data" = d.data

theorem isShownAs_toJson (d : Diagnostic) : d.IsShownAs d.toJson := by
  constructor
  all_goals
    rw [toJson, Json.member?_ofOptions]
    · rfl
    · simp

theorem field_eq {α : Type} {f : α → Json} (hf : Function.Injective f) {a b : Option α}
    {v : Option Json} (ha : v = a.map f) (hb : v = b.map f) : a = b :=
  Option.map_injective hf (ha.symm.trans hb)

theorem IsShownAs.unique {d d' : Diagnostic} {v : Json} (h : d.IsShownAs v)
    (h' : d'.IsShownAs v) : d = d' := by
  have hrange : d.range = d'.range :=
    Range.toJson_injective (Option.some.inj (h.range.symm.trans h'.range))
  have hmessage : d.message = d'.message := by simpa using h.message.symm.trans h'.message
  have hnumber : Function.Injective fun s : Severity => Json.int s.number := by
    rintro ⟨a⟩ ⟨b⟩ hab
    simpa [Json.int] using hab
  have htag : Function.Injective fun tag : DiagnosticTag => Json.int tag.number := by
    rintro ⟨a⟩ ⟨b⟩ hab
    simpa [Json.int] using hab
  have hseverity := field_eq hnumber h.severity h'.severity
  have hcode := field_eq DiagnosticCode.toJson_injective h.code h'.code
  have hexplanation := field_eq (fun a b hab => by simpa using hab) h.explanation h'.explanation
  have hsource := field_eq (fun a b hab => Json.string.inj hab) h.source h'.source
  have hrelated := field_eq (fun a b hab =>
    List.map_injective_iff.mpr Related.toJson_injective (Json.array.inj hab)) h.related h'.related
  have htags := field_eq (fun a b hab =>
    List.map_injective_iff.mpr htag (Json.array.inj hab)) h.tags h'.tags
  have hdata : d.data = d'.data := h.data.symm.trans h'.data
  cases d
  cases d'
  simp_all

end Diagnostic

end RuleServer

import Mathlib
import RuleServer.Capability.Compiler
import RuleServer.Proofs.Rule.Report

/-!
The two streams of a compiler. Its errors and its output are read as one text with an LF between
them, and that text has the results of the first and then those of the second: no line at the seam
is lost, made up or read together with its neighbour.
-/

namespace RuleServer

namespace Report

theorem outputLines_append (first second : List Char) :
    outputLines (first ++ '\n' :: second) = outputLines first ++ outputLines second :=
  splitWhere_append_cons (by simp) first second

theorem results_append (first second : String) :
    results (first ++ "\n" ++ second) = results first ++ results second := by
  have htext : (first ++ "\n" ++ second).toList = first.toList ++ '\n' :: second.toList := by simp
  rw [results_eq, htext, outputLines_append, List.map_append, List.filterMap_append, ← results_eq,
    ← results_eq]

theorem diagnostics_append (uri text first second : String) :
    diagnostics uri text (first ++ "\n" ++ second) =
      diagnostics uri text first ++ diagnostics uri text second := by
  rw [diagnostics, results_append, List.filterMap_append]
  rfl

end Report

namespace CompilerConfig

theorem verdict_eq_ok_iff {c : CompilerConfig} {uri text : String} {launch : Launch}
    {found : List Diagnostic} :
    (c.verdict uri text launch).result = .ok found ↔
      ∃ output error milliseconds, launch = .finished output error milliseconds ∧
        milliseconds < c.timeoutSeconds * 1000 ∧
        found = Report.diagnostics uri text (combined error output) := by
  cases launch with
  | failed fault => simp [verdict]
  | endless => simp [verdict]
  | finished output error milliseconds =>
    by_cases htime : c.timeoutSeconds * 1000 ≤ milliseconds
    · simp only [verdict, if_pos htime, reduceCtorEq, Launch.finished.injEq, false_iff]
      rintro ⟨_, _, _, ⟨-, -, rfl⟩, hlt, -⟩
      omega
    · simp only [verdict, if_neg htime, Except.ok.injEq, Launch.finished.injEq]
      constructor
      · intro h
        exact ⟨output, error, milliseconds, ⟨rfl, rfl, rfl⟩, by omega, h.symm⟩
      · rintro ⟨_, _, _, ⟨rfl, rfl, -⟩, -, h⟩
        exact h.symm

theorem diagnose_eq_ok_iff {c : CompilerConfig} {host : Host} {program : Path} {uri text : String}
    {found : List Diagnostic} :
    (c.diagnose host program uri text).result = .ok found ↔
      ∃ s, Scratch.prepare host text = .ok s ∧
        (c.verdict uri text (s.host.launch (c.invocation s program uri))).result = .ok found := by
  unfold diagnose
  cases Scratch.prepare host text with
  | error fault => simp
  | ok s => simp

/-- Two texts with an LF between them have the diagnostics of the first and then those of the
second. So where the document can be written, a run of the compiler that ends in time gives the
diagnostics of its errors followed by those of its output, and nothing else gives any. -/
theorem streams_diagnosed_apart (uri text : String) :
    (∀ first second : String,
      Report.diagnostics uri text (first ++ "\n" ++ second) =
        Report.diagnostics uri text first ++ Report.diagnostics uri text second) ∧
    ∀ (c : CompilerConfig) (host : Host) (program : Path) (found : List Diagnostic),
      (c.diagnose host program uri text).result = .ok found ↔
        ∃ s output error milliseconds, Scratch.prepare host text = .ok s ∧
          s.host.launch (c.invocation s program uri) = .finished output error milliseconds ∧
          milliseconds < c.timeoutSeconds * 1000 ∧
          found = Report.diagnostics uri text (textOfUtf8Lossy error) ++
            Report.diagnostics uri text (textOfUtf8Lossy output) := by
  refine ⟨Report.diagnostics_append uri text, fun c host program found => ?_⟩
  simp only [diagnose_eq_ok_iff, verdict_eq_ok_iff, combined, Report.diagnostics_append,
    exists_and_left]

end CompilerConfig

end RuleServer

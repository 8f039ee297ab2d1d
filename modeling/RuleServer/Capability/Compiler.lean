import RuleServer.Capability.Provider
import RuleServer.Config.Command
import RuleServer.Host.Launch

/-!
Diagnostics from a rule compiler: the document is written to a file of its own, the compiler runs on
it, and what it prints is read as a report.
-/

namespace RuleServer

namespace CompilerConfig

def inputName : String := "document.yar"

def outputName : String := "document.yarc"

def workingDirectory? (files : Files) (uri : String) : Option Path := do
  let path ← (localFile uri).toOption
  let dir ← path.parent?
  if files.isDirectory dir then some dir else none

/-- A directory of its own for one run of the compiler, and the host with the document in it. -/
structure Scratch where
  directory : Path
  host : Host

namespace Scratch

def input (s : Scratch) : Path := s.directory.join (.ofText inputName)

def output (s : Scratch) : Path := s.directory.join (.ofText outputName)

/-- Write a document into a directory of its own. -/
def prepare (host : Host) (text : String) : Except IoFault Scratch := do
  let (directory, host) ← host.makeFresh host.temporary host.freshNames
  let host ← host.make directory inputName (.file (utf8Bytes text) false)
  return { directory, host }

end Scratch

def invocation (c : CompilerConfig) (s : Scratch) (program : Path) (uri : String) : Invocation where
  program
  args := c.renderArgs s.input s.output
  environment := c.env
  directory := workingDirectory? s.host.files uri

/-- What the compiler printed: its errors, then its output. -/
def combined (error output : Bytes) : String :=
  textOfUtf8Lossy error ++ "\n" ++ textOfUtf8Lossy output

def verdict (c : CompilerConfig) (uri text : String) : Launch → Reply (List Diagnostic)
  | .failed fault => { result := .error (.spawn c.command fault) }
  | .endless => { result := .error (.timeout c.timeoutSeconds) }
  | .finished output error milliseconds =>
    if c.timeoutSeconds * 1000 ≤ milliseconds then { result := .error (.timeout c.timeoutSeconds) }
    else
      { log := [(LogLine.debug "rule compiler finished").under .compiler]
        result := .ok (Report.diagnostics uri text (combined error output)) }

/-- Write a document to a file of its own and run the compiler on it. -/
def diagnose (c : CompilerConfig) (host : Host) (program : Path) (uri text : String) :
    Reply (List Diagnostic) :=
  match Scratch.prepare host text with
  | .error fault => { result := .error (.io fault) }
  | .ok s => c.verdict uri text (s.host.launch (c.invocation s program uri))

def provider (c : CompilerConfig) (host : Host) : Reply DiagnosticsProvider :=
  match c.resolve? host.files host.searchPath? with
  | none => { result := .error (.unavailable ("rule compiler '" ++ c.command ++ "' not found")) }
  | some program =>
    { log := [(LogLine.debug ("using rule compiler at " ++ program.display)).under .compiler]
      result := .ok { diagnose := c.diagnose host program } }

end CompilerConfig

namespace DiagnosticsConfig

/-- The provider that a configuration asks for, or one that says why there is none. -/
def provider (d : DiagnosticsConfig) (host : Host) : DiagnosticsProvider × List LogLine :=
  if d.enabled then
    match d.compiler with
    | none => (.unavailable "no rule compiler configured", [])
    | some compiler =>
      let reply := compiler.provider host
      match reply.result with
      | .ok provider => (provider, reply.log)
      | .error fault =>
        (.unavailable fault.message,
          reply.log ++
            [(LogLine.warn (fault.message ++ ". Diagnostics will not be available")).under .capability])
  else (.unavailable "diagnostics are disabled in the configuration", [])

end DiagnosticsConfig

namespace Services

def ofConfig (d : DiagnosticsConfig) (host : Host) : Services × List LogLine :=
  let (diagnostics, log) := d.provider host
  ({ symbols := .empty, diagnostics }, log)

end Services

end RuleServer

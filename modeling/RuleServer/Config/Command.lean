import RuleServer.Config.Basic
import RuleServer.Host.Files

/-!
The rule compiler's command: which program it is, and with which arguments it runs.
-/

namespace RuleServer

namespace CompilerConfig

def inputPlaceholder : List Char := "\x7binput\x7d".toList

def outputPlaceholder : List Char := "\x7boutput\x7d".toList

/-- An argument with the files' names in place of the placeholders, those of the input first. -/
def renderArg (input output arg : List Char) : List Char :=
  replaceAll outputPlaceholder output (replaceAll inputPlaceholder input arg)

def renderArgs (c : CompilerConfig) (input output : Path) : List String :=
  c.args.map fun arg =>
    String.ofList (renderArg input.display.toList output.display.toList arg.toList)

/-- The program of a command: a path with several components is taken as it stands; a name is looked
for in the directories of the search path. -/
def resolveIn? (c : CompilerConfig) (files : Files) (searchPath : Option Bytes) : Option Path :=
  let command := Path.ofText c.command
  if 1 < command.components.length then
    if files.isFile command then some command else none
  else do
    let directories := Path.searchDirectories (← searchPath)
    (directories.map fun dir => dir.join command).find? files.isFile

/-- The program of a command, for a search path that is text. -/
def resolve? (c : CompilerConfig) (files : Files) (searchPath : Option String) : Option Path :=
  c.resolveIn? files (searchPath.map utf8Bytes)

end CompilerConfig

end RuleServer

import RuleServer.Host.Network
import RuleServer.Host.Shell.Run
import RuleServer.Host.System
import RuleServer.Text.Quoted

/-!
Programs of the host: how one is found, started, and what comes of it.
-/

namespace RuleServer

/-- A host: its files, the environment of its programs, and its network. -/
structure Host where
  files : Files
  environment : List (String × String)
  /-- The names that are tried for a new directory, one after another. -/
  freshNames : List String := ["yarals-x0Zq4B"]
  /-- Why nothing can be made under a path, where that is so although its directory is there. -/
  refusal? : Path → Option IoFault := fun _ => none
  network : Network := {}
  process : Process := Shell.process

structure Invocation where
  program : Path
  args : List String
  /-- What is added to the environment. -/
  environment : List (String × String)
  directory : Option Path

namespace Host

def valueOf? (h : Host) (name : String) : Option String :=
  h.environment.lookup name

def searchPath? (h : Host) : Option String :=
  h.valueOf? "PATH"

/-- The environment of a new program: additions take the place of what they name. -/
def environmentWith (h : Host) (added : List (String × String)) : List (String × String) :=
  added ++ h.environment.filter fun (name, _) => (added.lookup name).isNone

/-- The files as a program in another directory sees them. -/
def filesIn (h : Host) (directory : Option Path) : Except IoFault Files :=
  match directory with
  | none => .ok h.files
  | some dir => (h.files.place dir).map fun place => { h.files with current := place }

end Host

namespace Path

def standardPath : String := "/bin:/usr/bin"

/-- Where a program may stand: at its path, or, if that has no slash, in a directory of the search
path. -/
def candidates (searchPath : Option String) (program : Path) : List Path :=
  if program.bytes.contains slash then [program]
  else
    (searchDirectories (utf8Bytes (searchPath.getD standardPath))).map fun dir => dir.join program

end Path

namespace IoFault

/-- Whether a search goes on after a path where a program could not be started. -/
def isPassedOver : IoFault → Bool
  | noSuchFile | notDirectory | permissionDenied => true
  | _ => false

def under (path : Path) (fault : IoFault) : IoFault :=
  .other (fault.message ++ " at path " ++ quoted path.display)

end IoFault

namespace Files

def executable (files : Files) (program : Path) : Except IoFault Bytes := do
  match ← files.lookup program with
  | .file content true => return content
  | _ => throw .permissionDenied

/-- Whether the content of a file can be run: machine code, or a script whose interpreter can. -/
def checkRunnable (files : Files) (content : Bytes) : Except IoFault Unit :=
  match Image.ofContent? content with
  | none => .error .execFormat
  | some .machine => .ok ()
  | some (.script interpreter) => (files.executable interpreter).map fun _ => ()

def checkProgram (files : Files) (program : Path) : Except IoFault Unit := do
  files.checkRunnable (← files.executable program)

/-- The first path whose program can be started. Where none can, the fault is that permission was
denied, if it was so somewhere, and else the last one. -/
def firstProgram (files : Files) (fault : IoFault) : List Path → Except IoFault Path
  | [] => .error fault
  | path :: paths =>
    match files.checkProgram path with
    | .ok () => .ok path
    | .error next =>
      if next.isPassedOver then
        files.firstProgram (if fault = .permissionDenied then fault else next) paths
      else .error next

end Files

namespace Host

def nulInArgument : IoFault := .other "nul byte found in provided data"

def textsOf (i : Invocation) : List String :=
  i.args ++ i.environment.flatMap fun (name, value) => [name, value]

/-- The program that an invocation starts, and the files as it sees them. A path that is not
absolute starts where the program does. -/
def started (h : Host) (i : Invocation) : Except IoFault (Files × Path) := do
  if (textsOf i).any fun text => text.toList.contains '\x00' then throw nulInArgument
  let files ← h.filesIn i.directory
  let searchPath := (h.environmentWith i.environment).lookup "PATH"
  let program ← files.firstProgram .noSuchFile (i.program.candidates searchPath)
  return (files, program)

/-- Start a program with no input, and wait for its end. -/
def launch (h : Host) (i : Invocation) : Launch :=
  match h.started i with
  | .error fault => .failed fault
  | .ok (files, program) => h.process files program i.args (h.environmentWith i.environment)

def make (h : Host) (directory : Path) (name : String) (e : Entry) : Except IoFault Host :=
  match h.refusal? (directory.join (.ofText name)) with
  | some fault => .error fault
  | none => (h.files.make directory name e).map fun files => { h with files }

/-- The directory for what is needed for a time only. -/
def temporary (h : Host) : Path :=
  let directory := Path.ofText ((h.valueOf? "TMPDIR").getD "/tmp")
  if directory.isAbsolute then directory else (Files.pathOf h.files.current).join directory

/-- Make a directory under the first of some names that is not in use. -/
def makeFresh (h : Host) (directory : Path) : List String → Except IoFault (Path × Host)
  | [] => .error (.under directory (.other "too many temporary files exist"))
  | name :: names =>
    match h.make directory name .directory with
    | .ok made => .ok (directory.join (.ofText name), made)
    | .error .alreadyExists => h.makeFresh directory names
    | .error fault => .error (.under (directory.join (.ofText name)) fault)

end Host

end RuleServer

import RuleServer.Text.Numeral

/-!
What goes wrong outside the program: the operating system's answers, and a few of the library's own.
-/

namespace RuleServer

/-- A failure of an operation on files, streams or processes. -/
inductive IoFault
  | noSuchFile
  | permissionDenied
  | alreadyExists
  | notDirectory
  | isDirectory
  | addressInUse
  | addressNotAvailable
  | connectionRefused
  | execFormat
  | argumentListTooLong
  | nameTooLong
  | tooManyLinks
  | notUtf8
  | nulInPath
  | other (text : String)
deriving DecidableEq, Repr

namespace IoFault

def numbered (text : String) (code : Nat) : String :=
  text ++ " (os error " ++ decimalText code ++ ")"

def message : IoFault → String
  | noSuchFile => numbered "No such file or directory" 2
  | argumentListTooLong => numbered "Argument list too long" 7
  | execFormat => numbered "Exec format error" 8
  | permissionDenied => numbered "Permission denied" 13
  | alreadyExists => numbered "File exists" 17
  | notDirectory => numbered "Not a directory" 20
  | isDirectory => numbered "Is a directory" 21
  | nameTooLong => numbered "File name too long" 36
  | tooManyLinks => numbered "Too many levels of symbolic links" 40
  | addressInUse => numbered "Address already in use" 98
  | addressNotAvailable => numbered "Cannot assign requested address" 99
  | connectionRefused => numbered "Connection refused" 111
  | notUtf8 => "stream did not contain valid UTF-8"
  | nulInPath => "file name contained an unexpected NUL byte"
  | other text => text

end IoFault

end RuleServer

import RuleServer.Host.Files
import RuleServer.Host.Shell.Utility

/-!
The files that every host has: its directories, and its programs.
-/

namespace RuleServer

namespace Files

def standardDirectories : List String :=
  ["/bin", "/boot", "/dev", "/etc", "/home", "/lib", "/media", "/mnt", "/opt", "/proc", "/root",
   "/run", "/sbin", "/srv", "/sys", "/tmp", "/usr", "/usr/bin", "/usr/lib", "/usr/local",
   "/usr/local/bin", "/usr/sbin", "/usr/share", "/var", "/var/lib", "/var/log", "/var/tmp"]

def standardPrograms : List String :=
  "sh" :: Shell.utilities.map (·.1)

def programDirectories : List String :=
  ["/bin", "/usr/bin"]

def binary : Entry :=
  .file Image.machineMark true

/-- The host's own files, seen from the root. -/
def system : Files where
  entries :=
    (standardDirectories.map fun dir => (placeOf dir, .directory)) ++
      (programDirectories.flatMap fun dir =>
        standardPrograms.map fun name => (placeOf (dir ++ "/" ++ name), binary)) ++
      [(placeOf "/dev/null", .file [] false)]
  current := []

def standardSearchPath : String :=
  "/usr/local/sbin:/usr/local/bin:/usr/sbin:/usr/bin:/sbin:/bin"

end Files

end RuleServer

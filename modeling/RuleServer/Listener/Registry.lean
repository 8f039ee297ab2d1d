import RuleServer.Log

/-!
The count of the sessions that run.
-/

namespace RuleServer

/-- A count of live connections, in a machine word. -/
structure Registry where
  live : UInt64 := 0
deriving DecidableEq, Repr

namespace Registry

def register (r : Registry) : Registry :=
  ⟨r.live + 1⟩

def release (r : Registry) : Registry :=
  ⟨r.live - 1⟩

def registered (r : Registry) : LogLine :=
  ((LogLine.debug "connection registered").under .listener).detail "live" (.number r.live.toNat)

def released (r : Registry) : LogLine :=
  ((LogLine.debug "connection released").under .listener).detail "live" (.number r.live.toNat)

def stopLine (r : Registry) : LogLine :=
  (LogLine.info ("listener stopping, " ++ decimalText r.live.toNat ++
    " session(s) still live")).under .listener

end Registry

end RuleServer

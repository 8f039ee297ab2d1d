import RuleServer.Text.Numeral

/-!
The life of a session, from the first message to its end.
-/

namespace RuleServer

inductive SessionState
  | uninitialized
  | initialized
  | shutdownRequested
  | exited
deriving DecidableEq, Repr

namespace SessionState

def text : SessionState → String
  | uninitialized => "uninitialized"
  | initialized => "initialized"
  | shutdownRequested => "shutdown requested"
  | exited => "exited"

/-- The changes of state that a session's life consists of. -/
def canMoveTo : SessionState → SessionState → Bool
  | uninitialized, initialized => true
  | initialized, initialized => true
  | initialized, shutdownRequested => true
  | _, exited => true
  | _, _ => false

def isReady (s : SessionState) : Bool :=
  s == initialized

def isExited (s : SessionState) : Bool :=
  s == exited

end SessionState

/-- The states in which a method is accepted. -/
inductive Precondition
  | uninitialized
  | initialized
  | any
deriving DecidableEq, Repr

namespace Precondition

def permits : Precondition → SessionState → Bool
  | uninitialized, s => s == .uninitialized
  | initialized, s => s == .initialized
  | any, s => !s.isExited

def text : Precondition → String
  | uninitialized => "uninitialized"
  | initialized => "initialized"
  | any => "any"

def name : Precondition → String
  | uninitialized => "Uninitialized"
  | initialized => "Initialized"
  | any => "Any"

end Precondition

end RuleServer

import GracefulService.Text.Quoted

/-!
# Causes of a shutdown
-/

namespace GracefulService

/-- Why a service was shut down. -/
inductive Cause where
  /-- Somebody asked for it without giving a reason. -/
  | manualStop
  /-- A signal of the operating system arrived. -/
  | signal (name : String)
  /-- The mark-down route was called. -/
  | markedDown
  /-- A server could not go on. -/
  | serveFailed (text : String)
  /-- A reason in words. -/
  | reason (text : String)
deriving DecidableEq, Repr, Inhabited

namespace Cause

/-- A cause in words. -/
def describe : Cause → String
  | manualStop => "manual stop"
  | signal name => "caught signal " ++ name
  | markedDown => "marked down"
  | serveFailed text => "server failed: " ++ text
  | reason text => text

/-- A cause with its kind, as it stands in the log. -/
def record : Cause → String
  | manualStop => "ManualStop"
  | signal name => "Signal(" ++ Text.quoted name ++ ")"
  | markedDown => "MarkedDown"
  | serveFailed text => "ServeFailed(" ++ Text.quoted text ++ ")"
  | reason text => "Reason(" ++ Text.quoted text ++ ")"

/-- A request to stop that gives no cause counts as a manual stop. -/
def orManual (cause : Option Cause) : Cause := cause.getD manualStop

end Cause

end GracefulService

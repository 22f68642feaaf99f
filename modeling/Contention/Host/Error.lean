import Contention.Text.Numeral

/-!
# Failed host calls

The calls that a host answers, by the names under which they are reported, and the ways in which
a single call can fail.
-/

namespace Contention

/-- A call to the host. -/
inductive HostCall where
  | objectClass
  | stackTrace
  | methodName
  | declaringClass
  | classSignature
  | threadInfo
  | osThreadId
  | deallocate
deriving DecidableEq, Repr

/-- The name under which a call is reported. -/
def HostCall.name : HostCall → String
  | .objectClass => "GetObjectClass"
  | .stackTrace => "GetStackTrace"
  | .methodName => "GetMethodName"
  | .declaringClass => "GetMethodDeclaringClass"
  | .classSignature => "GetClassSignature"
  | .threadInfo => "GetThreadInfo"
  | .osThreadId => "GetOSThreadID"
  | .deallocate => "Deallocate"

/-- Why a call failed. -/
inductive HostError where
  /-- The host reports an error code. -/
  | failed (call : HostCall) (code : Nat)
  /-- The host does not offer the call. -/
  | unsupported (call : HostCall)
  /-- The call was made with a handle that the host does not know. -/
  | invalidHandle (call : HostCall)
deriving DecidableEq, Repr

/-- The error's text. -/
def HostError.message : HostError → String
  | .failed call code =>
    "host call `" ++ call.name ++ "` failed with error code " ++ Text.showNat code
  | .unsupported call => "host does not support `" ++ call.name ++ "`"
  | .invalidHandle call => "stale or unknown handle passed to `" ++ call.name ++ "`"

end Contention

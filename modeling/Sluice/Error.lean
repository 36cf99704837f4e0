import Sluice.Duration
import Sluice.Net.IoFault

/-!
# Errors of a tunnel

The causes for which an operation on a tunnel fails, and the sentence that reports each of them.
-/

namespace Sluice

open Net (IoFault)

/-- Why an operation on a tunnel failed. -/
inductive TunnelError where
  /-- The tunnel cannot listen at the address. -/
  | listenFailed (address : String) (fault : IoFault)
  /-- The remote cannot be reached at the address. -/
  | connectionFailed (address : String) (fault : IoFault)
  /-- The operation did not finish within the time allowed. -/
  | timeout (limit : Duration)
  /-- The connection or the tunnel was closed meanwhile. -/
  | cancelled
  /-- The tunnel is closed and takes no more requests. -/
  | tunnelClosed
  /-- The configuration breaks a rule. -/
  | config (reason : String)
  /-- A limiter refused a request for good. -/
  | rateLimit (reason : String)
  /-- Reading or writing failed. -/
  | io (fault : IoFault)
deriving DecidableEq, Repr

namespace TunnelError

/-- The sentence that reports the error. -/
def message : TunnelError → String
  | .listenFailed address fault => s!"Failed to listen at {address}: {fault.text}"
  | .connectionFailed address fault => s!"Failed to connect to {address}: {fault.text}"
  | .timeout limit => s!"Operation timeout after {limit.text}"
  | .cancelled => "Operation cancelled"
  | .tunnelClosed => "Tunnel is closed"
  | .config reason => s!"Configuration error: {reason}"
  | .rateLimit reason => s!"Rate limit error: {reason}"
  | .io fault => s!"I/O error: {fault.text}"

/-- The fault behind the error. -/
def cause : TunnelError → Option IoFault
  | .listenFailed _ fault | .connectionFailed _ fault | .io fault => some fault
  | _ => none

/-- The messages of the error and of the fault behind it, outermost first. -/
def chain (error : TunnelError) : List String :=
  error.message :: (error.cause.map IoFault.text).toList

/-- The operation was called off. -/
def isCancelled : TunnelError → Bool
  | .cancelled => true
  | _ => false

/-- The operation took too long. -/
def isTimeout : TunnelError → Bool
  | .timeout _ => true
  | _ => false

/-- The configuration is at fault. -/
def isConfig : TunnelError → Bool
  | .config _ => true
  | _ => false

end TunnelError

end Sluice

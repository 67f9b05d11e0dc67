import HostSurvey.Net.Address
import HostSurvey.Text.Elapsed
import HostSurvey.Text.Quoted
/-!
# Errors

Everything that can go wrong in the engine, each cause a constructor. None of them ends a pool of
workers: a worker notes the error and goes on with its next item. The wording is `Error.message`; of a
fault found by reading somebody's syntax it says where it was found, not what it was.
-/
namespace HostSurvey

open Net

/-- What went wrong on a connection. -/
inductive StreamFault where
  /-- No way leads to the peer. -/
  | unreachable
  /-- Nobody listens. -/
  | refused
  /-- The stream ended inside a message. -/
  | cutShort
  deriving Repr, DecidableEq

/-- Everything that can go wrong. -/
inductive Error where
  | stream (fault : StreamFault)
  | lookup (reason : String)
  /-- A message of the name system could not be read or written. -/
  | malformed
  /-- A web server's answer could not be had. -/
  | web
  /-- A screening pattern has a fault. -/
  | pattern (text : String)
  /-- A screening network has a fault. -/
  | network (text reason : String)
  /-- A configuration text has a fault. -/
  | configuration
  | storage (reason : String)
  /-- The cache of seen hosts refused a call. -/
  | cache (reason : String)
  /-- The peer stayed silent for too long. -/
  | timeout (target : Endpoint) (limit : Elapsed)
  /-- The peer closed the connection without a byte. -/
  | closed (target : Endpoint)
  /-- The peer sent what makes no sense. -/
  | protocol (target : Endpoint) (reason : String)
  /-- A zone could not be transferred. -/
  | transfer (zone reason : String)
  deriving Repr, DecidableEq

/-- The wording of a connection's fault. -/
def StreamFault.message : StreamFault → String
  | .unreachable => "Network is unreachable (os error 101)"
  | .refused => "Connection refused (os error 111)"
  | .cutShort => "early eof"

/-- The wording of an error. -/
def Error.message : Error → String
  | .stream fault => "I/O error: " ++ fault.message
  | .lookup reason => "DNS lookup failed: " ++ reason
  | .malformed => "DNS message error"
  | .web => "HTTP request failed"
  | .pattern text => "invalid blacklist pattern " ++ Text.quoted text
  | .network text reason => "invalid blacklist network " ++ Text.quoted text ++ ": " ++ reason
  | .configuration => "invalid configuration"
  | .storage reason => "storage error: " ++ reason
  | .cache reason => "host cache error: " ++ reason
  | .timeout target limit => target.text ++ " did not answer within " ++ limit.text
  | .closed target => target.text ++ " closed the connection without sending data"
  | .protocol target reason => "protocol error talking to " ++ target.text ++ ": " ++ reason
  | .transfer zone reason => "zone transfer of " ++ zone ++ " failed: " ++ reason

end HostSurvey

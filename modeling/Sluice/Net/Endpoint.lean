import Sluice.Net.Address
import Sluice.Net.IoFault

/-!
# Endpoints

An endpoint is named by a text: a socket address, or a host and a port with a colon between them. The
host has to be an IP address; names of hosts are not known here.
-/

namespace Sluice.Net

/-- The port that decimal digits denote. One plus sign may stand before the digits. -/
def port? (text : List Char) : Option UInt16 :=
  let digits :=
    match text with
    | '+' :: digits => digits
    | digits => digits
  match readNumber 10 none true 0x10000 digits with
  | some (port, []) => some port.toUInt16
  | _ => none

/-- The text before and after the last colon. -/
def splitAtLastColon (text : List Char) : Option (List Char × List Char) :=
  let reversed := text.reverse
  let port := reversed.takeWhile (· ≠ ':')
  match reversed.dropWhile (· ≠ ':') with
  | [] => none
  | _ :: host => some (host.reverse, port.reverse)

/-- The address of the endpoint that a text names. -/
def resolve (text : String) : Except IoFault SocketAddress :=
  match SocketAddress.ofText? text with
  | some address => .ok address
  | none =>
    match splitAtLastColon text.toList with
    | none => .error (.described .invalidInput "invalid socket address")
    | some (host, port) =>
      match port? port with
      | none => .error (.described .invalidInput "invalid port value")
      | some port =>
        match IpAddress.ofText? host with
        | some ip => .ok ⟨ip, port, 0⟩
        | none =>
          .error (.described .other
            "failed to lookup address information: Name or service not known")

end Sluice.Net

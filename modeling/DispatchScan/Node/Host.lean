import DispatchScan.Domain
import DispatchScan.Node.Ipv6
import DispatchScan.Node.Percent

/-!
# Hosts of network addresses

The host in an address is a domain, an IPv4 address or an IPv6 address in brackets. In the schemes
of the web a domain may hold percent-encoded bytes, and a domain whose form in ASCII ends in a
number must be an IPv4 address. In other schemes a host is any text without reserved characters.
-/

namespace DispatchScan.Node

/-- Why a host is refused. -/
inductive HostFault where
  /-- There is no host. -/
  | empty
  /-- The brackets hold no IPv6 address. -/
  | ipv6
  /-- The numbers are no IPv4 address. -/
  | ipv4
  /-- The text is no domain. -/
  | domain
  /-- The host of another scheme holds a character that no host may hold. -/
  | character
  deriving DecidableEq, Repr

/-- A host. -/
inductive Host where
  /-- A domain, or the host of a scheme outside of the web; the empty text is no host. -/
  | domain (name : String)
  /-- An IPv4 address. -/
  | ipv4 (address : Nat)
  /-- An IPv6 address. -/
  | ipv6 (groups : List Nat)
  deriving DecidableEq, Repr

/-- A host as it is shown. -/
def Host.text : Host → String
  | .domain name => name
  | .ipv4 address => ipv4Text address
  | .ipv6 groups => s!"[{ipv6Text groups}]"

/-- Judge a host after its opening bracket. -/
def bracketHost (cs : List Char) : Except HostFault Host :=
  match if cs.getLast? = some ']' then ipv6? cs.dropLast else none with
  | some groups => .ok (.ipv6 groups)
  | none => .error .ipv6

/-- Judge the host of a web address. -/
def webHost (cs : List Char) : Except HostFault Host :=
  match cs with
  | '[' :: rest => bracketHost rest
  | _ =>
    match Text.decode? (percentDecode 0 (cs.flatMap String.utf8EncodeChar)) >>= Domain.toAscii? with
    | none => .error .domain
    | some domain =>
      if domain.isEmpty then .error .empty
      else if endsInNumber domain then
        match ipv4? domain with
        | some address => .ok (.ipv4 address)
        | none => .error .ipv4
      else .ok (.domain (String.ofList domain))

/-- Judge the host of an address in any other scheme. -/
def otherHost (cs : List Char) : Except HostFault Host :=
  match cs with
  | '[' :: rest => bracketHost rest
  | _ =>
    if cs.any Domain.isReserved then .error .character
    else .ok (.domain (String.ofList (percentEncode "" cs)))

end DispatchScan.Node

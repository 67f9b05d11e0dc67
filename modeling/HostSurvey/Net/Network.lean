import HostSurvey.Net.Address
import HostSurvey.Text.Numeral
/-!
# Networks

A network is a base address and the number of its leading bits that count. All other bits of the base
are zero. Only addresses of the same version can lie in a network.
-/
namespace HostSurvey.Net

/-- A block of addresses. -/
structure Network where
  /-- The least address of the block. -/
  base : Address
  /-- How many leading bits are shared by the addresses of the block. -/
  length : Nat
  deriving Repr, DecidableEq

/-- Why a text names no network. -/
inductive NetworkFault where
  | address
  | length (fault : Text.NumeralFault)
  /-- The length is above that of an address of version 4. -/
  | tooLongV4 (length : Nat)
  /-- The length is above that of an address of version 6. -/
  | tooLongV6 (length : Nat)
  /-- A bit of the base behind the length is set. -/
  | hostBits
  deriving Repr, DecidableEq

/-- The wording of a fault. -/
def NetworkFault.message : NetworkFault → String
  | .address => "couldn't parse address in network: invalid IP address syntax"
  | .length fault => "couldn't parse length in network: " ++ fault.message
  | .tooLongV4 n => "invalid length for network: Network length " ++ toString n
      ++ " is too long for Ipv4 (maximum: 32)"
  | .tooLongV6 n => "invalid length for network: Network length " ++ toString n
      ++ " is too long for Ipv6 (maximum: 128)"
  | .hostBits => "host part of address was not zero"

namespace Network

/-- The network that contains an address and nothing else. -/
def single : Address → Network
  | .v4 bits => ⟨.v4 bits, 32⟩
  | .v6 bits => ⟨.v6 bits, 128⟩

/-- A block from its base and length. -/
def ofBase? (base : Address) (length : Nat) : Except NetworkFault Network :=
  match base with
  | .v4 bits =>
    if 32 < length then .error (.tooLongV4 length)
    else if bits.toNat % Nat.pow 2 (32 - length) = 0 then .ok ⟨base, length⟩
    else .error .hostBits
  | .v6 bits =>
    if 128 < length then .error (.tooLongV6 length)
    else if bits.toNat % Nat.pow 2 (128 - length) = 0 then .ok ⟨base, length⟩
    else .error .hostBits

/-- The address of a network's text. One of version 4 may leave out trailing octets that are zero. -/
def readBase (text : List Char) : Except NetworkFault Address :=
  let dots := text.count '.'
  let filled := text ++ (List.replicate (3 - dots) ['.', '0']).flatten
  match Address.readV4 filled, Address.readV6 text with
  | some (address, []), _ => .ok address
  | _, some (address, []) => .ok address
  | _, _ => .error .address

/-- Splits a text at its last stroke. -/
def splitLength (text : List Char) : List Char × Option (List Char) :=
  let tail := (text.reverse.takeWhile (· ≠ '/')).reverse
  if tail.length = text.length then (text, none)
  else (text.take (text.length - tail.length - 1), some tail)

/-- The network that a text names: an address, then the length behind a stroke. Without a length it is
the address alone. -/
def parse (text : String) : Except NetworkFault Network := do
  match splitLength text.toList with
  | (base, none) => return single (← readBase base)
  | (base, some length) =>
    let base ← readBase base
    match Text.readNatural 255 length with
    | .error fault => throw (.length fault)
    | .ok length => ofBase? base length

/-- An address lies in a network when it agrees with the base in the leading bits. -/
def contains (network : Network) (address : Address) : Bool :=
  match network.base, address with
  | .v4 base, .v4 bits => base >>> (32 - network.length) == bits >>> (32 - network.length)
  | .v6 base, .v6 bits => base >>> (128 - network.length) == bits >>> (128 - network.length)
  | _, _ => false

end Network
end HostSurvey.Net

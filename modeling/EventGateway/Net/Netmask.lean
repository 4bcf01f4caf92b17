import EventGateway.Net.Address
import EventGateway.Text.Blank

/-!
# Netmasks

A block of addresses that agree on their first bits. A single address is the block of itself.
-/

namespace EventGateway.Net

/-- The addresses that agree with `network` on the first `length` bits. -/
structure Netmask where
  network : Address
  length : Nat
  deriving DecidableEq, Repr

namespace Address

/-- How many bits the addresses of the family have. -/
def width : Address → Nat
  | .v4 _ => 32
  | .v6 _ => 128

end Address

namespace Netmask

def splitSlash (cs : List Char) : List Char × Option (List Char) :=
  match cs.dropWhile (· ≠ '/') with
  | [] => (cs, none)
  | _ :: length => (cs.takeWhile (· ≠ '/'), some length)

/-- Reads an address with or without a length after a slash. Blanks may stand around each. -/
def ofText? (s : String) : Option Netmask := do
  let (address, length) := splitSlash s.toList
  let network ← Address.ofText? (Text.trim address)
  match length with
  | none => some ⟨network, network.width⟩
  | some length =>
    let n ← Text.unsigned? 256 (Text.trim length)
    if n ≤ network.width then some ⟨network, n⟩ else none

/-- Do two words agree on their first `length` bits? -/
def agree {w : Nat} (length : Nat) (a b : BitVec w) : Bool :=
  length = 0 || a >>> (w - length) == b >>> (w - length)

/-- Is the address in the block? An address in mapped form counts as what it maps. -/
def contains (mask : Netmask) (address : Address) : Bool :=
  match mask.network, address.unmap with
  | .v4 net, .v4 a => agree mask.length net a
  | .v6 net, .v6 a => agree mask.length net a
  | _, _ => false

end Netmask

end EventGateway.Net

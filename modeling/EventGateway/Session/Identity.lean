import EventGateway.Session.Connection

/-!
# Names of connections

A connection is named by a mark and twenty-six digits of base thirty-two, in an alphabet without
letters that are easily mistaken.
-/

namespace EventGateway.ConnectionId

/-- What every name begins with. -/
def mark : String := "sck"

/-- The digits, by their values. -/
def alphabet : List Char := "0123456789ABCDEFGHJKMNPQRSTVWXYZ".toList

/-- How many digits a name has. -/
def digitCount : Nat := 26

def digits : (count : Nat) → Nat → List Char
  | 0, _ => []
  | count + 1, n => digits count (n / 32) ++ [alphabet.getD (n % 32) '0']

/-- The name with the digits of a number. -/
def ofNat (n : Nat) : EventGateway.ConnectionId := mark ++ "_" ++ String.ofList (digits digitCount n)

/-- How many characters a name has. -/
def length : Nat := mark.length + 1 + digitCount

end EventGateway.ConnectionId

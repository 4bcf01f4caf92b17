import EventGateway.Decimal.Binary64

/-!
# JSON values

A value as a text denotes it. Whole numbers keep their sixty-four bits; every other number is a
binary one. An object keeps its members sorted by key, the last of several members of one key.
-/

namespace EventGateway.Json

open Decimal

/-- A number: a natural one, the negative of a positive one, or a binary one. -/
inductive Number where
  | natural (n : UInt64)
  | negative (n : UInt64)
  | real (x : Binary64)
  deriving DecidableEq, Repr, Inhabited

/-- A JSON value. -/
inductive Value where
  | null
  | bool (b : Bool)
  | number (n : Number)
  | string (s : String)
  | array (items : List Value)
  | object (members : List (String × Value))
  deriving Repr, Inhabited

/-- Puts a member in its place among members sorted by key, replacing one of the same key. -/
def insertMember (key : String) (value : Value) : List (String × Value) → List (String × Value)
  | [] => [(key, value)]
  | (k, v) :: rest =>
    if key < k then (key, value) :: (k, v) :: rest
    else if key = k then (key, value) :: rest
    else (k, v) :: insertMember key value rest

namespace Value

/-- The object of a list of members; the last of one key counts. -/
def ofMembers (members : List (String × Value)) : Value :=
  .object (members.foldl (fun sorted m => insertMember m.1 m.2 sorted) [])

/-- The natural number of sixty-four bits as a value. -/
def ofNat (n : Nat) : Value := .number (.natural (UInt64.ofNat n))

def ofStrings (ss : List String) : Value := .array (ss.map .string)

/-- A text or null. -/
def ofString? : Option String → Value
  | none => .null
  | some s => .string s

def member? (key : String) : Value → Option Value
  | .object members => members.lookup key
  | _ => none

end Value

end EventGateway.Json

import Rollout.Binary64.Nearest

/-!
# JSON documents

A document is a tree of the JSON forms. An integer literal that fits 64 bits, with or without a
sign, is an integer, and every other number is a float. Members of an object are kept as they are
written, repeated names included.
-/

namespace Rollout

-- powers are those of the core library, whatever else is in scope
attribute [local instance (high)] instPowNat

/-- A number of a document. -/
inductive Json.Number where
  /-- An integer of at most 64 bits. -/
  | integer (n : Int) (bounds : -2 ^ (63 : Nat) ≤ n ∧ n < 2 ^ (64 : Nat))
  | float (x : Binary64)
deriving DecidableEq

/-- A document. -/
inductive Json where
  | null
  | bool (b : Bool)
  | number (n : Json.Number)
  | string (s : String)
  /-- A list of documents. -/
  | array (items : List Json)
  /-- Documents by name. -/
  | object (members : List (String × Json))

instance : Inhabited Json := ⟨.null⟩

mutual

/-- How deep the arrays and objects of a document are nested. -/
def Json.depth : Json → Nat
  | .null | .bool _ | .number _ | .string _ => 0
  | .array items => Json.itemsDepth items + 1
  | .object members => Json.membersDepth members + 1

/-- The greatest depth of the items of an array. -/
def Json.itemsDepth : List Json → Nat
  | [] => 0
  | j :: rest => max (Json.depth j) (Json.itemsDepth rest)

/-- The greatest depth of the members of an object. -/
def Json.membersDepth : List (String × Json) → Nat
  | [] => 0
  | (_, j) :: rest => max (Json.depth j) (Json.membersDepth rest)

end

/-- The number of an integer, which is a float if it does not fit 64 bits; beyond the floats there is
none. -/
def Json.Number.ofInt? (n : Int) : Option Json.Number :=
  if h : -2 ^ (63 : Nat) ≤ n ∧ n < 2 ^ (64 : Nat) then some (.integer n h)
  else (Binary64.ofScientific? (n < 0) n.natAbs 0).map .float

end Rollout

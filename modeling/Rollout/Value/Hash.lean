import Rollout.Value.Basic

/-!
# Values as keys

A table keyed by values finds a value by what it feeds to a hash function: a tag for its kind and
then its content. Numbers feed the text of their normal form, so that equal numbers feed the same.
-/

namespace Rollout

/-- A piece of what a value feeds to a hash function. -/
inductive HashPiece where
  /-- The tag of a kind. -/
  | tag (n : Nat)
  | flag (b : Bool)
  /-- The length of a list. -/
  | count (n : Nat)
  | text (s : String)
deriving DecidableEq, Hashable

/-- The tag of a kind. -/
def Kind.tag : Kind → Nat
  | .null => 0
  | .boolean => 1
  | .number => 2
  | .float => 3
  | .string => 4
  | .array => 5

namespace Value

mutual

/-- What a value feeds to a hash function, in order. -/
def hashPieces : Value → List HashPiece
  | null => [.tag Kind.null.tag]
  | bool b => [.tag Kind.boolean.tag, .flag b]
  | number d => [.tag Kind.number.tag, .text d.normalize.text]
  | float x => [.tag Kind.float.tag, .text (Binary64.display.render x)]
  | string s => [.tag Kind.string.tag, .text s]
  | array items => .tag Kind.array.tag :: .count items.length :: hashPiecesAll items

/-- What a list of values feeds to a hash function, in order. -/
def hashPiecesAll : List Value → List HashPiece
  | [] => []
  | v :: l => hashPieces v ++ hashPiecesAll l

end

instance : Hashable Value where
  hash v := hash v.hashPieces

/-- Numbers values by first appearance: equal values get the same number. -/
def numbering (values : List Value) : List Nat :=
  go [] values
where
  /-- Numbers the values, of which those in `seen` have their numbers already. -/
  go (seen : List Value) : List Value → List Nat
    | [] => []
    | v :: rest =>
      match seen.findIdx? (· == v) with
      | some i => i :: go seen rest
      | none => seen.length :: go (seen ++ [v]) rest

end Value

end Rollout

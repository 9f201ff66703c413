import Rollout.Decimal.Reader
import Rollout.Json.Reader
import Rollout.Value.Basic

/-!
# Values of documents

The value that a document stands for. A float stands for the decimal that its text in documents
reads as, and for itself where that is no decimal. Objects have no counterpart among the values.
-/

namespace Rollout.Value

-- powers are those of the core library, whatever else is in scope
attribute [local instance (high)] instPowNat

/-- The decimal of an integer of a document. -/
def ofInteger (n : Int) (bounds : -2 ^ (63 : Nat) ≤ n ∧ n < 2 ^ (64 : Nat)) : Value :=
  .number ⟨n < 0, n.natAbs, 0, by omega, by decide⟩

/-- The value of a number of a document. -/
def ofNumber : Json.Number → Value
  | .integer n bounds => ofInteger n bounds
  | .float x =>
    match Decimal.ofText? (Binary64.document.render x) with
    | some d => .number d
    | none => .float x

mutual

/-- The value of a document. -/
def ofJson : Json → Value
  | .null => .null
  | .bool b => .bool b
  | .number n => ofNumber n
  | .string s => .string s
  | .array items => .array (ofJsonAll items)
  | .object _ => .null

/-- The values of documents. -/
def ofJsonAll : List Json → List Value
  | [] => []
  | j :: rest => ofJson j :: ofJsonAll rest

end

end Rollout.Value

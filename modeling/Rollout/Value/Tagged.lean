import Rollout.Comparison
import Rollout.Decimal.Reader
import Rollout.Json.Printer
import Rollout.Json.Reader
import Rollout.Value.OfJson

/-!
# Tagged documents

A document from which a value can be read back verbatim: an object whose one member is named for the
kind and holds the content, or the name alone for the null value. Decimals are written as texts, so
that their scale is kept; a reader takes numbers for them as well. A reader refuses documents that are
nested too deeply.
-/

namespace Rollout

/-- The document that is an object with one member. -/
def Json.tagged (tag : String) (content : Json) : Json :=
  .object [(tag, content)]

namespace Value

mutual

/-- The tagged document of a value. -/
def toTagged : Value → Json
  | null => .string "Null"
  | bool b => .tagged "Bool" (.bool b)
  | number d => .tagged "Number" (.string d.text)
  | float x => .tagged "Float" (.number (.float x))
  | string s => .tagged "String" (.string s)
  | array items => .tagged "Array" (.array (toTaggedAll items))

/-- The tagged documents of values. -/
def toTaggedAll : List Value → List Json
  | [] => []
  | v :: rest => toTagged v :: toTaggedAll rest

end

/-- Reads the content of a decimal. A float stands for the decimal of its plain text. -/
def taggedDecimal? : Json → Option Decimal
  | .string s => Decimal.ofText? s
  | .number (.integer n _) => Decimal.ofInt? n
  | .number (.float x) => Decimal.ofText? (Binary64.display.render x)
  | _ => none

/-- Reads the content of a float. -/
def taggedFloat? : Json → Option Binary64
  | .number (.integer n _) => Binary64.ofScientific? (n < 0) n.natAbs 0
  | .number (.float x) => some x
  | _ => none

mutual

/-- Reads a value from a tagged document. -/
def ofTagged? : Json → Option Value
  | .string s => if s = "Null" then some null else none
  | .object [(tag, content)] =>
    if tag = "Array" then (ofTaggedItems? content).map array
    else if tag = "String" then
      match content with
      | .string s => some (string s)
      | _ => none
    else if tag = "Bool" then
      match content with
      | .bool b => some (bool b)
      | _ => none
    else if tag = "Null" then
      match content with
      | .null => some null
      | _ => none
    else if tag = "Number" then (taggedDecimal? content).map number
    else if tag = "Float" then (taggedFloat? content).map float
    else none
  | _ => none

/-- Reads the content of an array. -/
def ofTaggedItems? : Json → Option (List Value)
  | .array items => ofTaggedAll? items
  | _ => none

/-- Reads values from tagged documents. -/
def ofTaggedAll? : List Json → Option (List Value)
  | [] => some []
  | j :: rest =>
    match ofTagged? j, ofTaggedAll? rest with
    | some v, some l => some (v :: l)
    | _, _ => none

end

/-- The text of the tagged document of a value. -/
def taggedText (v : Value) : String :=
  v.toTagged.render

/-- The depth up to which tagged documents are read. An array takes two levels, its brackets and the
object around them. -/
def taggedDepth : Nat := 127

/-- Reads a value from the text of a tagged document. -/
def ofTaggedText? (s : String) : Option Value :=
  match Json.parse? s with
  | none => none
  | some j => if j.depth ≤ taggedDepth then ofTagged? j else none

end Value

namespace Comparison

/-- The tagged document of an operator. -/
def toTagged (op : Comparison) : Json :=
  .string op.name

/-- Reads an operator from a tagged document. -/
def ofTagged? : Json → Option Comparison
  | .string s => ofName? s
  | .object [(tag, .null)] => ofName? tag
  | _ => none

/-- The text of the tagged document of an operator. -/
def taggedText (op : Comparison) : String :=
  op.toTagged.render

/-- Reads an operator from the text of a tagged document. -/
def ofTaggedText? (s : String) : Option Comparison :=
  (Json.parse? s).bind ofTagged?

end Comparison

end Rollout

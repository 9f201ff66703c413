import Rollout.Text.Quoted
import Rollout.Value.Basic

/-!
# Literal pools

A program does not hold the literals of its rules but their places in a pool. An interner hands out
the places: an entry that is written like one that is there gets the place of that one, and any other
gets the next.
-/

namespace Rollout

/-! ## What is written alike -/

mutual

/-- Whether two values are written alike: they are of one kind, numbers have one text, which shows
every place, and floats have the same bits. -/
def Value.writtenAlike : Value → Value → Bool
  | .null, .null => true
  | .bool a, .bool b => a == b
  | .number a, .number b => a.text == b.text
  | .float a, .float b => a.bits == b.bits
  | .string a, .string b => a == b
  | .array a, .array b => Value.allWrittenAlike a b
  | _, _ => false

/-- Whether two lists of values are written alike element by element. -/
def Value.allWrittenAlike : List Value → List Value → Bool
  | [], [] => true
  | v :: l, w :: m => Value.writtenAlike v w && Value.allWrittenAlike l m
  | _, _ => false

end

/-- Whether two weighted tables are written alike: entry by entry, with the same weights. -/
def sharesWrittenAlike : List (Value × Nat) → List (Value × Nat) → Bool
  | [], [] => true
  | (v, n) :: l, (w, m) :: r => v.writtenAlike w && n == m && sharesWrittenAlike l r
  | _, _ => false

/-! ## Interners -/

/-- A table of entries, none of them twice, that are found by their places. -/
structure Interner (α : Type) where
  /-- The entries in the order of their first use. -/
  entries : Array α

namespace Interner

variable {α : Type}

/-- The interner without entries. -/
def empty : Interner α := ⟨#[]⟩

/-- The place of an entry, and the interner that holds it there. -/
def intern (alike : α → α → Bool) (t : Interner α) (a : α) : Nat × Interner α :=
  match t.entries.findIdx? fun b => alike b a with
  | some i => (i, t)
  | none => (t.entries.size, ⟨t.entries.push a⟩)

/-- The number of entries. -/
def size (t : Interner α) : Nat := t.entries.size

end Interner

/-! ## Pools -/

/-- The literals and tables of a program. -/
structure Pool where
  /-- The literals. -/
  literals : Interner Value
  /-- The tables of weighted distributions. -/
  weighted : Interner (List (Value × Nat))
  /-- The tables of uniform distributions. -/
  uniform : Interner (List Value)

namespace Pool

/-- The pool without entries. -/
def empty : Pool := ⟨.empty, .empty, .empty⟩

/-- The place of a literal, and the pool that holds it there. -/
def literal (p : Pool) (v : Value) : Nat × Pool :=
  let (i, literals) := p.literals.intern Value.writtenAlike v
  (i, { p with literals })

/-- The place of a weighted table, and the pool that holds it there. -/
def weightedTable (p : Pool) (table : List (Value × Nat)) : Nat × Pool :=
  let (i, weighted) := p.weighted.intern sharesWrittenAlike table
  (i, { p with weighted })

/-- The place of a uniform table, and the pool that holds it there. -/
def uniformTable (p : Pool) (values : List Value) : Nat × Pool :=
  let (i, uniform) := p.uniform.intern Value.allWrittenAlike values
  (i, { p with uniform })

/-- The literal at a place. -/
def literalAt (p : Pool) (i : Nat) : Value :=
  p.literals.entries[i]?.getD .null

/-- The values of the array literal at a place. -/
def arrayAt (p : Pool) (i : Nat) : List Value :=
  match p.literalAt i with
  | .array items => items
  | _ => []

/-- The text of the string literal at a place. -/
def textAt (p : Pool) (i : Nat) : String :=
  match p.literalAt i with
  | .string s => s
  | _ => ""

/-- The weighted table at a place. -/
def weightedAt (p : Pool) (i : Nat) : List (Value × Nat) :=
  p.weighted.entries[i]?.getD []

/-- The uniform table at a place. -/
def uniformAt (p : Pool) (i : Nat) : List Value :=
  p.uniform.entries[i]?.getD []

/-- How many entries of each sort a pool has. -/
structure Stats where
  literals : Nat
  weightedTables : Nat
  uniformTables : Nat
deriving DecidableEq

/-- The numbers of entries of a pool. -/
def stats (p : Pool) : Stats :=
  ⟨p.literals.size, p.weighted.size, p.uniform.size⟩

end Pool

/-! ## How pools are listed -/

/-- Items in brackets. -/
def bracketed (items : List String) : String :=
  "[" ++ ", ".intercalate items ++ "]"

mutual

/-- How a value is listed: with its kind, and a string in quotes. -/
def Value.listing : Value → String
  | .null => "Null"
  | .bool b => "Bool(" ++ Value.boolText b ++ ")"
  | .number d => "Number(" ++ d.text ++ ")"
  | .float x => "Float(" ++ Binary64.listing.render x ++ ")"
  | .string s => "String(" ++ Text.quoted s ++ ")"
  | .array items => "Array(" ++ bracketed (Value.listingAll items) ++ ")"

/-- How each of the values is listed. -/
def Value.listingAll : List Value → List String
  | [] => []
  | v :: rest => Value.listing v :: Value.listingAll rest

end

/-- How an entry of a weighted table is listed. -/
def listingShare (entry : Value × Nat) : String :=
  "(" ++ entry.1.listing ++ ", " ++ toString entry.2 ++ ")"

/-- How a pool is listed. -/
def Pool.listing (p : Pool) : String :=
  "ConstantPool \x7b values: "
    ++ bracketed (p.literals.entries.toList.map Value.listing)
    ++ ", weighted: "
    ++ bracketed (p.weighted.entries.toList.map fun t => bracketed (t.map listingShare))
    ++ ", uniform: "
    ++ bracketed (p.uniform.entries.toList.map fun t => bracketed (t.map Value.listing))
    ++ " \x7d"

end Rollout

import Rollout.Digest.Sha1
import Rollout.Value.Basic

/-!
# Distributions

How a rule that applies produces its value: always the same one, or one of several by the bucket in
which an owner lies. The bucket is a hash of the identity of the owner and a salt, so an owner stays
in its bucket.
-/

namespace Rollout

-- sums start from the zero of the core library, whatever else is in scope
attribute [local instance (high)] Zero.ofOfNat0

/-- How a rule produces its value. -/
inductive Distribution where
  /-- Always this value. -/
  | single (value : Value)
  /-- One of the values, each with a share of the buckets in proportion to its weight. -/
  | weighted (owner salt : String) (table : List (Value × Nat))
  /-- One of the values, each with an equal share of the buckets. -/
  | uniform (owner salt : String) (values : List Value)

namespace Distribution

/-- The type of owner whose identity decides, if one does. -/
def owner? : Distribution → Option String
  | single _ => none
  | weighted owner _ _ => some owner
  | uniform owner _ _ => some owner

/-- How an entry of a weighted table is shown. -/
def displayShare (entry : Value × Nat) : String :=
  entry.1.display ++ ": " ++ toString entry.2

/-- How a distribution is shown in a rule. -/
def display : Distribution → String
  | single value => value.display
  | weighted owner salt table =>
    "weighted by " ++ owner ++ "/" ++ salt ++ " \x7b"
      ++ ", ".intercalate (table.map displayShare) ++ "\x7d"
  | uniform owner salt values =>
    "uniform by " ++ owner ++ "/" ++ salt ++ " " ++ (Value.array values).display

end Distribution

/-! ## Buckets -/

/-- Turns a message into a digest. -/
abbrev Hasher := List UInt8 → Digest

/-- The key under which a context holds the identity of an owner. -/
def ownerKey (owner : String) : String :=
  owner ++ ".@@id"

/-- The number that eight bytes stand for, the least significant first. -/
def littleEndian (bytes : List UInt8) : Nat :=
  bytes.foldr (fun b n => b.toNat + 256 * n) 0

/-- The bucket of an owner: the first eight bytes of the digest of its text, a point and the salt. The
null value and arrays have no bucket. -/
def ownerBucket (hasher : Hasher) (salt : String) (id : Value) : Option UInt64 :=
  id.text?.map fun text =>
    let digest := hasher (text ++ "." ++ salt).toUTF8.toList
    UInt64.ofNat (littleEndian (digest.toList.take 8))

/-- The first entry up to which the weights sum to more than `target`. -/
def pick (target : Nat) : List (Value × Nat) → Option Value
  | [] => none
  | (v, w) :: rest => if target < w then some v else pick (target - w) rest

/-- The entry of a weighted table in whose share the bucket lies. A table without weight has none. -/
def selectWeighted (table : List (Value × Nat)) (bucket : UInt64) : Option Value :=
  let total := (table.map Prod.snd).sum
  if total = 0 then none else pick (bucket.toNat % total) table

/-- The value in whose equal share the bucket lies. An empty table has none. -/
def selectUniform (values : List Value) (bucket : UInt64) : Option Value :=
  values[bucket.toNat % values.length]?

end Rollout

import Rollout.Context.Basic
import Rollout.Value.OfJson

/-!
# Contexts of documents

An object becomes a context: its members that are no objects are leaves, and the members of an object
below it stand under its name. The members of each object are taken in ascending order of their
names, of members of one name the last one only. A document that is no object has no properties.
-/

namespace Rollout

/-- The entries without those that a later entry of the same name replaces. -/
def lastOfEach {α : Type} : List (String × α) → List (String × α)
  | [] => []
  | e :: rest =>
    if rest.any fun f => f.1 = e.1 then lastOfEach rest else e :: lastOfEach rest

/-- The entries by ascending name, of each name the last one. -/
def byName {α : Type} (entries : List (String × α)) : List (String × α) :=
  (lastOfEach entries).mergeSort fun a b => (compare a.1 b.1).isLE

/-- The key of a member of the object under a path; the root has no path. -/
def joinKey (path : Option String) (name : String) : String :=
  match path with
  | none => name
  | some p => p ++ "." ++ name

mutual

/-- The leaves of a document under a key, in order. -/
def Json.leaves (key : String) : Json → List (String × Value)
  | .object members => (byName (Json.memberLeaves (some key) members)).flatMap Prod.snd
  | .null => [(key, .null)]
  | .bool b => [(key, .bool b)]
  | .number n => [(key, Value.ofNumber n)]
  | .string s => [(key, .string s)]
  | .array items => [(key, .array (Value.ofJsonAll items))]

/-- The leaves of each member of the object under a path, beside its name. -/
def Json.memberLeaves (path : Option String) :
    List (String × Json) → List (String × List (String × Value))
  | [] => []
  | (name, j) :: rest => (name, Json.leaves (joinKey path name) j) :: Json.memberLeaves path rest

end

/-- The leaves of a whole document, in order. -/
def Json.documentLeaves : Json → List (String × Value)
  | .object members => (byName (Json.memberLeaves none members)).flatMap Prod.snd
  | _ => []

/-- The context of a document. -/
def Context.ofJson (j : Json) : Context :=
  Context.empty.insertAll j.documentLeaves

theorem Context.segmentsOnce_ofJson (j : Json) : (ofJson j).SegmentsOnce :=
  segmentsOnce_empty.insertAll _

end Rollout

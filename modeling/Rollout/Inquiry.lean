import Rollout.EvalError

/-!
# Inquiries

An evaluation asks its context for values under keys. An inquiry is what has come of it: an answer
or an error, and the keys that were asked for, in order. An error keeps the keys asked before it.
-/

namespace Rollout

/-- Gives the value under a key, if there is one. -/
abbrev Lookup := String → Option Value

/-- The outcome of a computation that asks a context for values. -/
structure Inquiry (α : Type) where
  /-- The answer, or why there is none. -/
  answer : Except EvalError α
  /-- The keys that were asked for, in order. -/
  keys : List String

namespace Inquiry

/-- An answer that asks for nothing. -/
def ofExcept {α : Type} (answer : Except EvalError α) : Inquiry α := ⟨answer, []⟩

/-- Asks for the value under a key. -/
def ask (lookup : Lookup) (key : String) : Inquiry (Option Value) := ⟨.ok (lookup key), [key]⟩

/-- Goes on with the answer. What is asked afterwards comes after what was asked before, and after
an error nothing is asked any more. -/
def andThen {α β : Type} (q : Inquiry α) (f : α → Inquiry β) : Inquiry β :=
  match q.answer with
  | .error e => ⟨.error e, q.keys⟩
  | .ok a =>
    let next := f a
    ⟨next.answer, q.keys ++ next.keys⟩

instance : Monad Inquiry where
  pure a := ⟨.ok a, []⟩
  bind := andThen

end Inquiry

end Rollout

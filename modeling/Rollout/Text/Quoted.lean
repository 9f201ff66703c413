import Rollout.Text.Unprinted

/-!
# Quoted texts

How a text is shown in a listing: in quotes, with an escape for the quote, the backslash, the
usual controls and every character that leaves no mark of its own.
-/

namespace Rollout.Text

/-- The characters that stand for one character in a quoted text. -/
def quoteChar (c : Char) : List Char :=
  if c.toNat = 0 then ['\\', '0']
  else if c = '\t' then ['\\', 't']
  else if c = '\r' then ['\\', 'r']
  else if c = '\n' then ['\\', 'n']
  else if c = '\\' then ['\\', '\\']
  else if c = '"' then ['\\', '"']
  else if isUnprinted c then '\\' :: 'u' :: '\x7b' :: Nat.toDigits 16 c.toNat ++ ['\x7d']
  else [c]

/-- The text in quotes. -/
def quoted (s : String) : String :=
  String.ofList ('"' :: s.toList.flatMap quoteChar ++ ['"'])

end Rollout.Text

import Rollout.Binary64.Shortest

/-!
# The text of a float

A float is written with its shortest digits, either with the point in its place or as `d.ddde±x`.
A layout says when which form is taken and how it looks.
-/

namespace Rollout.Binary64

/-- How the digits of a float are laid out. -/
structure Layout where
  /-- Whether a number whose first digit counts `10 ^ e` has its point in its place. -/
  plain : Int → Bool
  /-- Whether a whole number in plain form ends in `.0`. -/
  pointZero : Bool
  /-- Whether a positive exponent carries a plus sign. -/
  plusSign : Bool
  /-- Which of two shortest decimals that are equally near is taken. -/
  tie : Tie

/-- The digits with the point in its place. -/
def plainText (pointZero : Bool) (s : Scientific) : List Char :=
  let ds := Nat.toDigits 10 s.digits
  if 0 ≤ s.exponent then
    ds ++ List.replicate s.exponent.toNat '0' ++ (if pointZero then ['.', '0'] else [])
  else
    let places := (-s.exponent).toNat
    let padded := List.replicate (places + 1 - ds.length) '0' ++ ds
    padded.take (padded.length - places) ++ '.' :: padded.drop (padded.length - places)

/-- The digits with the point after the first of them, and an exponent. -/
def exponentText (plusSign : Bool) (s : Scientific) : List Char :=
  let ds := Nat.toDigits 10 s.digits
  let point := if ds.length = 1 then [] else ['.']
  let sign := if s.leading < 0 then ['-'] else if plusSign then ['+'] else []
  ds.take 1 ++ point ++ ds.drop 1 ++ 'e' :: sign ++ Nat.toDigits 10 s.leading.natAbs

/-- The text of a float under a layout. -/
def Layout.render (layout : Layout) (x : Binary64) : String :=
  if x.isNaN then "NaN"
  else
    let sign := if x.negative then ['-'] else []
    let body :=
      if x.isInfinite then ['i', 'n', 'f']
      else if x.isZero then '0' :: (if layout.pointZero then ['.', '0'] else [])
      else
        let s := x.shortest layout.tie
        if layout.plain s.leading then plainText layout.pointZero s
        else exponentText layout.plusSign s
    String.ofList (sign ++ body)

/-- The text of a float never has an exponent, and a whole number has no point. -/
def display : Layout where
  plain _ := true
  pointZero := false
  plusSign := false
  tie := .up

/-- A listing shows a point in every float, and an exponent below `10 ^ -4` and from `10 ^ 16`. -/
def listing : Layout where
  plain e := -4 ≤ e && e < 16
  pointZero := true
  plusSign := false
  tie := .up

/-- A document shows a point or an exponent in every float, and a sign in every exponent. -/
def document : Layout where
  plain e := -5 ≤ e && e < 16
  pointZero := true
  plusSign := true
  tie := .toEven

end Rollout.Binary64

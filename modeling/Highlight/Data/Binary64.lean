/-!
# Decimal numbers in binary precision

A decimal number is kept as it was written.  It is shown as a number of double precision is: first the
nearest number `m * 2 ^ q` with at most 53 binary digits is found, the even one of two that are equally
near; then the fewest decimal digits from which that number is found again, and of those the nearest.
All of this is exact arithmetic on natural numbers.
-/

namespace Highlight

/-- A decimal number, or one of the values that are none. -/
inductive Decimal where
  | nan
  | infinite (negative : Bool)
  /-- The number `digits * 10 ^ exponent`, with a sign. -/
  | finite (negative : Bool) (digits : Nat) (exponent : Int)
  deriving DecidableEq, Repr

namespace Binary64

/-- A positive fraction. -/
structure Fraction where
  num : Nat
  den : Nat

/-- The number `n * base ^ e`. -/
def Fraction.scaled (n base : Nat) (e : Int) : Fraction :=
  ⟨n * Nat.pow base e.toNat, Nat.pow base (-e).toNat⟩

/-- Comparison by cross-multiplication. -/
def Fraction.le (x y : Fraction) : Bool := x.num * y.den ≤ y.num * x.den

/-- Strict comparison. -/
def Fraction.lt (x y : Fraction) : Bool := x.num * y.den < y.num * x.den

/-- The quotient rounded to the nearest natural number, to the even one of two equally near. -/
def roundHalfEven (num den : Nat) : Nat :=
  let n := num / den
  let r := num % den
  if 2 * r < den then n
  else if den < 2 * r then n + 1
  else if n % 2 = 0 then n else n + 1

/-- A number `m * 2 ^ q` of double precision; none beyond the greatest. -/
structure Number where
  m : Nat
  q : Int

/-- The number of double precision nearest to a positive fraction. -/
def nearest (x : Fraction) : Option Number :=
  let guess : Int := (Nat.log2 x.num : Int) - Nat.log2 x.den - 52
  let least : Int := -1074
  let quotient (q : Int) : Nat × Nat := (x.num * Nat.pow 2 (-q).toNat, x.den * Nat.pow 2 q.toNat)
  let fits (q : Int) : Bool := (quotient q).1 / (quotient q).2 < Nat.pow 2 53
  let q := if fits (guess - 1) then guess - 1 else if fits guess then guess else guess + 1
  let q := max q least
  let m := roundHalfEven (quotient q).1 (quotient q).2
  let (m, q) := if m = Nat.pow 2 53 then (Nat.pow 2 52, q + 1) else (m, q)
  if 971 < q then none else some ⟨m, q⟩

/-- Whether a fraction is rounded to a number `m * 2 ^ q`. -/
def readsBack (n : Number) (x : Fraction) : Bool :=
  let lower : Fraction :=
    if n.m = Nat.pow 2 52 && -1074 < n.q then .scaled (4 * n.m - 1) 2 (n.q - 2)
    else .scaled (2 * n.m - 1) 2 (n.q - 1)
  let upper : Fraction := .scaled (2 * n.m + 1) 2 (n.q - 1)
  if n.m % 2 = 0 then lower.le x && x.le upper else lower.lt x && x.lt upper

/-- The exponent of the first decimal digit of a positive fraction, searched down from `e`. -/
def leadingExponent (x : Fraction) : (steps : Nat) → (e : Int) → Int
  | 0, e => e
  | steps + 1, e =>
    if (Fraction.scaled 1 10 e).le x then e else leadingExponent x steps (e - 1)

/-- The nearest of the decimal numbers with up to `count` digits that reads back, as digits and
exponent. -/
def withDigits (n : Number) (x : Fraction) (leading : Int) (count : Nat) : Option (Nat × Int) :=
  let e := leading - count + 1
  let num := x.num * Nat.pow 10 (-e).toNat
  let den := x.den * Nat.pow 10 e.toNat
  let below := num / den
  let fitsBelow := 0 < below && readsBack n (.scaled below 10 e)
  let fitsAbove := readsBack n (.scaled (below + 1) 10 e)
  if fitsBelow && fitsAbove then some (roundHalfEven num den, e)
  else if fitsBelow then some (below, e)
  else if fitsAbove then some (below + 1, e)
  else none

/-- The fewest digits that read back, as digits and exponent. -/
def shortest (n : Number) : Nat × Int :=
  let x := Fraction.scaled n.m 2 n.q
  let leading := leadingExponent x 640 310
  ((List.range 17).findSome? fun k => withDigits n x leading (k + 1)).getD (n.m, 0)

/-- Digits without the zeros at their end, and the exponent that goes with them. -/
def dropZeros : (steps : Nat) → Nat → Int → Nat × Int
  | 0, d, e => (d, e)
  | steps + 1, d, e => if d % 10 = 0 && d ≠ 0 then dropZeros steps (d / 10) (e + 1) else (d, e)

/-- Positional notation from `10 ^ -4` up to below `10 ^ 16`, with a zero after the point if there is
nothing else; beyond that one digit before the point and an exponent of at least two digits. -/
def layOut (digits : Nat) (e : Int) : String :=
  let (digits, e) := dropZeros 20 digits e
  let ds := Nat.toDigits 10 digits
  let exponent : Int := e + ds.length - 1
  let zeros (n : Nat) := List.replicate n '0'
  if -4 ≤ exponent ∧ exponent < 16 then
    if 0 ≤ e then String.ofList (ds ++ zeros e.toNat ++ ['.', '0'])
    else if exponent < 0 then String.ofList ('0' :: '.' :: zeros (-exponent - 1).toNat ++ ds)
    else
      let k := (exponent + 1).toNat
      String.ofList (ds.take k ++ '.' :: ds.drop k)
  else
    let mantissa := match ds with
      | [d] => [d]
      | d :: rest => d :: '.' :: rest
      | [] => []
    let size := Nat.toDigits 10 exponent.natAbs
    let size := if size.length < 2 then '0' :: size else size
    String.ofList (mantissa ++ 'e' :: (if exponent < 0 then '-' else '+') :: size)

end Binary64

/-- A number as double precision shows it. -/
def Decimal.text : Decimal → String
  | .nan => "nan"
  | .infinite negative => if negative then "-inf" else "inf"
  | .finite negative digits exponent =>
    let sign := if negative then "-" else ""
    let magnitude := (Nat.toDigits 10 digits).length + exponent
    if digits = 0 || magnitude < -400 then sign ++ "0.0"
    else if 400 < magnitude then sign ++ "inf"
    else match Binary64.nearest (.scaled digits 10 exponent) with
      | none => sign ++ "inf"
      | some n =>
        if n.m = 0 then sign ++ "0.0"
        else
          let (d, e) := Binary64.shortest n
          sign ++ Binary64.layOut d e

end Highlight

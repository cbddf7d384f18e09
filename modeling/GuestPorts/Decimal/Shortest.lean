/-
  GuestPorts/Decimal/Shortest.lean
  ================================
  **Binary fractions of 53 bits and their shortest decimals.**

  A finite number of the format is `m * 2 ^ q` with `m < 2 ^ 53` and `q` at least -1074.
  `nearest` rounds a quotient of naturals to it, ties to even; `shortest` finds the
  decimal of fewest digits among those that round to a given number, and of these the
  nearest.  All arithmetic is exact.
-/
import GuestPorts.Text.Basic

namespace GuestPorts.Decimal

/-- A number `m * 2 ^ q`. -/
structure Binary where
  m : Nat
  q : Int
  deriving DecidableEq, Repr, Inhabited

/-- A quotient rounded to a natural number, ties to even. -/
def roundDiv (num den : Nat) : Nat :=
  let floor := num / den
  let twice := 2 * (num % den)
  if twice < den then floor
  else if den < twice then floor + 1
  else floor + floor % 2

/-- `num / den / 2 ^ q` as a quotient. -/
def scaled (num den : Nat) (q : Int) : Nat × Nat :=
  if 0 ≤ q then (num, den * Nat.pow 2 q.toNat) else (num * Nat.pow 2 (-q).toNat, den)

def minExponent : Int := -1074

/-- The number of the format next to a quotient, `none` if that is not finite. -/
def nearest (num den : Nat) : Option Binary :=
  if num = 0 then some ⟨0, minExponent⟩
  else
    let guess := max ((num.log2 : Int) - den.log2 - 52) minExponent
    let (n, d) := scaled num den guess
    let q := if n / d < Nat.pow 2 52 then max (guess - 1) minExponent else guess
    let (n, d) := scaled num den q
    let m := roundDiv n d
    let b : Binary := if m = Nat.pow 2 53 then ⟨Nat.pow 2 52, q + 1⟩ else ⟨m, q⟩
    if 971 < b.q then none else some b

def Binary.ratio (b : Binary) : Nat × Nat :=
  if 0 ≤ b.q then (b.m * Nat.pow 2 b.q.toNat, 1) else (b.m, Nat.pow 2 (-b.q).toNat)

def Binary.mul (a b : Binary) : Option Binary :=
  nearest (a.ratio.1 * b.ratio.1) (a.ratio.2 * b.ratio.2)

def Binary.div (a b : Binary) : Option Binary :=
  nearest (a.ratio.1 * b.ratio.2) (a.ratio.2 * b.ratio.1)

def powerOfTen (e : Nat) : Option Binary := nearest (Nat.pow 10 e) 1

/-- A decimal `coefficient * 10 ^ exponent`. -/
structure Scientific where
  coefficient : Nat
  exponent : Int
  deriving DecidableEq, Repr, Inhabited

/-- Twice the bounds of the interval that rounds to a number, and twice the number,
    over one denominator.  Below a power of two the neighbours are twice as close. -/
def Binary.bounds (b : Binary) : (Nat × Nat × Nat) × Nat :=
  let narrow := b.m = Nat.pow 2 52 && minExponent < b.q
  let low := if narrow then 4 * b.m - 1 else 4 * b.m - 2
  let (n, d) := Binary.ratio ⟨1, b.q - 2⟩
  ((low * n, 4 * b.m * n, (4 * b.m + 2) * n), d)

/-- Whether `c * 10 ^ e` lies in the interval that rounds to the number. -/
def Binary.admits (b : Binary) (c : Nat) (e : Int) : Bool :=
  let ((low, _, high), d) := b.bounds
  let (x, y) := if 0 ≤ e then (c * Nat.pow 10 e.toNat * d, 1) else (c * d, Nat.pow 10 (-e).toNat)
  if b.m % 2 = 0 then low * y ≤ x && x ≤ high * y else low * y < x && x < high * y

def Binary.distance (b : Binary) (c : Nat) (e : Int) : Nat :=
  let (n, d) := b.ratio
  let (x, y) := if 0 ≤ e then (c * Nat.pow 10 e.toNat * d, n) else (c * d, n * Nat.pow 10 (-e).toNat)
  if x ≤ y then y - x else x - y

/-- The decimal with `count` digits or fewer that rounds to the number, if there is
    one; `top` is the exponent of the number's first digit. -/
def Binary.withDigits (b : Binary) (top : Int) (count : Nat) : Option Scientific :=
  let e := top - count + 1
  let (n, d) := b.ratio
  let below := if 0 ≤ e then n / (d * Nat.pow 10 e.toNat) else n * Nat.pow 10 (-e).toNat / d
  match b.admits below e, b.admits (below + 1) e with
  | true, true =>
    if b.distance below e ≤ b.distance (below + 1) e then some ⟨below, e⟩
    else some ⟨below + 1, e⟩
  | true, false => some ⟨below, e⟩
  | false, true => some ⟨below + 1, e⟩
  | false, false => none

def leadingExponent (num den : Nat) : Int :=
  if den ≤ num then (Text.digits (num / den)).length - 1
  else
    let inverse := (den + num - 1) / num
    0 - ((Text.digits (inverse - 1)).length : Int)

/-- The decimal without zeros at its end; `fuel` bounds their number. -/
def Scientific.normal : Nat → Scientific → Scientific
  | 0, s => s
  | fuel + 1, s =>
    if s.coefficient ≠ 0 && s.coefficient % 10 = 0 then
      Scientific.normal fuel ⟨s.coefficient / 10, s.exponent + 1⟩
    else s

/-- The decimal of fewest digits that rounds to the number; seventeen always do. -/
def Binary.shortest (b : Binary) : Scientific :=
  if b.m = 0 then ⟨0, 0⟩
  else
    let top := leadingExponent b.ratio.1 b.ratio.2
    let found := (List.range 17).findSome? fun i => b.withDigits top (i + 1)
    (found.getD ⟨b.m, 0⟩).normal 20

/-- The digits of a decimal in the notation for messages: positional while the point
    falls within sixteen digits or four zeros behind it, with an exponent otherwise. -/
def Scientific.toChars (s : Scientific) : List Char :=
  let ds := Text.digits s.coefficient
  let k := s.exponent
  let point : Int := ds.length + k
  if s.coefficient = 0 then "0.0".toList
  else if 0 ≤ k && point ≤ 16 then ds ++ List.replicate k.toNat '0' ++ ['.', '0']
  else if 0 < point && point ≤ 16 then ds.take point.toNat ++ '.' :: ds.drop point.toNat
  else if -5 < point && point ≤ 0 then
    "0.".toList ++ List.replicate (-point).toNat '0' ++ ds
  else
    let e := point - 1
    let sign := if e < 0 then ['-'] else []
    let mantissa :=
      match ds with
      | d :: (d' :: rest) => d :: '.' :: d' :: rest
      | _ => ds
    mantissa ++ 'e' :: sign ++ Text.digits e.natAbs

end GuestPorts.Decimal

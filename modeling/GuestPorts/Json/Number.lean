/-
  GuestPorts/Json/Number.lean
  ===========================
  **What a numeral stands for**: an integer if it is spelled as one and fits into 64
  bits, a binary fraction otherwise, nothing if it is too large for that.

  Only as many leading digits count as fit into 64 bits; the others move the point.
-/
import GuestPorts.Json.Document
import GuestPorts.Decimal.Shortest

namespace GuestPorts.Json

open GuestPorts.Text (digitValue valueOf)
open GuestPorts.Decimal (Binary)

inductive Number where
  | integer (n : Int)
  | fraction (negative : Bool) (b : Binary)
  | tooLarge
  deriving DecidableEq, Repr

namespace Number

/-- The first bound that a 64-bit word cannot hold. -/
def wordBound : Nat := Nat.pow 2 64

/-- Take digits while the value fits into a word; the value and the digits left. -/
def takeDigits (v : Nat) : List Char → Nat × List Char
  | [] => (v, [])
  | c :: r =>
    let next := 10 * v + digitValue c
    if next < wordBound then takeDigits next r else (v, c :: r)

/-- `significand * 10 ^ e` by one rounded multiplication or by rounded divisions. -/
def scaleDown : Nat → Binary → Nat → Option Binary
  | 0, b, _ => some b
  | fuel + 1, b, e =>
    if e ≤ 308 then do b.div (← Decimal.powerOfTen e)
    else if b.m = 0 then some b
    else do scaleDown fuel (← b.div (← Decimal.powerOfTen 308)) (e - 308)

def scale (significand : Nat) (e : Int) : Option Binary := do
  let b ← Decimal.nearest significand 1
  if e < 0 then scaleDown (e.natAbs / 308 + 1) b e.natAbs
  else if e ≤ 308 then b.mul (← Decimal.powerOfTen e.toNat)
  else if b.m = 0 then some b
  else none

def exponentBound : Nat := Nat.pow 2 31

def fractionOf (n : Numeral) : Number :=
  let (v, dropped) := takeDigits 0 n.whole
  let decimals := n.fraction.getD []
  let (v, unused) := takeDigits v decimals
  let shift : Int := dropped.length - (decimals.length - unused.length : Nat)
  let result :=
    match n.exponent with
    | none => scale v shift
    | some (negative, ds) =>
      let e := valueOf ds
      if exponentBound ≤ e then
        if v = 0 || negative then some ⟨0, Decimal.minExponent⟩ else none
      else scale v (if negative then shift - e else shift + e)
  match result with
  | some b => .fraction n.negative b
  | none => .tooLarge

/-- The value of a numeral.  A negative zero is no integer. -/
def ofNumeral (n : Numeral) : Number :=
  let v := valueOf n.whole
  if n.fraction.isNone && n.exponent.isNone then
    if !n.negative && v < wordBound then .integer v
    else if n.negative && 0 < v && v ≤ Nat.pow 2 63 then .integer (-(v : Int))
    else fractionOf n
  else fractionOf n

end Number

def Numeral.ofNat (n : Nat) : Numeral := ⟨false, Text.digits n, none, none⟩

end GuestPorts.Json

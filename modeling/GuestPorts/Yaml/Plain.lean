/-
  GuestPorts/Yaml/Plain.lean
  ==========================
  **What a plain scalar means**: nothing, a truth value, a number, or its own text.

  A text whose plain form would mean something else, or that other readers take for a
  truth value, is *ambiguous* and has to be quoted.
-/
import GuestPorts.Decimal.Shortest
import GuestPorts.Text.Characters
import GuestPorts.Text.Basic
import GuestPorts.Yaml.Scalar

namespace GuestPorts.Yaml

open GuestPorts.Text (isDigit valueOf)

def nullWords : List String := ["null", "Null", "NULL", "~"]

def isNull (cs : List Char) : Bool := cs.isEmpty || nullWords.contains (String.ofList cs)

def boolOf (cs : List Char) : Option Bool :=
  let s := String.ofList cs
  if ["true", "True", "TRUE"].contains s then some true
  else if ["false", "False", "FALSE"].contains s then some false
  else none

def dropSign : List Char → List Char
  | '-' :: r => r
  | '+' :: r => r
  | cs => cs

/-- Digits behind a zero are a text, not a number. -/
def isZeroPadded (cs : List Char) : Bool :=
  match dropSign cs with
  | '0' :: d :: r => (d :: r).all isDigit
  | _ => false

/-- The value of digits, which are in a base of two, eight or sixteen behind its mark. -/
def magnitude? (cs : List Char) : Option Nat :=
  let base := match cs with
    | '0' :: 'x' :: _ => 16
    | '0' :: 'o' :: _ => 8
    | '0' :: 'b' :: _ => 2
    | _ => 10
  let digits := if base = 10 then cs else cs.drop 2
  if !digits.isEmpty && digits.all (fun c => (hexDigit c).any (· < base)) && !isZeroPadded cs then
    some (digits.foldl (fun v c => base * v + (hexDigit c).getD 0) 0)
  else none

def isInteger (bits : Nat) (cs : List Char) : Bool :=
  match cs with
  | '-' :: r => (magnitude? r).any (· ≤ Nat.pow 2 (bits - 1))
  | '+' :: r => (magnitude? r).any (· < Nat.pow 2 bits)
  | r => (magnitude? r).any (· < Nat.pow 2 bits)

/-- The parts of a decimal fraction behind its sign: digits before and behind the
    point, and the exponent. -/
def fractionParts (cs : List Char) : Option (List Char × List Char × Int) :=
  let whole := cs.takeWhile isDigit
  let cs := cs.dropWhile isDigit
  let (decimals, cs) :=
    match cs with
    | '.' :: r => (r.takeWhile isDigit, r.dropWhile isDigit)
    | _ => ([], cs)
  if whole.isEmpty && decimals.isEmpty then none
  else
    match cs with
    | [] => some (whole, decimals, 0)
    | e :: r =>
      if e = 'e' || e = 'E' then
        let digits := dropSign r
        if digits.isEmpty || !digits.all isDigit then none
        else
          let n : Int := valueOf digits
          some (whole, decimals, if r.head? = some '-' then -n else n)
      else none

/-- Whether a decimal fraction is finite as a number of 64 bits.  Its digits settle
    that alone when its first one is far from the limit. -/
def isFinite (whole decimals : List Char) (exponent : Int) : Bool :=
  let n := valueOf (whole ++ decimals)
  let e := exponent - decimals.length
  let top := e + (Text.digits n).length
  if n = 0 || top < 300 then true
  else if 320 < top then false
  else
    (if 0 ≤ e then Decimal.nearest (n * Nat.pow 10 e.toNat) 1
      else Decimal.nearest n (Nat.pow 10 e.natAbs)).isSome

def isFraction (cs : List Char) : Bool :=
  let unsigned := match cs with
    | '+' :: r => r
    | _ => cs
  let s := String.ofList unsigned
  [".inf", ".Inf", ".INF"].contains s
    || ["-.inf", "-.Inf", "-.INF", ".nan", ".NaN", ".NAN"].contains (String.ofList cs)
    || (!(cs.head? = some '+' && (unsigned.head? = some '+' || unsigned.head? = some '-'))
        && (match fractionParts (dropSign unsigned) with
            | some (whole, decimals, e) => isFinite whole decimals e
            | none => false))

def isNumber (cs : List Char) : Bool := isInteger 128 cs || (!isZeroPadded cs && isFraction cs)

def isText (cs : List Char) : Bool := !isNull cs && (boolOf cs).isNone && !isNumber cs

/-- Words that other readers take for truth values. -/
def doubtfulWords : List String := ["y", "yes", "n", "no", "on", "off", "true", "false", "null", "~"]

/-- Whether a text has to be quoted to keep its meaning with every reader. -/
def isAmbiguous (cs : List Char) : Bool :=
  !isText cs || isZeroPadded cs || doubtfulWords.contains (Text.lowerCase (String.ofList cs))

end GuestPorts.Yaml

/-
  GuestPorts/Json/Reader.lean
  ===========================
  **From text to document.**  Reading goes from left to right and stops at the first
  character that no JSON text can have there; what was read up to it is the result.

  Each step returns the rest of the text, or nothing once the text is broken, so that
  every list and object around the fault ends there too.  The recursion spends one
  unit of fuel for each value or separator, of which a text has no more than
  characters (`read`).
-/
import GuestPorts.Json.Document
import GuestPorts.Text.Basic

namespace GuestPorts.Json

open GuestPorts.Text (isDigit)

def isSpace (c : Char) : Bool := c = ' ' || c = '\n' || c = '\t' || c = '\r'

def skipSpace (cs : List Char) : List Char := cs.dropWhile isSpace

def hexValue (c : Char) : Option Nat :=
  if '0' ≤ c && c ≤ '9' then some (c.toNat - '0'.toNat)
  else if 'a' ≤ c && c ≤ 'f' then some (c.toNat - 'a'.toNat + 10)
  else if 'A' ≤ c && c ≤ 'F' then some (c.toNat - 'A'.toNat + 10)
  else none

def fourHex : List Char → Option (Nat × List Char)
  | a :: b :: c :: d :: r => do
    let n := ((← hexValue a) * 16 + (← hexValue b)) * 16 + (← hexValue c)
    return (n * 16 + (← hexValue d), r)
  | _ => none

def simpleEscape : Char → Option Char
  | '"' => some '"'
  | '\\' => some '\\'
  | '/' => some '/'
  | 'b' => some '\x08'
  | 'f' => some '\x0c'
  | 'n' => some '\n'
  | 'r' => some '\r'
  | 't' => some '\t'
  | _ => none

/-- One piece of a string: a character, or a surrogate that has no partner. -/
inductive Piece where
  | char (c : Char)
  | half
  deriving DecidableEq, Repr

/-- A character given by one or two groups of four digits; the second group is read
    only when it completes a pair. -/
def unicodeEscape (cs : List Char) : Option (Piece × List Char) := do
  let (n, rest) ← fourHex cs
  if n < 0xD800 || 0xE000 ≤ n then return (.char (Char.ofNat n), rest)
  if 0xDC00 ≤ n then return (.half, rest)
  match rest with
  | '\\' :: 'u' :: more =>
    let (m, after) ← fourHex more
    if 0xDC00 ≤ m && m < 0xE000 then
      return (.char (Char.ofNat (0x10000 + (n - 0xD800) * 0x400 + (m - 0xDC00))), after)
    else return (.half, rest)
  | _ => return (.half, rest)

def stringPieces : Nat → List Char → Option (List Piece × List Char)
  | 0, _ => none
  | _ + 1, [] => none
  | fuel + 1, c :: r =>
    if c = '"' then some ([], r)
    else if c = '\\' then
      match r with
      | [] => none
      | 'u' :: more => do
        let (piece, rest) ← unicodeEscape more
        let (pieces, rest) ← stringPieces fuel rest
        return (piece :: pieces, rest)
      | e :: more => do
        let ch ← simpleEscape e
        let (pieces, rest) ← stringPieces fuel more
        return (.char ch :: pieces, rest)
    else if c.toNat < 0x20 then none
    else do
      let (pieces, rest) ← stringPieces fuel r
      return (.char c :: pieces, rest)

def textOfPieces (pieces : List Piece) : Option (List Char) :=
  pieces.mapM fun
    | .char c => some c
    | .half => none

def someDigits (cs : List Char) : Option (List Char × List Char) :=
  match cs.takeWhile isDigit with
  | [] => none
  | run => some (run, cs.dropWhile isDigit)

/-- The whole part of a numeral: a zero alone, or digits that do not begin with one. -/
def wholePart (cs : List Char) : Option (List Char × List Char) := do
  let (run, rest) ← someDigits cs
  if run.head? = some '0' && 1 < run.length then none else return (run, rest)

def fractionPart : List Char → Option (Option (List Char) × List Char)
  | '.' :: r => do
    let (run, rest) ← someDigits r
    return (some run, rest)
  | cs => some (none, cs)

def exponentDigits (cs : List Char) : Option (Option (Bool × List Char) × List Char) := do
  let (negative, cs) :=
    match cs with
    | '-' :: r => (true, r)
    | '+' :: r => (false, r)
    | _ => (false, cs)
  let (run, rest) ← someDigits cs
  return (some (negative, run), rest)

def exponentPart : List Char → Option (Option (Bool × List Char) × List Char)
  | 'e' :: r | 'E' :: r => exponentDigits r
  | cs => some (none, cs)

def numeral (negative : Bool) (cs : List Char) : Option (Numeral × List Char) := do
  let (whole, cs) ← wholePart cs
  let (fraction, cs) ← fractionPart cs
  let (exponent, cs) ← exponentPart cs
  return (⟨negative, whole, fraction, exponent⟩, cs)

def afterWord : List Char → List Char → Option (List Char)
  | [], cs => some cs
  | w :: ws, c :: cs => if w = c then afterWord ws cs else none
  | _ :: _, [] => none

def orBroken {α : Type} (make : α → Doc) : Option (α × List Char) → Doc × Option (List Char)
  | some (a, rest) => (make a, some rest)
  | none => (.broken, none)

def stringDoc (pieces : List Piece) : Doc :=
  match textOfPieces pieces with
  | some cs => .string cs
  | none => .unpaired

/-- A value that is neither a list nor an object, from its first character on. -/
def scalar (cs : List Char) : Doc × Option (List Char) :=
  match cs with
  | [] => (.broken, none)
  | 'n' :: r => orBroken (fun _ => .null) ((afterWord "ull".toList r).map (((), ·)))
  | 't' :: r => orBroken (fun _ => .bool true) ((afterWord "rue".toList r).map (((), ·)))
  | 'f' :: r => orBroken (fun _ => .bool false) ((afterWord "alse".toList r).map (((), ·)))
  | '"' :: r => orBroken stringDoc (stringPieces (r.length + 1) r)
  | '-' :: r => orBroken .number (numeral true r)
  | c :: r => if isDigit c then orBroken .number (numeral false (c :: r)) else (.broken, none)

mutual
def value : Nat → List Char → Doc × Option (List Char)
  | 0, _ => (.broken, none)
  | fuel + 1, cs =>
    match skipSpace cs with
    | '[' :: r =>
      match skipSpace r with
      | ']' :: rest => (.array .closed, some rest)
      | r =>
        let (items, rest) := items fuel r
        (.array items, rest)
    | '{' :: r =>
      match skipSpace r with
      | '}' :: rest => (.object .closed, some rest)
      | r =>
        let (members, rest) := members fuel r
        (.object members, rest)
    | cs => scalar cs

def items : Nat → List Char → Items × Option (List Char)
  | 0, _ => (.cut, none)
  | fuel + 1, cs =>
    match value fuel cs with
    | (head, none) => (.cons head .cut, none)
    | (head, some rest) =>
      match skipSpace rest with
      | ']' :: rest => (.cons head .closed, some rest)
      | ',' :: rest =>
        if (skipSpace rest).head? = some ']' then (.cons head .cut, none)
        else
          let (tail, rest) := items fuel rest
          (.cons head tail, rest)
      | _ => (.cons head .cut, none)

def members : Nat → List Char → Members × Option (List Char)
  | 0, _ => (.cut, none)
  | fuel + 1, cs =>
    match value fuel cs with
    | (.string name, some rest) =>
      match skipSpace rest with
      | ':' :: rest =>
        match value fuel rest with
        | (member, none) => (.cons name member .cut, none)
        | (member, some rest) =>
          match skipSpace rest with
          | '}' :: rest => (.cons name member .closed, some rest)
          | ',' :: rest =>
            let (tail, rest) := members fuel rest
            (.cons name member tail, rest)
          | _ => (.cons name member .cut, none)
      | _ => (.cons name .broken .cut, none)
    | (other, _) => (.nameless other, none)
end

/-- The document of a text and whether nothing but blanks stands behind it. -/
def read (cs : List Char) : Doc × Bool :=
  match value (cs.length + 1) cs with
  | (d, some rest) => (d, (skipSpace rest).isEmpty)
  | (d, none) => (d, false)

end GuestPorts.Json

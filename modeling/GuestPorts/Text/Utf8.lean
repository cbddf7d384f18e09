/-
  GuestPorts/Text/Utf8.lean
  =========================
  **Text as bytes**: the UTF-8 form of characters and the reading of bytes.

  Reading is a machine that takes one byte at a time.  A byte sequence that stands
  for no character is marked, one mark for each longest stretch that could still
  have begun a character, so that a strict reader can refuse it (`decode`) and a
  lenient one can put the replacement character in its place (`decodeLossy`).
-/

namespace GuestPorts.Text

def encode (cs : List Char) : List UInt8 := cs.flatMap String.utf8EncodeChar

def byteLength (cs : List Char) : Nat := cs.foldr (fun c n => c.utf8Size + n) 0

/-- A character whose first bytes are read: the bytes still owed, the bounds of
    the next one, and the bits so far. -/
structure Pending where
  owed : Nat
  low : UInt8
  high : UInt8
  bits : Nat
  deriving DecidableEq, Repr

/-- What a first byte begins: a whole character, the start of one, or nothing. -/
inductive Lead where
  | whole (c : Char)
  | begins (p : Pending)
  | invalid
  deriving DecidableEq, Repr

/-- The second byte of a character is bounded more tightly after four first bytes,
    which rules out long forms, surrogates and numbers that are no code points. -/
def lead (b : UInt8) : Lead :=
  if b < 0x80 then .whole (Char.ofNat b.toNat)
  else if 0xC2 ≤ b && b ≤ 0xDF then .begins ⟨1, 0x80, 0xBF, b.toNat - 0xC0⟩
  else if b = 0xE0 then .begins ⟨2, 0xA0, 0xBF, 0⟩
  else if b = 0xED then .begins ⟨2, 0x80, 0x9F, 0xD⟩
  else if 0xE1 ≤ b && b ≤ 0xEF then .begins ⟨2, 0x80, 0xBF, b.toNat - 0xE0⟩
  else if b = 0xF0 then .begins ⟨3, 0x90, 0xBF, 0⟩
  else if 0xF1 ≤ b && b ≤ 0xF3 then .begins ⟨3, 0x80, 0xBF, b.toNat - 0xF0⟩
  else if b = 0xF4 then .begins ⟨3, 0x80, 0x8F, 4⟩
  else .invalid

/-- The characters of a byte sequence, `none` for each stretch that is no character. -/
def decodeFrom : Option Pending → List UInt8 → List (Option Char)
  | none, [] => []
  | some _, [] => [none]
  | none, b :: r =>
    match lead b with
    | .whole c => some c :: decodeFrom none r
    | .begins p => decodeFrom (some p) r
    | .invalid => none :: decodeFrom none r
  | some p, b :: r =>
    if p.low ≤ b && b ≤ p.high then
      let bits := p.bits * 64 + (b.toNat - 0x80)
      if p.owed ≤ 1 then some (Char.ofNat bits) :: decodeFrom none r
      else decodeFrom (some ⟨p.owed - 1, 0x80, 0xBF, bits⟩) r
    else
      none ::
        match lead b with
        | .whole c => some c :: decodeFrom none r
        | .begins q => decodeFrom (some q) r
        | .invalid => none :: decodeFrom none r

def decode (bytes : List UInt8) : Option (List Char) := (decodeFrom none bytes).mapM id

/-- The text that the bytes stand for, U+FFFD where they stand for none. -/
def decodeLossy (bytes : List UInt8) : List Char :=
  (decodeFrom none bytes).map (·.getD '\ufffd')

end GuestPorts.Text

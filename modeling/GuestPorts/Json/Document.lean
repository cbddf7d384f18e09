/-
  GuestPorts/Json/Document.lean
  =============================
  **JSON documents, whole or cut short**, and their text.

  A reader that reports the first fault of a text has to know what stood before the
  fault.  A `Doc` is therefore what could be read of a text: a list or object that the
  text breaks off has an end of its own (`Items.cut`, `Members.cut`), and a value that
  cannot be read at all is `Doc.broken`.  A document without any of these is *whole*.

  Two leaves keep what only their use decides: a numeral keeps its digits, and a
  string that holds half of a surrogate pair is a string without a text.

  In the text each member or element has a line, with two blanks for each level.  Inside a
  string only the quote, the backslash and the controls below the blank are escaped, the latter
  by their letters where JSON has one.
-/
import GuestPorts.Text.Characters

namespace GuestPorts.Json

structure Numeral where
  negative : Bool
  whole : List Char
  fraction : Option (List Char)
  /-- Whether the exponent is negative, and its digits. -/
  exponent : Option (Bool × List Char)
  deriving DecidableEq, Repr

mutual
/-- What could be read of a value. -/
inductive Doc where
  | null
  | bool (b : Bool)
  | number (n : Numeral)
  | string (cs : List Char)
  /-- A string with a surrogate that has no partner. -/
  | unpaired
  | array (items : Items)
  | object (members : Members)
  | broken
  deriving Repr

/-- The elements of a list and how it ends. -/
inductive Items where
  | closed
  | cut
  | cons (head : Doc) (tail : Items)
  deriving Repr

/-- The members of an object and how it ends: a value may stand in a name's place. -/
inductive Members where
  | closed
  | cut
  | nameless (value : Doc)
  | cons (name : List Char) (value : Doc) (tail : Members)
  deriving Repr
end

instance : Inhabited Doc := ⟨.null⟩

mutual
/-- Whether the value was read to its end. -/
def Doc.isWhole : Doc → Bool
  | .null | .bool _ | .number _ | .string _ | .unpaired => true
  | .array items => items.isWhole
  | .object members => members.isWhole
  | .broken => false

def Items.isWhole : Items → Bool
  | .closed => true
  | .cut => false
  | .cons head tail => head.isWhole && tail.isWhole

def Members.isWhole : Members → Bool
  | .closed => true
  | .cut | .nameless _ => false
  | .cons _ value tail => value.isWhole && tail.isWhole
end

def Items.ofList : List Doc → Items
  | [] => .closed
  | d :: ds => .cons d (ofList ds)

def Members.ofList : List (List Char × Doc) → Members
  | [] => .closed
  | m :: ms => .cons m.1 m.2 (ofList ms)

/-! ### Writing -/

def escape (c : Char) : List Char :=
  if c = '"' || c = '\\' then ['\\', c]
  else if c = '\x08' then ['\\', 'b']
  else if c = '\x0c' then ['\\', 'f']
  else if c = '\n' then ['\\', 'n']
  else if c = '\r' then ['\\', 'r']
  else if c = '\t' then ['\\', 't']
  else if c.toNat < 0x20 then
    ['\\', 'u', '0', '0', Nat.digitChar (c.toNat / 16), Nat.digitChar (c.toNat % 16)]
  else [c]

def quote (cs : List Char) : List Char := '"' :: (cs.flatMap escape ++ ['"'])

def Numeral.toChars (n : Numeral) : List Char :=
  (if n.negative then ['-'] else []) ++ n.whole
    ++ (match n.fraction with
        | some ds => '.' :: ds
        | none => [])
    ++ (match n.exponent with
        | some (true, ds) => 'e' :: '-' :: ds
        | some (false, ds) => 'e' :: ds
        | none => [])

def newLine (depth : Nat) : List Char := '\n' :: List.replicate (2 * depth) ' '

mutual
/-- A value whose own line is at the given level. -/
def Doc.pretty (depth : Nat) : Doc → List Char
  | .null => "null".toList
  | .bool true => "true".toList
  | .bool false => "false".toList
  | .number n => n.toChars
  | .string cs => quote cs
  | .unpaired | .broken => []
  | .array .closed => ['[', ']']
  | .array items => '[' :: items.pretty (depth + 1) ++ newLine depth ++ [']']
  | .object .closed => ['\x7b', '\x7d']
  | .object members => '\x7b' :: members.pretty (depth + 1) ++ newLine depth ++ ['\x7d']

def Items.pretty (depth : Nat) : Items → List Char
  | .closed | .cut => []
  | .cons head .closed => newLine depth ++ head.pretty depth
  | .cons head tail => newLine depth ++ head.pretty depth ++ ',' :: tail.pretty depth

def Members.pretty (depth : Nat) : Members → List Char
  | .closed | .cut | .nameless _ => []
  | .cons name value .closed => newLine depth ++ quote name ++ ':' :: ' ' :: value.pretty depth
  | .cons name value tail =>
    newLine depth ++ quote name ++ ':' :: ' ' :: (value.pretty depth ++ ',' :: tail.pretty depth)
end

def Doc.text (d : Doc) : String := String.ofList (d.pretty 0)

end GuestPorts.Json

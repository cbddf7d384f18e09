/-
  GuestPorts/Json/Decode.lean
  ===========================
  **From documents to values.**  A decoder takes a document, whole or cut short, and
  reports the first fault in the order of the text: a value of the wrong kind, a name
  that comes twice, or the place where the text breaks off.

  A record is an object of its fields in any order, with unknown names passed over, or
  a list of its fields in their order.  `foldMembers` and `nextItem` are the two walks.
-/
import GuestPorts.Json.Number
import GuestPorts.Text.Characters

namespace GuestPorts.Json

inductive Found where
  | null
  | bool (b : Bool)
  | integer (n : Int)
  | fraction (negative : Bool) (b : Decimal.Binary)
  | string (cs : List Char)
  | sequence
  | map
  deriving DecidableEq, Repr

def integerText (n : Int) : String :=
  if n < 0 then "-" ++ Text.decimal n.natAbs else Text.decimal n.natAbs

def Found.text : Found → String
  | .null => "null"
  | .bool b => "boolean `" ++ (if b then "true" else "false") ++ "`"
  | .integer n => "integer `" ++ integerText n ++ "`"
  | .fraction negative b =>
    "floating point `" ++ (if negative then "-" else "")
      ++ String.ofList b.shortest.toChars ++ "`"
  | .string cs => "string " ++ Text.quoted (String.ofList cs)
  | .sequence => "sequence"
  | .map => "map"

inductive Misfit where
  | wrongType (found : Found) (expected : String)
  | wrongValue (n : Int) (expected : String)
  | wrongLength (n : Nat) (expected : String)
  | missingField (name : String)
  | duplicateField (name : String)
  | unknownVariant (name : String) (expected : String)
  /-- A text that is not what its field holds. -/
  | badText (reason : String)
  deriving DecidableEq, Repr

def graved (name : String) : String := "`" ++ name ++ "`"

def Misfit.message : Misfit → String
  | .wrongType found expected => "invalid type: " ++ found.text ++ ", expected " ++ expected
  | .wrongValue n expected => "invalid value: integer " ++ graved (integerText n) ++ ", expected " ++ expected
  | .wrongLength n expected => "invalid length " ++ Text.decimal n ++ ", expected " ++ expected
  | .missingField name => "missing field " ++ graved name
  | .duplicateField name => "duplicate field " ++ graved name
  | .unknownVariant name expected => "unknown variant " ++ graved name ++ ", expected " ++ expected
  | .badText reason => reason

/-- The first fault of a text: it is no JSON there, or a value does not fit. -/
inductive Fault where
  | malformed
  | misfit (m : Misfit)
  deriving DecidableEq, Repr

def Fault.message : Fault → String
  | .malformed => "the text is not well-formed"
  | .misfit m => m.message

abbrev Decoded := Except Fault

def refuse {α : Type} (m : Misfit) : Decoded α := .error (.misfit m)

/-- A numeral in the wrong place, unless it is too large to be read at all. -/
def wrongNumber {α : Type} (n : Numeral) (expected : String) : Decoded α :=
  match Number.ofNumeral n with
  | .integer i => refuse (.wrongType (.integer i) expected)
  | .fraction negative b => refuse (.wrongType (.fraction negative b) expected)
  | .tooLarge => .error .malformed

def wrongType {α : Type} (expected : String) : Doc → Decoded α
  | .null => refuse (.wrongType .null expected)
  | .bool b => refuse (.wrongType (.bool b) expected)
  | .number n => wrongNumber n expected
  | .string cs => refuse (.wrongType (.string cs) expected)
  | .unpaired | .broken => .error .malformed
  | .array _ => refuse (.wrongType .sequence expected)
  | .object _ => refuse (.wrongType .map expected)

def stringOf : Doc → Decoded (List Char)
  | .string cs => .ok cs
  | d => wrongType "a string" d

def wordOf : Doc → Decoded UInt16
  | .number n =>
    match Number.ofNumeral n with
    | .integer i =>
      if 0 ≤ i ∧ i < 65536 then .ok (UInt16.ofNat i.toNat) else refuse (.wrongValue i "u16")
    | _ => wrongNumber n "u16"
  | d => wrongType "u16" d

/-- Nothing for `null`, and what the decoder makes of anything else. -/
def optionOf {α : Type} (decode : Doc → Decoded α) : Doc → Decoded (Option α)
  | .null => .ok none
  | d => do return some (← decode d)

def elementsOf {α : Type} (decode : Doc → Decoded α) : Items → Decoded (List α)
  | .closed => .ok []
  | .cut => .error .malformed
  | .cons head tail => do
    let a ← decode head
    return a :: (← elementsOf decode tail)

def listOf {α : Type} (decode : Doc → Decoded α) : Doc → Decoded (List α)
  | .array items => elementsOf decode items
  | d => wrongType "a sequence" d

/-- A list, empty for `null`. -/
def listOrNull {α : Type} (decode : Doc → Decoded α) (d : Doc) : Decoded (List α) := do
  return (← optionOf (listOf decode) d).getD []

/-! ### Records -/

/-- Walk through the members of an object; `accept` says what to do with a name's
    value, or that the name is unknown. -/
def foldMembers {σ : Type} (accept : σ → String → Option (Doc → Decoded σ)) :
    σ → Members → Decoded σ
  | s, .closed => .ok s
  | _, .cut => .error .malformed
  | _, .nameless _ => .error .malformed
  | s, .cons name value tail =>
    match accept s (String.ofList name) with
    | some take => do foldMembers accept (← take value) tail
    | none => if value.isWhole then foldMembers accept s tail else .error .malformed

/-- Fill a field's slot, which must be empty. -/
def fill {α : Type} (slot : Option α) (name : String) (decode : Doc → Decoded α) (d : Doc) :
    Decoded (Option α) :=
  match slot with
  | some _ => refuse (.duplicateField name)
  | none => do return some (← decode d)

def needed {α : Type} (slot : Option α) (name : String) : Decoded α :=
  match slot with
  | some a => .ok a
  | none => refuse (.missingField name)

def nextItem {α : Type} (decode : Doc → Decoded α) : Items → Decoded (Option α × Items)
  | .closed => .ok (none, .closed)
  | .cut => .error .malformed
  | .cons head tail => do return (some (← decode head), tail)

def neededItem {α : Type} (decode : Doc → Decoded α) (place : Nat) (expected : String)
    (items : Items) : Decoded (α × Items) := do
  match ← nextItem decode items with
  | (some a, rest) => return (a, rest)
  | (none, _) => refuse (.wrongLength place expected)

def endOfItems : Items → Decoded Unit
  | .closed => .ok ()
  | _ => .error .malformed

end GuestPorts.Json

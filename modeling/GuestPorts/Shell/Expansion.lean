/-
  GuestPorts/Shell/Expansion.lean
  ===============================
  **What words stand for** when a command runs.

  An unquoted value falls apart at its blanks, a quoted one stays whole, and all
  arguments in quotes are a word each.  In a pattern an unquoted star stands for any
  text and an unquoted question mark for any character; everything quoted stands for
  itself.
-/
import GuestPorts.Shell.Script
import GuestPorts.Text.Basic

namespace GuestPorts.Shell

structure Scope where
  /-- The name of the script, and its arguments. -/
  name : String
  arguments : List String
  status : Nat
  process : Nat
  bindings : List (String × String)

def Scope.value (s : Scope) : Parameter → String
  | .argument 0 => s.name
  | .argument (n + 1) => s.arguments.getD n ""
  | .arguments | .joinedArguments => Text.joined " " s.arguments
  | .count => Text.decimal s.arguments.length
  | .status => Text.decimal s.status
  | .process => Text.decimal s.process
  | .named name => (s.bindings.lookup name).getD ""

/-- The words so far, and the one that is not ended yet. -/
structure Fields where
  ended : List (List Char) := []
  open? : Option (List Char) := none

namespace Fields

def close (f : Fields) : Fields :=
  match f.open? with
  | some cs => { ended := f.ended ++ [cs], open? := none }
  | none => f

def add (f : Fields) (cs : List Char) : Fields := { f with open? := some (f.open?.getD [] ++ cs) }

def addSplit (f : Fields) : List Char → Fields
  | [] => f
  | c :: r =>
    if c = ' ' || c = '\t' || c = '\n' then f.close.addSplit r else (f.add [c]).addSplit r

/-- Texts of which the first belongs to the open word and each other is a new one. -/
def addEach (f : Fields) : List (List Char) → Fields
  | [] => f
  | [cs] => f.add cs
  | cs :: next :: rest => (f.add cs).close.addEach (next :: rest)

end Fields

def Fields.addPiece (scope : Scope) (f : Fields) : Piece → Fields
  | .text _ cs => f.add cs
  | .value true .arguments => f.addEach (scope.arguments.map String.toList)
  | .value true p => f.add (scope.value p).toList
  | .value false p => f.addSplit (scope.value p).toList

def Word.fields (scope : Scope) (w : Word) : List String :=
  (w.foldl (Fields.addPiece scope) {}).close.ended.map String.ofList

/-- The one text that a word stands for where no words are wanted. -/
def Word.asText (scope : Scope) (w : Word) : String :=
  String.join (w.map fun
    | .text _ cs => String.ofList cs
    | .value _ p => scope.value p)

/-! ### Patterns -/

inductive PatternItem where
  | literal (c : Char)
  | anyCharacter
  | anyText
  deriving DecidableEq, Repr

/-- The items of a text in which stars and question marks have their meaning. -/
def patternItems (cs : List Char) : List PatternItem :=
  cs.map fun c => if c = '*' then .anyText else if c = '?' then .anyCharacter else .literal c

def Word.pattern (scope : Scope) (w : Word) : List PatternItem :=
  w.flatMap fun
    | .text true cs => cs.map .literal
    | .text false cs => patternItems cs
    | .value true p => (scope.value p).toList.map .literal
    | .value false p => patternItems (scope.value p).toList

/-- The ends of a text, the whole of it first. -/
def ends : List Char → List (List Char)
  | [] => [[]]
  | c :: r => (c :: r) :: ends r

def fits : List PatternItem → List Char → Bool
  | [], cs => cs.isEmpty
  | .literal _ :: _, [] => false
  | .literal l :: p, c :: r => l = c && fits p r
  | .anyCharacter :: _, [] => false
  | .anyCharacter :: p, _ :: r => fits p r
  | .anyText :: p, cs => (ends cs).any fun rest => fits p rest

end GuestPorts.Shell

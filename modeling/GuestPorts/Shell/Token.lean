/-
  GuestPorts/Shell/Token.lean
  ===========================
  **Tokens of a script**: words, signs, redirections and the ends of lines.

  A word ends at a blank or a sign that stands outside of quotes.  Command substitution
  and background commands are not part of the language here; a script with one of them
  has no tokens.
-/
import GuestPorts.Shell.Script
import GuestPorts.Text.Basic

namespace GuestPorts.Shell

inductive Sign where
  | semicolon
  | doubleSemicolon
  | both
  | either
  | opening
  | closing
  | bar
  deriving DecidableEq, Repr

inductive Arrow where
  | write
  | append
  | read
  | copy
  deriving DecidableEq, Repr

inductive Token where
  | word (line : Nat) (w : Word)
  | sign (s : Sign)
  | arrow (stream : Nat) (a : Arrow)
  | lineEnd
  deriving DecidableEq, Repr

def endsWord (c : Char) : Bool := " \t\n;&|()<>".toList.contains c

def isNameStart (c : Char) : Bool := c.isAlpha || c = '_'

def isNameChar (c : Char) : Bool := c.isAlphanum || c = '_'

def isName : List Char → Bool
  | [] => false
  | c :: r => isNameStart c && r.all isNameChar

def parameterOf (cs : List Char) : Option Parameter :=
  match cs with
  | ['@'] => some .arguments
  | ['*'] => some .joinedArguments
  | ['#'] => some .count
  | ['?'] => some .status
  | ['$'] => some .process
  | _ =>
    match Text.readDigits cs with
    | some n => some (.argument n)
    | none => if isName cs then some (.named (String.ofList cs)) else none

def readParameter : List Char → Option (Parameter × List Char)
  | '\x7b' :: r =>
    match Text.cutAt '\x7d' r with
    | some (inner, rest) => (parameterOf inner).map (·, rest)
    | none => none
  | c :: r =>
    if isNameStart c then
      some (.named (String.ofList (c :: r.takeWhile isNameChar)), r.dropWhile isNameChar)
    else (parameterOf [c]).map (·, r)
  | [] => none

/-- A piece in front of others; neighbouring texts of one kind become one. -/
def Word.push : Piece → Word → Word
  | .text q cs, .text q' cs' :: w =>
    if q = q' then .text q (cs ++ cs') :: w else .text q cs :: .text q' cs' :: w
  | p, w => p :: w

/-- What a backslash keeps its meaning in front of, inside double quotes. -/
def isEscapable (c : Char) : Bool := "$\"\\".toList.contains c || c.toNat = 0x60

/-- Substitution of a command's output, which is not supported. -/
def startsSubstitution : List Char → Bool
  | '$' :: '(' :: _ => true
  | c :: _ => c.toNat = 0x60
  | [] => false

def readQuoted : Nat → List Char → Option (Word × List Char)
  | 0, _ => none
  | _ + 1, [] => none
  | _ + 1, '"' :: r => some ([], r)
  | n + 1, '\\' :: '\n' :: r => readQuoted n r
  | n + 1, '\\' :: c :: r => do
    let (w, rest) ← readQuoted n r
    return (Word.push (.text true (if isEscapable c then [c] else ['\\', c])) w, rest)
  | n + 1, c :: r =>
    if startsSubstitution (c :: r) then none
    else
      match (if c = '$' then readParameter r else none) with
      | some (p, r) => do
        let (w, rest) ← readQuoted n r
        return (.value true p :: w, rest)
      | none => do
        let (w, rest) ← readQuoted n r
        return (Word.push (.text true [c]) w, rest)

/-- Pieces before the rest of a word; nothing at all between quotes is a text too. -/
def Word.prepend (inner w : Word) : Word :=
  if inner = [] then .text true [] :: w else inner.foldr Word.push w

def readWord : Nat → List Char → Option (Word × List Char)
  | 0, _ => none
  | _ + 1, [] => some ([], [])
  | n + 1, '\\' :: '\n' :: r => readWord n r
  | n + 1, '\\' :: c :: r => do
    let (w, rest) ← readWord n r
    return (Word.push (.text true [c]) w, rest)
  | n + 1, '\'' :: r => do
    let (inner, r) ← Text.cutAt '\'' r
    let (w, rest) ← readWord n r
    return (Word.push (.text true inner) w, rest)
  | n + 1, '"' :: r => do
    let (inner, r) ← readQuoted n r
    let (w, rest) ← readWord n r
    return (Word.prepend inner w, rest)
  | n + 1, c :: r =>
    if endsWord c then some ([], c :: r)
    else if startsSubstitution (c :: r) then none
    else
      match (if c = '$' then readParameter r else none) with
      | some (p, r) => do
        let (w, rest) ← readWord n r
        return (.value false p :: w, rest)
      | none => do
        let (w, rest) ← readWord n r
        return (Word.push (.text false [c]) w, rest)

def readArrow : List Char → Option (Arrow × List Char)
  | '>' :: '>' :: r => some (.append, r)
  | '>' :: '&' :: r => some (.copy, r)
  | '>' :: '|' :: r => some (.write, r)
  | '>' :: r => some (.write, r)
  | '<' :: r => some (.read, r)
  | _ => none

def readRedirection : List Char → Option (Nat × Arrow × List Char)
  | c :: r =>
    if Text.isDigit c then (readArrow r).map fun (a, rest) => (Text.digitValue c, a, rest)
    else (readArrow (c :: r)).map fun (a, rest) => (if a = .read then 0 else 1, a, rest)
  | [] => none

def readSign : List Char → Option (Sign × List Char)
  | ';' :: ';' :: r => some (.doubleSemicolon, r)
  | ';' :: r => some (.semicolon, r)
  | '&' :: '&' :: r => some (.both, r)
  | '|' :: '|' :: r => some (.either, r)
  | '|' :: r => some (.bar, r)
  | '(' :: r => some (.opening, r)
  | ')' :: r => some (.closing, r)
  | _ => none

def linesBetween (cs rest : List Char) : Nat := (cs.take (cs.length - rest.length)).count '\n'

/-- The tokens of a text, its first line being number `line`. -/
def tokensFrom : Nat → Nat → List Char → Option (List Token)
  | 0, _, _ => none
  | _ + 1, _, [] => some []
  | n + 1, line, '\n' :: r => (tokensFrom n (line + 1) r).map (.lineEnd :: ·)
  | n + 1, line, '\\' :: '\n' :: r => tokensFrom n (line + 1) r
  | n + 1, line, '#' :: r => tokensFrom n line (r.dropWhile (· ≠ '\n'))
  | n + 1, line, c :: r =>
    if c = ' ' || c = '\t' then tokensFrom n line r
    else
      match readRedirection (c :: r) with
      | some (stream, a, rest) => (tokensFrom n line rest).map (.arrow stream a :: ·)
      | none =>
        match readSign (c :: r) with
        | some (s, rest) => (tokensFrom n line rest).map (.sign s :: ·)
        | none => do
          let (w, rest) ← readWord (r.length + 2) (c :: r)
          if rest.length < (c :: r).length then
            (tokensFrom n (line + linesBetween (c :: r) rest) rest).map (.word line w :: ·)
          else none

def tokens (cs : List Char) : Option (List Token) := tokensFrom (cs.length + 1) 1 cs

end GuestPorts.Shell

/-
  GuestPorts/Yaml/Printer.lean
  ============================
  **Writing scalars.**  A text is written plain if that is legal and means the text; in
  single quotes if it would mean something else; as a literal block if it has several
  lines; and in double quotes if it holds what no other form can show.
-/
import GuestPorts.Yaml.Plain

namespace GuestPorts.Yaml

def isShown (c : Char) : Bool :=
  let n := c.toNat
  c = '\n' || (0x20 ≤ n && n ≤ 0x7E) || (0xA0 ≤ n && n ≤ 0xD7FF)
    || (0xE000 ≤ n && n ≤ 0xFFFD && n ≠ 0xFEFF)

def isIndicator (c : Char) : Bool := "#,[]\x7b\x7d&*!|>'\"%@`".toList.contains c

def startsBadly (cs : List Char) : Bool :=
  "---".toList.isPrefixOf cs || "...".toList.isPrefixOf cs
    || (match cs with
        | [] => false
        | c :: r => isIndicator c || ((c = '-' || c = '?' || c = ':') && atGap r))

/-- Whether a colon or number sign behind the first character ends a plain scalar. -/
def endsEarly : List Char → Bool
  | [] => false
  | c :: r =>
    (match r with
     | ':' :: r' => atGap r'
     | '#' :: _ => isGap c || isBreak c
     | _ => false)
      || endsEarly r

def hasPair (p q : Char → Bool) : List Char → Bool
  | a :: b :: r => (p a && q b) || hasPair p q (b :: r)
  | _ => false

/-- What a text has that rules out some of the forms. -/
structure Traits where
  special : Bool
  broken : Bool
  outerBlank : Bool
  trailingSpace : Bool
  spaceThenBreak : Bool
  breakThenSpace : Bool
  marked : Bool
  deriving DecidableEq, Repr

def traits (cs : List Char) : Traits :=
  let blank : Char → Bool := fun c => c = ' ' || isBreak c
  { special := !cs.all isShown
    broken := cs.any isBreak
    outerBlank := cs.head?.any blank || cs.getLast?.any blank
    trailingSpace := cs.getLast? = some ' '
    spaceThenBreak := hasPair (· = ' ') isBreak cs
    breakThenSpace := hasPair isBreak (· = ' ') cs
    marked := startsBadly cs || endsEarly cs }

def styleFor (cs : List Char) : Style :=
  let t := traits cs
  let inQuotes : Style := if t.special || t.spaceThenBreak || t.breakThenSpace then .double else .single
  if cs.contains '\n' then
    if t.special || t.spaceThenBreak || t.trailingSpace then .double else .literal
  else if isAmbiguous cs then inQuotes
  else if t.special || t.broken || t.outerBlank || t.marked then inQuotes
  else .plain

def hexCapitals : Nat → Nat → List Char
  | 0, _ => []
  | width + 1, n => hexCapitals width (n / 16) ++ [(Nat.digitChar (n % 16)).toUpper]

def doubleEscape (c : Char) : List Char :=
  let letter : Option Char :=
    [('\x00', '0'), ('\x07', 'a'), ('\x08', 'b'), ('\t', 't'), ('\n', 'n'), ('\x0b', 'v'),
     ('\x0c', 'f'), ('\r', 'r'), ('\x1b', 'e'), ('"', '"'), ('\\', '\\'), ('\u0085', 'N'),
     ('\u2028', 'L'), ('\u2029', 'P')].lookup c
  match letter with
  | some l => ['\\', l]
  | none =>
    if isShown c then [c]
    else
      let n := c.toNat
      if n ≤ 0xFF then '\\' :: 'x' :: hexCapitals 2 n
      else if n ≤ 0xFFFF then '\\' :: 'u' :: hexCapitals 4 n
      else '\\' :: 'U' :: hexCapitals 8 n

/-- The text inside single quotes: a quote twice, and the indentation behind the end of
    a line. -/
def singleText (indent : Nat) (afterBreak : Bool) : List Char → List Char
  | [] => []
  | c :: r =>
    if isBreak c then c :: singleText indent true r
    else
      (if afterBreak then List.replicate indent ' ' else [])
        ++ (if c = '\'' then ['\'', '\''] else [c]) ++ singleText indent false r

def literalText (indent : Nat) (afterBreak : Bool) : List Char → List Char
  | [] => []
  | c :: r =>
    if isBreak c then c :: literalText indent true r
    else
      (if afterBreak then List.replicate indent ' ' else []) ++ c :: literalText indent false r

/-- The indicators of a literal block: the indentation if the text starts with a blank,
    and what becomes of the line ends at its end. -/
def literalHints (cs : List Char) : List Char :=
  (if cs.head?.any (fun c => c = ' ' || isBreak c) then ['2'] else [])
    ++ (match cs.reverse with
        | [] => ['-']
        | [c] => if isBreak c then ['+'] else ['-']
        | c :: d :: _ => if !isBreak c then ['-'] else if isBreak d then ['+'] else [])

def writeScalar (indent : Nat) (cs : List Char) : List Char :=
  match styleFor cs with
  | .single => '\'' :: (singleText indent false cs ++ ['\'', '\n'])
  | .double => '"' :: (cs.flatMap doubleEscape ++ ['"', '\n'])
  | .literal =>
    '|' :: (literalHints cs ++ '\n' :: literalText indent true cs)
      ++ (if cs.getLast?.any isBreak then [] else ['\n'])
  | _ => cs ++ ['\n']

end GuestPorts.Yaml

/-
  GuestPorts/Yaml/Scalar.lean
  ===========================
  **The five ways to write a scalar**, and their reading.

  YAML gives meaning to columns, so every step over a character keeps count.  A line
  ends with a line feed, a carriage return, both, or one of three Unicode characters;
  all but the last two of these read as a line feed.

  A scalar that runs over several lines is *folded*: one line's end reads as a blank,
  and each further one as itself.  Blanks next to a line's end do not count.  A block
  scalar keeps its lines, the folded kind but where two lines of text meet, and an
  indicator says what becomes of the line ends behind its last line.
-/
import GuestPorts.Text.Basic

namespace GuestPorts.Yaml

/-! ### Places in a text -/

def isBreak (c : Char) : Bool :=
  c = '\n' || c = '\r' || c = '\u0085' || c = '\u2028' || c = '\u2029'

def isGap (c : Char) : Bool := c = ' ' || c = '\t'

def atGap : List Char → Bool
  | [] => true
  | c :: _ => isGap c || isBreak c

def atEnd : List Char → Bool
  | [] => true
  | c :: _ => isBreak c

/-- A place: the text from it on, its line and column, and how many characters stand
    before it. -/
structure Cursor where
  rest : List Char
  line : Nat := 0
  column : Nat := 0
  index : Nat := 0
  deriving DecidableEq, Repr

namespace Cursor

def skip (c : Cursor) (n : Nat) : Cursor :=
  { c with rest := c.rest.drop n, column := c.column + n, index := c.index + n }

def nextLine (c : Cursor) : Cursor :=
  match c.rest with
  | '\r' :: '\n' :: r => { rest := r, line := c.line + 1, column := 0, index := c.index + 2 }
  | _ :: r => { rest := r, line := c.line + 1, column := 0, index := c.index + 1 }
  | [] => c

def breakText (c : Cursor) : List Char :=
  match c.rest with
  | '\u2028' :: _ => ['\u2028']
  | '\u2029' :: _ => ['\u2029']
  | _ => ['\n']

def skipWhile (c : Cursor) (p : Char → Bool) : Cursor := c.skip (c.rest.takeWhile p).length

/-- Whether a document marker stands here: three equal characters alone in front of
    a line. -/
def atMarker (c : Cursor) (mark : Char) : Bool :=
  c.column = 0 && ([mark, mark, mark].isPrefixOf c.rest) && atGap (c.rest.drop 3)

end Cursor

/-! ### Scalars -/

inductive Style where
  | plain
  | single
  | double
  | literal
  | folded
  deriving DecidableEq, Repr

/-- Line ends between two words: the first, and the others. -/
def foldBreaks (first more : List Char) : List Char :=
  if first = ['\n'] then (if more.isEmpty then [' '] else more) else first ++ more

structure Gap where
  /-- What the gap reads as. -/
  text : List Char
  /-- Whether a line ended in it. -/
  broken : Bool
  cursor : Cursor

/-- Pass over a gap.  `spaces` are its blanks while no line has ended; `breaks` are
    the ends of lines, the first apart.  With `indent` given, a tab in front of that
    column is refused once a line has ended. -/
def readGap (indent : Nat) (spaces : List Char) (breaks : Option (List Char × List Char)) :
    Nat → Cursor → Option Gap
  | 0, _ => none
  | fuel + 1, cur =>
    match cur.rest with
    | [] => some (finish cur)
    | c :: _ =>
      if isGap c then
        if breaks.isSome && cur.column < indent && c = '\t' then none
        else
          let spaces := if breaks.isSome then spaces else spaces ++ [c]
          readGap indent spaces breaks fuel (cur.skip 1)
      else if isBreak c then
        let breaks :=
          match breaks with
          | none => (cur.breakText, [])
          | some (first, more) => (first, more ++ cur.breakText)
        readGap indent spaces (some breaks) fuel cur.nextLine
      else some (finish cur)
where
  finish (cur : Cursor) : Gap :=
    match breaks with
    | none => ⟨spaces, false, cur⟩
    | some (first, more) => ⟨foldBreaks first more, true, cur⟩

structure Scanned where
  text : List Char
  cursor : Cursor
  /-- Whether a line ended after the scalar's last character. -/
  broken : Bool := false

/-! ### Plain scalars -/

def isFlowMark (c : Char) : Bool :=
  c = ',' || c = '[' || c = ']' || c = '\x7b' || c = '\x7d'

/-- The characters up to a blank or the end of a plain scalar; a colon right before an
    indicator is refused inside brackets. -/
def plainWord (inFlow : Bool) : List Char → Option (List Char)
  | [] => some []
  | c :: r =>
    if isGap c || isBreak c then some []
    else if inFlow && c = ':' && r.head?.any (fun d => isFlowMark d || d = '?') then none
    else if c = ':' && atGap r then some []
    else if inFlow && isFlowMark c then some []
    else (plainWord inFlow r).map (c :: ·)

/-- Read a plain scalar.  `lead` is the gap before its next word, which counts only if
    a word follows; the scalar goes on in lines that reach column `indent`. -/
def readPlain (inFlow : Bool) (indent : Nat) : Nat → Gap → Option Scanned
  | 0, _ => none
  | fuel + 1, lead =>
    let cur := lead.cursor
    if cur.atMarker '-' || cur.atMarker '.' || cur.rest.head? = some '#' then
      some ⟨[], cur, lead.broken⟩
    else do
      let word ← plainWord inFlow cur.rest
      let after := cur.skip word.length
      let lead := if word.isEmpty then lead else ⟨lead.text, false, cur⟩
      let shown := if word.isEmpty then [] else lead.text ++ word
      if !atGap after.rest || after.rest.isEmpty then return ⟨shown, after, lead.broken⟩
      let gap ← readGap indent [] none (after.rest.length + 1) after
      if !inFlow && gap.cursor.column < indent then
        return ⟨shown, gap.cursor, gap.broken || lead.broken⟩
      let more ← readPlain inFlow indent fuel gap
      return { more with text := shown ++ more.text }

/-! ### Quoted scalars -/

def hexDigit (c : Char) : Option Nat :=
  if '0' ≤ c && c ≤ '9' then some (c.toNat - '0'.toNat)
  else if 'a' ≤ c && c ≤ 'f' then some (c.toNat - 'a'.toNat + 10)
  else if 'A' ≤ c && c ≤ 'F' then some (c.toNat - 'A'.toNat + 10)
  else none

def hexNumber (cs : List Char) : Option Nat :=
  cs.foldlM (fun v c => (hexDigit c).map (16 * v + ·)) 0

def letterEscapes : List (Char × Char) :=
  [('0', '\x00'), ('a', '\x07'), ('b', '\x08'), ('t', '\t'), ('\t', '\t'), ('n', '\n'),
   ('v', '\x0b'), ('f', '\x0c'), ('r', '\r'), ('e', '\x1b'), (' ', ' '), ('"', '"'),
   ('/', '/'), ('\\', '\\'), ('N', '\u0085'), ('_', '\u00a0'), ('L', '\u2028'),
   ('P', '\u2029')]

/-- Letters before a code point, and the number of its digits. -/
def codeEscapes : List (Char × Nat) := [('x', 2), ('u', 4), ('U', 8)]

/-- The character of an escape and the length of what stands behind the backslash. -/
def readEscape (cs : List Char) : Option (Char × Nat) := do
  let e ← cs.head?
  match letterEscapes.lookup e with
  | some c => return (c, 1)
  | none =>
    let width ← codeEscapes.lookup e
    let digits := (cs.drop 1).take width
    if digits.length < width then none
    else
      let n ← hexNumber digits
      if (0xD800 ≤ n && n < 0xE000) || 0x10FFFF < n then none
      else return (Char.ofNat n, width + 1)

inductive PartEnd where
  /-- The closing quote is next. -/
  | quote
  /-- A blank or the end of a line is next. -/
  | gap
  /-- A line's end was escaped. -/
  | escapedBreak
  deriving DecidableEq, Repr

def quotedPart (single : Bool) : Nat → Cursor → Option (List Char × Cursor × PartEnd)
  | 0, _ => none
  | fuel + 1, cur =>
    match cur.rest with
    | [] => some ([], cur, .gap)
    | c :: r =>
      if isGap c || isBreak c then some ([], cur, .gap)
      else if single && c = '\'' then
        if r.head? = some '\'' then add c (quotedPart single fuel (cur.skip 2))
        else some ([], cur, .quote)
      else if !single && c = '"' then some ([], cur, .quote)
      else if !single && c = '\\' then
        if r.head?.any isBreak then some ([], (cur.skip 1).nextLine, .escapedBreak)
        else do
          let (e, width) ← readEscape r
          add e (quotedPart single fuel (cur.skip (width + 1)))
      else add c (quotedPart single fuel (cur.skip 1))
where
  add (c : Char) : Option (List Char × Cursor × PartEnd) → Option (List Char × Cursor × PartEnd)
    | some (cs, cur, ending) => some (c :: cs, cur, ending)
    | none => none

def readQuoted (single : Bool) : Nat → Cursor → Option Scanned
  | 0, _ => none
  | fuel + 1, cur =>
    if cur.atMarker '-' || cur.atMarker '.' || cur.rest.isEmpty then none
    else do
      let (part, after, ending) ← quotedPart single (cur.rest.length + 1) cur
      match ending with
      | .quote => return ⟨part, after.skip 1, false⟩
      | _ =>
        let breaks := if ending = .escapedBreak then some ([], []) else none
        let gap ← readGap 0 [] breaks (after.rest.length + 1) after
        let more ← readQuoted single fuel gap.cursor
        return { more with text := part ++ gap.text ++ more.text }

/-! ### Block scalars -/

inductive Chomp where
  | strip
  | clip
  | keep
  deriving DecidableEq, Repr

def readChomp : List Char → Option Chomp
  | '+' :: _ => some .keep
  | '-' :: _ => some .strip
  | _ => none

def readIndent : List Char → Option Nat
  | c :: _ => if '1' ≤ c && c ≤ '9' then some (Text.digitValue c) else none
  | [] => none

structure BlockHead where
  chomp : Chomp
  indent : Option Nat
  cursor : Cursor

def readBlockHead (cur : Cursor) : Option BlockHead :=
  let (chomp, indent, cur) :=
    match readChomp cur.rest with
    | some chomp =>
      let cur := cur.skip 1
      match readIndent cur.rest with
      | some n => (chomp, some n, cur.skip 1)
      | none => (chomp, none, cur)
    | none =>
      match readIndent cur.rest with
      | some n =>
        let cur := cur.skip 1
        match readChomp cur.rest with
        | some chomp => (chomp, some n, cur.skip 1)
        | none => (.clip, some n, cur)
      | none => (.clip, none, cur)
  let cur := cur.skipWhile isGap
  let cur := if cur.rest.head? = some '#' then cur.skipWhile fun c => !isBreak c else cur
  if atEnd cur.rest then
    some ⟨chomp, indent, if cur.rest.isEmpty then cur else cur.nextLine⟩
  else none

/-- Skip the blanks in front of a line, up to the indentation if it is known. -/
def skipIndent (indent : Option Nat) : Nat → Cursor → Cursor
  | 0, cur => cur
  | fuel + 1, cur =>
    if cur.rest.head? = some ' ' && indent.all (cur.column < ·) then
      skipIndent indent fuel (cur.skip 1)
    else cur

/-- Empty lines of a block scalar: their line ends, the widest column seen, and the
    first place that is none. -/
def readEmptyLines (indent : Option Nat) (widest : Nat) (breaks : List Char) :
    Nat → Cursor → Option (List Char × Nat × Cursor)
  | 0, _ => none
  | fuel + 1, cur =>
    let cur := skipIndent indent cur.rest.length cur
    let widest := max widest cur.column
    if indent.all (cur.column < ·) && cur.rest.head? = some '\t' then none
    else if cur.rest.head?.any isBreak then
      readEmptyLines indent widest (breaks ++ cur.breakText) fuel cur.nextLine
    else some (breaks, widest, cur)

def blockBreaks (literal : Bool) (lead : List Char) (empty : List Char)
    (leadBlank nextBlank : Bool) : List Char :=
  if !literal && lead = ['\n'] && !leadBlank && !nextBlank then
    (if empty.isEmpty then [' '] else []) ++ empty
  else lead ++ empty

/-- Read the lines of a block scalar at a known indentation.  `lead` is the end of the
    line before, `empty` the line ends after it. -/
def readBlockLines (literal : Bool) (chomp : Chomp) (indent : Nat) :
    Nat → List Char → List Char → Bool → Cursor → Option Scanned
  | 0, _, _, _, _ => none
  | fuel + 1, lead, empty, leadBlank, cur =>
    if cur.column = indent && !cur.rest.isEmpty then do
      let nextBlank := cur.rest.head?.any isGap
      let between := blockBreaks literal lead empty leadBlank nextBlank
      let line := cur.rest.takeWhile fun c => !isBreak c
      let after := cur.skip line.length
      let (lead, after) := if after.rest.isEmpty then ([], after) else (after.breakText, after.nextLine)
      let (empty, _, next) ← readEmptyLines (some indent) 0 [] (after.rest.length + 1) after
      let more ← readBlockLines literal chomp indent fuel lead empty nextBlank next
      return { more with text := between ++ line ++ more.text }
    else
      let kept :=
        match chomp with
        | .strip => []
        | .clip => lead
        | .keep => lead ++ empty
      some ⟨kept, cur, false⟩

/-- Read a block scalar behind its first character; `outer` is the column of the
    collection around it, if there is one. -/
def readBlock (literal : Bool) (outer : Option Nat) (cur : Cursor) : Option Scanned := do
  let head ← readBlockHead cur
  let fixed := head.indent.map fun n => outer.getD 0 + n
  let fuel := cur.rest.length + 2
  let (empty, widest, next) ← readEmptyLines fixed 0 [] fuel head.cursor
  let least := max 1 ((outer.map (· + 1)).getD 0)
  let indent := fixed.getD (max widest least)
  readBlockLines literal head.chomp indent fuel [] empty false next

end GuestPorts.Yaml

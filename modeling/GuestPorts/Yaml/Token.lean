/-
  GuestPorts/Yaml/Token.lean
  ==========================
  **Tokens of a YAML text.**

  Most tokens are what stands in the text.  Three are not: where a collection in block
  form starts is seen from a column further right than the one before, where it ends
  from a column further left, and that a scalar was a key is seen only at the colon
  behind it.  So every token that may be a key is remembered with its place
  (`Candidate`), one for each level of brackets, and the colon inserts the key's mark
  there.  A key has to end on its line and within 1024 characters.
-/
import GuestPorts.Yaml.Scalar

namespace GuestPorts.Yaml

inductive Token where
  | version (major minor : Nat)
  | tagHandle (handle expansion : List Char)
  | documentStart
  | documentEnd
  | blockSequence
  | blockMapping
  | blockEnd
  | flowSequence
  | flowSequenceEnd
  | flowMapping
  | flowMappingEnd
  | blockEntry
  | flowEntry
  | key
  | value
  | alias (name : List Char)
  | anchor (name : List Char)
  | tag (handle suffix : List Char)
  | scalar (style : Style) (text : List Char)
  | streamEnd
  deriving DecidableEq, Repr

/-- A token that may turn out to be a key. -/
structure Candidate where
  /-- Whether nothing but a key may stand at its place. -/
  needed : Bool
  /-- How many tokens stand before it. -/
  position : Nat
  line : Nat
  column : Nat
  index : Nat
  deriving DecidableEq, Repr

structure Scan where
  cursor : Cursor
  tokens : List Token := []
  /-- Columns of the block collections that are open, innermost first. -/
  columns : List Nat := []
  /-- The candidate on the current level of brackets, and on each level around it. -/
  candidate : Option Candidate := none
  outer : List (Option Candidate) := []
  /-- Whether a key may start here. -/
  keyAllowed : Bool := true
  deriving Repr

namespace Scan

def inFlow (s : Scan) : Bool := !s.outer.isEmpty

def column? (s : Scan) : Option Nat := s.columns.head?

def emit (s : Scan) (t : Token) : Scan := { s with tokens := s.tokens ++ [t] }

def moveTo (s : Scan) (cur : Cursor) : Scan := { s with cursor := cur }

/-- Give up the current candidate, unless a key is needed there. -/
def dropCandidate (s : Scan) : Option Scan :=
  match s.candidate with
  | some c => if c.needed then none else some { s with candidate := none }
  | none => some s

def noteCandidate (s : Scan) : Option Scan :=
  if s.keyAllowed then do
    let s ← s.dropCandidate
    let cur := s.cursor
    let needed := !s.inFlow && s.column? = some cur.column
    return { s with
      candidate := some ⟨needed, s.tokens.length, cur.line, cur.column, cur.index⟩ }
  else some s

def isStale (cur : Cursor) (c : Candidate) : Bool :=
  c.line < cur.line || c.index + 1024 < cur.index

def dropStale (s : Scan) : Option Scan :=
  let check : Option Candidate → Option (Option Candidate) := fun c? =>
    match c? with
    | some c => if isStale s.cursor c then (if c.needed then none else some none) else some (some c)
    | none => some none
  do
    let candidate ← check s.candidate
    let outer ← s.outer.mapM check
    return { s with candidate, outer }

/-- Open a block collection at a column further right; its mark goes before the token
    at `position`. -/
def openBlock (s : Scan) (column position : Nat) (mark : Token) : Scan :=
  if !s.inFlow && s.column?.all (· < column) then
    { s with columns := column :: s.columns, tokens := s.tokens.insertIdx position mark }
  else s

/-- Close the block collections further right than a column, all of them if none is
    given. -/
def closeBlocks (column : Option Nat) : List Nat → List Token → List Nat × List Token
  | [], tokens => ([], tokens)
  | c :: cs, tokens =>
    if column.all (· < c) then closeBlocks column cs (tokens ++ [.blockEnd]) else (c :: cs, tokens)

def unwind (s : Scan) (column : Option Nat) : Scan :=
  if s.inFlow then s
  else
    let (columns, tokens) := closeBlocks column s.columns s.tokens
    { s with columns, tokens }

/-! ### Between tokens -/

/-- Pass over blanks, comments and line ends.  A tab is no blank where a key may
    start. -/
def skipToToken (inFlow : Bool) : Nat → Bool → Cursor → Bool × Cursor
  | 0, keyAllowed, cur => (keyAllowed, cur)
  | fuel + 1, keyAllowed, cur =>
    let cur := if cur.index = 0 && cur.rest.head? = some '\ufeff' then cur.skip 1 else cur
    let cur := cur.skipWhile fun c => c = ' ' || ((inFlow || !keyAllowed) && c = '\t')
    let cur := if cur.rest.head? = some '#' then cur.skipWhile fun c => !isBreak c else cur
    if cur.rest.head?.any isBreak then
      skipToToken inFlow fuel (keyAllowed || !inFlow) cur.nextLine
    else (keyAllowed, cur)

/-! ### Names, tags and directives -/

def isWordChar (c : Char) : Bool := c.isAlphanum || c = '-' || c = '_'

def isAddressChar (wide : Bool) (c : Char) : Bool :=
  isWordChar c || ";/?:@&=+$.%!~*'()".toList.contains c
    || (wide && (c = ',' || c = '[' || c = ']'))

def unescapeAddress : Nat → List Char → Option (List UInt8)
  | 0, _ => none
  | _ + 1, [] => some []
  | fuel + 1, '%' :: r => do
    let digits := r.take 2
    if digits.length < 2 then none
    else return UInt8.ofNat (← hexNumber digits) :: (← unescapeAddress fuel (r.drop 2))
  | fuel + 1, c :: r => do return String.utf8EncodeChar c ++ (← unescapeAddress fuel r)

/-- The address at the front of a text, escapes undone, and its length as written. -/
def readAddress (wide : Bool) (cs : List Char) : Option (List Char × Nat) := do
  let raw := cs.takeWhile (isAddressChar wide)
  let bytes ← unescapeAddress (raw.length + 1) raw
  let s ← String.fromUTF8? ⟨bytes.toArray⟩
  return (s.toList, raw.length)

def readName (cur : Cursor) : Option (List Char × Cursor) :=
  let name := cur.rest.takeWhile isWordChar
  let after := cur.skip name.length
  let ended := atGap after.rest || after.rest.head?.any fun c => "?:,]\x7d%@`".toList.contains c
  if name.isEmpty || !ended then none else some (name, after)

/-- A tag's handle: `!`, `!!` or `!word!`, or `!` and a word that belongs to what
    follows. -/
def readHandle (cur : Cursor) : Option (List Char × Cursor) :=
  match cur.rest with
  | '!' :: r =>
    let word := r.takeWhile isWordChar
    let after := cur.skip (word.length + 1)
    if after.rest.head? = some '!' then some ('!' :: word ++ ['!'], after.skip 1)
    else some ('!' :: word, after)
  | _ => none

def readTag (inFlow : Bool) (cur : Cursor) : Option (Token × Cursor) := do
  let (token, after) ←
    if cur.rest.take 2 = ['!', '<'] then do
      let cur := cur.skip 2
      let (suffix, n) ← readAddress true cur.rest
      let after := cur.skip n
      if suffix.isEmpty || after.rest.head? ≠ some '>' then none
      else some (Token.tag [] suffix, after.skip 1)
    else do
      let (handle, after) ← readHandle cur
      let (suffix, n) ← readAddress false after.rest
      let after := after.skip n
      if 1 < handle.length && handle.getLast? = some '!' then
        if suffix.isEmpty then none else some (Token.tag handle suffix, after)
      else
        let suffix := handle.drop 1 ++ suffix
        if suffix.isEmpty then some (Token.tag [] ['!'], after)
        else some (Token.tag ['!'] suffix, after)
  if atGap after.rest || (inFlow && after.rest.head? = some ',') then some (token, after) else none

def readVersionNumber (cur : Cursor) : Option (Nat × Cursor) :=
  let digits := cur.rest.takeWhile Text.isDigit
  if digits.isEmpty || 9 < digits.length then none
  else some (Text.valueOf digits, cur.skip digits.length)

def readDirective (cur : Cursor) : Option (Token × Cursor) := do
  let cur := cur.skip 1
  let name := cur.rest.takeWhile isWordChar
  let cur := cur.skip name.length
  if name.isEmpty || !atGap cur.rest then none
  let cur := cur.skipWhile isGap
  let (token, cur) ←
    if name = "YAML".toList then do
      let (major, cur) ← readVersionNumber cur
      if cur.rest.head? ≠ some '.' then none
      let (minor, cur) ← readVersionNumber (cur.skip 1)
      some (Token.version major minor, cur)
    else if name = "TAG".toList then do
      let (handle, cur) ← readHandle cur
      if (handle ≠ ['!'] && handle.getLast? ≠ some '!') || !cur.rest.head?.any isGap then none
      let cur := cur.skipWhile isGap
      let (expansion, n) ← readAddress true cur.rest
      let cur := cur.skip n
      if expansion.isEmpty || !atGap cur.rest then none
      some (Token.tagHandle handle expansion, cur)
    else none
  let cur := cur.skipWhile isGap
  let cur := if cur.rest.head? = some '#' then cur.skipWhile fun c => !isBreak c else cur
  if !atEnd cur.rest then none
  return (token, if cur.rest.isEmpty then cur else cur.nextLine)

/-! ### One token -/

/-- Leave every block and forget the candidate, as documents do at their ends. -/
def endBlocks (s : Scan) : Option Scan := do
  let s ← (s.unwind none).dropCandidate
  return { s with keyAllowed := false }

def openFlow (s : Scan) (t : Token) : Option Scan := do
  let s ← s.noteCandidate
  let s := s.emit t
  return { s with outer := s.candidate :: s.outer, candidate := none, keyAllowed := true,
                  cursor := s.cursor.skip 1 }

def closeFlow (s : Scan) (t : Token) : Option Scan := do
  let s ← s.dropCandidate
  let s := { s.emit t with keyAllowed := false, cursor := s.cursor.skip 1 }
  match s.outer with
  | c :: cs => return { s with candidate := c, outer := cs }
  | [] => return s

def readEntry (s : Scan) : Option Scan := do
  if !s.inFlow && !s.keyAllowed then none
  let s := s.openBlock s.cursor.column s.tokens.length .blockSequence
  let s ← s.dropCandidate
  return { s.emit .blockEntry with keyAllowed := true, cursor := s.cursor.skip 1 }

def readKey (s : Scan) : Option Scan := do
  if !s.inFlow && !s.keyAllowed then none
  let s := s.openBlock s.cursor.column s.tokens.length .blockMapping
  let s ← s.dropCandidate
  return { s.emit .key with keyAllowed := !s.inFlow, cursor := s.cursor.skip 1 }

/-- A colon: what it stands behind was a key. -/
def readValue (s : Scan) : Option Scan := do
  let s ←
    match s.candidate with
    | some c =>
      let s := { s with tokens := s.tokens.insertIdx c.position .key, candidate := none }
      let s := s.openBlock c.column c.position .blockMapping
      some { s with keyAllowed := false }
    | none =>
      if !s.inFlow && !s.keyAllowed then none
      else
        let s := s.openBlock s.cursor.column s.tokens.length .blockMapping
        some { s with keyAllowed := !s.inFlow }
  return { s.emit .value with cursor := s.cursor.skip 1 }

/-- A token that may be a key and is followed by none. -/
def readLeaf (s : Scan) (read : Cursor → Option (Token × Cursor × Bool)) : Option Scan := do
  let s ← s.noteCandidate
  let (t, cur, broken) ← read s.cursor
  return { s.emit t with keyAllowed := broken, cursor := cur }

def quotedToken (single : Bool) (cur : Cursor) : Option (Token × Cursor × Bool) := do
  let r ← readQuoted single (cur.rest.length + 1) (cur.skip 1)
  return (.scalar (if single then .single else .double) r.text, r.cursor, false)

def plainToken (inFlow : Bool) (indent : Nat) (cur : Cursor) : Option (Token × Cursor × Bool) := do
  let r ← readPlain inFlow indent (cur.rest.length + 2) ⟨[], false, cur⟩
  return (.scalar .plain r.text, r.cursor, r.broken)

def readBlockToken (s : Scan) (literal : Bool) : Option Scan := do
  let s ← s.dropCandidate
  let r ← readBlock literal s.column? (s.cursor.skip 1)
  return { s.emit (.scalar (if literal then .literal else .folded) r.text) with
           keyAllowed := true, cursor := r.cursor }

def startsPlain (inFlow : Bool) (c : Char) (r : List Char) : Bool :=
  !(isGap c || isBreak c || "-?:,[]\x7b\x7d#&*!|>'\"%@`".toList.contains c)
    || (c = '-' && !r.head?.any isGap)
    || (!inFlow && (c = '?' || c = ':') && !atGap r)

def readToken (s : Scan) : Option Scan :=
  let cur := s.cursor
  match cur.rest with
  | [] => none
  | c :: r =>
    if cur.column = 0 && c = '%' then do
      let s ← s.endBlocks
      let (t, cur) ← readDirective cur
      return { s.emit t with cursor := cur }
    else if cur.atMarker '-' then do
      return { (← s.endBlocks).emit .documentStart with cursor := cur.skip 3 }
    else if cur.atMarker '.' then do
      return { (← s.endBlocks).emit .documentEnd with cursor := cur.skip 3 }
    else if c = '[' then s.openFlow .flowSequence
    else if c = '\x7b' then s.openFlow .flowMapping
    else if c = ']' then s.closeFlow .flowSequenceEnd
    else if c = '\x7d' then s.closeFlow .flowMappingEnd
    else if c = ',' then do
      let s ← s.dropCandidate
      return { s.emit .flowEntry with keyAllowed := true, cursor := cur.skip 1 }
    else if c = '-' && atGap r then s.readEntry
    else if c = '?' && (s.inFlow || atGap r) then s.readKey
    else if c = ':' && (s.inFlow || atGap r) then s.readValue
    else if c = '*' then
      s.readLeaf fun cur => (readName (cur.skip 1)).map fun n => (.alias n.1, n.2, false)
    else if c = '&' then
      s.readLeaf fun cur => (readName (cur.skip 1)).map fun n => (.anchor n.1, n.2, false)
    else if c = '!' then
      s.readLeaf fun cur => (readTag s.inFlow cur).map fun t => (t.1, t.2, false)
    else if c = '|' && !s.inFlow then s.readBlockToken true
    else if c = '>' && !s.inFlow then s.readBlockToken false
    else if c = '\'' then s.readLeaf (quotedToken true)
    else if c = '"' then s.readLeaf (quotedToken false)
    else if startsPlain s.inFlow c r then
      s.readLeaf (plainToken s.inFlow ((s.column?.map (· + 1)).getD 0))
    else none

def run : Nat → Scan → Option (List Token)
  | 0, _ => none
  | fuel + 1, s =>
    let (keyAllowed, cur) := skipToToken s.inFlow (s.cursor.rest.length + 1) s.keyAllowed s.cursor
    match dropStale { s with keyAllowed, cursor := cur } with
    | none => none
    | some s =>
      if s.cursor.rest.isEmpty then do
        let s ← (s.unwind none).dropCandidate
        return s.tokens ++ [.streamEnd]
      else do run fuel (← (s.unwind (some s.cursor.column)).readToken)

end Scan

def isTextChar (c : Char) : Bool :=
  let n := c.toNat
  c = '\t' || c = '\n' || c = '\r' || (0x20 ≤ n && n ≤ 0x7E) || n = 0x85
    || (0xA0 ≤ n && n ≤ 0xD7FF) || (0xE000 ≤ n && n ≤ 0xFFFD && n ≠ 0xFEFF) || 0x10000 ≤ n

def dropByteOrderMark : List Char → List Char
  | '\ufeff' :: r => r
  | cs => cs

def tokens (cs : List Char) : Option (List Token) :=
  let cs := dropByteOrderMark cs
  if cs.all isTextChar then Scan.run (cs.length + 1) { cursor := { rest := cs } } else none

end GuestPorts.Yaml

/-
  GuestPorts/Process/LineTool.lean
  ================================
  **Tools that look at lines**: they count them, choose among them by a pattern, or show
  those at one of the ends.  Each reads some bytes and says what it prints and whether it
  found something.

  A line is what stands in front of a line feed; bytes behind the last one are a line
  too.
-/
import GuestPorts.Process.Host
import GuestPorts.Text.Basic

namespace GuestPorts.LineTool

def linesOf : List UInt8 → List (List UInt8)
  | [] => []
  | b :: rest =>
    if b = 0x0A then [] :: linesOf rest
    else
      match linesOf rest with
      | [] => [[b]]
      | line :: lines => (b :: line) :: lines

def ofLines (lines : List (List UInt8)) : List UInt8 := lines.flatMap (· ++ [0x0A])

def letters (args : List String) : List Char :=
  args.flatMap fun a =>
    match a.toList with
    | '-' :: cs => cs
    | _ => []

/-! ### Counting -/

def wordCount (bytes : List UInt8) : Nat :=
  let marks := bytes.map fun b => b = 0x20 || (0x09 ≤ b && b ≤ 0x0D)
  ((true :: marks).zip marks).countP fun (before, here) => before && !here

def countOf (options : List Char) (bytes : List UInt8) : Nat :=
  if options.contains 'c' then bytes.length
  else if options.contains 'w' then wordCount bytes
  else bytes.count 0x0A

/-! ### Choosing -/

structure Pattern where
  text : List Char
  atStart : Bool := false
  atEnd : Bool := false

/-- A caret binds to the start of a line, a dollar sign to its end. -/
def Pattern.ofText (cs : List Char) : Pattern :=
  let (atStart, cs) := match cs with
    | '^' :: r => (true, r)
    | _ => (false, cs)
  match cs.getLast? with
  | some '$' => { text := cs.dropLast, atStart, atEnd := true }
  | _ => { text := cs, atStart }

def Pattern.fits (p : Pattern) (line : List Char) : Bool :=
  match p.atStart, p.atEnd with
  | true, true => line = p.text
  | true, false => (Text.afterFront p.text line).isSome
  | false, true => (Text.afterFront p.text.reverse line.reverse).isSome
  | false, false => Text.hasPart p.text line

/-- What is printed about the lines that a pattern chooses, and how the search ends. -/
def choose (options : List Char) (pattern : String) (bytes : List UInt8) : Outcome :=
  let p : Pattern :=
    if options.contains 'F' then { text := pattern.toList } else .ofText pattern.toList
  let chosen := (linesOf bytes).filter fun line =>
    p.fits (Text.decodeLossy line) != options.contains 'v'
  { exit := .code (if chosen.isEmpty then 1 else 0)
    output :=
      if options.contains 'q' then []
      else if options.contains 'c' then Text.encode (Text.decimal chosen.length ++ "\n").toList
      else ofLines chosen }

/-! ### Ends -/

/-- How many lines are wanted; ten if nothing is said. -/
def wanted : List String → Nat
  | [] => 10
  | a :: rest =>
    match a.toList with
    | ['-', 'n'] => ((rest.head?).bind fun n => Text.readDigits n.toList).getD 10
    | '-' :: 'n' :: digits | '-' :: digits =>
      match Text.readDigits digits with
      | some n => n
      | none => wanted rest
    | _ => wanted rest

def withoutWanted : List String → List String
  | [] => []
  | "-n" :: _ :: rest => withoutWanted rest
  | a :: rest => if a.toList.head? = some '-' then withoutWanted rest else a :: withoutWanted rest

def atEnd (isLast : Bool) (n : Nat) (bytes : List UInt8) : List UInt8 :=
  let lines := linesOf bytes
  if isLast then ofLines (lines.drop (lines.length - n)) else ofLines (lines.take n)

end GuestPorts.LineTool

/-
  GuestPorts/Shell/Format.lean
  ============================
  **Escapes and directives** in the texts that a shell prints.

  An escape may stand for a single byte, so what is printed is bytes and need not be
  text.
-/
import GuestPorts.Text.Basic
import GuestPorts.Text.Utf8

namespace GuestPorts.Shell

def isOctal (c : Char) : Bool := '0' ≤ c && c ≤ '7'

/-- The byte of up to three octal digits at the front, and the rest. -/
def readOctal (cs : List Char) : UInt8 × List Char :=
  let digits := (cs.take 3).takeWhile isOctal
  (UInt8.ofNat (digits.foldl (fun n c => 8 * n + Text.digitValue c) 0), cs.drop digits.length)

def controlLetter (c : Char) : Option UInt8 :=
  match c with
  | 'a' => some 7
  | 'b' => some 8
  | 't' => some 9
  | 'n' => some 10
  | 'v' => some 11
  | 'f' => some 12
  | 'r' => some 13
  | '\\' => some 0x5C
  | _ => none

def readEscape : List Char → List UInt8 × List Char
  | [] => ([0x5C], [])
  | c :: r =>
    match controlLetter c with
    | some b => ([b], r)
    | none =>
      if isOctal c then
        let (b, rest) := readOctal (c :: r)
        ([b], rest)
      else (Text.encode ['\\', c], r)

/-- Text with its escapes carried out, as `echo` prints it: octal digits stand behind a
    zero, and `\c` ends the output.  Also whether the output goes on. -/
def unescapeFor : Nat → List Char → List UInt8 × Bool
  | 0, _ => ([], true)
  | _ + 1, [] => ([], true)
  | _ + 1, '\\' :: 'c' :: _ => ([], false)
  | n + 1, '\\' :: '0' :: r =>
    let (b, rest) := readOctal r
    let (bytes, more) := unescapeFor n rest
    (b :: bytes, more)
  | n + 1, '\\' :: c :: r =>
    let (bytes, more) := unescapeFor n r
    match controlLetter c with
    | some b => (b :: bytes, more)
    | none => (Text.encode ['\\', c] ++ bytes, more)
  | n + 1, c :: r =>
    let (bytes, more) := unescapeFor n r
    (Text.encode [c] ++ bytes, more)

def unescape (cs : List Char) : List UInt8 × Bool := unescapeFor (cs.length + 1) cs

/-- One pass over a format: what is printed, and the arguments that are left. -/
def formatFor : Nat → List Char → List String → List UInt8 × List String
  | 0, _, args => ([], args)
  | _ + 1, [], args => ([], args)
  | n + 1, '%' :: '%' :: r, args =>
    let (bytes, args) := formatFor n r args
    (0x25 :: bytes, args)
  | n + 1, '%' :: 's' :: r, args =>
    let (bytes, rest) := formatFor n r args.tail
    (Text.encode (args.headD "").toList ++ bytes, rest)
  | n + 1, '%' :: 'd' :: r, args =>
    let (bytes, rest) := formatFor n r args.tail
    (Text.encode (args.headD "0").toList ++ bytes, rest)
  | n + 1, '\\' :: r, args =>
    let (escaped, rest) := readEscape r
    let (bytes, args) := formatFor n rest args
    (escaped ++ bytes, args)
  | n + 1, c :: r, args =>
    let (bytes, args) := formatFor n r args
    (Text.encode [c] ++ bytes, args)

/-- The format for all arguments: it is used again as long as it takes some. -/
def formatAll (cs : List Char) : Nat → List String → List UInt8
  | 0, _ => []
  | n + 1, args =>
    let (bytes, rest) := formatFor (cs.length + 1) cs args
    if rest.isEmpty || rest.length = args.length then bytes else bytes ++ formatAll cs n rest

def format (cs : List Char) (args : List String) : List UInt8 := formatAll cs (args.length + 1) args

end GuestPorts.Shell

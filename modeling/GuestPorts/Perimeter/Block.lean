/-
  GuestPorts/Perimeter/Block.lean
  ===============================
  **The managed block of a rule file** that belongs to another program.

      *filter                 not ours
      #KVM_GO_START           opening sentinel
      *nat
      -A PREROUTING ...       the block
      COMMIT
      #KVM_GO_END             closing sentinel
      COMMIT                  not ours

  The block lies between the first line that is the opening sentinel and the first
  line behind it that is the closing one.  A text without both has no block.  Every
  edit takes the text apart there (`Block.locate`) and changes the inner lines only.

  The block is switched off by a comment marker before each of its lines.  Its rules are one
  line for each forward of a declaration, saying the same as the first rule of its block of
  commands.
-/
import GuestPorts.Declaration
import GuestPorts.Text.Basic

namespace GuestPorts.Perimeter

/-- A line of text, without its line feed. -/
abbrev Line := List Char

structure Block where
  startMarker : String := "#KVM_GO_START"
  endMarker : String := "#KVM_GO_END"
  commentMarker : String := "#"
  deriving DecidableEq, Repr, Inhabited

/-- The lines of a text with a block: up to the opening sentinel, inside, and from the
    closing sentinel on. -/
structure Located where
  before : List Line
  inside : List Line
  after : List Line
  deriving DecidableEq, Repr

/-- A list in front of its first element with a property, and from it on. -/
def cutBefore {α : Type} (p : α → Bool) : List α → Option (List α × List α)
  | [] => none
  | a :: r => if p a then some ([], a :: r) else (cutBefore p r).map fun q => (a :: q.1, q.2)

def Located.lines (l : Located) : List Line := l.before ++ l.inside ++ l.after

namespace Block

/-- Whether a line is the given sentinel, blanks around it allowed. -/
def isSentinel (marker : String) (line : Line) : Bool := Text.trim line == marker.toList

def locate (b : Block) (lines : List Line) : Option Located :=
  match cutBefore (isSentinel b.startMarker) lines with
  | some (front, opening :: rest) =>
    match cutBefore (isSentinel b.endMarker) rest with
    | some (inside, after) => some ⟨front ++ [opening], inside, after⟩
    | none => none
  | _ => none

/-- Whether a comment marker begins the line, blanks before it allowed. -/
def isLineCommented (b : Block) (line : Line) : Bool :=
  b.commentMarker.toList.isPrefixOf (Text.trimStart line)

def withMarker (b : Block) (line : Line) : Line := b.commentMarker.toList ++ ' ' :: line

/-- A line commented out; blank and commented lines stay. -/
def commentLine (b : Block) (line : Line) : Line :=
  if (Text.trim line).isEmpty || b.isLineCommented line then line else b.withMarker line

def dropSpace : Line → Line
  | ' ' :: r => r
  | line => line

/-- A line without its comment marker and one blank behind it; others stay. -/
def uncommentLine (b : Block) (line : Line) : Line :=
  match Text.afterFront b.commentMarker.toList (Text.trimStart line) with
  | some rest => dropSpace rest
  | none => line

/-- Whether a line is the rule or its commented form, blanks around both ignored. -/
def matchesRule (b : Block) (rule line : Line) : Bool :=
  let line := Text.trim line
  let rule := Text.trim rule
  line == rule || line == b.withMarker rule

def Located.filled (l : Located) : List Line :=
  l.inside.filter fun line => !(Text.trim line).isEmpty

def isInactive (b : Block) (l : Located) : Bool := (Located.filled l).all b.isLineCommented

/-- Whether the block is switched off; a missing or empty one is. -/
def isCommented (b : Block) (text : List Char) : Bool :=
  match b.locate (Text.lines text) with
  | some l => b.isInactive l
  | none => true

/-- Change the inner lines; a text without a block stays. -/
def mapInside (b : Block) (f : List Line → List Line) (text : List Char) : List Char :=
  match b.locate (Text.lines text) with
  | some l => Text.unlines { l with inside := f l.inside }.lines
  | none => text

def setCommented (b : Block) (off : Bool) (text : List Char) : List Char :=
  b.mapInside (List.map (if off then b.commentLine else b.uncommentLine)) text

/-- Add a rule at the end of the block, in the state that the block is in; nothing is
    done if the rule is there.  Without a block there is no result. -/
def addRule (b : Block) (rule : Line) (text : List Char) : Option (List Char) :=
  match b.locate (Text.lines text) with
  | none => none
  | some l =>
    if l.inside.any (b.matchesRule rule) then some text
    else
      let rule := Text.trim rule
      let line := if b.isInactive l then b.withMarker rule else rule
      some (Text.unlines { l with inside := l.inside ++ [line] }.lines)

/-- Delete every line of the block that is the rule or its commented form. -/
def removeRule (b : Block) (rule : Line) (text : List Char) : List Char :=
  b.mapInside (List.filter fun line => !b.matchesRule rule line) text

def filledLines (b : Block) (text : List Char) : List Line :=
  match b.locate (Text.lines text) with
  | some l => Located.filled l
  | none => []

/-- Whether the block is switched on and one of its lines sends traffic to the
    address. -/
def isExposed (b : Block) (ip : Address) (text : List Char) : Bool :=
  !b.isCommented text && (b.filledLines text).any (Text.hasPart (ip.toChars ++ [':']))

end Block

/-! ### Rules -/

inductive Fault where
  | blockNotFound (start stop : String)
  | missingPrivateAddress (vmName : String)
  | io (path reason : String)
  | reload (command reason : String)
  deriving DecidableEq, Repr

def Fault.message : Fault → String
  | .blockNotFound start stop => "No '" ++ start ++ "' ... '" ++ stop ++ "' block found in rule file"
  | .missingPrivateAddress vmName => "VM '" ++ vmName ++ "' has no private address to expose"
  | .io path reason => "Rule file " ++ path ++ ": " ++ reason
  | .reload command reason => "Reload command '" ++ command ++ "' failed: " ++ reason

/-- A note in quotes holds no quote. -/
def unquoted (note : String) : String :=
  String.ofList (note.toList.map fun c => if c = '"' then '\'' else c)

/-- A line that sends the traffic to some host ports to an address of a guest. -/
def ruleLine (protocol : Protocol) (hostPorts : String) (guest : Address)
    (guestPorts note : String) : String :=
  "-A PREROUTING -p " ++ protocol.word ++ " --dport " ++ hostPorts
    ++ " -j DNAT --to-destination " ++ guest.text ++ ":" ++ guestPorts
    ++ " -m comment --comment \"" ++ unquoted note ++ "\""

def note (vmName : String) (f : Forward) : String :=
  "kvmfwd " ++ vmName ++ " host " ++ f.host.asTarget ++ " to vm " ++ f.guest.asTarget

def ruleFor (vmName : String) (guest : Address) (f : Forward) : String :=
  ruleLine f.protocol f.host.asMatch guest f.guest.asTarget (note vmName f)

/-- The lines of a declaration; the guest's own address is needed. -/
def rules (d : Declaration) : Except Fault (List String) :=
  match d.privateIp with
  | some guest => .ok (d.forwards.map (ruleFor d.vmName guest))
  | none => .error (.missingPrivateAddress d.vmName)

end GuestPorts.Perimeter

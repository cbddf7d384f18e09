/-
  GuestPorts/Port/Spec.lean
  =========================
  **Port specifications**: how mappings and ranges are written on a command line.

      protocol:host:guest           tcp:1100:3000
      protocol:hs-he:gs-ge          udp:30000-30100:40000-40100

  The protocol may be left out and is `tcp` then; it is read in any ASCII case.
  Blanks may stand around the whole text, around the protocol and around each port,
  and a port may have a plus sign and leading zeros.  A colon or hyphen too many is
  refused, so no text is both a mapping and a range.
-/
import GuestPorts.Port.Basic
import GuestPorts.Text.Basic
import GuestPorts.Text.Characters

namespace GuestPorts

inductive SpecError where
  | unknownProtocol (lowered : String)
  | notMapping (spec : String)
  | notRange (spec : String)
  | notBounds (part spec : String)
  | badPort (raw spec : String)
  deriving DecidableEq, Repr

def SpecError.message (e : SpecError) : String :=
  "Invalid port specification: " ++
    match e with
    | .unknownProtocol lowered => "unknown protocol '" ++ lowered ++ "', expected tcp or udp"
    | .notMapping spec => "'" ++ spec ++ "' is not of the form proto:host_port:vm_port"
    | .notRange spec =>
      "'" ++ spec ++ "' is not of the form proto:host_start-host_end:vm_start-vm_end"
    | .notBounds part spec => "'" ++ part ++ "' in '" ++ spec ++ "' is not a start-end range"
    | .badPort raw spec => "invalid port '" ++ raw ++ "' in '" ++ spec ++ "'"

/-- A protocol by its name, in any ASCII case, blanks around it allowed. -/
def Protocol.ofChars (cs : List Char) : Except SpecError Protocol :=
  let lowered := (Text.trim cs).map Text.asciiLower
  if lowered = ['t', 'c', 'p'] then .ok .tcp
  else if lowered = ['u', 'd', 'p'] then .ok .udp
  else .error (.unknownProtocol (String.ofList lowered))

def Protocol.parse (s : String) : Except SpecError Protocol := Protocol.ofChars s.toList

def unsigned : List Char → List Char
  | '+' :: r => r
  | cs => cs

/-- A port number: an optional plus sign and one or more digits. -/
def Port.ofChars? (cs : List Char) : Option Port :=
  match Text.readDigits (unsigned cs) with
  | some n => if n < 65536 then some (UInt16.ofNat n) else none
  | none => none

def readPort (spec : String) (raw : List Char) : Except SpecError Port :=
  match Port.ofChars? (Text.trim raw) with
  | some p => .ok p
  | none => .error (.badPort (String.ofList raw) spec)

/-- Protocol, host part and guest part of a specification, `tcp` if only two parts
    stand there. -/
def specParts (malformed : SpecError) (spec : String) :
    Except SpecError (Protocol × List Char × List Char) :=
  match Text.splitAt ':' (Text.trim spec.toList) with
  | [proto, host, vm] => do return (← Protocol.ofChars proto, host, vm)
  | [host, vm] => .ok (.tcp, host, vm)
  | _ => .error malformed

/-- Read `protocol:host:guest`. -/
def Mapping.parse (spec : String) : Except SpecError Mapping := do
  let (protocol, host, vm) ← specParts (.notMapping spec) spec
  return { hostPort := ← readPort spec host, vmPort := ← readPort spec vm, protocol }

def readBounds (spec : String) (part : List Char) : Except SpecError (Port × Port) :=
  match Text.cutAt '-' part with
  | some (start, stop) => do return (← readPort spec start, ← readPort spec stop)
  | none => .error (.notBounds (String.ofList part) spec)

/-- Read `protocol:hs-he:gs-ge`. -/
def PortRange.parse (spec : String) : Except SpecError PortRange := do
  let (protocol, host, vm) ← specParts (.notRange spec) spec
  let (hostStart, hostEnd) ← readBounds spec host
  let (vmStart, vmEnd) ← readBounds spec vm
  return { vmStart, vmEnd, hostStart, hostEnd, protocol }

end GuestPorts

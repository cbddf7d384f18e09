/-
  GuestPorts/Registry/Json.lean
  =============================
  **Declarations and registries as JSON.**

  Writing gives every field its canonical form, in one order, and leaves out what is
  unset.  Reading is more lenient, because older registries exist: an unset field may
  be missing, `null`, empty or blank; a list may be missing or `null`; the guest's
  name may be called `domain`; a bound that is missing is zero; and texts may have
  blanks around them.
-/
import GuestPorts.Registry.Basic
import GuestPorts.Json.Decode
import GuestPorts.Json.Reader
import GuestPorts.Time.Basic
import GuestPorts.Time.Reader

namespace GuestPorts

open GuestPorts.Json

/-! ### Writing -/

def Json.Doc.ofString (s : String) : Doc := .string s.toList

def portDoc (p : Port) : Doc := .number (.ofNat p.toNat)

def objectDoc (members : List (String × Doc)) : Doc :=
  .object (.ofList (members.map fun m => (m.1.toList, m.2)))

def listDoc (elements : List Doc) : Doc := .array (.ofList elements)

def Mapping.toDoc (m : Mapping) : Doc :=
  objectDoc [("host_port", portDoc m.hostPort), ("vm_port", portDoc m.vmPort),
    ("protocol", .ofString m.protocol.word)]

def PortRange.toDoc (r : PortRange) : Doc :=
  objectDoc [("vm_start_port", portDoc r.vmStart), ("vm_end_port", portDoc r.vmEnd),
    ("host_start_port", portDoc r.hostStart), ("host_end_port", portDoc r.hostEnd),
    ("protocol", .ofString r.protocol.word)]

def setMember (name : String) (value : Option String) : List (String × Doc) :=
  match value with
  | some s => [(name, .ofString s)]
  | none => []

/-- A declaration as a JSON object; what is not set is left out. -/
def Declaration.toDoc (d : Declaration) : Doc :=
  objectDoc <|
    [("vm_name", .ofString d.vmName), ("port_map", listDoc (d.portMap.map Mapping.toDoc)),
      ("port_range", listDoc (d.portRanges.map PortRange.toDoc))]
    ++ setMember "host_ip" (d.hostIp.map Address.text)
    ++ setMember "private_ip" (d.privateIp.map Address.text)
    ++ setMember "external_ip" (d.externalIp.map Address.text)
    ++ setMember "interface" d.interface
    ++ setMember "last_updated" (d.lastUpdated.map Moment.text)

def Registry.toDoc (r : Registry) : Doc :=
  objectDoc <|
    ("configs", listDoc (r.entries.map Declaration.toDoc))
      :: setMember "last_updated" (r.lastUpdated.map Moment.text)

/-! ### Fields -/

/-- A protocol: its word alone, or an object of its word and `null`. -/
def protocolOf : Doc → Decoded Protocol
  | .string cs => named cs
  | .object (.cons name value tail) => do
    let p ← named name
    unit value
    match tail with
    | .closed => return p
    | _ => throw .malformed
  | .object (.nameless d) => wrongType "variant identifier" d
  | _ => .error .malformed
where
  named (cs : List Char) : Decoded Protocol :=
    if cs = "tcp".toList then .ok .tcp
    else if cs = "udp".toList then .ok .udp
    else refuse (.unknownVariant (String.ofList cs) "`tcp` or `udp`")
  unit : Doc → Decoded Unit
    | .null => .ok ()
    | d => wrongType "unit" d

/-- A text that may be unset: missing, `null` or blank. -/
def unsetOr {α : Type} (parse : List Char → Except String α) (d : Doc) : Decoded (Option α) := do
  match ← optionOf stringOf d with
  | none => return none
  | some cs =>
    match Text.trim cs with
    | [] => return none
    | c :: r =>
      match parse (c :: r) with
      | .ok a => return some a
      | .error reason => refuse (.badText reason)

def addressField : Doc → Decoded (Option Address) :=
  unsetOr fun cs =>
    match Address.ofChars? cs with
    | some ip => .ok ip
    | none => .error Address.syntaxFault

def momentField : Doc → Decoded (Option Moment) :=
  unsetOr fun cs => (Moment.ofChars cs).mapError TimeError.message

def textField : Doc → Decoded (Option String) := unsetOr fun cs => .ok (String.ofList cs)

/-! ### Mappings -/

structure MappingSlots where
  hostPort : Option Port := none
  vmPort : Option Port := none
  protocol : Option Protocol := none

def MappingSlots.accept (s : MappingSlots) : String → Option (Doc → Decoded MappingSlots)
  | "host_port" => some fun d => do
    return { s with hostPort := ← fill s.hostPort "host_port" wordOf d }
  | "vm_port" => some fun d => do
    return { s with vmPort := ← fill s.vmPort "vm_port" wordOf d }
  | "protocol" => some fun d => do
    return { s with protocol := ← fill s.protocol "protocol" protocolOf d }
  | _ => none

def MappingSlots.finish (s : MappingSlots) : Decoded Mapping := do
  return { hostPort := ← needed s.hostPort "host_port", vmPort := ← needed s.vmPort "vm_port",
           protocol := ← needed s.protocol "protocol" }

def Mapping.ofItems (items : Items) : Decoded Mapping := do
  let expected := "struct PortMapping with 3 elements"
  let (hostPort, items) ← neededItem wordOf 0 expected items
  let (vmPort, items) ← neededItem wordOf 1 expected items
  let (protocol, items) ← neededItem protocolOf 2 expected items
  endOfItems items
  return { hostPort, vmPort, protocol }

/-- A mapping from an object, or from an array of its fields. -/
def Mapping.ofDoc : Doc → Decoded Mapping
  | .object members => do (← foldMembers MappingSlots.accept {} members).finish
  | .array items => Mapping.ofItems items
  | d => wrongType "struct PortMapping" d

/-! ### Ranges -/

structure RangeSlots where
  vmStart : Option Port := none
  vmEnd : Option Port := none
  hostStart : Option Port := none
  hostEnd : Option Port := none
  protocol : Option Protocol := none

def RangeSlots.accept (s : RangeSlots) : String → Option (Doc → Decoded RangeSlots)
  | "vm_start_port" => some fun d => do
    return { s with vmStart := ← fill s.vmStart "vm_start_port" wordOf d }
  | "vm_end_port" => some fun d => do
    return { s with vmEnd := ← fill s.vmEnd "vm_end_port" wordOf d }
  | "host_start_port" => some fun d => do
    return { s with hostStart := ← fill s.hostStart "host_start_port" wordOf d }
  | "host_end_port" => some fun d => do
    return { s with hostEnd := ← fill s.hostEnd "host_end_port" wordOf d }
  | "protocol" => some fun d => do
    return { s with protocol := ← fill s.protocol "protocol" protocolOf d }
  | _ => none

/-- A bound that is missing is zero. -/
def RangeSlots.finish (s : RangeSlots) : Decoded PortRange := do
  return { vmStart := s.vmStart.getD 0, vmEnd := s.vmEnd.getD 0
           hostStart := s.hostStart.getD 0, hostEnd := s.hostEnd.getD 0
           protocol := ← needed s.protocol "protocol" }

def PortRange.ofItems (items : Items) : Decoded PortRange := do
  let (vmStart, items) ← nextItem wordOf items
  let (vmEnd, items) ← nextItem wordOf items
  let (hostStart, items) ← nextItem wordOf items
  let (hostEnd, items) ← nextItem wordOf items
  let (protocol, items) ← neededItem protocolOf 4 "struct PortRange with 5 elements" items
  endOfItems items
  RangeSlots.finish { vmStart, vmEnd, hostStart, hostEnd, protocol }

def PortRange.ofDoc : Doc → Decoded PortRange
  | .object members => do (← foldMembers RangeSlots.accept {} members).finish
  | .array items => PortRange.ofItems items
  | d => wrongType "struct PortRange" d

/-! ### Declarations -/

structure DeclarationSlots where
  vmName : Option String := none
  portMap : Option (List Mapping) := none
  portRanges : Option (List PortRange) := none
  hostIp : Option (Option Address) := none
  privateIp : Option (Option Address) := none
  externalIp : Option (Option Address) := none
  interface : Option (Option String) := none
  lastUpdated : Option (Option Moment) := none

def nameOf (d : Doc) : Decoded String := do return String.ofList (← stringOf d)

def mappingsOf : Doc → Decoded (List Mapping) := listOrNull Mapping.ofDoc

def rangesOf : Doc → Decoded (List PortRange) := listOrNull PortRange.ofDoc

def DeclarationSlots.accept (s : DeclarationSlots) :
    String → Option (Doc → Decoded DeclarationSlots)
  | "vm_name" | "domain" => some fun d => do
    return { s with vmName := ← fill s.vmName "vm_name" nameOf d }
  | "port_map" => some fun d => do
    return { s with portMap := ← fill s.portMap "port_map" mappingsOf d }
  | "port_range" => some fun d => do
    return { s with portRanges := ← fill s.portRanges "port_range" rangesOf d }
  | "host_ip" => some fun d => do
    return { s with hostIp := ← fill s.hostIp "host_ip" addressField d }
  | "private_ip" => some fun d => do
    return { s with privateIp := ← fill s.privateIp "private_ip" addressField d }
  | "external_ip" => some fun d => do
    return { s with externalIp := ← fill s.externalIp "external_ip" addressField d }
  | "interface" => some fun d => do
    return { s with interface := ← fill s.interface "interface" textField d }
  | "last_updated" => some fun d => do
    return { s with lastUpdated := ← fill s.lastUpdated "last_updated" momentField d }
  | _ => none

def DeclarationSlots.finish (s : DeclarationSlots) : Decoded Declaration := do
  return { vmName := ← needed s.vmName "vm_name"
           portMap := s.portMap.getD [], portRanges := s.portRanges.getD []
           hostIp := s.hostIp.join, privateIp := s.privateIp.join
           externalIp := s.externalIp.join, interface := s.interface.join
           lastUpdated := s.lastUpdated.join }

def Declaration.ofItems (items : Items) : Decoded Declaration := do
  let (vmName, items) ← neededItem nameOf 0 "struct ForwardingConfig with 8 elements" items
  let (portMap, items) ← nextItem mappingsOf items
  let (portRanges, items) ← nextItem rangesOf items
  let (hostIp, items) ← nextItem addressField items
  let (privateIp, items) ← nextItem addressField items
  let (externalIp, items) ← nextItem addressField items
  let (interface, items) ← nextItem textField items
  let (lastUpdated, items) ← nextItem momentField items
  endOfItems items
  DeclarationSlots.finish
    { vmName := some vmName, portMap, portRanges, hostIp, privateIp, externalIp, interface,
      lastUpdated }

def Declaration.ofDoc : Doc → Decoded Declaration
  | .object members => do (← foldMembers DeclarationSlots.accept {} members).finish
  | .array items => Declaration.ofItems items
  | d => wrongType "struct ForwardingConfig" d

/-! ### Registries -/

structure RegistrySlots where
  entries : Option (List Declaration) := none
  lastUpdated : Option (Option Moment) := none

def entriesOf : Doc → Decoded (List Declaration) := listOrNull Declaration.ofDoc

def RegistrySlots.accept (s : RegistrySlots) : String → Option (Doc → Decoded RegistrySlots)
  | "configs" => some fun d => do
    return { s with entries := ← fill s.entries "configs" entriesOf d }
  | "last_updated" => some fun d => do
    return { s with lastUpdated := ← fill s.lastUpdated "last_updated" momentField d }
  | _ => none

def RegistrySlots.finish (s : RegistrySlots) : Registry :=
  { entries := s.entries.getD [], lastUpdated := s.lastUpdated.join }

def Registry.ofItems (items : Items) : Decoded Registry := do
  let (entries, items) ← nextItem entriesOf items
  let (lastUpdated, items) ← nextItem momentField items
  endOfItems items
  return RegistrySlots.finish { entries, lastUpdated }

def Registry.ofDoc : Doc → Decoded Registry
  | .object members => do return (← foldMembers RegistrySlots.accept {} members).finish
  | .array items => Registry.ofItems items
  | d => wrongType "struct ForwardingConfigs" d

/-! ### Texts -/

/-- The value of a text that holds one document and nothing behind it. -/
def Json.decodeText {α : Type} (decode : Doc → Decoded α) (s : String) : Decoded α := do
  let (d, clean) := Json.read s.toList
  let a ← decode d
  if clean then return a else throw .malformed

def Registry.text (r : Registry) : String := r.toDoc.text

def Registry.parse (s : String) : Decoded Registry := Json.decodeText Registry.ofDoc s

def Declaration.parse (s : String) : Decoded Declaration := Json.decodeText Declaration.ofDoc s

end GuestPorts

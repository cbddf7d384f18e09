/-
  GuestPorts/Port/Basic.lean
  ==========================
  **Forwarded ports.**  A mapping forwards one host port to one guest port; a range
  forwards consecutive host ports to consecutive guest ports.  A range with a zero
  bound or with a start behind its end is *defective*: it may be kept and shown, but
  no rule is made from it.
-/
import GuestPorts.Text.Basic

namespace GuestPorts

inductive Protocol where
  | tcp
  | udp
  deriving DecidableEq, Repr, Inhabited

def Protocol.word : Protocol → String
  | .tcp => "tcp"
  | .udp => "udp"

abbrev Port := UInt16

def portText (p : Port) : String := Text.decimal p.toNat

structure Mapping where
  hostPort : Port
  vmPort : Port
  protocol : Protocol
  deriving DecidableEq, Repr, Inhabited

def Mapping.render (m : Mapping) : String :=
  m.protocol.word ++ " " ++ portText m.hostPort ++ "->" ++ portText m.vmPort

inductive RangeDefect where
  | zeroBound
  | reversed
  deriving DecidableEq, Repr

def RangeDefect.message : RangeDefect → String
  | .zeroBound => "all four port bounds must be non-zero"
  | .reversed => "range start exceeds range end"

structure PortRange where
  vmStart : Port
  vmEnd : Port
  hostStart : Port
  hostEnd : Port
  protocol : Protocol
  deriving DecidableEq, Repr, Inhabited

namespace PortRange

/-- What is wrong with the range, a zero bound before a reversed side. -/
def defect (r : PortRange) : Option RangeDefect :=
  if r.vmStart = 0 || r.vmEnd = 0 || r.hostStart = 0 || r.hostEnd = 0 then some .zeroBound
  else if r.vmStart > r.vmEnd || r.hostStart > r.hostEnd then some .reversed
  else none

def isUsable (r : PortRange) : Bool := r.defect.isNone

def render (r : PortRange) : String :=
  r.protocol.word ++ " " ++ portText r.hostStart ++ "-" ++ portText r.hostEnd
    ++ "->" ++ portText r.vmStart ++ "-" ++ portText r.vmEnd

/-- A range is usable when no bound of it is zero and neither side runs backwards. -/
theorem isUsable_iff (r : PortRange) :
    r.isUsable = true ↔
      (r.vmStart ≠ 0 ∧ r.vmEnd ≠ 0 ∧ r.hostStart ≠ 0 ∧ r.hostEnd ≠ 0)
        ∧ r.vmStart ≤ r.vmEnd ∧ r.hostStart ≤ r.hostEnd := by
  unfold isUsable defect
  split
  · next h => simp at h; simp; grind
  · next h =>
    simp at h
    split
    · next h' => simp at h'; simp; grind
    · next h' => simp at h'; simp; grind

end PortRange

end GuestPorts

import InterruptCore.Pic.Driver

/-! The pair of 8259 chips themselves: what each makes of the bytes that it is sent. A chip
that is being initialised takes three bytes on its data port; at any other time a byte there
is its mask. -/
namespace InterruptCore.Pic

/-- What a chip takes the next byte on its data port for. -/
inductive Expected where
  | mask
  | vectorBase
  | cascade
  | mode
  deriving DecidableEq, Repr

structure Chip where
  mask : UInt8 := 0
  vectorBase : UInt8 := 0
  cascade : UInt8 := 0
  mode : UInt8 := 0
  expected : Expected := .mask
  deriving DecidableEq, Repr, Inhabited

namespace Chip

/-- A command with bit 4 set starts the initialisation; no other touches these registers. -/
def command (c : Chip) (v : UInt8) : Chip :=
  if v.toNat.testBit 4 then { c with mask := 0, expected := .vectorBase } else c

def data (c : Chip) (v : UInt8) : Chip :=
  match c.expected with
  | .mask => { c with mask := v }
  | .vectorBase => { c with vectorBase := v, expected := .cascade }
  | .cascade => { c with cascade := v, expected := .mode }
  | .mode => { c with mode := v, expected := .mask }

end Chip

structure Chips where
  master : Chip := {}
  slave : Chip := {}
  deriving DecidableEq, Repr, Inhabited

namespace Chips

def write (cs : Chips) (p : Port) (v : UInt8) : Chips :=
  if p = Port.pic1Command then { cs with master := cs.master.command v }
  else if p = Port.pic1Data then { cs with master := cs.master.data v }
  else if p = Port.pic2Command then { cs with slave := cs.slave.command v }
  else if p = Port.pic2Data then { cs with slave := cs.slave.data v }
  else cs

/-- The data ports give the masks. -/
def read (cs : Chips) (p : Port) : Option UInt8 :=
  if p = Port.pic1Data then some cs.master.mask
  else if p = Port.pic2Data then some cs.slave.mask
  else none

def masks (cs : Chips) : Masks := ⟨cs.master.mask, cs.slave.mask⟩

def transfer (cs : Chips) : Transfer → Chips
  | .write p v => cs.write p v
  | .read _ | .delay => cs

def after (cs : Chips) (ts : List Transfer) : Chips := ts.foldl transfer cs

@[simp] theorem after_append (cs : Chips) (ts us : List Transfer) :
    cs.after (ts ++ us) = (cs.after ts).after us := List.foldl_append

def Settled (cs : Chips) : Prop := cs.master.expected = .mask ∧ cs.slave.expected = .mask

end Chips

end InterruptCore.Pic

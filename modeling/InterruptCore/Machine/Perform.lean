import InterruptCore.Machine.State

/-! What the machine does on a request that needs no trap. -/
namespace InterruptCore.Machine

def lineControl : Port := ⟨0x3fb⟩

/-- Whether the data port of the serial port holds its divisor instead of data. -/
def divisorAccess (l : Latches) : Bool := (l.read lineControl).toNat.testBit 7

/-- A byte to the data port of the serial port is sent. -/
def outEvent (l : Latches) (p : Port) (v : UInt8) : Event :=
  if p = Port.com1 && !divisorAccess l then .character v else .out p v

def writePort (m : Machine) (p : Port) (v : UInt8) : Machine :=
  { m with
    latches := m.latches.write p v
    past := outEvent m.latches p v :: m.past
    progress := { m.progress with outs := m.progress.outs + 1 } }

/-- A port gives what was last written to it, apart from the line status. -/
def readPort (m : Machine) (p : Port) : UInt8 × Machine :=
  if p = lineStatus then
    match m.busyReads with
    | [] => (transmitterEmpty, m)
    | 0 :: rest => (transmitterEmpty, { m with busyReads := rest })
    | (n + 1) :: rest => (0, { m with busyReads := n :: rest })
  else
    let v := m.latches.read p
    (v, m.record (.input p v))

/-- The port has none of the bits. -/
def lacks (m : Machine) (w : Poll) : Bool := (m.readPort w.port).1 &&& w.mask = 0

/-- Reads the port until it has one of the bits; at most `n` times it has none. -/
def readUntil (w : Poll) : Nat → Machine → Machine
  | 0, m => (m.readPort w.port).2
  | n + 1, m =>
    if m.lacks w then readUntil w n (m.readPort w.port).2 else (m.readPort w.port).2

def controlRegister (m : Machine) : ControlRegister → UInt64
  | .cr0 => m.cr0
  | .cr2 => m.cr2
  | .cr3 => m.cr3
  | .cr4 => m.cr4

def mapLocks (m : Machine) (f : Kernel.Locks → Kernel.Locks) : Machine :=
  { m with kernel := { m.kernel with locks := f m.kernel.locks } }

/-- Words of eight bytes that a table limit covers. -/
def tableWords (limit : UInt16) : Nat := (limit.toNat + 1) / 8

/-- Carries out one request. A wait that only a trap could end is a stop. -/
def perform : (r : Request) → Machine → Outcome r.Answer
  | .out p v, m => .answered () (m.writePort p v)
  | .input p, m => let (v, m) := m.readPort p; .answered v m
  | .poll w, m => .answered () (readUntil w (m.busyReads.headD 0) m)
  | .interruptFlag, m => .answered m.flag m
  | .clearFlag, m => .answered () { m with flag := false }
  | .setFlag, m => .answered () { m with flag := true }
  | .halt, m => .stopped m.waitingStop m
  | .haltWhile waiting, m =>
    if waiting m.kernel then .stopped m.waitingStop m else .answered () m
  | .haltForever, m => .stopped m.waitingStop m
  | .control r, m => .answered (m.controlRegister r) m
  | .stackPointer, m => .answered m.rsp m
  | .loadSegmentTable p, m =>
    .answered () ({ m with gdtr := some p }.record
      (.segmentTable p.limit (m.kernel.segments.take (tableWords p.limit))))
  | .loadGateTable p, m =>
    .answered () ({ m with idtr := some p }.record (.gateTable p.limit m.kernel.gates))
  | .loadSegment r s, m => .answered () (m.record (.segment r s))
  | .memory change, m => .answered m.kernel { m with kernel := change m.kernel }
  | .acquire l, m =>
    if m.kernel.locks.free l then .answered () (m.mapLocks (·.take l))
    else .stopped (.blocked l) m
  | .tryAcquire l, m =>
    if m.kernel.locks.free l then .answered true (m.mapLocks (·.take l))
    else .answered false m
  | .release l, m => .answered () (m.mapLocks (·.drop l))
  | .note n, m => .answered () (m.record (.note n))
  | .capture b s, m => .answered () (m.record (.captured b s))

def tick (m : Machine) : Machine :=
  { m with progress := { m.progress with requests := m.progress.requests + 1 } }

end InterruptCore.Machine

import InterruptCore.Machine.Program
import InterruptCore.Text.Utf8

/-! The serial console, which is also the sink of the log. Its lock keeps interrupts off
while it is held, so that a handler that prints cannot break into a line. Paths that may
have interrupted the holder do not wait for the lock: they go past it. -/
namespace InterruptCore.Kernel

open Machine Program Text

namespace Console

def register (distance : UInt16) : Port := ⟨Port.com1.number + distance⟩

/-- Bytes that set up the port: 115200 baud, eight bits, no parity, one stop bit. -/
def setup : List (Port × UInt8) :=
  [(register 1, 0x00), (register 3, 0x80), (register 0, 0x01), (register 1, 0x00),
    (register 3, 0x03), (register 2, 0xc7), (register 4, 0x0b)]

def transmitter : Poll := ⟨register 5, 0x20, by decide⟩

def sendByte (b : UInt8) : Program Unit := do
  request (.poll transmitter)
  out (register 0) b

/-- A carriage return goes before each line feed. -/
def wire (s : String) : List UInt8 :=
  (utf8 s).flatMap fun b => if b = 10 then [13, b] else [b]

def send (s : String) : Program Unit := (wire s).forM sendByte

def sendAll (pieces : List String) : Program Unit := pieces.forM send

def restoreFlag (found : Bool) : Program Unit := if found then setFlag else pure ()

def locked (body : Program Unit) : Program Unit := do
  let found ← interruptFlag
  clearFlag
  acquire .serial
  body
  release .serial
  restoreFlag found

/-- Holds the port while the body runs if it is free; otherwise runs the body all the same. -/
def unblocked (body : Program Unit) : Program Unit := do
  let found ← interruptFlag
  clearFlag
  if ← tryAcquire .serial then
    body
    release .serial
    restoreFlag found
  else
    restoreFlag found
    body

def writeLine (s : String) : Program Unit := locked (sendAll [s, "\n"])

def print (pieces : List String) : Program Unit := locked (sendAll pieces)

/-- For panics and faults, which may have interrupted the holder of the port. -/
def emergency (pieces : List String) : Program Unit := unblocked (sendAll pieces)

def report (pieces : List String) : Program Unit := pieces.forM fun p => emergency [p]

end Console

def Sink.write : Sink → String → Program Unit
  | .serial, s => Console.emergency [s]
  | .buffer n, s => request (.capture n s)

def writeLog (line : Log.Line) : Program Unit := do
  match (← memory).log.writes line with
  | some (sink, pieces) => pieces.forM sink.write
  | none => return ()

/-- Sets up the port and makes it the sink of the log. Only the first call does anything. -/
def Console.init : Program Unit := do
  let before ← exchange fun k => { k with serialReady := k.serialReady.mark }
  if before.serialReady.isSet then return ()
  locked (setup.forM fun w => out w.1 w.2)
  change fun k => { k with log := k.log.attach .serial }

end InterruptCore.Kernel

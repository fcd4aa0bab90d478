import InterruptCore.Context

/-! The two ways a trap can go: exceptions are reported and stop the CPU, everything else
is an interrupt and the interrupted code resumes. -/
namespace InterruptCore.Trap

inductive Route where
  | fault
  | irq
  deriving DecidableEq, Repr

def Route.name : Route → String
  | fault => "Fault"
  | irq => "Irq"

def route (vector : UInt8) : Route :=
  if vector.toNat < exceptionVectors then .fault else .irq

inductive Disposition where
  | resume
  | halt
  deriving DecidableEq, Repr

def Disposition.name : Disposition → String
  | resume => "Resume"
  | halt => "Halt"

/-- Where traps are delivered to. -/
structure Targets (m : Type → Type) where
  fault : Context → m Unit
  irq : Context → m Unit

/-- The disposition depends on the vector alone, whatever the target does. -/
def dispatch {m : Type → Type} [Monad m] (targets : Targets m) (c : Context) :
    m Disposition := do
  match route c.vector with
  | .fault =>
    targets.fault c
    return .halt
  | .irq =>
    targets.irq c
    return .resume

end InterruptCore.Trap

/-! Flags that are set once and stay set. Entering one tells whether it was this entry that
set it. -/
namespace InterruptCore

structure OnceFlag where
  isSet : Bool := false
  deriving DecidableEq, Repr, Inhabited

namespace OnceFlag

/-- Sets the flag; true if it was not set before. -/
def enter (f : OnceFlag) : OnceFlag × Bool := (⟨true⟩, !f.isSet)

def mark (_ : OnceFlag) : OnceFlag := ⟨true⟩

end OnceFlag

end InterruptCore

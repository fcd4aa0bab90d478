import InterruptCore.Context
import InterruptCore.Log
import InterruptCore.Text.Digits

/-! Devices, by what they are known by. What a handler does is up to the drivers; those of an
observed system only leave a note of having run, or a line in the log. -/
namespace InterruptCore

inductive Device where
  /-- Notes its name and the context. -/
  | recorder (name : String)
  | logger (name : String)
  | plain
  deriving DecidableEq, Repr

inductive Note where
  | handled (name : String) (context : Context)
  | called (vectorWord : UInt64)
  deriving DecidableEq, Repr

def Device.logLine (name : String) (c : Context) : Log.Line :=
  Log.info ["handler ", name, " vector ", Text.decimal c.vectorWord.toNat]

end InterruptCore

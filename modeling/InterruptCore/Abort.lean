/-! Reasons for which a computation is given up at once instead of giving a result.
They are mistakes of the caller, not conditions a caller is expected to handle. -/
namespace InterruptCore

inductive Abort where
  | additionOverflow
  | shiftOverflow
  /-- A descriptor that is part of a fixed table has no encoding. -/
  | fixedDescriptor
  deriving DecidableEq, Repr

def Abort.message : Abort → String
  | additionOverflow => "attempt to add with overflow"
  | shiftOverflow => "attempt to shift left with overflow"
  | fixedDescriptor => "static segment descriptor does not encode"

end InterruptCore

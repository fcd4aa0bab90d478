import InterruptCore.Pic.Driver

/-! A bus that remembers the last value written to each port and gives it back on a read. -/
namespace InterruptCore.Pic

inductive Transferred where
  | wrote (port : Port) (value : UInt8)
  | readBack (port : Port) (value : UInt8)
  | paused
  deriving DecidableEq, Repr

def transfer (l : Latches) : Transfer → Latches × Transferred
  | .write p v => (l.write p v, .wrote p v)
  | .read p => (l, .readBack p (l.read p))
  | .delay => (l, .paused)

def transferAll : Latches → List Transfer → Latches × List Transferred
  | l, [] => (l, [])
  | l, t :: rest =>
    let (l, done) := transfer l t
    let (l, more) := transferAll l rest
    (l, done :: more)

def valuesRead (ts : List Transferred) : List UInt8 :=
  ts.filterMap fun
    | .readBack _ v => some v
    | _ => none

end InterruptCore.Pic

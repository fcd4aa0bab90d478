import InterruptCore.Machine.State
import InterruptCore.Text.Utf8
import InterruptCore.Trap.Adapter

/-! Events as an observer sees them: consecutive bytes of the serial port as one text, and
what reached a log buffer apart from the rest. -/
namespace InterruptCore.Machine

inductive Observation where
  | serial (bytes : List UInt8)
  | event (e : Event)
  deriving Repr

def observe (e : Event) (later : List Observation) : List Observation :=
  match e, later with
  | .captured _ _, _ => later
  | .character b, .serial bytes :: rest => .serial (b :: bytes) :: rest
  | .character b, _ => .serial [b] :: later
  | _, _ => .event e :: later

def observations (es : List Event) : List Observation := es.foldr observe []

def serialText (bytes : List UInt8) : String := String.ofList (Text.fromUtf8 bytes)

/-- All that reached log buffers. -/
def capturedText (es : List Event) : String :=
  String.join (es.filterMap fun
    | .captured _ s => some s
    | _ => none)

def capturedAny (es : List Event) : Bool :=
  es.any fun
    | .captured _ _ => true
    | _ => false

def ownAdapter (vector : Nat) : Option UInt64 :=
  if vector < supportedVectors then some (Trap.Adapter.address vector) else none

def gateRuns (table : GateTable) : List GateTable.Run := table.runs ownAdapter

end InterruptCore.Machine

import InterruptCore.Context.Dump

/-! Reports of CPU exceptions. Each is fatal: the first one seen is reported in full and
halts the handler for good; a later one only gets a line. -/
namespace InterruptCore.Fault

open Text

inductive State where
  | running
  | halted
  deriving DecidableEq, Repr, Inhabited

def State.name : State → String
  | running => "Running"
  | halted => "Halted"

structure Handler where
  state : State := .running
  /-- Vector of the exception that halted the handler. -/
  vector : Option UInt8 := none
  deriving DecidableEq, Repr, Inhabited

/-- What the error word says, where it says something; the faulting address belongs to
page faults alone. -/
def detail (c : Context) (cr2 : UInt64) : List String :=
  match Exception.ErrorDetail.of c.vector c.errorCode with
  | .none => []
  | .selector e =>
    ["Selector: external=", if e.external then "1" else "0", " table=", decimal e.table.toNat,
      " (", e.tableKind.name, ") index=", decimal e.index.toNat, "\n"]
  | .pageFault bits =>
    ["Faulting address: 0x"] ++ Context.wide cr2 ++ ["\n"]
      ++ ["Access: "] ++ Exception.pageFaultNames.pieces bits.toNat ++ ["\n"]

def report (c : Context) (cr2 : UInt64) : List String :=
  ["\n=== CPU EXCEPTION ===\n"]
    ++ ["EXCEPTION: Vector ", decimal c.vector.toNat, " (", Exception.name c.vector, ")\n"]
    ++ ["Error code: 0x", hex c.errorCode.toNat, "\n"]
    ++ detail c cr2 ++ c.dump ++ ["System halted.\n"]

def notice (c : Context) : List String :=
  ["EXCEPTION: vector ", decimal c.vectorWord.toNat, " (", Exception.name c.vector,
    ") after halt\n"]

namespace Handler

def output (h : Handler) (c : Context) (cr2 : UInt64) : List String :=
  match h.state with
  | .running => report c cr2
  | .halted => notice c

/-- The handler halts whatever becomes of the output. -/
def next (h : Handler) (c : Context) : Handler :=
  match h.state with
  | .running => ⟨.halted, some c.vector⟩
  | .halted => h

theorem state_next (h : Handler) (c : Context) : (h.next c).state = .halted := by
  unfold next
  cases hs : h.state with
  | running => rfl
  | halted => exact hs

/-- The state that is answered, the handler, and the outlet; what the outlet refused is
nobody's concern. -/
def handle {σ : Type} (h : Handler) (c : Context) (cr2 : UInt64) (o : Outlet σ) (s : σ) :
    State × Handler × σ :=
  let (s, _) := o.writeAll s (h.output c cr2)
  let h := h.next c
  (h.state, h, s)

end Handler

end InterruptCore.Fault

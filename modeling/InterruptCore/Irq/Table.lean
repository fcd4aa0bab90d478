import InterruptCore.Context
import InterruptCore.Irq.Line
import InterruptCore.Log

/-! One optional handler for each IRQ line. A dispatch runs the handler of the line, if
there is one, and acknowledges the line in any case. The table is independent of what a
handler is: dispatching says which handler is to run and leaves the running to the caller. -/
namespace InterruptCore.Irq

open Text

structure Entry (Handler : Type) where
  handler : Option Handler := none
  name : String := ""
  /-- How often a handler ran, modulo 2^64. -/
  count : UInt64 := 0
  /-- Whether the line was reported as unhandled since a handler was last installed. -/
  reported : Bool := false
  deriving DecidableEq, Repr, Inhabited

abbrev Table (Handler : Type) := Vector (Entry Handler) irqLines

/-- What a dispatch asks for, in order. -/
inductive Action (Handler : Type) where
  | log (line : Log.Line)
  | run (handler : Handler)
  | acknowledge (line : UInt8)
  deriving DecidableEq, Repr

namespace Table

variable {Handler : Type}

def empty : Table Handler := Vector.replicate irqLines {}

def lookup (t : Table Handler) (line : UInt8) : Option (Entry Handler) := t[line.toNat]?

def set (t : Table Handler) (line : UInt8) (e : Entry Handler) : Table Handler :=
  t.setIfInBounds line.toNat e

theorem lookup_empty {line : UInt8} (h : line.toNat < irqLines) :
    (empty : Table Handler).lookup line = some {} := Vector.getElem?_replicate_of_lt h

theorem lookup_eq_none_iff {t : Table Handler} {line : UInt8} :
    t.lookup line = none ↔ irqLines ≤ line.toNat := Vector.getElem?_eq_none_iff

theorem lt_of_lookup {t : Table Handler} {line : UInt8} {e : Entry Handler}
    (h : t.lookup line = some e) : line.toNat < irqLines := by
  obtain ⟨hlt, _⟩ := Vector.getElem?_eq_some_iff.mp h
  exact hlt

theorem exists_lookup (t : Table Handler) {line : UInt8} (h : line.toNat < irqLines) :
    ∃ e, t.lookup line = some e := ⟨t[line.toNat], Vector.getElem?_eq_getElem h⟩

theorem lookup_set (t : Table Handler) {line : UInt8} (h : line.toNat < irqLines)
    (e : Entry Handler) (other : UInt8) :
    (t.set line e).lookup other = if other = line then some e else t.lookup other := by
  by_cases ho : other = line
  · subst ho
    rw [if_pos rfl]
    exact Vector.getElem?_setIfInBounds_self_of_lt h
  · have hne : line.toNat ≠ other.toNat := fun hn => ho (UInt8.toNat_inj.mp hn.symm)
    rw [if_neg ho]
    exact Vector.getElem?_setIfInBounds_ne hne

def replacing (name : String) (line : UInt8) : Log.Line :=
  Log.warn ["IRQ: replacing handler '", name, "' on line ", decimal line.toNat]

def registerLog (t : Table Handler) (line : UInt8) : List Log.Line :=
  match t.lookup line with
  | some ⟨some _, name, _, _⟩ => [replacing name line]
  | _ => []

/-- Installs a handler; the count of the line goes on. -/
def register (t : Table Handler) (line : UInt8) (name : String) (h : Handler) :
    Except LineError (Table Handler) :=
  match t.lookup line with
  | some e => .ok (t.set line ⟨some h, name, e.count, false⟩)
  | none => .error (.outOfRange line)

/-- Removes the handler; whether the line was reported as unhandled stays known. -/
def unregister (t : Table Handler) (line : UInt8) : Except LineError (Table Handler) :=
  match t.lookup line with
  | some e => .ok (t.set line { e with handler := none, name := "" })
  | none => .error (.outOfRange line)

def isRegistered (t : Table Handler) (line : UInt8) : Bool :=
  match t.lookup line with
  | some e => e.handler.isSome
  | none => false

def handlerName (t : Table Handler) (line : UInt8) : Option String :=
  match t.lookup line with
  | some e => e.handler.map fun _ => e.name
  | none => none

def count (t : Table Handler) (line : UInt8) : UInt64 :=
  match t.lookup line with
  | some e => e.count
  | none => 0

def foreign (c : Context) : Log.Line :=
  Log.warn ["IRQ: vector ", decimal c.vectorWord.toNat, " is not a legacy IRQ"]

def unhandled (line : UInt8) : Log.Line := Log.info ["IRQ: unhandled line ", decimal line.toNat]

/-- What is to be done for a context, and the table afterwards. Vectors that belong to no
line are only warned about. -/
def dispatch (t : Table Handler) (c : Context) : Table Handler × List (Action Handler) :=
  match c.irqLine with
  | none => (t, [.log (foreign c)])
  | some line =>
    match t.lookup line with
    | none => (t, [.acknowledge line])
    | some e =>
      match e.handler with
      | some h => (t.set line { e with count := e.count + 1 }, [.run h, .acknowledge line])
      | none =>
        if e.reported then (t, [.acknowledge line])
        else (t.set line { e with reported := true },
          [.log (unhandled line), .acknowledge line])

section Equations

variable {t : Table Handler} {line : UInt8} {c : Context} {e : Entry Handler}

theorem register_of_lookup (he : t.lookup line = some e) (name : String) (h : Handler) :
    t.register line name h = .ok (t.set line ⟨some h, name, e.count, false⟩) := by
  rw [register, he]

theorem register_of_none (he : t.lookup line = none) (name : String) (h : Handler) :
    t.register line name h = .error (.outOfRange line) := by
  rw [register, he]

theorem unregister_of_lookup (he : t.lookup line = some e) :
    t.unregister line = .ok (t.set line { e with handler := none, name := "" }) := by
  rw [unregister, he]

theorem unregister_of_none (he : t.lookup line = none) :
    t.unregister line = .error (.outOfRange line) := by
  rw [unregister, he]

theorem count_of_lookup (he : t.lookup line = some e) : t.count line = e.count := by
  rw [count, he]

theorem dispatch_foreign (hc : c.irqLine = none) : t.dispatch c = (t, [.log (foreign c)]) := by
  rw [dispatch, hc]

theorem dispatch_handled (hc : c.irqLine = some line) (he : t.lookup line = some e)
    {h : Handler} (hh : e.handler = some h) :
    t.dispatch c =
      (t.set line { e with count := e.count + 1 }, [.run h, .acknowledge line]) := by
  simp only [dispatch, hc, he, hh]

theorem dispatch_unhandled (hc : c.irqLine = some line) (he : t.lookup line = some e)
    (hh : e.handler = none) :
    t.dispatch c =
      (if e.reported then t else t.set line { e with reported := true },
        (if e.reported then [] else [.log (unhandled line)]) ++ [.acknowledge line]) := by
  simp only [dispatch, hc, he, hh]
  split <;> rfl

end Equations

end Table

end InterruptCore.Irq

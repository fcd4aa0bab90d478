import InterruptCore.Board

/-! What each action does to the board, as an equation between boards. Handlers are any
actions at all; where a statement needs them to keep away from the table and the controllers,
it says so. -/
namespace InterruptCore.Board

open Irq Pic Trap

/-- A handler's own doings, as against calls of targets and handlers and the bus. -/
def Event.IsOutput : Event → Prop
  | .note _ | .logged _ => True
  | _ => False

def Event.IsLogged : Event → Prop
  | .logged _ => True
  | _ => False

theorem Event.IsLogged.isOutput {e : Event} (h : e.IsLogged) : e.IsOutput := by
  cases e with
  | logged _ => trivial
  | _ => exact h.elim

/-- The table, the controllers and the ports are as they were, and only output was added. -/
structure Untouched (b t : Board) : Prop where
  irqs : t.irqs = b.irqs
  pic : t.pic = b.pic
  latches : t.latches = b.latches
  events : ∃ own, (∀ e ∈ own, Event.IsOutput e) ∧ t.events = b.events ++ own

/-- Handlers that touch neither the table nor the controllers. -/
def Drivers.Isolated (drivers : Drivers) : Prop :=
  ∀ d c b, Untouched b ((drivers d c).run b).2

def Drivers.KeepTable (drivers : Drivers) : Prop :=
  ∀ d c b, ((drivers d c).run b).2.irqs = b.irqs

theorem Drivers.Isolated.keepTable {drivers : Drivers} (hi : drivers.Isolated) :
    drivers.KeepTable := fun d c b => (hi d c b).irqs

def lineEvents (b : Board) (line : Log.Line) : List Event :=
  match b.log.writes line with
  | some (_, pieces) => pieces.map .logged
  | none => []

def endEvents (line : UInt8) : List Event :=
  (if line < 8 then [] else [.bus (.wrote ⟨0xa0⟩ 0x20)]) ++ [.bus (.wrote ⟨0x20⟩ 0x20)]

def endLatches (l : Latches) (line : UInt8) : Latches := (transferAll l (acknowledge line)).1

theorem lineEvents_isLogged (b : Board) (line : Log.Line) :
    ∀ e ∈ b.lineEvents line, Event.IsLogged e := by
  intro e he
  unfold lineEvents at he
  split at he
  · obtain ⟨s, _, rfl⟩ := List.mem_map.mp he
    trivial
  · cases he

theorem run_get_bind {α : Type} (f : Board → Action α) (b : Board) :
    (get >>= f).run b = (f b).run b := rfl

theorem run_mapped {α β : Type} (f : α → β) (x : Action α) (b : Board) :
    (f <$> x).run b = (f (x.run b).1, (x.run b).2) := rfl

theorem run_emitAll {α : Type} (f : α → Event) (xs : List α) (b : Board) :
    (xs.forM fun x => emit (f x)).run b = ((), { b with events := b.events ++ xs.map f }) := by
  induction xs generalizing b with
  | nil =>
    have hrun : (([] : List α).forM fun x => emit (f x)).run b = ((), b) := rfl
    rw [hrun, List.map_nil, List.append_nil]
  | cons x xs ih =>
    change (xs.forM fun x => emit (f x)).run { b with events := b.events ++ [f x] } = _
    rw [ih]
    simp

theorem run_writeLog (line : Log.Line) (b : Board) :
    (writeLog line).run b = ((), { b with events := b.events ++ b.lineEvents line }) := by
  rw [writeLog, run_get_bind, lineEvents]
  cases b.log.writes line with
  | none =>
    rw [List.append_nil]
    rfl
  | some w => exact run_emitAll .logged w.2 b

theorem run_notingDrivers (d : Device) (c : Context) (b : Board) :
    ∃ own, (∀ e ∈ own, Event.IsOutput e) ∧
      ((notingDrivers d c).run b).2 = { b with events := b.events ++ own } := by
  cases d with
  | recorder name =>
    refine ⟨[.note (.handled name c)], ?_, rfl⟩
    intro e he
    rw [List.mem_singleton.mp he]
    trivial
  | logger name =>
    refine ⟨b.lineEvents (Device.logLine name c), ?_, ?_⟩
    · intro e he
      exact (lineEvents_isLogged b _ e he).isOutput
    · exact congrArg Prod.snd (run_writeLog (Device.logLine name c) b)
  | plain =>
    refine ⟨[.note (.called c.vectorWord)], ?_, rfl⟩
    intro e he
    rw [List.mem_singleton.mp he]
    trivial

theorem notingDrivers_isolated : notingDrivers.Isolated := by
  intro d c b
  obtain ⟨own, hown, hrun⟩ := run_notingDrivers d c b
  rw [hrun]
  exact ⟨rfl, rfl, rfl, own, hown, rfl⟩

theorem run_transfer (ts : List Transfer) (b : Board) :
    (transfer ts).run b =
      (valuesRead (transferAll b.latches ts).2,
        { b with
          latches := (transferAll b.latches ts).1
          events := b.events ++ (transferAll b.latches ts).2.map .bus }) := by
  have hrun : (transfer ts).run b =
      (valuesRead (transferAll b.latches ts).2,
        (((transferAll b.latches ts).2.forM fun t => emit (.bus t)).run
          { b with latches := (transferAll b.latches ts).1 }).2) := rfl
  rw [hrun, run_emitAll]

theorem run_command {c : Command} (hc : Driver.check c = .ok ()) (b : Board) :
    (command c).run b =
      (.ok (valuesRead (transferAll b.latches (b.pic.transfers c)).2),
        { b with
          pic := b.pic.next c
          latches := (transferAll b.latches (b.pic.transfers c)).1
          events := b.events ++ (transferAll b.latches (b.pic.transfers c)).2.map .bus }) := by
  have hrun : (command c).run b =
      (.ok ((transfer (b.pic.transfers c)).run b).1,
        { ((transfer (b.pic.transfers c)).run b).2 with
          pic := ((transfer (b.pic.transfers c)).run b).2.pic.next c }) := by
    unfold command
    rw [hc]
    rfl
  rw [hrun, run_transfer]

theorem run_command_refused {c : Command} {e : LineError} (hc : Driver.check c = .error e)
    (b : Board) : (command c).run b = (.error e, b) := by
  unfold command
  rw [hc]
  rfl

theorem transferAll_acknowledge (l : Latches) (line : UInt8) :
    (transferAll l (acknowledge line)).2.map .bus = endEvents line := by
  by_cases h : line < 8
  · rw [acknowledge, endEvents, if_pos (show line < linesPerChip from h), if_pos h]
    rfl
  · rw [acknowledge, endEvents, if_neg (show ¬ line < linesPerChip from h), if_neg h]
    rfl

/-- The acknowledge is not checked and leaves the driver as it is. -/
theorem run_acknowledge (drivers : Drivers) (c : Context) (line : UInt8) (b : Board) :
    (carryOut drivers c (.acknowledge line)).run b =
      ((), { b with
        latches := endLatches b.latches line, events := b.events ++ endEvents line }) := by
  have hrun : (carryOut drivers c (.acknowledge line)).run b =
      ((), ((command (.endOfInterrupt line)).run b).2) := rfl
  rw [hrun, run_command rfl, ← transferAll_acknowledge b.latches line]
  rfl

theorem run_writeLogs (lines : List Log.Line) (b : Board) :
    (lines.forM writeLog).run b =
      ((), { b with events := b.events ++ lines.flatMap b.lineEvents }) := by
  induction lines generalizing b with
  | nil =>
    have hrun : (([] : List Log.Line).forM writeLog).run b = ((), b) := rfl
    rw [hrun, List.flatMap_nil, List.append_nil]
  | cons line lines ih =>
    have hrun : ((line :: lines).forM writeLog).run b =
        (lines.forM writeLog).run ((writeLog line).run b).2 := rfl
    rw [hrun, run_writeLog, ih, List.flatMap_cons, ← List.append_assoc]
    rfl

section Table

variable {b : Board} {line : UInt8} {e : Entry Device}

theorem run_register (he : b.irqs.lookup line = some e) (name : String) (d : Device) :
    (register line name d).run b =
      (.ok (), { b with
        irqs := b.irqs.set line ⟨some d, name, e.count, false⟩
        events := b.events ++ (b.irqs.registerLog line).flatMap b.lineEvents }) := by
  have hrun : (register line name d).run b =
      (.ok (), { (((b.irqs.registerLog line).forM writeLog).run b).2 with
        irqs := b.irqs.set line ⟨some d, name, e.count, false⟩ }) := by
    rw [register, run_get_bind, Table.register_of_lookup he]
    rfl
  rw [hrun, run_writeLogs]

theorem run_register_refused (he : b.irqs.lookup line = none) (name : String) (d : Device) :
    (register line name d).run b = (.error (.outOfRange line), b) := by
  rw [register, run_get_bind, Table.register_of_none he]
  rfl

theorem run_unregister (he : b.irqs.lookup line = some e) :
    (unregister line).run b =
      (.ok (), { b with irqs := b.irqs.set line { e with handler := none, name := "" } }) := by
  rw [unregister, run_get_bind, Table.unregister_of_lookup he]
  rfl

theorem run_unregister_refused (he : b.irqs.lookup line = none) :
    (unregister line).run b = (.error (.outOfRange line), b) := by
  rw [unregister, run_get_bind, Table.unregister_of_none he]
  rfl

end Table

section Interrupt

variable {drivers : Drivers} {b : Board} {c : Context} {line : UInt8} {e : Entry Device}

theorem run_dispatchIrq (drivers : Drivers) (c : Context) (b : Board) :
    (dispatchIrq drivers c).run b =
      ((b.irqs.dispatch c).2.forM (carryOut drivers c)).run
        { b with irqs := (b.irqs.dispatch c).1 } := rfl

theorem run_dispatchIrq_foreign (hc : c.irqLine = none) :
    (dispatchIrq drivers c).run b =
      ((), { b with events := b.events ++ b.lineEvents (Table.foreign c) }) := by
  rw [run_dispatchIrq, Table.dispatch_foreign hc]
  exact run_writeLog (Table.foreign c) b

/-- The count goes up first, then the handler runs, then the line is acknowledged. -/
theorem run_dispatchIrq_handled (hc : c.irqLine = some line)
    (he : b.irqs.lookup line = some e) {d : Device} (hd : e.handler = some d) :
    (dispatchIrq drivers c).run b =
      (carryOut drivers c (.acknowledge line)).run
        ((drivers d c).run { b with
          irqs := b.irqs.set line { e with count := e.count + 1 }
          events := b.events ++ [.called d c] }).2 := by
  rw [run_dispatchIrq, Table.dispatch_handled hc he hd]
  rfl

theorem irqs_dispatchIrq_handled (hd : drivers.KeepTable) (hc : c.irqLine = some line)
    (he : b.irqs.lookup line = some e) {d : Device} (hh : e.handler = some d) :
    ((dispatchIrq drivers c).run b).2.irqs = b.irqs.set line { e with count := e.count + 1 } := by
  rw [run_dispatchIrq_handled hc he hh, run_acknowledge]
  exact hd d c _

theorem run_dispatchIrq_isolated (hi : drivers.Isolated) (hc : c.irqLine = some line)
    (he : b.irqs.lookup line = some e) {d : Device} (hd : e.handler = some d) :
    ((dispatchIrq drivers c).run b).2.irqs = b.irqs.set line { e with count := e.count + 1 } ∧
    ∃ own, (∀ x ∈ own, Event.IsOutput x) ∧
      ((dispatchIrq drivers c).run b).2.events =
        b.events ++ .called d c :: own ++ endEvents line := by
  have hu := hi d c { b with
    irqs := b.irqs.set line { e with count := e.count + 1 }
    events := b.events ++ [.called d c] }
  obtain ⟨own, hown, hevents⟩ := hu.events
  refine ⟨irqs_dispatchIrq_handled hi.keepTable hc he hd, own, hown, ?_⟩
  rw [run_dispatchIrq_handled hc he hd, run_acknowledge]
  simp [hevents]

/-- Without a handler the line is reported once, and acknowledged all the same. -/
theorem run_dispatchIrq_unhandled (hc : c.irqLine = some line)
    (he : b.irqs.lookup line = some e) (hh : e.handler = none) :
    (dispatchIrq drivers c).run b =
      ((), { b with
        irqs := if e.reported then b.irqs else b.irqs.set line { e with reported := true }
        latches := endLatches b.latches line
        events := b.events
          ++ (if e.reported then [] else b.lineEvents (Table.unhandled line))
          ++ endEvents line }) := by
  rw [run_dispatchIrq, Table.dispatch_unhandled hc he hh]
  cases hr : e.reported with
  | true =>
    have hrun : ([Irq.Action.acknowledge line].forM (carryOut drivers c)).run b =
        (carryOut drivers c (.acknowledge line)).run b := rfl
    simp only [if_true, List.nil_append, List.append_nil]
    rw [hrun, run_acknowledge]
  | false =>
    have hrun : ([.log (Table.unhandled line), .acknowledge line].forM
        (carryOut drivers c)).run
          { b with irqs := b.irqs.set line { e with reported := true } } =
        (carryOut drivers c (.acknowledge line)).run
          ((writeLog (Table.unhandled line)).run
            { b with irqs := b.irqs.set line { e with reported := true } }).2 := rfl
    simp only [Bool.false_eq_true, if_false, List.singleton_append]
    rw [hrun, run_writeLog, run_acknowledge]
    rfl

theorem events_dispatchIrq_unhandled (hc : c.irqLine = some line)
    (he : b.irqs.lookup line = some e) (hh : e.handler = none) :
    ∃ lines, (∀ x ∈ lines, Event.IsLogged x) ∧
      ((dispatchIrq drivers c).run b).2.events = b.events ++ lines ++ endEvents line := by
  refine ⟨if e.reported then [] else b.lineEvents (Table.unhandled line), ?_, ?_⟩
  · intro x hx
    split at hx
    · cases hx
    · exact lineEvents_isLogged b _ x hx
  · rw [run_dispatchIrq_unhandled hc he hh]

end Interrupt

end InterruptCore.Board

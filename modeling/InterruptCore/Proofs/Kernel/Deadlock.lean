import InterruptCore.Proofs.Kernel.Interruption
import InterruptCore.Proofs.Machine.Masked

/-! Interrupts and the locks of the code that they interrupt. Wherever the interrupt flag is set,
the port and the controllers are free and nobody writes the IRQ table; so an interrupt finds
every lock free that it waits for, and so do the handlers. -/
namespace InterruptCore

open Machine Program

namespace Kernel

variable {α β : Type}

/-- Calls of the kernel. A handler may make all of them but the registration. -/
inductive Call (handler : Bool) : {β : Type} → Program β → Prop
  | initSerial : Call handler Console.init
  | log (line : Log.Line) : Call handler (writeLog line)
  | writeLine (s : String) : Call handler (Console.writeLine s)
  | print (pieces : List String) : Call handler (Console.print pieces)
  | remap : Call handler Controllers.remap
  | unmaskLine (line : UInt8) : Call handler (Controllers.unmaskLine line)
  | count (line : UInt8) : Call handler (Interrupts.count line)
  | register (line : UInt8) (name : String) (h : Handler) (hh : handler = false) :
      Call handler (Interrupts.register line name h)

def Still : Request → Prop
  | .out _ _ | .input _ | .poll _ | .interruptFlag | .control _ | .stackPointer
  | .loadSegmentTable _ | .loadSegment _ _ | .note _ | .capture _ _ => True
  | .memory f => ∀ k, (f k).locks = k.locks ∧ (f k).gates = k.gates
  | _ => False

def Own (handler : Bool) : Request → Prop
  | .setFlag => handler = false
  | .clearFlag | .halt | .haltWhile _ | .haltForever => True
  | r => Still r

/-- Code that makes calls. A handler runs with the interrupt flag clear and does not set it. -/
inductive Calls (handler : Bool) : {α : Type} → Program α → Prop
  | done {α : Type} (a : α) : Calls handler (.done a)
  | own {α : Type} {r : Request} {next : r.Answer → Program α} (hr : Own handler r)
      (h : ∀ a, (handler = true → r.Masked a) → Calls handler (next a)) :
      Calls handler (.ask r next)
  | call {α β : Type} {p : Program β} {next : β → Program α} (hp : Call handler p)
      (h : ∀ b, Calls handler (next b)) : Calls handler (p >>= next)

theorem Calls.of_call {handler : Bool} {p : Program β} (hp : Call handler p) : Calls handler p := by
  rw [← bind_pure p]
  exact .call hp .done

theorem calls_notingDrivers (d : Device) (c : Context) : Calls true (notingDrivers d c) := by
  cases d with
  | recorder name => exact .own trivial fun _ _ => .done ()
  | logger name => exact .of_call (.log _)
  | plain => exact .own trivial fun _ _ => .done ()

def lockWatch : Watch (Option TablePointer × GateTable) where
  part m := (m.idtr, m.kernel.gates)
  calm := Locks.Open
  inv r := Gated supportedVectors r.1 r.2
  stop why := ∀ l, why ≠ .blocked l
  expects := Incoming.IsIrq
  part_flag _ _ := rfl
  part_locks _ _ := rfl
  part_console _ _ _ _ := rfl
  part_busyReads _ _ := rfl
  part_captured _ _ _ := rfl
  part_tick _ := rfl
  part_arrivals _ _ := rfl
  part_wake _ _ := rfl

open Watch

theorem aloof_lockWatch : lockWatch.Aloof where
  quiet m m' h := by
    change (m'.idtr, m'.kernel.gates) = (m.idtr, m.kernel.gates)
    rw [h.idtr, h.kernel]
  pic _ _ := rfl

theorem steady_lockWatch : lockWatch.Steady where
  ticks _ _ := rfl
  irqs _ _ := rfl
  acknowledge _ _ _ := rfl
  behindGate _ _ := rfl
  leaveGate _ _ _ _ := rfl
  calm _ hopen hg := ⟨hopen, hg⟩
  expects _ := id

variable {g : Guard (Option TablePointer × GateTable)} {Q : α → Guard _ → Prop} {handler : Bool}

theorem ask_still {r : Request} (hr : Still r) (hs : lockWatch.Safe g)
    {next : r.Answer → Program α}
    (h : ∀ a, (g.flag = false → r.Masked a) → lockWatch.terms.Meets (next a) Q g) :
    lockWatch.terms.Meets (.ask r next) Q g := by
  have hquiet : r.Quiet → lockWatch.terms.Meets (.ask r next) Q g := fun hr =>
    ask_quiet aloof_lockWatch hs hr fun a => h a fun _ => hr.masked a
  cases r with
  | memory f =>
    apply ask_memory hs
    rintro m rfl
    obtain ⟨hlocks, hgates⟩ := hr m.kernel
    have hview : lockWatch.view { m with kernel := f m.kernel } = lockWatch.view m := by
      simp only [view, lockWatch, hlocks, hgates]
    rw [hview]
    exact h m.kernel fun _ => trivial
  | interruptFlag => exact ask_interruptFlag hs (h g.flag id)
  | _ => first | exact hquiet trivial | exact hr.elim

theorem waits (hs : lockWatch.Safe g) : lockWatch.terms.Waits g := by
  refine ⟨⟨hs, nofun, nofun⟩, ?_⟩
  intro m _ l
  unfold waitingStop
  split
  · exact nofun
  · exact nofun

theorem keeps_change (hs : lockWatch.Safe g) {f : Kernel → Kernel}
    (hf : ∀ k, (f k).locks = k.locks ∧ (f k).gates = k.gates) :
    lockWatch.Keeps (Program.change f) g :=
  ask_still (r := .memory f) hf hs fun _ _ => rfl

section Calls

variable (hg : Gated supportedVectors g.rest.1 g.rest.2)
include hg

theorem safe_of_masked {locks : Locks} : lockWatch.Safe { g with flag := false, locks := locks } :=
  ⟨nofun, hg⟩

variable (hopen : g.locks.Open)
include hopen

theorem safe_of_open : lockWatch.Safe g := ⟨fun _ => hopen, hg⟩

theorem keeps_initSerial : lockWatch.Keeps Console.init g := by
  have hs := safe_of_open hg hopen
  have hfree : g.locks.free .serial = true := by rw [Locks.free, hopen.serial]; rfl
  apply ask_still (r := .memory fun k => { k with serialReady := k.serialReady.mark })
    (fun _ => ⟨rfl, rfl⟩) hs
  intro before _
  change lockWatch.Keeps (if before.serialReady.isSet then pure () else do
    Console.locked (Console.setup.forM fun w => out w.1 w.2)
    Program.change fun k => { k with log := k.log.attach .serial }) g
  split
  · exact keeps_pure ()
  · refine Keeps.bind (keeps_locked hs hfree ?_) ?_
    · apply keeps_forM
      intro w _
      exact ask_still (r := .out w.1 w.2) trivial (safe_of_masked hg) fun _ _ => rfl
    · exact fun _ => keeps_change hs fun _ => ⟨rfl, rfl⟩

theorem keeps_print (pieces : List String) :
    lockWatch.Keeps (Console.locked (Console.sendAll pieces)) g := by
  have hfree : g.locks.free .serial = true := by rw [Locks.free, hopen.serial]; rfl
  apply keeps_locked (safe_of_open hg hopen) hfree
  exact keeps_sendAll (safe_of_masked hg) pieces

theorem keeps_controllers {p : Program β}
    (h : ∀ g', lockWatch.Safe g' → lockWatch.Keeps p g') :
    lockWatch.Keeps (withoutInterrupts (holding .controllers p)) g := by
  have hfree : g.locks.free .controllers = true := by rw [Locks.free, hopen.controllers]; rfl
  apply keeps_withoutInterrupts (safe_of_open hg hopen)
  apply keeps_holding (safe_of_masked hg) hfree (safe_of_masked hg)
  exact h _ (safe_of_masked hg)

theorem keeps_remap : lockWatch.Keeps Controllers.remap g := by
  have hs := safe_of_open hg hopen
  refine Keeps.bind (keeps_controllers hg hopen ?_) ?_
  · intro g' hs'
    exact (keeps_command aloof_lockWatch hs' _).bind fun _ => keeps_pure ()
  intro _
  refine Keeps.bind (keeps_change hs fun _ => ⟨rfl, rfl⟩) ?_
  exact fun _ => keeps_writeLog hs _

theorem keeps_unmaskLine (line : UInt8) : lockWatch.Keeps (Controllers.unmaskLine line) g := by
  refine Keeps.bind (keeps_controllers hg hopen ?_) ?_
  · exact fun g' hs' => keeps_command aloof_lockWatch hs' _
  · exact fun _ => keeps_pure _

theorem keeps_count (line : UInt8) : lockWatch.Keeps (Interrupts.count line) g := by
  have hfree : g.locks.free .tableRead = true := by rw [Locks.free, hopen.writer]; rfl
  have hs' : lockWatch.Safe { g with locks := g.locks.take .tableRead } :=
    ⟨fun _ => hopen.take_tableRead, hg⟩
  apply keeps_holding (safe_of_open hg hopen) hfree hs'
  apply ask_look hs'
  exact fun _ _ => keeps_pure _

omit hg hopen in
theorem keeps_store (line : UInt8) (name : String) (h : Handler) (hs : lockWatch.Safe g) :
    lockWatch.Keeps (Interrupts.store line name h) g := by
  apply ask_look hs
  intro m _
  dsimp only [Program.bind]
  cases m.kernel.irqs.register line name h with
  | error e => exact keeps_pure _
  | ok irqs =>
    refine Keeps.bind (keeps_forM fun l _ => keeps_writeLog hs l) ?_
    intro _
    refine Keeps.bind (keeps_change hs fun _ => ⟨rfl, rfl⟩) ?_
    exact fun _ => keeps_pure _

theorem keeps_register (hreaders : g.locks.tableReaders = 0) (line : UInt8) (name : String)
    (h : Handler) : lockWatch.Keeps (Interrupts.register line name h) g := by
  have hs := safe_of_open hg hopen
  have hfree : g.locks.free .tableWrite = true := by
    rw [Locks.free, hopen.writer, hreaders]
    rfl
  have hstored : lockWatch.Keeps
      (withoutInterrupts (holding .tableWrite (Interrupts.store line name h))) g := by
    apply keeps_withoutInterrupts hs
    apply keeps_holding (safe_of_masked hg) hfree (safe_of_masked hg)
    exact keeps_store line name h (safe_of_masked hg)
  apply ask_still (r := .interruptFlag) trivial hs
  intro found _
  cases found
  case' true => refine (keeps_writeLog hs _).bind fun _ => ?_
  all_goals
    apply hstored.bind
    intro stored
    cases stored with
    | error e => exact keeps_pure _
    | ok _ =>
      apply (keeps_unmaskLine hg hopen line).bind
      intro unmasked
      cases unmasked with
      | error e => exact keeps_pure _
      | ok _ => exact (keeps_writeLog hs _).bind fun _ => keeps_pure _

theorem keeps_call {p : Program β} (hp : Call handler p)
    (hreaders : handler = false → g.locks.tableReaders = 0) : lockWatch.Keeps p g := by
  cases hp with
  | initSerial => exact keeps_initSerial hg hopen
  | log line => exact keeps_writeLog (safe_of_open hg hopen) line
  | writeLine s => exact keeps_print hg hopen _
  | print pieces => exact keeps_print hg hopen pieces
  | remap => exact keeps_remap hg hopen
  | unmaskLine line => exact keeps_unmaskLine hg hopen line
  | count line => exact keeps_count hg hopen line
  | register line name h hh => exact keeps_register hg hopen (hreaders hh) line name h

theorem Calls.meets {p : Program α} (hp : Calls handler p)
    (hreaders : handler = false → g.locks.tableReaders = 0)
    (hflag : handler = true → g.flag = false) :
    lockWatch.terms.Meets p (fun _ g' => g'.locks = g.locks ∧ g'.rest = g.rest ∧
      (handler = true → g'.flag = false)) g := by
  -- Locks and gates are the same after each call, so that what is known of them carries over to
  -- the code that follows; only the flag may be another.
  induction hp generalizing g with
  | done a => exact ⟨rfl, rfl, hflag⟩
  | call hp h ih =>
    apply (keeps_call hg hopen hp hreaders).bind
    exact fun b => ih b hg hopen hreaders hflag
  | @own r next hr h ih =>
    have hs := safe_of_open hg hopen
    have hstill : Still r → lockWatch.terms.Meets (.ask r next) (fun _ g' => g'.locks = g.locks ∧
        g'.rest = g.rest ∧ (handler = true → g'.flag = false)) g := by
      intro hr
      apply ask_still hr hs
      exact fun a hmasked => ih a (fun hh => hmasked (hflag hh)) hg hopen hreaders hflag
    cases r with
    | setFlag =>
      have hnot : handler = true → false = true := fun hh => hr.symm.trans hh
      apply ask_setFlag hs hopen
      exact ih (g := { g with flag := true }) () (fun _ => trivial) hg hopen hreaders
        fun hh => nomatch hnot hh
    | clearFlag =>
      apply ask_clearFlag hs
      exact ih (g := { g with flag := false }) () (fun _ => trivial) hg hopen hreaders fun _ => rfl
    | halt => exact ⟨⟨hs, nofun, nofun⟩, waits hs, ih () (fun _ => trivial) hg hopen hreaders hflag⟩
    | haltWhile waiting =>
      exact ⟨⟨hs, nofun, nofun⟩, waits hs, fun _ _ _ =>
        ih () (fun _ => trivial) hg hopen hreaders hflag⟩
    | haltForever => exact ⟨⟨hs, nofun, nofun⟩, waits hs⟩
    | _ => exact hstill hr

end Calls

section Interrupts

variable {drivers : Drivers} (hd : ∀ d c, Calls true (drivers d c))
include hd

theorem keeps_handler (hg : Gated supportedVectors g.rest.1 g.rest.2) (hopen : g.locks.Open)
    (hflag : g.flag = false) (d : Device) (c : Context) : lockWatch.Keeps (drivers d c) g := by
  apply ((hd d c).meets hg hopen nofun fun _ => hflag).mono
  rintro _ ⟨flag, locks, rest⟩ ⟨rfl, rfl, hclear⟩
  obtain ⟨flag', locks, rest⟩ := g
  exact congrArg (Guard.mk · locks rest) ((hclear rfl).trans hflag.symm)

theorem interrupts_bear (k : Nat) :
    lockWatch.terms.Bears (take drivers k) (visit drivers k) :=
  steady_lockWatch.bears (fun d c _ hflag hopen hg => keeps_handler hd hg hopen hflag d c) k

end Interrupts

/-- Code that starts without a lock is interrupted by IRQs wherever the flag is set. There the
port and the controllers are free and nobody writes the IRQ table, and no lock is ever waited
for: not by the code, not by an interrupt and not by a handler. -/
theorem interrupts_never_wait_for_locks {drivers : Drivers} (hd : ∀ d c, Calls true (drivers d c))
    {p : Program α} (hp : Calls false p) (m : Machine) (hlocks : m.kernel.locks = {})
    (hg : Gated supportedVectors m.idtr m.kernel.gates)
    (harrivals : ∀ a ∈ m.arrivals, a.trap.IsIrq) (hwake : ∀ t ∈ m.wake, t.IsIrq) :
    (∀ i ∈ instants drivers p m,
      (i.machine.flag = true → i.machine.kernel.locks.Open) ∧
      ∀ l, i.request = .acquire l → i.machine.kernel.locks.free l = true) ∧
    ∀ l m', run drivers p m ≠ .stopped (.blocked l) m' := by
  have hopen : m.kernel.locks.Open := by
    rw [hlocks]
    exact ⟨rfl, rfl, rfl⟩
  have hreaders : m.kernel.locks.tableReaders = 0 := by rw [hlocks]
  have hmeets := hp.meets (g := lockWatch.view m) hg hopen (fun _ => hreaders) nofun
  have hholds := hmeets.holds (interrupts_bear hd m.pending) ⟨harrivals, hwake⟩
  refine ⟨fun i hi => ?_, fun l m' hrun => ?_⟩
  · obtain ⟨hs, hfree, -⟩ := hholds.instants i hi
    exact ⟨hs.1, hfree⟩
  · have hends := hholds.ends
    rw [show runWith (take drivers m.pending) p m = _ from hrun] at hends
    exact hends l rfl

/-- The key comes between two pieces of a line of the log, and its handler logs as well. -/
theorem key_never_waits_for_locks :
    let key : Incoming := { vector := 33, registers := { frame := { rflags := 0x202 } } }
    let amid : Arrival := ⟨fun r so => r matches .interruptFlag && 120 ≤ so.outs, key⟩
    let p : Program Unit := do
      Console.init
      Controllers.remap
      setFlag
      let _ ← Interrupts.register 1 "keyboard" (.device (.logger "keyboard"))
      writeLog (Log.info ["ready"])
    let m : Machine :=
      { idtr := some ⟨4095, GateTable.address⟩
        kernel :=
          { gates := GateTable.armed Trap.Adapter.addresses supportedVectors
            log := { level := .debug } }
        arrivals := [amid] }
    (∀ d c, Calls true (notingDrivers d c)) ∧ Calls false p ∧ m.kernel.locks = {} ∧
    Gated supportedVectors m.idtr m.kernel.gates ∧
    (∀ a ∈ m.arrivals, a.trap.IsIrq) ∧ (∀ t ∈ m.wake, t.IsIrq) ∧
    (∀ i ∈ instants notingDrivers p m,
      (i.machine.flag = true → i.machine.kernel.locks.Open) ∧
      ∀ l, i.request = .acquire l → i.machine.kernel.locks.free l = true) ∧
    (run notingDrivers p m).isAnswered = true ∧
    .returned 33 key.registers true ∈ (run notingDrivers p m).machine.past := by
  intro key amid p m
  have hp : Calls false p := by
    apply Calls.call .initSerial
    intro _
    apply Calls.call .remap
    intro _
    apply Calls.own (r := .setFlag) rfl
    intro _ _
    apply Calls.call (.register 1 "keyboard" _ rfl)
    exact fun _ => .of_call (.log _)
  have hg : Gated supportedVectors m.idtr m.kernel.gates := ⟨rfl, rfl⟩
  have hkey : key.IsIrq := by decide
  have harrivals : ∀ a ∈ m.arrivals, a.trap.IsIrq := by
    intro a ha
    rw [List.mem_singleton.mp ha]
    exact hkey
  have hwake : ∀ t ∈ m.wake, t.IsIrq := fun _ ht => absurd ht List.not_mem_nil
  have h := interrupts_never_wait_for_locks calls_notingDrivers hp m rfl hg harrivals hwake
  refine ⟨calls_notingDrivers, hp, rfl, hg, harrivals, hwake, h.1, ?_, ?_⟩
  · decide +kernel
  · decide +kernel

end Kernel

end InterruptCore

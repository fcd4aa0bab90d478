import InterruptCore.Proofs.Kernel.Interruption
import InterruptCore.Proofs.Kernel.Passages
import InterruptCore.Proofs.Kernel.Registering
import InterruptCore.Proofs.Pit.Divisor

/-! The interval timer is programmed. Interrupts may come between the bytes that it is sent: they
leave its ports alone, so that it hears the command and the two bytes of the divisor with nothing
in between, and the rate in force afterwards is the one that the divisor gives. -/
namespace InterruptCore.Kernel

open Machine Program Watch

def timerPorts : List Port := [Port.pitCommand, Port.pitChannel0]

def isTimerWrite : Event → Bool
  | .out p _ => p ∈ timerPorts
  | _ => false

structure Setting where
  idtr : Option TablePointer
  gates : GateTable
  frequency : UInt32
  writes : List Event

namespace Setting

def of (m : Machine) : Setting :=
  ⟨m.idtr, m.kernel.gates, m.kernel.frequency, m.past.filter isTimerWrite⟩

def write (s : Setting) (p : Port) (v : UInt8) : Setting :=
  { s with writes := .out p v :: s.writes }

/-- The timer is told the divisor for a rate, low byte before high byte. -/
def program (s : Setting) (hz : UInt32) : Setting :=
  { ((s.write Port.pitCommand Pit.commandByte).write Port.pitChannel0
      (UInt8.ofNat ((Pit.divisor hz).toNat % 256))).write Port.pitChannel0
        (UInt8.ofNat ((Pit.divisor hz).toNat / 256)) with
    frequency := Pit.actualHz hz }

theorem writes_writePort (m : Machine) (p : Port) (v : UInt8) :
    (m.writePort p v).past.filter isTimerWrite =
      (Event.out p v :: m.past).filter isTimerWrite :=
  filter_writePort (fun _ => ⟨rfl, rfl⟩) m p v

theorem of_writePort_timer (m : Machine) {p : Port} (hp : p ∈ timerPorts) (v : UInt8) :
    of (m.writePort p v) = (of m).write p v := by
  have hmine : isTimerWrite (.out p v) = true := decide_eq_true hp
  simp only [of, write, writes_writePort, List.filter_cons_of_pos hmine]
  rfl

theorem of_writePort (m : Machine) {p : Port} (hp : p ∉ timerPorts) (v : UInt8) :
    of (m.writePort p v) = of m := by
  have hother : ¬ isTimerWrite (.out p v) = true := Bool.eq_false_iff.mp (decide_eq_false hp)
  simp only [of, writes_writePort, List.filter_cons_of_neg hother]
  rfl

theorem of_record (m : Machine) {e : Event} (he : isTimerWrite e = false) :
    of (m.record e) = of m := by
  simp only [of, record, List.filter_cons, he]
  rfl

end Setting

theorem console_not_timer {d : UInt16} (hd : d < 8) : Console.register d ∉ timerPorts := by
  have hports : ∀ p ∈ timerPorts, p.number.toNat < 0x3f8 := by decide
  intro hmem
  exact absurd (hports _ hmem) (Nat.not_lt.mpr (Console.le_number_register hd))

def timerWatch (live : Prop) : Watch Setting where
  part := Setting.of
  calm ls := live ∧ ls.Open
  inv s := live → Gated supportedVectors s.idtr s.gates
  stop _ := False
  expects := Incoming.IsIrq
  part_flag _ _ := rfl
  part_locks _ _ := rfl
  part_console m _ v hd := Setting.of_writePort m (console_not_timer hd) v
  part_busyReads _ _ := rfl
  part_captured m _ _ := Setting.of_record m rfl
  part_tick _ := rfl
  part_arrivals _ _ := rfl
  part_wake _ _ := rfl

theorem steady_timerWatch (live : Prop) : (timerWatch live).Steady where
  ticks _ _ := rfl
  irqs _ _ := rfl
  acknowledge m p hp := by
    apply Setting.of_writePort
    rcases hp with rfl | rfl
    · decide
    · decide
  behindGate _ _ := rfl
  leaveGate m found _ _ := Setting.of_record { m with flag := found } rfl
  calm _ hcalm hinv := ⟨hcalm.2, hinv hcalm.1⟩
  expects _ := id

/-- Handlers of devices that come to their end with interrupts still closed, and leave the locks,
the gates and the timer as they found them. -/
def LeaveTimer (drivers : Drivers) : Prop := ∀ live, (timerWatch live).KeptBy drivers

theorem leaveTimer_notingDrivers : LeaveTimer notingDrivers := by
  intro live d c g hflag _ hinv
  have hs : (timerWatch live).Safe g := .of_closed hflag hinv
  have hnote : ∀ n, (timerWatch live).Keeps (request (.note n)) g := by
    intro n
    refine ask_answered (r := .note n) (a := ()) hs (·.record (.note n)) id ⟨nofun, nofun⟩ ?_ rfl
    rintro m rfl
    exact ⟨rfl, view_eq.mpr ⟨rfl, rfl, Setting.of_record m rfl⟩⟩
  cases d with
  | recorder name => exact hnote _
  | logger name => exact keeps_writeLog hs _
  | plain => exact hnote _

section Watched

variable {live : Prop} {g : Guard Setting} (hs : (timerWatch live).Safe g)
include hs

theorem safe_write (p : Port) (v : UInt8) :
    (timerWatch live).Safe { g with rest := g.rest.write p v } := hs

theorem ask_timer {α : Type} {Q : α → Guard Setting → Prop} {p : Port} (hp : p ∈ timerPorts)
    {v : UInt8} {next : Unit → Program α}
    (h : (timerWatch live).terms.Meets (next ()) Q { g with rest := g.rest.write p v }) :
    (timerWatch live).terms.Meets (.ask (.out p v) next) Q g := by
  refine ask_answered (r := .out p v) hs (·.writePort p v) id ⟨nofun, nofun⟩ ?_ h
  rintro m rfl
  exact ⟨rfl, view_eq.mpr ⟨rfl, rfl, Setting.of_writePort_timer m hp v⟩⟩

theorem meets_setFrequency (hz : UInt32) :
    (timerWatch live).terms.Meets (Timer.setFrequency hz)
      (fun _ g' => g' = { g with rest := g.rest.program hz }) g := by
  have hcommand := safe_write hs Port.pitCommand Pit.commandByte
  have hlow := safe_write hcommand Port.pitChannel0 (UInt8.ofNat ((Pit.divisor hz).toNat % 256))
  have hhigh := safe_write hlow Port.pitChannel0 (UInt8.ofNat ((Pit.divisor hz).toNat / 256))
  have hprogram : (timerWatch live).Safe { g with rest := g.rest.program hz } := hs
  apply (keeps_writeLog hs _).bind
  intro _
  apply ask_timer hs (by decide)
  apply ask_timer hcommand (by decide)
  apply ask_timer hlow (by decide)
  apply ask_out hhigh (fun m => Setting.of_writePort m (by decide) 0)
  apply ask_memory hhigh
  intro m hm
  obtain ⟨hflag, hlocks, hpart⟩ := view_eq.mp hm
  have hset : (timerWatch live).view { m with
      kernel := { m.kernel with frequency := Pit.actualHz hz } } =
      { g with rest := g.rest.program hz } := by
    refine view_eq.mpr ⟨hflag, hlocks, ?_⟩
    have hof : Setting.of m = _ := hpart
    change { Setting.of m with frequency := Pit.actualHz hz } = _
    rw [hof]
    rfl
  rw [hset]
  exact keeps_writeLog hprogram _

end Watched

/-- The rate in force is the one that the divisor gives, and the timer heard the command byte and
then the divisor, low byte first. -/
structure Programmed (hz : UInt32) (m after : Machine) : Prop where
  rate : (Timer.rate after.kernel).toNat = 1193182 / (Pit.divisor hz).toNat
  writes : ∃ low high : UInt8, low.toNat + 256 * high.toNat = (Pit.divisor hz).toNat ∧
    after.events.filter isTimerWrite = m.events.filter isTimerWrite ++
      [.out Port.pitCommand 0x36, .out Port.pitChannel0 low, .out Port.pitChannel0 high]

variable {m : Machine} {hz : UInt32}

theorem rate_of_frequency {k : Kernel} (h : k.frequency = Pit.actualHz hz) :
    Timer.rate k = Pit.actualHz hz := by
  rw [Timer.rate, h, if_neg (Pit.actualHz_ne hz)]

theorem Programmed.of_setting {after : Machine}
    (h : Setting.of after = (Setting.of m).program hz) : Programmed hz m after := by
  have hfrequency : after.kernel.frequency = Pit.actualHz hz := congrArg Setting.frequency h
  have hwrites : after.past.filter isTimerWrite = _ := congrArg Setting.writes h
  constructor
  · rw [rate_of_frequency hfrequency, Pit.toNat_actualHz]
  · refine ⟨UInt8.ofNat ((Pit.divisor hz).toNat % 256), UInt8.ofNat ((Pit.divisor hz).toNat / 256),
      ?_, ?_⟩
    · have hlow : (Pit.divisor hz).toNat % 256 < UInt8.size := Nat.mod_lt _ (by decide)
      have hhigh : (Pit.divisor hz).toNat / 256 < UInt8.size :=
        Nat.div_lt_of_lt_mul (Pit.divisor hz).toNat_lt
      rw [UInt8.toNat_ofNat_of_lt' hlow, UInt8.toNat_ofNat_of_lt' hhigh]
      exact Nat.mod_add_div _ 256
    · rw [events, events, List.filter_reverse, List.filter_reverse, hwrites, Setting.program]
      simp only [Setting.write, Setting.of, List.reverse_cons, List.append_assoc]
      rfl

/-- IRQs may come before each request. -/
theorem runs_setFrequency {drivers : Drivers} (hd : LeaveTimer drivers)
    (hm : m.flag = true → m.kernel.locks.Open ∧ Gated supportedVectors m.idtr m.kernel.gates)
    (he : AwaitsIrqs m) (hz : UInt32) :
    ∃ after, Machine.run drivers (Timer.setFrequency hz) m = .answered () after ∧
      Programmed hz m after := by
  have hs : (timerWatch (m.flag = true)).Safe ((timerWatch (m.flag = true)).view m) :=
    ⟨fun hflag => ⟨hflag, (hm hflag).1⟩, fun hflag => (hm hflag).2⟩
  have hends := ((meets_setFrequency hs hz).holds
    ((steady_timerWatch _).bears (hd _) m.pending) ⟨he.arrivals, he.wake⟩).ends
  cases hrun : Machine.run drivers (Timer.setFrequency hz) m with
  | stopped why after =>
    rw [show runWith (take drivers m.pending) _ m = _ from hrun] at hends
    exact hends.elim
  | answered _ after =>
    rw [show runWith (take drivers m.pending) _ m = _ from hrun] at hends
    exact ⟨after, rfl, .of_setting (congrArg Guard.rest hends.1)⟩

def divisorWrites (hz : UInt32) : List (Port × UInt8) :=
  [(Port.pitCommand, Pit.commandByte),
    (Port.pitChannel0, UInt8.ofNat ((Pit.divisor hz).toNat % 256)),
    (Port.pitChannel0, UInt8.ofNat ((Pit.divisor hz).toNat / 256)), (Port.postDelay, 0)]

def divisorLine (hz : UInt32) : Log.Line :=
  Log.trace ["PIT: divisor ", Text.decimal (Pit.divisor hz).toNat, " for ", Text.decimal hz.toNat,
    " Hz"]

def rateLine (hz : UInt32) : Log.Line :=
  Log.debug ["PIT: frequency set to ", Text.decimal (Pit.actualHz hz).toNat, " Hz"]

def programmed (m : Machine) (hz : UInt32) : Machine :=
  ({ (m.logged (divisorLine hz)).written (divisorWrites hz) with
    kernel := { m.kernel with frequency := Pit.actualHz hz } } : Machine).logged (rateLine hz)

theorem walks_setFrequency (m : Machine) (hz : UInt32) :
    Walks (Guarded fun _ => True) (Timer.setFrequency hz) m (.answered () (programmed m hz)) := by
  have hok : ∀ x, Guarded (fun _ => True) x := fun _ _ _ _ => trivial
  have hlog : ∀ (m : Machine) line, Walks (Guarded fun _ => True) (writeLog line) m
      (.answered () (m.logged line)) := fun m line =>
    (walks_writeLog m line).mono fun x _ => hok x
  have hkernel : ((m.logged (divisorLine hz)).written (divisorWrites hz)).kernel = m.kernel :=
    kernel_of_core ((written_core _ _).trans (logged_core m _))
  apply (hlog m (divisorLine hz)).bind
  refine .ask (r := .out Port.pitCommand Pit.commandByte) nofun (hok _) rfl ?_
  refine .ask (r := .out Port.pitChannel0 _) nofun (hok _) rfl ?_
  refine .ask (r := .out Port.pitChannel0 _) nofun (hok _) rfl ?_
  refine .ask (r := .out Port.postDelay 0) nofun (hok _) rfl ?_
  apply Walks.memory (hok _)
  rw [programmed, ← hkernel]
  exact hlog _ (rateLine hz)

theorem kernel_programmed (m : Machine) (hz : UInt32) :
    (programmed m hz).kernel = { m.kernel with frequency := Pit.actualHz hz } :=
  kernel_of_core (logged_core _ _)

theorem logged_extends (m : Machine) (line : Log.Line) : m.events <+: (m.logged line).events :=
  ⟨m.logEvents line, (logged_events m line).symm⟩

theorem written_extends (m : Machine) (ws : List (Port × UInt8)) :
    m.events <+: (m.written ws).events := by
  induction ws generalizing m with
  | nil => exact List.prefix_refl _
  | cons w ws ih =>
    have hfirst : m.events <+: (m.writePort w.1 w.2).events :=
      ⟨[outEvent m.latches w.1 w.2], (List.reverse_cons ..).symm⟩
    exact hfirst.trans (ih (m.writePort w.1 w.2))

theorem programmed_extends (m : Machine) (hz : UInt32) : m.events <+: (programmed m hz).events := by
  have hsent := written_extends (m.logged (divisorLine hz)) (divisorWrites hz)
  apply ((logged_extends m _).trans hsent).trans
  exact logged_extends { (m.logged (divisorLine hz)).written (divisorWrites hz) with
    kernel := { m.kernel with frequency := Pit.actualHz hz } } (rateLine hz)

theorem init_announces_rate (drivers : Drivers) (htable : m.kernel.locks.free .tableWrite = true)
    (hcontrollers : m.kernel.locks.free .controllers = true)
    (hm : (Timer.init hz).Undisturbed m) :
    ∃ after, Machine.run drivers (Timer.init hz) m = .answered (.ok ()) after ∧
      Timer.rate after.kernel = Pit.actualHz hz ∧
      m.events ++ m.logEvents (Log.info ["PIT: initializing timer at ",
        Text.decimal (Timer.rate after.kernel).toNat, " Hz"]) <+: after.events := by
  let announced := m.logged (Log.info ["PIT: initializing timer at ",
    Text.decimal (Pit.actualHz hz).toNat, " Hz"])
  have hkernel : (programmed announced hz).kernel =
      { m.kernel with frequency := Pit.actualHz hz } := by
    rw [kernel_programmed, show announced.kernel = m.kernel from kernel_of_core (logged_core m _)]
  have hline : Irq.Known.timer.line.toNat < irqLines := by decide
  obtain ⟨e, he⟩ := (programmed announced hz).kernel.irqs.exists_lookup hline
  have hregister := walks_register (P := fun _ => True) "pit" .timer (hkernel ▸ htable)
    (hkernel ▸ hcontrollers) he fun _ _ => trivial
  have hwalks : Walks (Guarded fun _ => True) (Timer.init hz) m _ :=
    ((walks_writeLog m _).mono fun _ _ _ _ _ => trivial).bind
      ((walks_setFrequency announced hz).bind hregister)
  obtain ⟨after, hrun, hafter⟩ := run_answered drivers hm hwalks.walk
  have hinstalled := installed_of_still he rfl hafter
  obtain ⟨es, hes, -⟩ := hinstalled.writes
  have hfrequency : after.kernel.frequency = Pit.actualHz hz := by
    rw [hinstalled.kernel, hkernel]
  have hrate := rate_of_frequency hfrequency
  refine ⟨after, hrun, hrate, ?_⟩
  rw [hrate, ← logged_events]
  exact (programmed_extends announced hz).trans ⟨es, hes.symm⟩

/-- The timer gets the largest divisor that fits, for every rate. It hears it byte by byte also
where IRQs come in between, and goes by the rate that was announced, if no trap broke the
announcement. -/
theorem timer_gets_largest_divisor (hz : UInt32) :
    Pit.Programming hz ∧
    (∀ (drivers : Drivers) (m : Machine), LeaveTimer drivers →
      (m.flag = true → m.kernel.locks.Open ∧ Gated supportedVectors m.idtr m.kernel.gates) →
      AwaitsIrqs m →
      ∃ after, Machine.run drivers (Timer.setFrequency hz) m = .answered () after ∧
        Programmed hz m after) ∧
    ∀ (drivers : Drivers) (m : Machine), m.kernel.locks.free .tableWrite = true →
      m.kernel.locks.free .controllers = true → (Timer.init hz).Undisturbed m →
      ∃ after, Machine.run drivers (Timer.init hz) m = .answered (.ok ()) after ∧
        (Timer.rate after.kernel).toNat = 1193182 / (Pit.divisor hz).toNat ∧
        m.events ++ m.logEvents (Log.info ["PIT: initializing timer at ",
          Text.decimal (Timer.rate after.kernel).toNat, " Hz"]) <+: after.events := by
  refine ⟨Pit.programming hz, fun drivers m hd hm he => runs_setFrequency hd hm he hz, ?_⟩
  intro drivers m htable hcontrollers hm
  obtain ⟨after, hrun, hrate, hevents⟩ := init_announces_rate drivers htable hcontrollers hm
  refine ⟨after, hrun, ?_, hevents⟩
  rw [hrate, Pit.toNat_actualHz]

/-- A key comes between the two bytes, and its handler logs to the serial port. -/
theorem timer_gets_divisor_around_key :
    let key : Incoming := { vector := 33, registers := { frame := { rflags := 0x202 } } }
    let m : Machine :=
      { flag := true
        idtr := some ⟨4095, GateTable.address⟩
        kernel :=
          { gates := GateTable.armed Trap.Adapter.addresses supportedVectors
            irqs := Irq.Table.empty.set 1
              { handler := some (.device (.logger "keyboard")), name := "keyboard" }
            log := { sink := some .serial } }
        arrivals := [⟨fun _ so => 2 ≤ so.outs, key⟩] }
    let closed : Machine := { kernel := { log := { sink := some (.buffer 0) } } }
    LeaveTimer notingDrivers ∧ m.flag = true ∧ m.kernel.locks.Open ∧
    Gated supportedVectors m.idtr m.kernel.gates ∧ AwaitsIrqs m ∧
    .returned 33 key.registers true ∈
      (Machine.run notingDrivers (Timer.setFrequency 1000) m).machine.past ∧
    (∃ after, Machine.run notingDrivers (Timer.setFrequency 1000) m = .answered () after ∧
      (Timer.rate after.kernel).toNat = 1000 ∧
      after.events.filter isTimerWrite =
        [.out Port.pitCommand 0x36, .out Port.pitChannel0 169, .out Port.pitChannel0 4]) ∧
    closed.kernel.locks.free .tableWrite = true ∧
    closed.kernel.locks.free .controllers = true ∧ (Timer.init 1000).Undisturbed closed ∧
    ∃ after, Machine.run notingDrivers (Timer.init 1000) closed = .answered (.ok ()) after ∧
      [.captured 0 "PIT: initializing timer at ", .captured 0 "1000", .captured 0 " Hz",
        .captured 0 "\n"] <+: after.events := by
  intro key m closed
  obtain ⟨-, hset, hinit⟩ := timer_gets_largest_divisor 1000
  have hopen : m.kernel.locks.Open := ⟨rfl, rfl, rfl⟩
  have hg : Gated supportedVectors m.idtr m.kernel.gates := ⟨rfl, rfl⟩
  have he : AwaitsIrqs m := by
    refine ⟨fun a ha => ?_, fun t ht => absurd ht List.not_mem_nil⟩
    rw [List.mem_singleton.mp ha]
    decide
  have hclosed : (Timer.init 1000).Undisturbed closed := undisturbed_of_none rfl rfl
  have hdivisor : (Pit.divisor 1000).toNat = 1193 := by decide
  obtain ⟨after, hrun, hrate, low, high, hsum, hwrites⟩ :=
    hset notingDrivers m leaveTimer_notingDrivers (fun _ => ⟨hopen, hg⟩) he
  obtain ⟨hlow, hhigh⟩ : low = 169 ∧ high = 4 := by
    rw [hdivisor] at hsum
    have hbyte := low.toNat_lt
    constructor
    · apply UInt8.toNat_inj.mp
      change low.toNat = 169
      omega
    · apply UInt8.toNat_inj.mp
      change high.toNat = 4
      omega
  obtain ⟨final, hfinal, hannounced, hevents⟩ :=
    hinit notingDrivers closed rfl rfl hclosed
  rw [hdivisor] at hrate hannounced
  refine ⟨leaveTimer_notingDrivers, rfl, hopen, hg, he, ?_, ⟨after, hrun, hrate, ?_⟩, rfl, rfl,
    hclosed, final, hfinal, ?_⟩
  · decide +kernel
  · rw [hwrites, hlow, hhigh]
    rfl
  · rw [hannounced] at hevents
    exact hevents

end InterruptCore.Kernel

import InterruptCore.Proofs.Kernel.Sleeping

/-! How long a sleep is. The ticks that a time makes up are rounded down, so that a sleep may end
before its time; and where the count of ticks has no room left for them, it ends at once. Main
statement: a sleep is as long as it was asked for, whatever interrupts wake the CPU, just for the
times that come out even or are below one tick, with room in the count. -/
namespace InterruptCore

open Machine Program

namespace Kernel

/-- IRQs can wake the CPU so that a sleep of `ms` that begins here ends after `n` interrupts of
the timer. -/
def EndsAfter (drivers : Drivers) (ms : UInt32) (m : Machine) (n : Nat) : Prop :=
  ∃ (ts : List Incoming) (after : Machine), (∀ t ∈ ts, t.IsIrq) ∧
    run drivers (Timer.sleep ms) { m with arrivals := [], wake := ts } = .answered () after ∧
    served after.past = served m.past + n

def Timer.HasRoom (ms : UInt32) (k : Kernel) : Prop := k.ticks.toNat + needed ms k < 2 ^ 64

instance (ms : UInt32) (k : Kernel) : Decidable (Timer.HasRoom ms k) :=
  inferInstanceAs (Decidable (_ < _))

def tickIrq : Incoming := { vector := Irq.Known.timer.vector }

theorem timers_replicate (n : Nat) : timers (List.replicate n tickIrq) = n := by
  rw [timers, List.countP_replicate, if_pos (by decide)]

theorem Ready.wake {m : Machine} (hm : Ready m) (ts : List Incoming) :
    Ready { m with arrivals := [], wake := ts } :=
  ⟨hm.flag, hm.gated, hm.locks, hm.timed⟩

theorem Timer.rate_pos (k : Kernel) : 0 < (rate k).toNat := by
  apply Nat.pos_of_ne_zero
  intro hzero
  have hrate : rate k = 0 := UInt32.toNat_inj.mp hzero
  unfold rate at hrate
  split at hrate
  · cases hrate
  · contradiction

variable {m : Machine} {drivers : Drivers} {ms : UInt32}

theorem Timer.sleep_of_full (hms : ms ≠ 0) (hfull : ¬ HasRoom ms m.kernel)
    (harrivals : m.arrivals = []) :
    run drivers (sleep ms) m = .answered () m.tick.tick.tick := by
  have hticks := (ticksFor_exact ms (rate m.kernel)).2.1
  have hlt := m.kernel.ticks.toNat_lt
  have hshort := (Pit.ticksFor ms (rate m.kernel)).toNat_lt
  have hwrapped : ¬ m.kernel.ticks < m.kernel.ticks + Pit.ticksFor ms (rate m.kernel) := by
    rw [HasRoom, needed, ← hticks, Nat.not_lt] at hfull
    rw [UInt64.lt_iff_toNat_lt, UInt64.toNat_add]
    omega
  rw [run, (sleep_course harrivals (take drivers m.pending) hms).2]
  exact (sleepWhile_of_done (m := m.tick.tick.tick) (decide_eq_false hwrapped) _ unvisited _).1

section Length

variable (hd : Mannered drivers) (hm : Ready m) (hms : ms ≠ 0)
include hd hm hms

theorem sleeps_among (hroom : Timer.HasRoom ms m.kernel) (ts : List Incoming)
    (hirqs : ∀ t ∈ ts, t.IsIrq) :
    ∃ halts, Sleeps (Timer.needed ms m.kernel) { m with arrivals := [], wake := ts } halts
      (run drivers (Timer.sleep ms) { m with arrivals := [], wake := ts }) :=
  ⟨_, Timer.sleep_sleeps hd ms (hm.wake ts) rfl hirqs hms hroom⟩

theorem endsAfter_needed (hroom : Timer.HasRoom ms m.kernel) :
    EndsAfter drivers ms m (Timer.needed ms m.kernel) := by
  have hirqs : ∀ t ∈ List.replicate (Timer.needed ms m.kernel) tickIrq, t.IsIrq := by
    intro t ht
    rw [List.eq_of_mem_replicate ht]
    decide
  obtain ⟨halts, hsleep⟩ := sleeps_among hd hm hms hroom _ hirqs
  have hanswered := hsleep.isAnswered_iff.mpr (Nat.le_of_eq (timers_replicate _).symm)
  cases ho : run drivers (Timer.sleep ms)
    { m with arrivals := [], wake := List.replicate (Timer.needed ms m.kernel) tickIrq } with
  | stopped why after =>
    rw [ho] at hanswered
    cases hanswered
  | answered _ after =>
    rw [ho] at hsleep
    exact ⟨_, after, hirqs, ho, hsleep.served_eq⟩

/-- The interrupts that wake the CPU have no say in it: a sleep ends after as many ticks as were
needed, and after none if there was no room for them. -/
theorem endsAfter_iff (n : Nat) : EndsAfter drivers ms m n ↔
    n = if Timer.HasRoom ms m.kernel then Timer.needed ms m.kernel else 0 := by
  by_cases hroom : Timer.HasRoom ms m.kernel
  · rw [if_pos hroom]
    constructor
    · rintro ⟨ts, after, hirqs, hrun, hserved⟩
      obtain ⟨halts, hsleep⟩ := sleeps_among hd hm hms hroom ts hirqs
      rw [hrun] at hsleep
      exact Nat.add_left_cancel (hserved.symm.trans hsleep.served_eq)
    · rintro rfl
      exact endsAfter_needed hd hm hms hroom
  · rw [if_neg hroom]
    have hsleep : ∀ ts, ∃ after : Machine,
        run drivers (Timer.sleep ms) { m with arrivals := [], wake := ts } = .answered () after ∧
        after.past = m.past :=
      fun ts => ⟨_, Timer.sleep_of_full hms hroom rfl, rfl⟩
    constructor
    · rintro ⟨ts, after, -, hrun, hserved⟩
      obtain ⟨now, hnow, hpast⟩ := hsleep ts
      cases hrun.symm.trans hnow
      rw [hpast] at hserved
      exact Nat.left_eq_add.mp hserved
    · rintro rfl
      obtain ⟨now, hnow, hpast⟩ := hsleep []
      exact ⟨[], now, fun t ht => absurd ht List.not_mem_nil, hnow, congrArg served hpast⟩

/-- A sleep is as long as asked for with every sequence of IRQs if and only if the count of ticks
has room and the time is a whole number of ticks, or less than one. With room it ends less than
one tick before its time. It does end, if the timer goes on. -/
theorem sleep_long_enough_iff :
    ((∀ n, EndsAfter drivers ms m n → ms.toNat * (Timer.rate m.kernel).toNat ≤ n * 1000) ↔
      Timer.HasRoom ms m.kernel ∧ (ms.toNat * (Timer.rate m.kernel).toNat < 1000 ∨
        1000 ∣ ms.toNat * (Timer.rate m.kernel).toNat)) ∧
    (Timer.HasRoom ms m.kernel → ∀ n, EndsAfter drivers ms m n →
      ms.toNat * (Timer.rate m.kernel).toNat < (n + 1) * 1000) ∧
    ∃ n, EndsAfter drivers ms m n := by
  have hlength := endsAfter_iff hd hm hms
  have hmspos : 0 < ms.toNat := Nat.pos_of_ne_zero fun h => hms (UInt32.toNat_inj.mp h)
  have hpos := Nat.mul_pos hmspos (Timer.rate_pos m.kernel)
  have hneeded : Timer.needed ms m.kernel =
      max 1 (ms.toNat * (Timer.rate m.kernel).toNat / 1000) := rfl
  generalize ms.toNat * (Timer.rate m.kernel).toNat = time at hpos hneeded ⊢
  refine ⟨?_, ?_, _, (hlength _).mpr rfl⟩
  · constructor
    · intro hlong
      have hends := hlong _ ((hlength _).mpr rfl)
      by_cases hroom : Timer.HasRoom ms m.kernel
      · rw [if_pos hroom] at hends
        -- Rounding down loses nothing of a whole number of ticks, and one tick makes up for less.
        refine ⟨hroom, ?_⟩
        omega
      · rw [if_neg hroom] at hends
        omega
    · rintro ⟨hroom, htime⟩ n hn
      rw [hlength, if_pos hroom] at hn
      omega
  · intro hroom n hn
    rw [hlength, if_pos hroom] at hn
    omega

end Length

/-- At 100 Hz no sequence of IRQs makes 10 ms too short, and 15 ms always are, as they are one
tick too. -/
theorem sleep_long_enough_at_100_hz :
    let m : Machine :=
      { flag := true
        idtr := some ⟨4095, GateTable.address⟩
        kernel :=
          { gates := GateTable.armed Trap.Adapter.addresses supportedVectors
            irqs := Irq.Table.empty.set 0 { handler := some .timer, name := "pit" }
            frequency := 100 } }
    Mannered notingDrivers ∧ Ready m ∧
    (∀ n, EndsAfter notingDrivers 10 m n → 10 * 100 ≤ n * 1000) ∧
    ¬ (∀ n, EndsAfter notingDrivers 15 m n → 15 * 100 ≤ n * 1000) ∧
    ∃ n, EndsAfter notingDrivers 15 m n := by
  intro m
  have hm : Ready m := by
    refine ⟨rfl, ⟨rfl, rfl⟩, ⟨rfl, rfl, rfl⟩, ?_⟩
    exact Bytes.forall_byte (by decide +kernel)
  obtain ⟨hten, -, -⟩ := sleep_long_enough_iff mannered_notingDrivers hm
    (show (10 : UInt32) ≠ 0 by decide)
  obtain ⟨hfifteen, -, hends⟩ := sleep_long_enough_iff mannered_notingDrivers hm
    (show (15 : UInt32) ≠ 0 by decide)
  refine ⟨mannered_notingDrivers, hm, hten.mpr (by decide), ?_, hends⟩
  intro hlong
  exact absurd (hfifteen.mp hlong) (by decide)

/-- The timer is programmed for 100 Hz and its interrupt enabled; then a sleep of 15 ms is over
with the first tick, which is 10 ms long. -/
theorem fifteen_ms_end_with_first_tick :
    let programmed : Program Unit := do
      Controllers.remap
      discard (Timer.init 100)
      setFlag
    let m : Machine :=
      { idtr := some ⟨4095, GateTable.address⟩
        kernel := { gates := GateTable.armed Trap.Adapter.addresses supportedVectors }
        wake := [tickIrq] }
    let start := (run notingDrivers programmed m).machine
    let sleep := run notingDrivers (Timer.sleep 15) start
    (run notingDrivers programmed m).isAnswered = true ∧ Timer.rate start.kernel = 100 ∧
    sleep.isAnswered = true ∧ served sleep.machine.past = served start.past + 1 ∧
    ¬ 15 * (Timer.rate start.kernel).toNat ≤ 1 * 1000 := by
  decide +kernel

end Kernel

end InterruptCore

import InterruptCore.Kernel.Timer
import InterruptCore.Proofs.Kernel.Servicing
import Mathlib.Algebra.Group.Nat.Defs

/-! Sleeping on the timer. The loop of a sleep looks at the ticks alone, and they change in the
interrupts that wake it: what goes down is how many ticks are still missing, with an interrupt of
the timer by one and with any other not at all. -/
namespace InterruptCore

open Machine Program

namespace Irq.Table

variable {Handler : Type} {t : Table Handler} {e x : Entry Handler} {l : UInt8}

def handlerOf (t : Table Handler) (line : UInt8) : Option Handler :=
  (t.lookup line).bind (·.handler)

theorem handlerOf_set (he : t.lookup l = some e) (hx : x.handler = e.handler) (line : UInt8) :
    (t.set l x).handlerOf line = t.handlerOf line := by
  unfold handlerOf
  rw [lookup_set t (lt_of_lookup he)]
  by_cases hl : line = l
  · rw [if_pos hl, hl, he]
    exact hx
  · rw [if_neg hl]

theorem handlerOf_dispatch (t : Table Handler) (c : Context) (line : UInt8) :
    (t.dispatch c).1.handlerOf line = t.handlerOf line := by
  cases hc : c.irqLine with
  | none => rw [dispatch_foreign hc]
  | some l =>
    cases he : t.lookup l with
    | none => simp only [dispatch, hc, he]
    | some e =>
      cases hh : e.handler with
      | some h =>
        rw [dispatch_handled hc he hh]
        exact handlerOf_set (x := { e with count := e.count + 1 }) he rfl line
      | none =>
        rw [dispatch_unhandled hc he hh]
        dsimp only
        split
        · rfl
        · exact handlerOf_set (x := { e with reported := true }) he rfl line

end Irq.Table

def Machine.Instant.isHalt (i : Instant) : Bool :=
  match i.request with
  | .halt => true
  | _ => false

namespace Kernel

/-- The timer's handler is that of line 0, and of no other line. -/
def Timed (irqs : Irq.Table Handler) : Prop :=
  ∀ line, irqs.handlerOf line = some .timer ↔ line = Irq.Known.timer.line

def timers (ts : List Incoming) : Nat := ts.countP Incoming.isTick

theorem Service.dispatch_ticks (s : Service) {c : Context} {line : UInt8}
    (hc : c.irqLine = some line) :
    (s.dispatch c).ticks = if s.irqs.handlerOf line = some .timer then s.ticks + 1
      else s.ticks := by
  unfold Service.dispatch Irq.Table.handlerOf
  cases he : s.irqs.lookup line with
  | none => simp [Irq.Table.dispatch, hc, he, count]
  | some e =>
    cases hh : e.handler with
    | none =>
      rw [Irq.Table.dispatch_unhandled hc he hh]
      cases e.reported <;> simp [count, hh]
    | some h =>
      rw [Irq.Table.dispatch_handled hc he hh]
      cases h <;> simp [count, hh]

theorem Service.serve_ticks {s : Service} (hs : Timed s.irqs) {t : Incoming} (ht : t.IsIrq) :
    (s.serve t).ticks = s.ticks + UInt64.ofNat t.isTick.toNat := by
  have hticks := s.dispatch_ticks ht.irqLine
  have hline := (hs (t.vector - 32)).trans ht.line_eq_timer_iff
  change (s.dispatch t.context).ticks = _
  by_cases htick : t.vector = Irq.Known.timer.vector
  · rw [hticks, if_pos (hline.mpr htick)]
    simp [Incoming.isTick, htick]
  · rw [hticks, if_neg (mt hline.mp htick)]
    simp [Incoming.isTick, htick]

theorem Service.serve_irqs (s : Service) (t : Incoming) :
    (s.serve t).irqs = (s.irqs.dispatch t.context).1 := by
  change (s.dispatch t.context).irqs = _
  rw [Service.dispatch, Service.foldl_count]

theorem Timed.serve {s : Service} (hs : Timed s.irqs) (t : Incoming) :
    Timed (s.serve t).irqs := by
  intro line
  rw [Service.serve_irqs, Irq.Table.handlerOf_dispatch]
  exact hs line

/-- Interrupts are open, with the kernel's gates and no lock in their way, and the timer has its
line. -/
structure Ready (m : Machine) : Prop where
  flag : m.flag = true
  gated : Gated supportedVectors m.idtr m.kernel.gates
  locks : m.kernel.locks.Open
  timed : Timed m.kernel.irqs

/-- The machine `now` is `m` after it was woken by the interrupts `ts`, which were served. -/
structure Woken (ts : List Incoming) (m now : Machine) : Prop where
  ready : Ready now
  ticks : now.kernel.ticks = m.kernel.ticks + UInt64.ofNat (timers ts)
  served : served now.past = served m.past + timers ts
  arrivals : now.arrivals = []
  wake : m.wake = ts ++ now.wake

variable {m now later : Machine} {ts us : List Incoming} {t : Incoming}

theorem Woken.refl (hm : Ready m) (harrivals : m.arrivals = []) : Woken [] m m :=
  ⟨hm, by simp [timers], by simp [timers], harrivals, rfl⟩

theorem Woken.trans (h : Woken ts m now) (k : Woken us now later) : Woken (ts ++ us) m later where
  ready := k.ready
  ticks := by
    rw [k.ticks, h.ticks, timers, timers, timers, List.countP_append, UInt64.ofNat_add,
      UInt64.add_assoc]
  served := by
    rw [k.served, h.served, timers, timers, timers, List.countP_append, Nat.add_assoc]
  arrivals := k.arrivals
  wake := by rw [h.wake, k.wake, List.append_assoc]

theorem Woken.cons (h : Woken [t] m now) {j : Nat} (k : Woken (now.wake.take j) now later) :
    Woken (m.wake.take (j + 1)) m later := by
  have hwake : m.wake = t :: now.wake := h.wake
  rw [hwake]
  exact h.trans k

theorem timers_cons (h : Woken [t] m now) (j : Nat) :
    timers (m.wake.take (j + 1)) = t.isTick.toNat + timers (now.wake.take j) := by
  have hwake : m.wake = t :: now.wake := h.wake
  rw [hwake, List.take_succ_cons, timers, timers, List.countP_cons, Nat.add_comm]
  cases t.isTick <;> rfl

section Waking

variable {drivers : Drivers} (hd : Mannered drivers) (hm : Ready m) (harrivals : m.arrivals = [])
include hd hm harrivals

theorem sleepOnce_wakes {rest : List Incoming} (hwake : m.wake = t :: rest) (ht : t.IsIrq)
    (k : Nat) : ∃ after, sleepOnce (take drivers (k + 1)) m = .answered () after ∧
      Woken [t] m after ∧ after.wake = rest := by
  have hnone : ∀ a ∈ m.arrivals, a.trap.IsIrq := by simp [harrivals]
  obtain ⟨after, htake, hflag, hlocks, hservice, hrest, hsuffix⟩ :=
    take_serves (m := { m with wake := rest }) hd hm.gated hm.locks hnone ht k
  have haccepts : m.accepts t = true := by rw [accepts, hm.flag, Bool.true_or]
  have htimed : Timed (Service.of after).irqs := hservice ▸ hm.timed.serve (s := Service.of m) t
  have hticks : (Service.of after).ticks = _ :=
    hservice ▸ Service.serve_ticks (s := Service.of m) hm.timed ht
  have hserved : (Service.of after).timers = _ := congrArg Service.timers hservice
  have htable : (Service.of after).idtr = m.idtr ∧ (Service.of after).gates = m.kernel.gates :=
    hservice ▸ Service.serve_tables (Service.of m) t
  have htimers : timers [t] = t.isTick.toNat := by
    cases htick : t.isTick <;> simp [timers, htick]
  refine ⟨after, ?_, ⟨⟨?_, ?_, ?_, htimed⟩, ?_, ?_, ?_, ?_⟩, hrest⟩
  · simp only [sleepOnce, hwake, haccepts, if_true, htake]
  · exact hflag.trans hm.flag
  · exact ⟨htable.1.trans hm.gated.loaded, htable.2.trans hm.gated.armed⟩
  · rw [hlocks]
    exact hm.locks
  · rw [htimers]
    exact hticks
  · rw [htimers]
    exact hserved
  · rw [harrivals] at hsuffix
    exact List.suffix_nil.mp hsuffix
  · rw [hwake, hrest]
    rfl

end Waking

/-- The halts of a wait and its outcome, where `n` ticks are missing: the CPU is halted as long
as fewer were served, each halt ends with one interrupt, and the wait ends with the halt that the
last missing tick ends. -/
structure Sleeps (n : Nat) (m : Machine) (halts : List Instant) (o : Outcome Unit) : Prop where
  halting : ∀ j i, halts[j]? = some i → i.request = .halt ∧
    Woken (m.wake.take j) m i.machine ∧ timers (m.wake.take j) < n
  ends : o.Ends
    (fun _ after => Woken (m.wake.take halts.length) m after ∧
      timers (m.wake.take halts.length) = n)
    (fun why after => why = .idle ∧ halts.length = m.wake.length + 1 ∧ Woken m.wake m after ∧
      timers m.wake < n)

namespace Sleeps

variable {n : Nat} {halts : List Instant} {o : Outcome Unit}

theorem awake (hm : Ready m) (harrivals : m.arrivals = []) : Sleeps 0 m [] (.answered () m) :=
  ⟨fun j i h => by simp at h, Woken.refl hm harrivals, rfl⟩

theorem rest (hm : Ready m) (harrivals : m.arrivals = []) (hwake : m.wake = []) (hn : 0 < n) :
    Sleeps n m [⟨.halt, m, .done⟩] (.stopped m.waitingStop m) := by
  have hnow := Woken.refl hm harrivals
  constructor
  · intro j i hi
    cases j with
    | zero =>
      cases hi
      rw [hwake]
      exact ⟨rfl, hnow, hn⟩
    | succ j => simp at hi
  · refine ⟨?_, ?_, ?_, ?_⟩
    · rw [waitingStop, hm.flag, if_pos rfl]
    · rw [hwake]
      rfl
    · rw [hwake]
      exact hnow
    · rw [hwake]
      exact hn

theorem cons (hm : Ready m) (harrivals : m.arrivals = []) (h : Woken [t] m now)
    (hrest : Sleeps n now halts o) (hn : 0 < n + t.isTick.toNat) :
    Sleeps (n + t.isTick.toNat) m (⟨.halt, m, .done⟩ :: halts) o := by
  have hwake : m.wake = t :: now.wake := h.wake
  have hlast : timers m.wake = t.isTick.toNat + timers now.wake := by
    have hall := timers_cons h now.wake.length
    rwa [List.take_length, hwake, List.take_of_length_le (by simp), ← hwake] at hall
  constructor
  · intro j i hi
    cases j with
    | zero =>
      cases hi
      exact ⟨rfl, Woken.refl hm harrivals, hn⟩
    | succ j =>
      obtain ⟨hrequest, hwoken, hless⟩ := hrest.halting j i hi
      refine ⟨hrequest, h.cons hwoken, ?_⟩
      rw [timers_cons h]
      omega
  · apply hrest.ends.mono
    · rintro _ after ⟨hwoken, hdone⟩
      refine ⟨h.cons hwoken, ?_⟩
      rw [List.length_cons, timers_cons h, hdone, Nat.add_comm]
    · rintro why after ⟨hwhy, hlength, hwoken, hless⟩
      refine ⟨hwhy, ?_, ?_, ?_⟩
      · rw [List.length_cons, hlength, hwake, List.length_cons]
      · rw [hwake]
        exact h.trans hwoken
      · omega

end Sleeps

theorem settle_of_nil {r : Request} (h : m.arrivals = []) (take : Taking) (visit : Visiting) :
    settle take r m = .answered () m ∧ settling take visit r m = [] := by
  simp [settle, settling, h, arrive, arriving]

theorem sleepWhile_of_done {waiting : Kernel → Bool} (h : waiting m.kernel = false)
    (take : Taking) (visit : Visiting) (n : Nat) :
    sleepWhile take waiting n m = .answered () m ∧ wakingWhile take visit waiting n m = [] := by
  cases n <;> simp [sleepWhile, wakingWhile, h]

section Missing

variable {target : UInt64} {n : Nat}

theorem lt_target_iff (hn : m.kernel.ticks.toNat + n = target.toNat) :
    m.kernel.ticks < target ↔ 0 < n := by
  rw [UInt64.lt_iff_toNat_lt]
  omega

theorem Woken.missing (h : Woken [t] m now)
    (hn : m.kernel.ticks.toNat + (n + t.isTick.toNat) = target.toNat) :
    now.kernel.ticks.toNat + n = target.toNat := by
  -- The target bounds the ticks, so that none of them wraps around.
  have hlt := target.toNat_lt
  rw [h.ticks, UInt64.toNat_add, UInt64.toNat_ofNat', timers, List.countP_singleton]
  cases htick : t.isTick <;> simp [htick] at hn ⊢ <;> omega

theorem sleeps_no_more (hm : Ready m) (harrivals : m.arrivals = [])
    (hn : m.kernel.ticks.toNat + 0 = target.toNat) (take : Taking) (l : Nat) :
    Sleeps 0 m (wakingWhile take unvisited (fun k => k.ticks < target) l m)
      (sleepWhile take (fun k => k.ticks < target) l m) := by
  have hdone := decide_eq_false (mt (lt_target_iff hn).mp (Nat.lt_irrefl 0))
  rw [(sleepWhile_of_done hdone take unvisited l).1, (sleepWhile_of_done hdone take unvisited l).2]
  exact .awake hm harrivals

end Missing

/-- The loop of a sleep, which ends at the tick `target`, with `n` of them missing. -/
theorem sleeps {drivers : Drivers} (hd : Mannered drivers) {target : UInt64} {n k l : Nat}
    (hm : Ready m) (harrivals : m.arrivals = []) (hirqs : ∀ t ∈ m.wake, t.IsIrq)
    (hn : m.kernel.ticks.toNat + n = target.toNat) (hk : m.wake.length ≤ k)
    (hl : m.wake.length = l) :
    Sleeps n m (wakingWhile (take drivers k) unvisited (fun k => k.ticks < target) l m)
      (sleepWhile (take drivers k) (fun k => k.ticks < target) l m) := by
  -- By induction on what is still to come, as not every interrupt takes off a missing tick.
  induction l generalizing m n with
  | zero =>
    rcases Nat.eq_zero_or_pos n with rfl | hpos
    · exact sleeps_no_more hm harrivals hn _ _
    · have hwait := decide_eq_true ((lt_target_iff hn).mpr hpos)
      have hwake : m.wake = [] := List.length_eq_zero_iff.mp hl
      obtain ⟨hsettle, hsettling⟩ :=
        settle_of_nil (r := .halt) harrivals (take drivers k) unvisited
      simp only [wakingWhile, sleepWhile, hwait, if_true, hsettle, hsettling, Outcome.bind,
        Outcome.afterwards, List.nil_append]
      exact .rest hm harrivals hwake hpos
  | succ l ih =>
    rcases Nat.eq_zero_or_pos n with rfl | hpos
    · exact sleeps_no_more hm harrivals hn _ _
    · have hwait := decide_eq_true ((lt_target_iff hn).mpr hpos)
      obtain ⟨t, rest, hwake⟩ := List.exists_cons_of_length_eq_add_one hl
      obtain ⟨k, rfl⟩ : ∃ k', k = k' + 1 := ⟨k - 1, by omega⟩
      obtain ⟨n, rfl⟩ : ∃ n', n = n' + t.isTick.toNat :=
        ⟨n - t.isTick.toNat, by have := t.isTick.toNat_le; omega⟩
      obtain ⟨after, hsleep, hwoken, hleft⟩ :=
        sleepOnce_wakes hd hm harrivals hwake (hirqs t (by simp [hwake])) k
      have hlength : after.wake.length = l := by
        rw [hleft]
        simpa [hwake] using hl
      have hrest := ih hwoken.ready hwoken.arrivals
        (fun x hx => hirqs x (by rw [hwake, ← hleft]; exact List.mem_cons_of_mem t hx))
        (hwoken.missing hn) (by omega) hlength
      obtain ⟨hsettle, hsettling⟩ :=
        settle_of_nil (r := .halt) harrivals (take drivers (k + 1)) unvisited
      obtain ⟨hsettle', hsettling'⟩ := settle_of_nil (r := .haltWhile fun k => k.ticks < target)
        hwoken.arrivals (take drivers (k + 1)) unvisited
      have hnothing : wakingOnce unvisited m = [] := by simp [wakingOnce, hwake]
      simp only [wakingWhile, sleepWhile, hwait, if_true, hsettle, hsettling, hsettle',
        hsettling', hsleep, hnothing, Outcome.bind, Outcome.afterwards, List.nil_append,
        List.cons_append]
      exact hrest.cons hm harrivals hwoken hpos

theorem Sleeps.of_tick {n : Nat} {halts : List Instant} {o : Outcome Unit}
    (h : Sleeps n m.tick halts o) : Sleeps n m halts o := by
  have hwoken : ∀ {ts now}, Woken ts m.tick now → Woken ts m now := fun k =>
    ⟨k.ready, k.ticks, k.served, k.arrivals, k.wake⟩
  constructor
  · intro j i hi
    obtain ⟨hrequest, hnow, hless⟩ := h.halting j i hi
    exact ⟨hrequest, hwoken hnow, hless⟩
  · apply h.ends.mono
    · exact fun _ _ hends => ⟨hwoken hends.1, hends.2⟩
    · exact fun _ _ hends => ⟨hends.1, hends.2.1, hwoken hends.2.2.1, hends.2.2.2⟩

theorem Sleeps.filter_halts {n : Nat} {halts : List Instant} {o : Outcome Unit}
    (h : Sleeps n m halts o) : halts.filter Instant.isHalt = halts := by
  apply List.filter_eq_self.mpr
  intro i hi
  obtain ⟨j, hj⟩ := List.mem_iff_getElem?.mp hi
  rw [Instant.isHalt, (h.halting j i hj).1]

theorem Sleeps.isAnswered_iff {n : Nat} {halts : List Instant} {o : Outcome Unit}
    (h : Sleeps n m halts o) : o.isAnswered = true ↔ n ≤ timers m.wake := by
  have hends := h.ends
  cases o with
  | answered _ after =>
    have hprefix : timers (m.wake.take halts.length) ≤ timers m.wake :=
      (List.take_sublist _ _).countP_le
    exact iff_of_true rfl (hends.2 ▸ hprefix)
  | stopped why after =>
    exact iff_of_false Bool.false_ne_true (Nat.not_le.mpr hends.2.2.2)

theorem Sleeps.served_eq {n : Nat} {halts : List Instant} {after : Machine}
    (h : Sleeps n m halts (.answered () after)) : served after.past = served m.past + n := by
  obtain ⟨hwoken, hdone⟩ := h.ends
  rw [hwoken.served, hdone]

theorem Sleeps.last_isTick {n : Nat} {halts : List Instant} {after : Machine}
    (h : Sleeps n m halts (.answered () after)) (hn : 0 < n) :
    ∃ t, m.wake[halts.length - 1]? = some t ∧ t.isTick = true := by
  obtain ⟨-, hdone⟩ := h.ends
  have hsome : halts ≠ [] := by
    rintro rfl
    have hnone : timers (m.wake.take 0) = 0 := rfl
    exact absurd (hdone.symm.trans hnone) (Nat.ne_of_gt hn)
  obtain ⟨j, hj⟩ : ∃ j, halts.length = j + 1 :=
    ⟨halts.length - 1, (Nat.sub_add_cancel (List.length_pos_iff.mpr hsome)).symm⟩
  obtain ⟨-, -, hless⟩ := h.halting j halts[j] (List.getElem?_eq_getElem (by omega))
  rw [hj, List.take_add_one, timers, List.countP_append] at hdone
  rw [hj, Nat.add_sub_cancel]
  cases hlast : m.wake[j]? with
  | none =>
    rw [hlast] at hdone
    exact absurd hdone (Nat.ne_of_lt hless)
  | some t =>
    refine ⟨t, rfl, ?_⟩
    by_contra htick
    have hforeign : (some t).toList.countP Incoming.isTick = 0 :=
      List.countP_eq_zero.mpr (by simpa using htick)
    rw [hlast, hforeign] at hdone
    exact absurd hdone (Nat.ne_of_lt hless)

section Course

variable (harrivals : m.arrivals = []) (take : Taking)
include harrivals

theorem look_course (next : Kernel → Program Unit) :
    instantsWith take unvisited (.ask (.memory id) next) m =
      ⟨.memory id, m, next⟩ :: instantsWith take unvisited (next m.kernel) m.tick ∧
    runWith take (.ask (.memory id) next) m = runWith take (next m.kernel) m.tick := by
  obtain ⟨hsettle, hsettling⟩ := settle_of_nil (r := .memory id) harrivals take unvisited
  simp only [instantsWith, runWith, hsettle, hsettling]
  exact ⟨rfl, rfl⟩

theorem haltWhile_course (waiting : Kernel → Bool) :
    instantsWith take unvisited (.ask (.haltWhile waiting) .done) m =
      ⟨.haltWhile waiting, m, .done⟩ ::
        wakingWhile take unvisited waiting m.wake.length m.tick ∧
    runWith take (.ask (.haltWhile waiting) .done) m =
      sleepWhile take waiting m.wake.length m.tick := by
  obtain ⟨hsettle, hsettling⟩ := settle_of_nil (r := .haltWhile waiting) harrivals take unvisited
  simp only [instantsWith, runWith, hsettle, hsettling]
  constructor
  · change _ :: (wakingWhile take unvisited waiting m.wake.length m.tick ++ _) = _
    cases answer take (.haltWhile waiting) m.tick <;> rw [Outcome.afterwards, List.append_nil]
  · change (sleepWhile take waiting m.wake.length m.tick).bind _ = _
    cases sleepWhile take waiting m.wake.length m.tick <;> rfl

theorem Timer.sleep_course {ms : UInt32} (hms : ms ≠ 0) :
    let waiting : Kernel → Bool := fun k =>
      k.ticks < m.kernel.ticks + Pit.ticksFor ms (rate m.kernel)
    (instantsWith take unvisited (sleep ms) m).filter Instant.isHalt =
      (wakingWhile take unvisited waiting m.wake.length m.tick.tick.tick).filter Instant.isHalt ∧
    runWith take (sleep ms) m = sleepWhile take waiting m.wake.length m.tick.tick.tick := by
  intro waiting
  have hsleep : sleep ms = .ask (.memory id) fun k => .ask (.memory id) fun k' =>
      .ask (.haltWhile fun now => now.ticks < k'.ticks + Pit.ticksFor ms (rate k)) .done := by
    rw [sleep, if_neg hms]
    rfl
  obtain ⟨hfirst, hrun⟩ := look_course harrivals take fun k => .ask (.memory id) fun k' =>
    .ask (.haltWhile fun now => now.ticks < k'.ticks + Pit.ticksFor ms (rate k)) .done
  obtain ⟨hsecond, hrun'⟩ := look_course (m := m.tick) harrivals take fun k' =>
    .ask (.haltWhile fun now => now.ticks < k'.ticks + Pit.ticksFor ms (rate m.kernel)) .done
  obtain ⟨hloop, hrun''⟩ := haltWhile_course (m := m.tick.tick) harrivals take waiting
  rw [hsleep, hfirst, hrun, hsecond, hrun']
  refine ⟨?_, hrun''⟩
  change List.filter Instant.isHalt (_ :: _ :: instantsWith take unvisited
    (.ask (.haltWhile waiting) .done) m.tick.tick) = _
  rw [hloop]
  rfl

end Course

/-- The product of a time and a rate has its place in 64 bits, and the ticks of a time are what
64-bit arithmetic gives. -/
theorem ticksFor_exact (ms hz : UInt32) :
    (ms.toUInt64 * hz.toUInt64).toNat = ms.toNat * hz.toNat ∧
    (Pit.ticksFor ms hz).toNat = max 1 (ms.toNat * hz.toNat / 1000) ∧
    Pit.ticksFor ms hz = max 1 (ms.toUInt64 * hz.toUInt64 / 1000) := by
  have hms := ms.toNat_lt
  have hhz := hz.toNat_lt
  have hproduct : ms.toNat * hz.toNat < 2 ^ 64 := by
    calc ms.toNat * hz.toNat ≤ (2 ^ 32 - 1) * (2 ^ 32 - 1) := Nat.mul_le_mul (by omega) (by omega)
      _ < 2 ^ 64 := by decide
  have hexact : (ms.toUInt64 * hz.toUInt64).toNat = ms.toNat * hz.toNat := by
    rw [UInt64.toNat_mul, UInt32.toNat_toUInt64, UInt32.toNat_toUInt64, Nat.mod_eq_of_lt hproduct]
  have hticks : (Pit.ticksFor ms hz).toNat = max 1 (ms.toNat * hz.toNat / 1000) := by
    rw [Pit.ticksFor, UInt64.toNat_ofNat', Nat.mod_eq_of_lt]
    omega
  refine ⟨hexact, hticks, ?_⟩
  apply UInt64.toNat_inj.mp
  have hquotient : (ms.toUInt64 * hz.toUInt64 / 1000).toNat = ms.toNat * hz.toNat / 1000 := by
    rw [UInt64.toNat_div, hexact]
    rfl
  have hone : (1 : UInt64).toNat = 1 := rfl
  have hmax : (max 1 (ms.toUInt64 * hz.toUInt64 / 1000)).toNat =
      max 1 (ms.toNat * hz.toNat / 1000) := by
    rw [show max (1 : UInt64) (ms.toUInt64 * hz.toUInt64 / 1000) =
      if 1 ≤ ms.toUInt64 * hz.toUInt64 / 1000 then ms.toUInt64 * hz.toUInt64 / 1000 else 1 from rfl]
    split <;> rename_i hle <;> rw [UInt64.le_iff_toNat_le, hquotient, hone] at hle <;> omega
  rw [hticks, hmax]

def Timer.needed (ms : UInt32) (k : Kernel) : Nat := max 1 (ms.toNat * (rate k).toNat / 1000)

theorem Timer.needed_pos (ms : UInt32) (k : Kernel) : 0 < needed ms k :=
  Nat.lt_of_lt_of_le Nat.one_pos (Nat.le_max_left _ _)

section Sleep

variable {drivers : Drivers} (hd : Mannered drivers) (ms : UInt32) (hm : Ready m)
  (harrivals : m.arrivals = []) (hirqs : ∀ t ∈ m.wake, t.IsIrq)
include hd hm harrivals hirqs

theorem Timer.sleep_sleeps (hms : ms ≠ 0)
    (hroom : m.kernel.ticks.toNat + needed ms m.kernel < 2 ^ 64) :
    Sleeps (needed ms m.kernel) m
      ((instantsWith (take drivers m.pending) unvisited (sleep ms) m).filter Instant.isHalt)
      (run drivers (sleep ms) m) := by
  obtain ⟨hhalts, hrun⟩ := sleep_course harrivals (take drivers m.pending) hms
  have htarget : m.kernel.ticks.toNat + needed ms m.kernel =
      (m.kernel.ticks + Pit.ticksFor ms (rate m.kernel)).toNat := by
    rw [UInt64.toNat_add, (ticksFor_exact ms _).2.1]
    exact (Nat.mod_eq_of_lt hroom).symm
  have hpending : m.wake.length ≤ m.pending := Nat.le_add_left _ _
  have hloop := sleeps (m := m.tick.tick.tick) hd ⟨hm.flag, hm.gated, hm.locks, hm.timed⟩
    harrivals hirqs htarget hpending rfl
  rw [hhalts, run, hrun]
  change Sleeps _ m (List.filter Instant.isHalt
    (wakingWhile _ _ _ m.tick.tick.tick.wake.length m.tick.tick.tick)) _
  rw [hloop.filter_halts]
  exact hloop.of_tick.of_tick.of_tick

/-- Woken by IRQs, a sleep of no time does not halt. A longer one halts the CPU as long as fewer
interrupts of line 0 were served since it began than the ticks it waits for, and goes on with the
one that completes them; interrupts of other lines count for nothing. No product of a time and a
rate leaves 64 bits. -/
theorem sleep_ends_at_its_tick :
    let halts := (instantsWith (take drivers m.pending) unvisited (Timer.sleep ms) m).filter
      Instant.isHalt
    let outcome := run drivers (Timer.sleep ms) m
    (ms = 0 → halts = [] ∧ outcome = .answered () m) ∧
    (ms ≠ 0 → m.kernel.ticks.toNat + Timer.needed ms m.kernel < 2 ^ 64 →
      Sleeps (Timer.needed ms m.kernel) m halts outcome ∧
      (outcome.isAnswered = true ↔ Timer.needed ms m.kernel ≤ timers m.wake) ∧
      ∀ after, outcome = .answered () after →
        ∃ t, m.wake[halts.length - 1]? = some t ∧ t.isTick = true) ∧
    ∀ hz : UInt32, (ms.toUInt64 * hz.toUInt64).toNat = ms.toNat * hz.toNat ∧
      Pit.ticksFor ms hz = max 1 (ms.toUInt64 * hz.toUInt64 / 1000) := by
  intro halts outcome
  refine ⟨?_, fun hms hroom => ?_, fun hz => ?_⟩
  · rintro rfl
    exact ⟨rfl, rfl⟩
  · have hsleeps : Sleeps (Timer.needed ms m.kernel) m halts outcome :=
      Timer.sleep_sleeps hd ms hm harrivals hirqs hms hroom
    refine ⟨hsleeps, hsleeps.isAnswered_iff, fun after hafter => ?_⟩
    rw [hafter] at hsleeps
    exact hsleeps.last_isTick (Timer.needed_pos ms m.kernel)
  · obtain ⟨hexact, -, hticks⟩ := ticksFor_exact ms hz
    exact ⟨hexact, hticks⟩

end Sleep

/-- At 100 Hz, 25 ms are two ticks. The key and an interrupt that nobody handles come among those
of the timer: the CPU is halted four times, and the last tick is still to come then. -/
theorem sleep_ends_at_second_tick :
    let irq (v : UInt8) : Incoming := { vector := v, registers := { frame := { rflags := 0x202 } } }
    let m : Machine :=
      { flag := true
        idtr := some ⟨4095, GateTable.address⟩
        kernel :=
          { gates := GateTable.armed Trap.Adapter.addresses supportedVectors
            irqs := (Irq.Table.empty.set 0 { handler := some .timer, name := "pit" }).set 1
              { handler := some (.device (.recorder "keyboard")), name := "keyboard" }
            frequency := 100
            ticks := 7 }
        wake := [irq 33, irq 32, irq 44, irq 32, irq 32] }
    let halts := (instantsWith (take notingDrivers m.pending) unvisited (Timer.sleep 25) m).filter
      Instant.isHalt
    Mannered notingDrivers ∧ Ready m ∧ m.arrivals = [] ∧ (∀ t ∈ m.wake, t.IsIrq) ∧
    Timer.needed 25 m.kernel = 2 ∧
    Sleeps 2 m halts (run notingDrivers (Timer.sleep 25) m) ∧
    (run notingDrivers (Timer.sleep 25) m).isAnswered = true ∧
    halts.length = 4 ∧ (run notingDrivers (Timer.sleep 25) m).machine.wake = [irq 32] := by
  intro irq m halts
  have hm : Ready m := by
    refine ⟨rfl, ⟨rfl, rfl⟩, ⟨rfl, rfl, rfl⟩, ?_⟩
    exact Bytes.forall_byte (by decide +kernel)
  have hirqs : ∀ t ∈ m.wake, t.IsIrq := by decide
  have hneeded : Timer.needed 25 m.kernel = 2 := by decide
  obtain ⟨-, hsleep, -⟩ :=
    sleep_ends_at_its_tick mannered_notingDrivers 25 hm rfl hirqs
  obtain ⟨hsleeps, hanswered, -⟩ := hsleep (by decide) (by decide)
  rw [hneeded] at hsleeps hanswered
  refine ⟨mannered_notingDrivers, hm, rfl, hirqs, hneeded, hsleeps, hanswered.mpr (by decide),
    ?_, ?_⟩
  · decide +kernel
  · decide +kernel

end Kernel

end InterruptCore

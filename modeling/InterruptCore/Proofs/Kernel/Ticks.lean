import InterruptCore.Kernel.Timer
import InterruptCore.Proofs.Kernel.Service

/-! Two counts of the timer's interrupts. The ticks and the count of the timer's line are kept
apart, by the handler and by the table of lines; an interrupt of the timer adds one to each, and
any other interrupt adds to neither. Wherever interrupts are open, one that comes leaves the
machine as it must be for the next. -/
namespace InterruptCore

open Machine Program

namespace Machine

section Line

variable {t : Incoming} (h : t.IsIrq)
include h

theorem Incoming.IsIrq.toNat_line : (t.vector - 32).toNat = t.vector.toNat - 32 :=
  UInt8.toNat_sub_of_le t.vector 32 h.1

theorem Incoming.IsIrq.line_lt : (t.vector - 32).toNat < irqLines := by
  have hvector : 32 ≤ t.vector.toNat ∧ t.vector.toNat < 48 := h
  have hlines : irqLines = 16 := rfl
  rw [h.toNat_line]
  omega

theorem Incoming.IsIrq.irqLine : t.context.irqLine = some (t.vector - 32) := by
  have hvector : 32 ≤ t.vector.toNat ∧ t.vector.toNat < 48 := h
  have hsub := h.toNat_line
  have hline := h.line_lt
  rw [Context.irqLine_eq_some_iff, t.vectorWord_context]
  omega

theorem Incoming.IsIrq.line_eq_timer_iff :
    t.vector - 32 = Irq.Known.timer.line ↔ t.vector = Irq.Known.timer.vector := by
  have hvector : 32 ≤ t.vector.toNat ∧ t.vector.toNat < 48 := h
  have hsub := h.toNat_line
  have hbase : Irq.Known.timer.vector.toNat = 32 := rfl
  have hfirst : Irq.Known.timer.line.toNat = 0 := rfl
  rw [← UInt8.toNat_inj, ← UInt8.toNat_inj]
  omega

end Line

def Event.isTick : Event → Bool
  | .returned v _ _ => v = Irq.Known.timer.vector
  | _ => false

def served (es : List Event) : Nat := es.countP Event.isTick

theorem served_muted {new : List Event} (h : ∀ e ∈ new, e.isReturn = false) (past : List Event) :
    served (new ++ past) = served past := by
  have hnone : new.countP Event.isTick = 0 := by
    apply List.countP_eq_zero.mpr
    intro e he htick
    have hreturn := h e he
    cases e with
    | returned v loaded same => exact absurd hreturn.symm Bool.false_ne_true
    | _ => exact absurd htick Bool.false_ne_true
  rw [served, List.countP_append, hnone, Nat.zero_add, served]

/-- Both counts are what they must be, modulo 2^64. -/
structure Tallied (k : Kernel) (past : List Event) : Prop where
  ticks : k.ticks = UInt64.ofNat (served past)
  count : k.irqs.count Irq.Known.timer.line = k.ticks

instance (k : Kernel) (past : List Event) : Decidable (Tallied k past) :=
  decidable_of_iff (_ ∧ _) ⟨fun h => ⟨h.1, h.2⟩, fun h => ⟨h.ticks, h.count⟩⟩

def Later (past past' : List Event) : Prop :=
  ∃ new, past' = new ++ past ∧ .character mark ∉ new

theorem Later.refl (past : List Event) : Later past past := ⟨[], rfl, List.not_mem_nil⟩

theorem Later.trans {a b c : List Event} (h : Later a b) (k : Later b c) : Later a c := by
  obtain ⟨new, rfl, hnew⟩ := h
  obtain ⟨more, rfl, hmore⟩ := k
  refine ⟨more ++ new, by rw [List.append_assoc], ?_⟩
  exact fun he => (List.mem_append.mp he).elim hmore hnew

theorem later_sending {bytes : List UInt8} (h : mark ∉ bytes) (past : List Event) :
    Later past (sending bytes past) := by
  refine ⟨_, rfl, fun he => ?_⟩
  obtain ⟨b, hb, hbyte⟩ := List.mem_map.mp (List.mem_reverse.mp he)
  cases hbyte
  exact h hb

namespace Scene

def tallied (s : Scene) : Prop := Tallied s.kernel s.past

instance : DecidablePred tallied := fun s => inferInstanceAs (Decidable (Tallied s.kernel s.past))

/-- The kernel is ready for interrupts: no lock is taken, the gates are there, the timer has its
line and its rate, and no other line has a handler. -/
structure Armed (s : Scene) : Prop where
  locks : s.kernel.locks = {}
  gates : s.kernel.gates = GateTable.armed Trap.Adapter.addresses supportedVectors
  divisor : s.divisor = false
  rate : Kernel.Timer.rate s.kernel = 100
  timer : ∃ e, s.kernel.irqs.lookup Irq.Known.timer.line = some e ∧ e.handler = some .timer
  others : ∀ line e, line ≠ Irq.Known.timer.line → s.kernel.irqs.lookup line = some e →
    e.handler = none
  tallied : s.tallied

variable {s t : Scene}

theorem Adds.later (h : s.Adds t) : Later s.past t.past := by
  obtain ⟨new, rfl, hnew⟩ := h
  exact ⟨new, rfl, fun he => (hnew _ he).1 rfl⟩

theorem Armed.of_served (h : s.Armed) (hkernel : t.kernel = s.kernel)
    (hdivisor : t.divisor = s.divisor) (hserved : served t.past = served s.past) : t.Armed := by
  obtain ⟨flag, kernel, divisor, past⟩ := t
  cases hkernel
  cases hdivisor
  exact ⟨h.locks, h.gates, h.divisor, h.rate, h.timer, h.others,
    ⟨h.tallied.ticks.trans (congrArg UInt64.ofNat hserved.symm), h.tallied.count⟩⟩

theorem Armed.adds (h : s.Armed) (hst : s.Adds t) : t.Armed := by
  obtain ⟨new, rfl, hnew⟩ := hst
  exact h.of_served rfl rfl (served_muted (fun e he => (hnew e he).2) s.past)

theorem Armed.record_adds {e : Event} (h : (s.record e).Armed) (hst : s.Adds t) :
    (t.record e).Armed := by
  obtain ⟨new, rfl, hnew⟩ := hst
  refine h.of_served (t := Scene.record _ e) rfl rfl ?_
  have hserved := served_muted (fun e he => (hnew e he).2) s.past
  simp only [served, record, List.countP_cons] at hserved ⊢
  rw [hserved]

theorem Armed.say (h : s.Armed) (bytes : List UInt8) : (s.say bytes).Armed := by
  refine h.of_served (t := s.say bytes) rfl rfl (served_muted ?_ s.past)
  intro e he
  obtain ⟨b, -, rfl⟩ := List.mem_map.mp (List.mem_reverse.mp he)
  rfl

end Scene

end Machine

namespace Kernel

theorem steady_tallied : Steady Scene.tallied where
  locks _ _ h := ⟨h.ticks, h.count⟩
  record s e h he := by
    have hserved : served (s.record e).past = served s.past :=
      served_muted (show ∀ x ∈ [e], x.isReturn = false from fun x hx => by
        rwa [List.mem_singleton.mp hx]) s.past
    exact ⟨h.ticks.trans (by rw [hserved]), h.count⟩

section Interrupt

variable {s : Scene} {e : Irq.Entry Handler} (drivers : Drivers) (loaded : Registers) (same : Bool)

theorem armed_timer (h : s.Armed) (he : s.kernel.irqs.lookup Irq.Known.timer.line = some e)
    (hh : e.handler = some .timer) :
    ((s.serve (s.kernel.irqs.set Irq.Known.timer.line { e with count := e.count + 1 })
      (s.kernel.ticks + 1)).record (.returned Irq.Known.timer.vector loaded same)).Armed := by
  have hline : Irq.Known.timer.line.toNat < irqLines := by decide
  have hlookup := Irq.Table.lookup_set s.kernel.irqs hline { e with count := e.count + 1 }
  have htimer := (hlookup Irq.Known.timer.line).trans (if_pos rfl)
  have hcount : e.count = s.kernel.ticks := by
    rw [← h.tallied.count, Irq.Table.count_of_lookup he]
  have hserved : served (.returned Irq.Known.timer.vector loaded same :: s.past) =
      served s.past + 1 := List.countP_cons_of_pos rfl
  refine ⟨h.locks, h.gates, h.divisor, h.rate, ⟨_, htimer, hh⟩, ?_, ?_, ?_⟩
  · intro line x hline hx
    exact h.others line x hline (((hlookup line).trans (if_neg hline)).symm.trans hx)
  · change s.kernel.ticks + 1 = UInt64.ofNat (served (_ :: s.past))
    rw [hserved, UInt64.ofNat_add, h.tallied.ticks]
    rfl
  · refine (Irq.Table.count_of_lookup htimer).trans ?_
    rw [hcount]
    rfl

theorem armed_unhandled (h : s.Armed) {line v : UInt8} (hline : line ≠ Irq.Known.timer.line)
    (hv : v ≠ Irq.Known.timer.vector) (he : s.kernel.irqs.lookup line = some e)
    (hh : e.handler = none) :
    ((s.serve (if e.reported then s.kernel.irqs
      else s.kernel.irqs.set line { e with reported := true }) s.kernel.ticks).record
        (.returned v loaded same)).Armed := by
  have hlookup := Irq.Table.lookup_set s.kernel.irqs (Irq.Table.lt_of_lookup he)
    { e with reported := true }
  have hserved : served (.returned v loaded same :: s.past) = served s.past :=
    List.countP_cons_of_neg (by simpa [Event.isTick] using hv)
  have htallied : s.tallied := h.tallied
  obtain ⟨x, hx, hxh⟩ := h.timer
  cases e.reported with
  | true =>
    exact h.of_served rfl rfl hserved
  | false =>
    have htimer := (hlookup Irq.Known.timer.line).trans (if_neg hline.symm)
    refine ⟨h.locks, h.gates, h.divisor, h.rate, ⟨x, htimer.trans hx, hxh⟩, ?_, ?_, ?_⟩
    · intro other y hother hy
      rcases eq_or_ne other line with rfl | hne
      · have hset := (hlookup other).trans (if_pos rfl)
        cases hset.symm.trans hy
        exact hh
      · exact h.others other y hother (((hlookup other).trans (if_neg hne)).symm.trans hy)
    · exact h.tallied.ticks.trans (congrArg UInt64.ofNat hserved.symm)
    · refine Eq.trans ?_ h.tallied.count
      rw [Irq.Table.count_of_lookup hx]
      exact Irq.Table.count_of_lookup (htimer.trans hx)

/-- An IRQ leaves the kernel ready for the next, whatever flag it returns to. -/
theorem runs_interrupt (h : s.Armed) (hflag : s.flag = false) {t : Incoming}
    (hirq : t.IsIrq) :
    Runs unwatched (Interrupts.dispatch drivers t.context)
      (fun _ x => Later s.past x.past ∧ (x.record (.returned t.vector loaded same)).Armed) s := by
  have hc := hirq.irqLine
  have hclosed : Closed unwatched s := ⟨hflag, trivial⟩
  rcases eq_or_ne (t.vector - 32) Irq.Known.timer.line with hline | hline
  · have hv := hirq.line_eq_timer_iff.mp hline
    obtain ⟨e, he, hh⟩ := h.timer
    rw [hline] at hc
    apply (runs_timer drivers hclosed h.locks hc he hh).mono
    intro _ x hx
    rw [hv]
    exact ⟨hx.later, (armed_timer loaded same h he hh).record_adds hx⟩
  · have hv : t.vector ≠ Irq.Known.timer.vector := mt hirq.line_eq_timer_iff.mpr hline
    obtain ⟨e, he⟩ := s.kernel.irqs.exists_lookup hirq.line_lt
    have hh := h.others _ e hline he
    apply (runs_unhandled drivers hclosed h.locks h.divisor hc he hh).mono
    intro _ x hx
    exact ⟨hx.later, (armed_unhandled loaded same h hline hv he hh).record_adds hx⟩

end Interrupt

/-- Interrupts are open, the kernel is ready for them, and the mark was not sent since. -/
structure Opened (since : List Event) (table : Option TablePointer) (s : Scene) : Prop where
  flag : s.flag = true
  loaded : table = some ⟨4095, GateTable.address⟩
  armed : s.Armed
  later : Later since s.past

/-- Open code finds the kernel ready for interrupts before each of its requests, and where it
comes to rest, if it may. -/
def openTerms (rests : Prop) (since : List Event) : Terms Prop where
  view m := Opened since m.idtr (scene m)
  ok ready _ := ready
  stop why ready := rests ∧ why = .idle ∧ ready
  expects := Incoming.IsIrq
  view_tick _ := rfl
  view_arrivals _ _ := rfl
  view_wake _ _ := rfl

theorem openTerms_bear (drivers : Drivers) (rests : Prop) (since : List Event) (k : Nat) :
    (openTerms rests since).Bears (take drivers k) fun _ _ => [] := by
  cases k with
  | zero => exact fun t m _ he _ _ => .answered rfl he
  | succ k =>
    rintro t m hirq he ⟨r, hopen⟩ -
    have hg : Gated supportedVectors m.idtr m.kernel.gates := ⟨hopen.loaded, hopen.armed.gates⟩
    have hc : 32 ≤ t.context.vectorWord.toNat % 256 := t.vectorWord_context.symm ▸ hirq.1
    have hbehind : (scene (m.behindGate t)).Armed := hopen.armed.of_served rfl rfl rfl
    rw [take_gated hg (Nat.le_refl _) hirq.2, entry_eq_dispatch drivers hc]
    have hruns := runs_interrupt drivers t.registers true hbehind rfl hirq
    have hends := ((hruns m.idtr).holds (m := m.behindGate t)
      (closedTerms_bear unwatched (take drivers k) fun _ _ => []) ⟨he.arrivals, he.wake⟩).ends
    cases ho : runWith (take drivers k) (Interrupts.dispatch drivers t.context)
      (m.behindGate t) with
    | stopped why m' =>
      rw [ho] at hends
      exact hends.elim
    | answered _ after =>
      rw [ho] at hends
      obtain ⟨⟨⟨hlater, harmed⟩, htable⟩, he'⟩ := hends
      have hsame : decide (t.registers = t.registers) = true := decide_eq_true rfl
      have hpast : (after.leaveGate m.flag t t.registers).past =
          .returned t.vector t.registers true :: after.past := by
        rw [leaveGate, hsame]
        rfl
      have hlast : Later after.past (after.leaveGate m.flag t t.registers).past := by
        rw [hpast]
        refine ⟨[_], rfl, ?_⟩
        simp
      refine .answered (propext ⟨fun _ => hopen, fun _ => ⟨hopen.flag, ?_, ?_, ?_⟩⟩)
        ⟨he'.arrivals, he'.wake⟩
      · exact htable.trans hopen.loaded
      · exact harmed.of_served rfl rfl (congrArg served hpast)
      · exact (hopen.later.trans hlater).trans hlast

end Kernel

end InterruptCore

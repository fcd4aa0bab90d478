import InterruptCore.Proofs.Kernel.Sections
import InterruptCore.Proofs.Machine.Gates

/-! What interrupts leave alone. The service of an interrupt counts, marks the table of lines, runs
a handler and acknowledges the line. A part of the machine that has to do with none of it is the
same after the interrupt, if the handlers of devices let it be. -/
namespace InterruptCore

open Machine Program

variable {ρ : Type}

structure Kernel.Locks.Open (ls : Kernel.Locks) : Prop where
  serial : ls.serial = false
  controllers : ls.controllers = false
  writer : ls.tableWriter = false

theorem Kernel.Locks.Open.take_tableRead {ls : Kernel.Locks} (h : ls.Open) :
    (ls.take .tableRead).Open := ⟨h.serial, h.controllers, h.writer⟩

def Machine.Incoming.IsIrq (t : Incoming) : Prop :=
  exceptionVectors ≤ t.vector.toNat ∧ t.vector.toNat < supportedVectors

instance (t : Incoming) : Decidable t.IsIrq := inferInstanceAs (Decidable (_ ∧ _))

theorem Machine.Incoming.IsIrq.flag_of_accepts {t : Incoming} (h : t.IsIrq) {m : Machine}
    (haccepts : m.accepts t = true) : m.flag = true := by
  rw [accepts, Bool.or_eq_true, decide_eq_true_eq] at haccepts
  exact haccepts.resolve_right (Nat.not_lt.mpr h.1)

theorem Kernel.entry_eq_dispatch (drivers : Kernel.Drivers) {c : Context}
    (hc : 32 ≤ c.vectorWord.toNat % 256) :
    Kernel.Traps.entry drivers c = Kernel.Interrupts.dispatch drivers c := by
  simp only [Kernel.Traps.entry, Kernel.Traps.dispatch, Trap.dispatch, Trap.route_eq_irq hc,
    Kernel.Traps.targets, LawfulMonad.bind_assoc, LawfulMonad.pure_bind]
  exact bind_pure (Kernel.Interrupts.dispatch drivers c)

namespace Machine.Watch

open Kernel

variable {W : Watch ρ} {g : Guard ρ} {drivers : Drivers}

/-- The part has to do with nothing that the service of an interrupt changes, and where
interrupts may come they are IRQs that find their gates and no lock in their way. -/
structure Steady (W : Watch ρ) : Prop where
  ticks : ∀ (m : Machine) n, W.part { m with kernel := { m.kernel with ticks := n } } = W.part m
  irqs : ∀ (m : Machine) t, W.part { m with kernel := { m.kernel with irqs := t } } = W.part m
  acknowledge : ∀ (m : Machine) p, p = Port.pic1Command ∨ p = Port.pic2Command →
    W.part (m.writePort p Pic.endWord) = W.part m
  behindGate : ∀ m t, W.part (m.behindGate t) = W.part m
  leaveGate : ∀ m found t loaded, W.part (m.leaveGate found t loaded) = W.part m
  calm : ∀ m, W.calm m.kernel.locks → W.inv (W.part m) →
    m.kernel.locks.Open ∧ Gated supportedVectors m.idtr m.kernel.gates
  expects : ∀ t, W.expects t → t.IsIrq

def KeptBy (W : Watch ρ) (drivers : Drivers) : Prop :=
  ∀ d c (g : Guard ρ), g.flag = false → g.locks.Open → W.inv g.rest → W.Keeps (drivers d c) g

theorem keeps_unseen (hs : W.Safe g) {f : Kernel → Kernel}
    (hf : ∀ m : Machine, W.view { m with kernel := f m.kernel } = W.view m) :
    W.Keeps (change f) g := by
  apply ask_memory hs
  rintro m rfl
  exact hf m

namespace Steady

variable (hW : W.Steady)
include hW

theorem keeps_acknowledgement (hs : W.Safe g) (line : UInt8) :
    W.Keeps (Controllers.command (.endOfInterrupt line)) g := by
  have hwrite : ∀ p, p = Port.pic1Command ∨ p = Port.pic2Command →
      W.Keeps (Controllers.transfer (.write p Pic.endWord)) g := fun p hp =>
    ask_out hs (fun m => hW.acknowledge m p hp) rfl
  have htransfers : ∀ t ∈ Pic.acknowledge line, W.Keeps (Controllers.transfer t) g := by
    intro t ht
    rw [Pic.acknowledge, List.mem_append, List.mem_singleton] at ht
    rcases ht with ht | rfl
    · split at ht
      · exact absurd ht List.not_mem_nil
      · rw [List.mem_singleton.mp ht]
        exact hwrite _ (.inr rfl)
    · exact hwrite _ (.inl rfl)
  apply ask_look hs
  intro m _
  apply (keeps_mapM htransfers).bind
  intro values
  exact (keeps_unseen hs fun _ => rfl).bind fun _ => keeps_pure _

variable (hd : W.KeptBy drivers) (hflag : g.flag = false) (hopen : g.locks.Open)
  (hinv : W.inv g.rest)
include hd hflag hopen hinv

theorem keeps_perform (c : Context) (a : Irq.Action Handler) :
    W.Keeps (Interrupts.perform drivers c a) g := by
  have hs : W.Safe g := .of_closed hflag hinv
  cases a with
  | log line => exact keeps_writeLog hs line
  | run h =>
    cases h with
    | timer =>
      apply keeps_unseen hs
      exact fun m => view_eq.mpr ⟨rfl, rfl, hW.ticks m _⟩
    | device d => exact hd d c g hflag hopen hinv
  | acknowledge line =>
    have hfree : g.locks.free .controllers = true := by rw [Locks.free, hopen.controllers]; rfl
    have hs' : W.Safe { g with locks := g.locks.take .controllers } := .of_closed hflag hinv
    apply keeps_holding hs hfree hs'
    exact (hW.keeps_acknowledgement hs' line).bind fun _ => keeps_pure ()

theorem keeps_dispatch (c : Context) : W.Keeps (Interrupts.dispatch drivers c) g := by
  have hs : ∀ locks, W.Safe { g with locks := locks } := fun _ => .of_closed hflag hinv
  have hfree : g.locks.free .tableRead = true := by rw [Locks.free, hopen.writer]; rfl
  apply keeps_holding (hs g.locks) hfree (hs _)
  apply ask_memory (hs _)
  intro m hm
  have hmarked : W.view { m with
      kernel := { m.kernel with irqs := (m.kernel.irqs.dispatch c).1 } } =
      { g with locks := g.locks.take .tableRead } := by
    rw [← hm]
    exact view_eq.mpr ⟨rfl, rfl, hW.irqs m _⟩
  rw [hmarked]
  apply keeps_forM
  intro a _
  exact hW.keeps_perform (g := { g with locks := g.locks.take .tableRead }) hd hflag
    hopen.take_tableRead hinv c a

omit hflag hopen hinv in
/-- An interrupt comes only where no lock stands in its way, and keeps to the watch. -/
theorem bears (k : Nat) : W.terms.Bears (take drivers k) (visit drivers k) := by
  induction k with
  | zero => exact fun t m _ he _ _ => .answered rfl he
  | succ k ih =>
    rintro t m ht he ⟨r, hs, -⟩ haccepts
    have hirq : t.IsIrq := hW.expects t ht
    -- The flag was set where the interrupt came, so that the locks there are open.
    have hflag : m.flag = true := hirq.flag_of_accepts haccepts
    obtain ⟨hopen, hg⟩ := hW.calm m (hs.1 hflag) hs.2
    have hc : 32 ≤ t.context.vectorWord.toNat % 256 := t.vectorWord_context.symm ▸ hirq.1
    have hbehind : W.view (m.behindGate t) = ⟨false, m.kernel.locks, W.part m⟩ :=
      view_eq.mpr ⟨rfl, rfl, hW.behindGate m t⟩
    have hkeeps : W.Keeps (Interrupts.dispatch drivers t.context) (W.view (m.behindGate t)) := by
      rw [hbehind]
      exact hW.keeps_dispatch (g := ⟨false, m.kernel.locks, W.part m⟩) hd rfl hopen hs.2 t.context
    rw [take_gated hg (Nat.le_refl _) hirq.2, visit_gated hg (Nat.le_refl _) hirq.2,
      entry_eq_dispatch drivers hc]
    apply (Terms.Meets.holds ih hkeeps ⟨he.arrivals, he.wake⟩).bind
    intro _ after hafter he'
    refine .answered ?_ ⟨he'.arrivals, he'.wake⟩
    obtain ⟨-, hlocks, hpart⟩ := view_eq.mp (hafter.trans hbehind)
    exact view_eq.mpr ⟨rfl, hlocks, (hW.leaveGate after _ t _).trans hpart⟩

end Steady

end Machine.Watch

end InterruptCore

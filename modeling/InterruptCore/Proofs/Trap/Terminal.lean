import InterruptCore.Proofs.Kernel.Masked
import InterruptCore.Proofs.Machine.Gates
import InterruptCore.Proofs.Machine.Starts

/-! Exceptions end all work. From the gate on interrupts are off, no lock is waited for and
nothing returns, also when exceptions nest. The fault handler's lock, its state and the mark of
a panic each let a report begin once. -/
namespace InterruptCore.Machine

open Kernel

structure Standing where
  flag : Bool
  idtr : Option TablePointer
  gates : GateTable
  returns : List Event
  held : Bool
  state : Fault.State
  panicking : Bool

def standing (m : Machine) : Standing where
  flag := m.flag
  idtr := m.idtr
  gates := m.kernel.gates
  returns := m.past.filter Event.isReturn
  held := m.kernel.locks.faults
  state := m.kernel.faults.state
  panicking := m.kernel.panicking.isSet

/-- Interrupts are off, the vectors below `n` have their gates, and nothing has returned since. -/
structure Standing.Closed (n : Nat) (returns : List Event) (s : Standing) : Prop where
  masked : s.flag = false
  gated : Gated n s.idtr s.gates
  returned : s.returns = returns

def terminal (n : Nat) (returns : List Event) : Terms Standing where
  view := standing
  ok s r := s.Closed n returns ∧ ∀ l, r ≠ .acquire l
  stop why s := why = .halted ∧ s.Closed n returns
  expects _ := True
  view_tick _ := rfl
  view_arrivals _ _ := rfl
  view_wake _ _ := rfl

def Request.Plain : Request → Prop
  | .tryAcquire l | .release l => l ≠ .faults
  | r => r.Quiet

theorem Request.Plain.masked {r : Request} (hr : r.Plain) (a : r.Answer) : r.Masked a := by
  cases r <;> trivial

theorem standing_of_alike {m m' : Machine} (h : Alike m m') : standing m' = standing m := by
  simp only [standing, h.flag, h.idtr, h.kernel, h.returns]

section Requests

variable {n : Nat} {returns : List Event} {s : Standing}

theorem follows_plain {r : Request} (hr : r.Plain) {K : r.Answer → Standing → Prop}
    (hK : ∀ a, K a s) : (terminal n returns).Follows s r K := by
  have hquiet : r.Quiet → (terminal n returns).Follows s r K := fun hr =>
    Terms.follows_quiet hr (fun _ _ => standing_of_alike) hK
  cases r with
  | tryAcquire l =>
    apply Terms.follows_of_answered (r := .tryAcquire l) id
    rintro m rfl
    by_cases hfree : m.kernel.locks.free l = true
    · refine ⟨true, m.mapLocks (·.take l), if_pos hfree, ?_⟩
      have hstanding : standing (m.mapLocks (·.take l)) = standing m := by
        cases l <;> first | rfl | exact absurd rfl hr
      change K true (standing (m.mapLocks (·.take l)))
      rw [hstanding]
      exact hK true
    · exact ⟨false, m, if_neg hfree, hK false⟩
  | release l =>
    apply Terms.follows_of_answered (r := .release l) id
    rintro m rfl
    refine ⟨(), m.mapLocks (·.drop l), rfl, ?_⟩
    have hstanding : standing (m.mapLocks (·.drop l)) = standing m := by
      cases l <;> first | rfl | exact absurd rfl hr
    change K () (standing (m.mapLocks (·.drop l)))
    rw [hstanding]
    exact hK ()
  | _ => exact hquiet hr

theorem follows_haltForever (hs : s.Closed n returns) {K : Empty → Standing → Prop} :
    (terminal n returns).Follows s .haltForever K := by
  refine ⟨⟨hs, nofun⟩, ?_⟩
  intro m hm
  have hflag : m.flag = false := (congrArg Standing.flag hm).trans hs.masked
  refine ⟨?_, hs⟩
  rw [waitingStop, hflag]
  rfl

theorem follows_interruptFlag (hs : s.Closed n returns) {K : Bool → Standing → Prop}
    (hK : K false s) : (terminal n returns).Follows s .interruptFlag K := by
  intro m hm
  have hflag : m.flag = false := (congrArg Standing.flag hm).trans hs.masked
  change K m.flag (standing m)
  rwa [hflag, show standing m = s from hm]

theorem follows_clearFlag (hs : s.Closed n returns) {K : Unit → Standing → Prop} (hK : K () s) :
    (terminal n returns).Follows s .clearFlag K := by
  intro m hm
  have hclear : standing { m with flag := false } = s := by
    rw [← show standing m = s from hm]
    have hflag : m.flag = false := (congrArg Standing.flag hm).trans hs.masked
    simp [standing, hflag]
  change K () (standing { m with flag := false })
  rwa [hclear]

theorem follows_memory {f : Kernel → Kernel} {K : Kernel → Standing → Prop}
    (hK : ∀ m, standing m = s → K m.kernel (standing { m with kernel := f m.kernel })) :
    (terminal n returns).Follows s (.memory f) K := hK

theorem follows_tryAcquire {K : Bool → Standing → Prop}
    (hK : if s.held then K false s else K true { s with held := true }) :
    (terminal n returns).Follows s (.tryAcquire .faults) K := by
  rintro m rfl
  change if m.kernel.locks.faults = true then K false (standing m)
    else K true { standing m with held := true } at hK
  have hfree : m.kernel.locks.free .faults = !m.kernel.locks.faults := rfl
  simp only [perform]
  split at hK
  · rename_i hheld
    rw [if_neg (by rw [hfree, hheld]; exact Bool.false_ne_true)]
    exact hK
  · rename_i hheld
    rw [if_pos (by rw [hfree, Bool.eq_false_iff.mpr hheld]; rfl)]
    exact hK

theorem follows_release {K : Unit → Standing → Prop} (hK : K () { s with held := false }) :
    (terminal n returns).Follows s (.release .faults) K := by
  rintro m rfl
  exact hK

theorem Request.Tame.keeps {r : Request} (hr : r.Tame) (hs : s.Closed n returns) :
    (terminal n returns).ok s r ∧
      (terminal n returns).Follows s r fun a s => r.Masked a ∧ s.Closed n returns := by
  refine ⟨⟨hs, ?_⟩, ?_⟩
  · rintro l rfl
    exact hr
  have hplain : r.Plain → (terminal n returns).Follows s r
      fun a s => r.Masked a ∧ s.Closed n returns :=
    fun h => follows_plain h fun a => ⟨h.masked a, hs⟩
  cases r with
  | interruptFlag => exact follows_interruptFlag hs ⟨rfl, hs⟩
  | clearFlag => exact follows_clearFlag hs ⟨trivial, hs⟩
  | haltForever => exact follows_haltForever hs
  | memory f =>
    apply follows_memory
    rintro m rfl
    exact ⟨trivial, hs.masked, ⟨hs.gated.loaded, (hr m.kernel).trans hs.gated.armed⟩, hs.returned⟩
  | tryAcquire l =>
    by_cases hl : l = .faults
    · subst hl
      apply follows_tryAcquire
      split
      · exact ⟨trivial, hs⟩
      · exact ⟨trivial, hs.masked, hs.gated, hs.returned⟩
    · exact hplain hl
  | release l =>
    by_cases hl : l = .faults
    · subst hl
      exact follows_release ⟨trivial, hs.masked, hs.gated, hs.returned⟩
    · exact hplain hl
  | _ => first | exact hplain trivial | exact hr.elim

end Requests

section Nesting

variable {n : Nat} (hlo : exceptionVectors ≤ n) (hhi : n ≤ supportedVectors)
include hlo hhi

/-- Whatever an exception interrupts, it does not return to it. -/
theorem exception_holds {drivers : Drivers} {k : Nat} {returns : List Event}
    (hb : (terminal n returns).Bears (take drivers k) (visit drivers k)) {t : Incoming}
    {m : Machine} (hv : t.vector.toNat < exceptionVectors) (hg : Gated n m.idtr m.kernel.gates)
    (hreturns : m.past.filter Event.isReturn = returns) :
    (terminal n returns).Holds (visit drivers (k + 1) t m) (take drivers (k + 1) t m)
      fun _ _ => False := by
  have hvn : t.vector.toNat < n := Nat.lt_of_lt_of_le hv hlo
  rw [take_gated hg hhi hvn, visit_gated hg hhi hvn]
  have hclosed : (standing (m.behindGate t)).Closed n returns := ⟨rfl, hg, hreturns⟩
  have hexception : t.context.vectorWord.toNat % 256 < 32 := t.vectorWord_context.symm ▸ hv
  have htame : (Traps.entry drivers t.context).Masked Request.Tame fun _ => False :=
    Traps.tame_entry hexception
  have hmeets := htame.meets (T := terminal n returns) (fun _ _ => Request.Tame.keeps) hclosed
  have hholds := hmeets.holds hb ⟨fun _ _ => trivial, fun _ _ => trivial⟩
  exact hholds.bind fun _ _ h => h.1.elim

theorem exceptions_bear (drivers : Drivers) (returns : List Event) (k : Nat) :
    (terminal n returns).Bears (take drivers k) (visit drivers k) := by
  induction k with
  | zero => exact fun t m _ he _ _ => .answered rfl he
  | succ k ih =>
    rintro t m - he ⟨r, hclosed, -⟩ haccepts
    have hflag : m.flag = false := hclosed.masked
    rw [accepts, hflag, Bool.false_or, decide_eq_true_eq] at haccepts
    have hholds := exception_holds hlo hhi ih haccepts hclosed.gated hclosed.returned
    exact ⟨hholds.instants, hholds.ends.mono (fun _ _ h => h.1.elim) fun _ _ => id⟩

end Nesting

end InterruptCore.Machine

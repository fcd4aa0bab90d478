import InterruptCore.Proofs.Trap.Terminal

/-! No interrupt preempts a trap. The gate clears the interrupt flag; the code behind it saves,
clears and restores the flag many times, but finds it clear every time. Exceptions still come
through, and they leave the flag clear in their turn. Only the return to the interrupted code
brings its own flag back. -/
namespace InterruptCore.Machine

open Kernel

def masking : Terms Bool where
  view m := m.flag
  ok flag _ := flag = false
  stop _ flag := flag = false
  expects _ := True
  view_tick _ := rfl
  view_arrivals _ _ := rfl
  view_wake _ _ := rfl

theorem perform_masked {r : Request} (hr : r ≠ .setFlag) {m : Machine} (hm : m.flag = false) :
    (perform r m).Ends (fun a m => r.Masked a ∧ m.flag = false) fun _ m => m.flag = false := by
  cases r with
  | setFlag => exact absurd rfl hr
  | clearFlag => exact ⟨trivial, rfl⟩
  | interruptFlag => exact ⟨hm, hm⟩
  | input p =>
    simp only [perform, readPort]
    split
    · rcases m.busyReads with _ | ⟨_ | n, rest⟩ <;> exact ⟨trivial, hm⟩
    · exact ⟨trivial, hm⟩
  | poll w =>
    rw [perform_poll]
    exact ⟨trivial, hm⟩
  | haltWhile waiting =>
    simp only [perform]
    split
    · exact hm
    · exact ⟨trivial, hm⟩
  | acquire l =>
    simp only [perform]
    split
    · exact ⟨trivial, hm⟩
    · exact hm
  | tryAcquire l =>
    simp only [perform]
    split
    · exact ⟨trivial, hm⟩
    · exact ⟨trivial, hm⟩
  | halt => exact hm
  | haltForever => exact hm
  | _ => exact ⟨trivial, hm⟩

theorem masking_step {r : Request} {flag : Bool} (hr : r ≠ .setFlag) (hflag : flag = false) :
    masking.ok flag r ∧ masking.Follows flag r fun a flag => r.Masked a ∧ flag = false := by
  refine ⟨hflag, ?_⟩
  have hperform : ∀ m, masking.view m = flag → (perform r m).Ends
      (fun a m => r.Masked a ∧ masking.view m = false) fun why m => masking.stop why m.flag :=
    fun m hm => perform_masked hr (Eq.trans hm hflag)
  have hwaits : masking.Waits flag := ⟨hflag, fun _ _ => hflag⟩
  cases r with
  | poll w =>
    refine Terms.follows_quiet (T := masking) (r := .poll w) trivial ?_ fun _ => ⟨trivial, hflag⟩
    exact fun _ _ halike => halike.flag
  | halt => exact ⟨hwaits, trivial, hflag⟩
  | haltWhile waiting => exact ⟨hwaits, fun _ _ _ => ⟨trivial, hflag⟩⟩
  | haltForever => exact hwaits
  | _ => exact hperform

section Drivers

variable {drivers : Drivers} (hd : ∀ d c, (drivers d c).StaysMasked)
include hd

theorem entry_holds {k : Nat} (hb : masking.Bears (take drivers k) (visit drivers k))
    {m : Machine} (hm : m.flag = false) (c : Context) :
    masking.Holds (instantsWith (take drivers k) (visit drivers k) (Traps.entry drivers c) m)
      (runWith (take drivers k) (Traps.entry drivers c) m) fun _ flag => flag = false := by
  have hmeets := (masked_entry hd c).meets (T := masking) (fun _ _ => masking_step) hm
  have hholds := hmeets.holds hb ⟨fun _ _ => trivial, fun _ _ => trivial⟩
  exact ⟨hholds.instants, hholds.ends.mono (fun _ _ h => ⟨h.1.2, h.2⟩) fun _ _ => id⟩

/-- A trap that is taken with the flag clear leaves it clear, whatever gate it goes through. -/
theorem masking_bears (k : Nat) : masking.Bears (take drivers k) (visit drivers k) := by
  induction k with
  | zero => exact fun t m _ he _ _ => .answered rfl he
  | succ k ih =>
    rintro t m - he ⟨_, hok⟩ -
    have hm : m.flag = false := hok
    simp only [take, visit]
    cases m.idtr with
    | none => exact .stopped hm
    | some p =>
      simp only
      cases gateFor p m.kernel.gates t.vector with
      | none => exact .stopped hm
      | some g =>
        simp only
        cases adapterAt? Trap.Adapter.addresses g.offset with
        | none => exact .stopped hm
        | some v =>
          -- A trap gate would leave the flag alone, and it is clear already.
          have hgate : (m.enterGate g t).flag = false := by
            unfold enterGate
            cases g.type with
            | interrupt => rfl
            | trap => exact hm
          apply (entry_holds hd ih hgate _).bind
          intro _ after _ he'
          exact .answered rfl ⟨he'.arrivals, he'.wake⟩

/-- From the gate on the interrupt flag is clear: up to the return of an interrupt, which sets it
to what it was in the interrupted code, and for ever once an exception came. -/
theorem interrupt_masked_until_return (m : Machine)
    (hg : Gated supportedVectors m.idtr m.kernel.gates) (t : Incoming)
    (hv : t.vector.toNat < supportedVectors)
    (hframe : t.registers.frame.interruptFlag = m.flag) :
    (∀ i ∈ interruptInstants drivers t m, i.machine.flag = false) ∧
    match interrupt drivers t m with
    | .answered _ m' => exceptionVectors ≤ t.vector.toNat ∧
        m'.flag = t.registers.frame.interruptFlag ∧
        ∃ after : Machine, after.flag = false ∧ m' = after.leaveGate m.flag t t.registers
    | .stopped why m' => m'.flag = false ∧ (t.vector.toNat < exceptionVectors → why = .halted) := by
  have hholds := entry_holds hd (masking_bears hd m.pending) (m := m.behindGate t) rfl t.context
  refine ⟨?_, ?_⟩
  · rw [interruptInstants, visit_gated hg (Nat.le_refl _) hv]
    exact hholds.instants
  have hends := hholds.ends
  have hexception : t.vector.toNat < exceptionVectors →
      (interrupt drivers t m).Ends (fun _ _ => False) fun why _ => why = .halted := by
    intro hv'
    have hbear := exceptions_bear (by decide) (Nat.le_refl _) drivers
      (m.past.filter Event.isReturn) m.pending
    have hhalts := exception_holds (by decide) (Nat.le_refl _) hbear hv' hg rfl
    exact hhalts.ends.mono (fun _ _ h => h.1) fun _ _ h => h.1
  rw [interrupt, take_gated hg (Nat.le_refl _) hv] at hexception ⊢
  cases ho : runWith (take drivers m.pending) (Traps.entry drivers t.context) (m.behindGate t) with
  | answered _ after =>
    rw [ho] at hends hexception
    refine ⟨Nat.le_of_not_lt hexception, hframe.symm, after, hends.1, rfl⟩
  | stopped why m' =>
    rw [ho] at hends hexception
    exact ⟨hends, hexception⟩

end Drivers

/-- A key press whose handler logs to the serial port, on the way of which the flag is saved and
restored for each piece of the line. -/
theorem interrupt_key_masked_until_return :
    let m : Machine :=
      { flag := true
        idtr := some ⟨4095, GateTable.address⟩
        kernel :=
          { gates := GateTable.armed Trap.Adapter.addresses supportedVectors
            log := { sink := some .serial }
            irqs := Irq.Table.empty.set 1 { handler := some (.device (.logger "keyboard")) } } }
    let t : Incoming := { vector := 33, registers := { frame := { rflags := 0x202 } } }
    (∀ d c, (notingDrivers d c).StaysMasked) ∧ Gated supportedVectors m.idtr m.kernel.gates ∧
    t.vector.toNat < supportedVectors ∧ t.registers.frame.interruptFlag = m.flag ∧
    (∀ i ∈ interruptInstants notingDrivers t m, i.machine.flag = false) ∧
    ∃ m', interrupt notingDrivers t m = .answered () m' ∧ m'.flag = true := by
  intro m t
  have hg : Gated supportedVectors m.idtr m.kernel.gates := ⟨rfl, rfl⟩
  have hanswered : (interrupt notingDrivers t m).isAnswered = true := by decide +kernel
  have h := interrupt_masked_until_return masked_notingDrivers m hg t (by decide) (by decide)
  refine ⟨masked_notingDrivers, hg, by decide, by decide, h.1, ?_⟩
  cases ho : interrupt notingDrivers t m with
  | answered _ m' =>
    rw [ho] at h
    exact ⟨m', rfl, h.2.2.1.trans (by decide)⟩
  | stopped why m' =>
    rw [ho] at hanswered
    exact absurd hanswered Bool.false_ne_true

end InterruptCore.Machine

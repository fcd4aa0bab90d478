import InterruptCore.Machine.Instants
import InterruptCore.Proofs.Trap.Delivery

/-! Traps through the kernel's own gates. Each of them leads to the adapter of its vector, which
hands the registers of the interrupted code to the kernel's entry with the interrupt flag clear,
and has them for the return. -/
namespace InterruptCore.Machine

open Kernel Trap

/-- The loaded table is the kernel's, and its gates are those of the vectors below `n`. -/
structure Gated (n : Nat) (idtr : Option TablePointer) (gates : GateTable) : Prop where
  loaded : idtr = some ⟨4095, GateTable.address⟩
  armed : gates = GateTable.armed Adapter.addresses n

variable {n : Nat} {t : Incoming} {m : Machine}

def behindGate (m : Machine) (t : Incoming) : Machine :=
  { m with flag := false, cr2 := t.cr2.getD m.cr2 }

def Incoming.context (t : Incoming) : Context :=
  Adapter.contextOf t.vector t.errorCode t.registers

theorem Incoming.vectorWord_context (t : Incoming) :
    t.context.vectorWord.toNat % 256 = t.vector.toNat :=
  Context.low_byte_of_word rfl

theorem gateFor_of_lt {gates : GateTable} (hn : n ≤ supportedVectors)
    (hgates : gates = GateTable.armed Adapter.addresses n) {v : UInt8} (hv : v.toNat < n) :
    gateFor ⟨4095, GateTable.address⟩ gates v = some
      (Gate64.kernelInterrupt (Adapter.addresses.get ⟨v.toNat, Nat.lt_of_lt_of_le hv hn⟩)) := by
  have hlimit : 16 * v.toNat + 15 ≤ (4095 : UInt16).toNat := by
    have hv := v.toNat_lt
    have h4095 : (4095 : UInt16).toNat = 4095 := rfl
    omega
  rw [gateFor, if_pos hlimit, hgates, GateTable.decode_armed hn hv]
  rfl

section Taken

variable (hg : Gated n m.idtr m.kernel.gates) (hn : n ≤ supportedVectors) (hv : t.vector.toNat < n)
include hg hn hv

theorem take_gated (drivers : Drivers) (k : Nat) :
    take drivers (k + 1) t m =
      (runWith (take drivers k) (Traps.entry drivers t.context) (m.behindGate t)).bind
        fun _ after => .answered () (after.leaveGate m.flag t t.registers) := by
  have hlt : t.vector.toNat < supportedVectors := Nat.lt_of_lt_of_le hv hn
  have hadapter := adapterAt_get Board.addresses_distinct ⟨t.vector.toNat, hlt⟩
  rw [UInt8.ofNat_toNat] at hadapter
  have hentry := Adapter.entry_eq hlt t.errorCode t.registers m.rsp
  have hexit : ∀ left, Adapter.exit
      (Adapter.entry t.vector (Trap.enter t.vector t.errorCode t.registers m.rsp)) left =
      t.registers := fun left =>
    Adapter.exit_eq _ t.context (by rw [hentry, Incoming.context]) left
  simp only [take, hg.loaded, gateFor_of_lt hn hg.armed hv, Gate64.kernelInterrupt, hadapter,
    Adapter.context_entry hlt, hexit]
  rfl

theorem visit_gated (drivers : Drivers) (k : Nat) :
    visit drivers (k + 1) t m =
      instantsWith (take drivers k) (visit drivers k) (Traps.entry drivers t.context)
        (m.behindGate t) := by
  have hlt : t.vector.toNat < supportedVectors := Nat.lt_of_lt_of_le hv hn
  have hadapter := adapterAt_get Board.addresses_distinct ⟨t.vector.toNat, hlt⟩
  rw [UInt8.ofNat_toNat] at hadapter
  simp only [visit, hg.loaded, gateFor_of_lt hn hg.armed hv, Gate64.kernelInterrupt, hadapter,
    Adapter.context_entry hlt]
  rfl

end Taken

end InterruptCore.Machine

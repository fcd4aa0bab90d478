import InterruptCore.Descriptor.GateTable
import InterruptCore.Proofs.Descriptor.Gate

/-! The gate table after it was populated. Populating is a fold that sets one gate after the
other; the table it ends with is given gate by gate, and nothing of the old one is in it. -/
namespace InterruptCore

open Gate64

theorem Gate64.kernelInterrupt_encodable (offset : UInt64) : (kernelInterrupt offset).Encodable :=
  ⟨(by decide : (0 : UInt8).toNat < 8), (by decide : (0 : UInt8).toNat < 4)⟩

namespace GateTable

def installed (withIrqs : Bool) : Nat := if withIrqs then supportedVectors else exceptionVectors

/-- The table with the first `n` gates pointed at the adapters and no other. -/
def armed (adapters : Adapters) (n : Nat) : GateTable :=
  Vector.ofFn fun v =>
    ((adapters.toList.take n)[v.val]?.map fun a => (kernelInterrupt a).word).getD 0

theorem installed_le (withIrqs : Bool) : installed withIrqs ≤ supportedVectors := by
  cases withIrqs <;> decide

theorem install_eq (t : GateTable) (a : UInt64) (i : Nat) :
    install t (a, i) = .ok (t.setIfInBounds i (kernelInterrupt a).word) := by
  rw [install, encode_eq_word (kernelInterrupt_encodable a)]
  rfl

theorem foldlM_install (l : List UInt64) (k : Nat) (t : GateTable) :
    ∃ t' : GateTable, (l.zipIdx k).foldlM install t = .ok t' ∧
      ∀ v (hv : v < gateCount), t'[v] =
        if k ≤ v then (l[v - k]?.map fun a => (kernelInterrupt a).word).getD t[v] else t[v] := by
  induction l generalizing k t with
  | nil =>
    refine ⟨t, rfl, ?_⟩
    intro v hv
    simp
  | cons a l ih =>
    obtain ⟨t', hfold, hgates⟩ := ih (k + 1) (t.setIfInBounds k (kernelInterrupt a).word)
    refine ⟨t', ?_, ?_⟩
    · rw [List.zipIdx_cons, List.foldlM_cons, install_eq]
      exact hfold
    · intro v hv
      rw [hgates v hv, Vector.getElem_setIfInBounds]
      rcases Nat.lt_trichotomy v k with hlt | rfl | hgt
      · have hstart : ¬ k ≤ v := Nat.not_le.mpr hlt
        have hrest : ¬ k + 1 ≤ v := by omega
        have hne : ¬ k = v := Nat.ne_of_gt hlt
        rw [if_neg hstart, if_neg hrest, if_neg hne]
      · have hrest : ¬ v + 1 ≤ v := Nat.not_succ_le_self v
        rw [if_neg hrest, if_pos rfl, if_pos (Nat.le_refl v), Nat.sub_self]
        rfl
      · have hstart : k ≤ v := Nat.le_of_lt hgt
        have hrest : k + 1 ≤ v := hgt
        have hne : ¬ k = v := Nat.ne_of_lt hgt
        have hsub : v - k = v - (k + 1) + 1 := by omega
        rw [if_pos hstart, if_pos hrest, if_neg hne, hsub, List.getElem?_cons_succ]

/-- Populating gives one table, whatever the table was. -/
theorem populate_eq (old : GateTable) (adapters : Adapters) (withIrqs : Bool) :
    populate old adapters withIrqs =
      .ok (installed withIrqs, armed adapters (installed withIrqs)) := by
  obtain ⟨t, hfold, hgates⟩ :=
    foldlM_install (adapters.toList.take (installed withIrqs)) 0 (old.map fun _ => 0)
  have ht : t = armed adapters (installed withIrqs) := by
    apply Vector.ext
    intro v hv
    rw [hgates v hv, armed, Vector.getElem_ofFn, if_pos (Nat.zero_le v), Vector.getElem_map]
    rfl
  have hpopulate : populate old adapters withIrqs =
      (((adapters.toList.take (installed withIrqs)).zipIdx.foldlM install (old.map fun _ => 0)).map
        fun t => (installed withIrqs, t)) := by
    unfold populate
    rfl
  rw [hpopulate, hfold, ht]
  rfl

variable {adapters : Adapters} {n : Nat} {v : UInt8}

theorem gate_armed (adapters : Adapters) (n : Nat) (v : UInt8) :
    (armed adapters n).gate v =
      ((adapters.toList.take n)[v.toNat]?.map fun a => (kernelInterrupt a).word).getD 0 := by
  have hv : v.toNat < gateCount := v.toNat_lt
  have hgate : (armed adapters n).gate v = (armed adapters n)[v.toNat] := rfl
  rw [hgate, armed, Vector.getElem_ofFn]

theorem gate_armed_of_lt (hn : n ≤ supportedVectors) (hv : v.toNat < n) :
    (armed adapters n).gate v =
      (kernelInterrupt (adapters.get ⟨v.toNat, Nat.lt_of_lt_of_le hv hn⟩)).word := by
  have hlookup : (adapters.toList.take n)[v.toNat]? =
      some (adapters.get ⟨v.toNat, Nat.lt_of_lt_of_le hv hn⟩) := by
    rw [List.getElem?_take_of_lt hv, Vector.getElem?_toList]
    exact Vector.getElem?_eq_getElem (Nat.lt_of_lt_of_le hv hn)
  rw [gate_armed, hlookup]
  rfl

theorem decode_armed (hn : n ≤ supportedVectors) (hv : v.toNat < n) :
    decode ((armed adapters n).gate v) =
      .ok (kernelInterrupt (adapters.get ⟨v.toNat, Nat.lt_of_lt_of_le hv hn⟩)) := by
  rw [gate_armed_of_lt hn hv, decode_word (kernelInterrupt_encodable _)]

theorem gate_armed_of_le (hv : n ≤ v.toNat) : (armed adapters n).gate v = 0 := by
  have hlen : (adapters.toList.take n).length ≤ v.toNat :=
    Nat.le_trans (List.length_take_le n adapters.toList) hv
  rw [gate_armed, List.getElem?_eq_none hlen]
  rfl

theorem isPresent_armed_iff (hn : n ≤ supportedVectors) :
    isPresent ((armed adapters n).gate v) = true ↔ v.toNat < n := by
  rcases Nat.lt_or_ge v.toNat n with hv | hv
  · rw [gate_armed_of_lt hn hv, isPresent_word (kernelInterrupt_encodable _)]
    exact iff_of_true rfl hv
  · rw [gate_armed_of_le hv]
    exact iff_of_false (by decide) (Nat.not_lt.mpr hv)

end GateTable

def Distinct (adapters : Adapters) : Prop :=
  ∀ i j : Fin supportedVectors, adapters.get i = adapters.get j → i = j

theorem adapterAt_get {adapters : Adapters} (hd : Distinct adapters) (i : Fin supportedVectors) :
    adapterAt? adapters (adapters.get i) = some (UInt8.ofNat i.val) := by
  have hlen : i.val < adapters.toList.length := by
    rw [Vector.length_toList]
    exact i.isLt
  have hfind : adapters.toList.findIdx? (· = adapters.get i) = some i.val := by
    rw [List.findIdx?_eq_some_iff_getElem]
    refine ⟨hlen, ?_, ?_⟩
    · rw [Vector.getElem_toList, decide_eq_true_eq]
      rfl
    · intro j hj
      have hjlt : j < supportedVectors := Nat.lt_trans hj i.isLt
      rw [Vector.getElem_toList, decide_eq_true_eq]
      intro heq
      have hij : (⟨j, hjlt⟩ : Fin supportedVectors) = i := hd ⟨j, hjlt⟩ i heq
      exact absurd (congrArg Fin.val hij) (Nat.ne_of_lt hj)
  rw [adapterAt?, hfind]
  rfl

end InterruptCore

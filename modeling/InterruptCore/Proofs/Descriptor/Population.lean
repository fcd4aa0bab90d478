import InterruptCore.Proofs.Descriptor.GateTable

/-! Populating the gate table again and again. The table after a call is a function of the
adapters and of whether there are IRQ gates, so that the last of several calls decides alone:
no gate of an earlier one is left, and none that stood in memory before the first. -/
namespace InterruptCore.GateTable

open Gate64

def repopulate (table : GateTable) (calls : List (Adapters × Bool)) :
    Except DescriptorError GateTable :=
  calls.foldlM (fun t call => (populate t call.1 call.2).map Prod.snd) table

/-- The table has the gates of the vectors below `n`, each to the adapter of its vector, and
no others. -/
structure Populated (adapters : Adapters) (n : Nat) (table : GateTable) : Prop where
  gates : ∀ (v : UInt8) (a : UInt64), v.toNat < n → adapters[v.toNat]? = some a →
    decode (table.gate v) = .ok
      { offset := a, selector := Selector.kernelCode, ist := 0, type := .interrupt, dpl := 0,
        present := true }
  others : ∀ v : UInt8, n ≤ v.toNat → bytes (table.gate v) = List.replicate 16 0
  presence : ∀ v : UInt8, isPresent (table.gate v) = true ↔ v.toNat < n
  count : table.toList.countP isPresent = n

theorem repopulate_concat (table : GateTable) (calls : List (Adapters × Bool))
    (call : Adapters × Bool) :
    repopulate table (calls ++ [call]) = (repopulate table calls).bind fun t =>
      (populate t call.1 call.2).map Prod.snd := by
  simp only [repopulate, List.foldlM_append, List.foldlM_cons, List.foldlM_nil, bind_pure]
  rfl

theorem exists_repopulate (table : GateTable) (calls : List (Adapters × Bool)) :
    ∃ t, repopulate table calls = .ok t := by
  induction calls generalizing table with
  | nil => exact ⟨table, rfl⟩
  | cons call calls ih =>
    obtain ⟨t, ht⟩ := ih (armed call.1 (installed call.2))
    refine ⟨t, ?_⟩
    unfold repopulate at ht ⊢
    rw [List.foldlM_cons, populate_eq]
    exact ht

variable {adapters : Adapters} {n : Nat}

theorem isPresent_getElem_armed (hn : n ≤ supportedVectors) {v : Nat} (hv : v < gateCount) :
    isPresent (armed adapters n)[v] = true ↔ v < n := by
  have hvector : (UInt8.ofNat v).toNat = v := UInt8.toNat_ofNat_of_lt' hv
  have hpresent : isPresent ((armed adapters n).gate (UInt8.ofNat v)) = true ↔
      (UInt8.ofNat v).toNat < n := isPresent_armed_iff hn
  rw [hvector] at hpresent
  rw [← hpresent]
  simp only [gate, hvector]
  rfl

theorem countP_armed (hn : n ≤ supportedVectors) :
    (armed adapters n).toList.countP isPresent = n := by
  have hgates : n ≤ gateCount := Nat.le_trans hn (by decide)
  have hlength : (armed adapters n).toList.length = gateCount := Vector.length_toList
  have hfront : ∀ raw ∈ (armed adapters n).toList.take n, isPresent raw = true := by
    intro raw hraw
    obtain ⟨v, hv, rfl⟩ := List.getElem_of_mem hraw
    rw [List.length_take, hlength] at hv
    rw [List.getElem_take, Vector.getElem_toList]
    exact (isPresent_getElem_armed hn (by omega)).mpr (by omega)
  have hback : ∀ raw ∈ (armed adapters n).toList.drop n, ¬ isPresent raw = true := by
    intro raw hraw
    obtain ⟨v, hv, rfl⟩ := List.getElem_of_mem hraw
    rw [List.length_drop, hlength] at hv
    rw [List.getElem_drop, Vector.getElem_toList, isPresent_getElem_armed hn (by omega)]
    omega
  calc (armed adapters n).toList.countP isPresent
      = ((armed adapters n).toList.take n ++ (armed adapters n).toList.drop n).countP
          isPresent := by rw [List.take_append_drop]
    _ = n + 0 := by
      rw [List.countP_append, List.countP_eq_length.mpr hfront, List.countP_eq_zero.mpr hback,
        List.length_take, hlength, Nat.min_eq_left hgates]

theorem populated_armed (hn : n ≤ supportedVectors) : Populated adapters n (armed adapters n) where
  gates v a hv ha := by
    have hlt : v.toNat < supportedVectors := Nat.lt_of_lt_of_le hv hn
    have hadapter : adapters.get ⟨v.toNat, hlt⟩ = a :=
      Option.some.inj ((Vector.getElem?_eq_getElem hlt).symm.trans ha)
    rw [decode_armed hn hv, hadapter]
    rfl
  others v hv := by
    rw [gate_armed_of_le hv]
    decide
  presence v := isPresent_armed_iff hn
  count := countP_armed hn

/-- One table comes of the adapters and of whether there are IRQ gates, whatever the 256 gates
were before. It has 48 or 32 gates and they are the right ones; and a last call with these
arguments gives the same table after any calls before it. -/
theorem populate_determines_table (adapters : Adapters) (withIrqs : Bool) :
    ∃ table : GateTable,
      (∀ old, populate old adapters withIrqs = .ok (if withIrqs then 48 else 32, table)) ∧
      Populated adapters (if withIrqs then 48 else 32) table ∧
      ∀ old earlier, repopulate old (earlier ++ [(adapters, withIrqs)]) = .ok table := by
  refine ⟨armed adapters (installed withIrqs), fun old => ?_, ?_, fun old earlier => ?_⟩
  · exact populate_eq old adapters withIrqs
  · exact populated_armed (installed_le withIrqs)
  · obtain ⟨t, ht⟩ := exists_repopulate old earlier
    rw [repopulate_concat, ht]
    change (populate t adapters withIrqs).map Prod.snd = _
    rw [populate_eq]
    rfl

/-- Gates full of ones, then the gates of all vectors, then those of the exceptions alone: the
adapter of vector 33 has no gate any more, and that of vector 14 has its own. -/
theorem populate_removes_irq_gates :
    let adapters : Adapters := Vector.ofFn fun v => 0xffff800000100000 + 16 * UInt64.ofNat v.val
    let stale : GateTable := Vector.replicate gateCount (BitVec.allOnes 128)
    ∃ table : GateTable,
      repopulate stale [(adapters, true), (adapters, false)] = .ok table ∧
      bytes (table.gate 33) = List.replicate 16 0 ∧
      decode (table.gate 14) = .ok (kernelInterrupt 0xffff8000001000e0) ∧
      table.toList.countP isPresent = 32 := by
  intro adapters stale
  obtain ⟨table, -, hpopulated, hlast⟩ := populate_determines_table adapters false
  refine ⟨table, hlast stale [(adapters, true)], hpopulated.others 33 (by decide), ?_,
    hpopulated.count⟩
  exact hpopulated.gates 14 0xffff8000001000e0 (by decide) (by decide)

end InterruptCore.GateTable

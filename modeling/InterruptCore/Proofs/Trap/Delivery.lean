import InterruptCore.Proofs.Descriptor.GateTable
import InterruptCore.Proofs.Trap.Separation
import InterruptCore.Proofs.Trap.Transparency

/-! Traps through the gates. However often the table was populated before, the last time
decides which gates there are, and each leads to the adapter of its own vector. What the
dispatcher then does depends on that vector alone. -/
namespace InterruptCore.Board

open Irq Pic Trap

def installedOn (b : Board) (line : UInt8) : Option Device :=
  (b.irqs.lookup line).bind Entry.handler

/-- What became of a trap on `v` that was handed to the dispatcher as `c`. An interrupt may
have run the handler of its line, once; then the line was acknowledged. -/
structure Delivered (b : Board) (v : UInt8) (c : Context) (d : Disposition) (t : Board) :
    Prop where
  halts : v.toNat < 32 →
    d = .halt ∧ t.faults.state = .halted ∧ t.irqs = b.irqs ∧ t.pic = b.pic ∧
    t.latches = b.latches ∧
    ∃ text : List String, t.events = b.events ++ .fault v :: text.map .reported
  resumes : 32 ≤ v.toNat → v.toNat < 48 →
    d = .resume ∧
    ∃ own, (∀ e ∈ own, Event.IsOutput e) ∧ t.events = b.events ++ .irq v ::
      ((b.installedOn (v - 32)).toList.map (.called · c) ++ own ++ endEvents (v - 32))

section Dispatch

variable {drivers : Drivers} {b : Board} {c : Context} {v : UInt8} {cr2 : UInt64}

theorem run_dispatchIrq_line (hi : drivers.Isolated) {line : UInt8}
    (hc : c.irqLine = some line) :
    ∃ own, (∀ e ∈ own, Event.IsOutput e) ∧
      ((dispatchIrq drivers c).run b).2.events = b.events ++
        ((b.installedOn line).toList.map (.called · c) ++ own ++ endEvents line) := by
  obtain ⟨e, he⟩ := b.irqs.exists_lookup (Context.irqLine_eq_some_iff.mp hc).1
  have hinstalled : b.installedOn line = e.handler := by rw [installedOn, he]; rfl
  cases hh : e.handler with
  | none =>
    obtain ⟨lines, hlines, hevents⟩ := events_dispatchIrq_unhandled hc he hh
    refine ⟨lines, fun x hx => (hlines x hx).isOutput, ?_⟩
    rw [hevents, hinstalled, hh]
    simp
  | some d =>
    obtain ⟨_, own, hown, hevents⟩ := run_dispatchIrq_isolated (b := b) hi hc he hh
    refine ⟨own, hown, ?_⟩
    rw [hevents, hinstalled, hh]
    simp

/-- A context with a vector word as an adapter pushes it goes where its vector says. -/
theorem delivered_of_word (hi : drivers.Isolated) (b : Board) (cr2 : UInt64)
    (hc : c.vectorWord = v.toUInt64) :
    Delivered b v c ((dispatch drivers c cr2).run b).1 ((dispatch drivers c cr2).run b).2 := by
  have hlow := Context.low_byte_of_word hc
  have hvector : c.vector = v := (c.vector_eq_iff v).mpr hlow
  constructor
  · intro hv
    rw [run_dispatch_fault (hlow ▸ hv), hvector]
    exact ⟨rfl, b.faults.state_next c, rfl, rfl, rfl, _, rfl⟩
  · intro hv hlt
    have hline : c.irqLine = some (v - 32) := by
      have hsub : (v - 32).toNat = v.toNat - 32 := UInt8.toNat_sub_of_le v 32 hv
      have hlines : irqLines = 16 := rfl
      rw [Context.irqLine_eq_some_iff]
      omega
    obtain ⟨own, hown, hevents⟩ := run_dispatchIrq_line
      (b := { b with events := b.events ++ [.irq c.vector] }) hi hline
    rw [run_dispatch_irq (hlow ▸ hv)]
    refine ⟨rfl, own, hown, ?_⟩
    rw [hevents, hvector]
    simp [installedOn]

theorem next_populate (drivers : Drivers) (b : Board) (withIrqs : Bool) :
    next drivers b (.populate withIrqs) =
      { b with gates := GateTable.armed b.adapters (GateTable.installed withIrqs) } := by
  have hnext : next drivers b (.populate withIrqs) = ((populate withIrqs).run b).2 := rfl
  rw [hnext, populate, run_get_bind, run_get_bind, GateTable.populate_eq]
  rfl

theorem run_populates (drivers : Drivers) (b : Board) (flags : List Bool) :
    ∃ gates, run drivers b (flags.map .populate) = { b with gates := gates } := by
  induction flags generalizing b with
  | nil => exact ⟨b.gates, rfl⟩
  | cons w flags ih =>
    have hrun : run drivers b ((w :: flags).map .populate) =
        run drivers (next drivers b (.populate w)) (flags.map .populate) := rfl
    rw [hrun, next_populate]
    exact ih _

theorem run_populates_concat (drivers : Drivers) (b : Board) (flags : List Bool) (withIrqs : Bool) :
    run drivers b ((flags ++ [withIrqs]).map .populate) =
      { b with gates := GateTable.armed b.adapters (GateTable.installed withIrqs) } := by
  obtain ⟨gates, hflags⟩ := run_populates drivers b flags
  rw [List.map_append, run, List.foldl_append]
  change next drivers (run drivers b (flags.map .populate)) (.populate withIrqs) = _
  rw [hflags, next_populate]

end Dispatch

section Gates

open Gate64

variable {drivers : Drivers} {b : Board} {n : Nat} {v : UInt8}

theorem entered_of_armed (hd : Distinct b.adapters) (hn : n ≤ supportedVectors)
    (hgates : b.gates = GateTable.armed b.adapters n) (hv : v.toNat < n) :
    b.entered v = some v := by
  have hlt : v.toNat < supportedVectors := Nat.lt_of_lt_of_le hv hn
  have hencodable := kernelInterrupt_encodable (b.adapters.get ⟨v.toNat, hlt⟩)
  have hpresent : isPresent (b.gates.gate v) = true := by
    rw [hgates, GateTable.isPresent_armed_iff hn]
    exact hv
  have htarget : target (b.gates.gate v) = b.adapters.get ⟨v.toNat, hlt⟩ := by
    rw [hgates, GateTable.gate_armed_of_lt hn hv]
    exact target_word hencodable
  rw [entered, if_pos hpresent, htarget, adapterAt_get hd, UInt8.ofNat_toNat]

theorem decode_of_armed (hd : Distinct b.adapters) (hn : n ≤ supportedVectors)
    (hgates : b.gates = GateTable.armed b.adapters n) (hv : v.toNat < n) :
    ∃ target, decode (b.gates.gate v) =
        .ok ⟨target, Selector.kernelCode, 0, .interrupt, 0, true⟩ ∧
      ∀ i : Fin supportedVectors, b.adapters.get i = target ↔ i.val = v.toNat := by
  have hlt : v.toNat < supportedVectors := Nat.lt_of_lt_of_le hv hn
  refine ⟨b.adapters.get ⟨v.toNat, hlt⟩, ?_, ?_⟩
  · rw [hgates, GateTable.decode_armed hn hv]
    rfl
  · intro i
    constructor
    · intro heq
      exact congrArg Fin.val (hd i ⟨v.toNat, hlt⟩ heq)
    · intro heq
      exact congrArg b.adapters.get (Fin.ext heq)

theorem run_trap {c : Context} (hc : b.entered c.vector = some v) (cr2 : UInt64) :
    (trap drivers c cr2).run b =
      (some ((dispatch drivers { c with vectorWord := v.toUInt64 } cr2).run b).1,
        ((dispatch drivers { c with vectorWord := v.toUInt64 } cr2).run b).2) := by
  rw [trap, run_get_bind, hc]
  exact run_mapped some (dispatch drivers { c with vectorWord := v.toUInt64 } cr2) b

end Gates

theorem addresses_distinct : Distinct Adapter.addresses := by
  intro i j hij
  have hget : ∀ k : Fin supportedVectors, (Adapter.addresses.get k).toNat =
      (0xffffffff80100000 + 16 * k.val) := by
    intro k
    have hk : k.val < 48 := k.isLt
    have haddress : Adapter.addresses.get k = Adapter.address k.val := Vector.getElem_ofFn _
    rw [haddress, Adapter.address, UInt64.toNat_add, UInt64.toNat_mul, UInt64.toNat_ofNat']
    simp only [UInt64.reduceToNat]
    omega
  have hnat := congrArg UInt64.toNat hij
  rw [hget, hget] at hnat
  exact Fin.ext (by omega)

/-- Whatever the table held and however often it was populated, the last time decides which
traps have a gate. A trap that has one enters the adapter of its own vector through a kernel
gate, and is delivered; so is every context that the adapter can hand over. -/
theorem trap_through_populated_gates (drivers : Drivers) (hi : drivers.Isolated) (b : Board)
    (hd : Distinct b.adapters) (flags : List Bool) (withIrqs : Bool) (v : UInt8) (c : Context)
    (hc : c.vectorWord.toNat % 256 = v.toNat) (cr2 : UInt64) :
    let t := run drivers b ((flags ++ [withIrqs]).map .populate)
    let n := if withIrqs then 48 else 32
    (Gate64.isPresent (t.gates.gate v) = true ↔ v.toNat < n) ∧
    (v.toNat < n →
      (∃ target, Gate64.decode (t.gates.gate v) =
          .ok ⟨target, Selector.kernelCode, 0, .interrupt, 0, true⟩ ∧
        ∀ i : Fin supportedVectors, t.adapters.get i = target ↔ i.val = v.toNat) ∧
      (∃ d t', (trap drivers c cr2).run t = (some d, t') ∧
        Delivered t v { c with vectorWord := v.toUInt64 } d t') ∧
      ∀ (e : UInt64) (r : Registers) (base : UInt64),
        let handed := Adapter.context (Adapter.entry v (enter v e r base))
        Delivered t v handed ((dispatch drivers handed cr2).run t).1
          ((dispatch drivers handed cr2).run t).2) := by
  intro t n
  have hn : n = GateTable.installed withIrqs := by cases withIrqs <;> rfl
  have hle : n ≤ supportedVectors := hn ▸ GateTable.installed_le withIrqs
  have ht : t = { b with gates := GateTable.armed b.adapters n } := by
    rw [hn]
    exact run_populates_concat drivers b flags withIrqs
  have hdistinct : Distinct t.adapters := by rw [ht]; exact hd
  have hgates : t.gates = GateTable.armed t.adapters n := by rw [ht]
  refine ⟨?_, ?_⟩
  · rw [hgates, GateTable.isPresent_armed_iff hle]
  · intro hv
    refine ⟨decode_of_armed hdistinct hle hgates hv, ?_, ?_⟩
    · have hentered : t.entered c.vector = some v := by
        rw [(c.vector_eq_iff v).mpr hc]
        exact entered_of_armed hdistinct hle hgates hv
      exact ⟨_, _, run_trap hentered cr2, delivered_of_word hi t cr2 rfl⟩
    · intro e r base handed
      apply delivered_of_word hi t cr2
      rw [show handed = _ from Adapter.context_entry (Nat.lt_of_lt_of_le hv hle) e r base]
      rfl

/-- A key press, on a table that was populated three times, calls the handler of line 1. -/
theorem key_trap_through_populated_gates :
    let b : Board := { irqs := Table.empty.set 1 { handler := some .plain, name := "keyboard" } }
    let c : Context := { vectorWord := 0x5121, frame := { rip := 0x1000 } }
    let handed : Context := { vectorWord := 33, frame := { rip := 0x1000 } }
    let t := run notingDrivers b (([true, false] ++ [true]).map .populate)
    notingDrivers.Isolated ∧ Distinct b.adapters ∧
      c.vectorWord.toNat % 256 = (33 : UInt8).toNat ∧ (33 : UInt8).toNat < 48 ∧
      ∃ t' own, (trap notingDrivers c 0).run t = (some .resume, t') ∧
        (∀ e ∈ own, Event.IsOutput e) ∧ t'.events = t.events ++
          [.irq 33, .called .plain handed] ++ own ++ [.bus (.wrote ⟨0x20⟩ 0x20)] := by
  intro b c handed t
  have h := trap_through_populated_gates notingDrivers notingDrivers_isolated b
    addresses_distinct [true, false] true 33 c (by decide) 0
  obtain ⟨_, ⟨d, t', hrun, hdelivered⟩, _⟩ := h.2 (by decide)
  obtain ⟨rfl, own, hown, hevents⟩ := hdelivered.resumes (by decide) (by decide)
  have hinstalled : t.installedOn (33 - 32) = some .plain := by
    rw [show t = _ from run_populates_concat notingDrivers b [true, false] true]
    rfl
  have hend : endEvents (33 - 32) = [.bus (.wrote ⟨0x20⟩ 0x20)] := rfl
  refine ⟨notingDrivers_isolated, addresses_distinct, by decide, by decide, t', own, hrun, hown, ?_⟩
  rw [hevents, show run _ _ _ = t from rfl, hinstalled, hend]
  simp [handed, c]

end InterruptCore.Board

import InterruptCore.Proofs.Kernel.Opening
import InterruptCore.Proofs.Pic.Agreement
import Mathlib.Tactic.IntervalCases

/-! # Initialisation in any order

The calls that initialise the tables, the controllers, the timer and the lines, in any order and
any number of times. Whoever calls them, the tables are loaded once at most, stay as they were
loaded, and have gates for the IRQs only if these are off the exception vectors. -/
namespace InterruptCore.Kernel.Boot

open Machine Program

inductive Call where
  | segments
  | gates
  | controllers
  | timer (hz : UInt32)
  | handler (line : UInt8) (name : String) (h : Handler)
  deriving DecidableEq, Repr

def Call.run : Call → Program Unit
  | .segments => discard Tables.initSegments
  | .gates => discard Tables.initGates
  | .controllers => Controllers.remap
  | .timer hz => discard (Timer.init hz)
  | .handler line name h => discard (Interrupts.register line name h)

def isSegmentTable : Event → Bool
  | .segmentTable _ _ => true
  | _ => false

def isControllerWrite : Event → Bool
  | .out p _ => p ∈ controllerPorts
  | _ => false

/-- All bytes of a remap reached the controllers, with no other byte between them. -/
def RemapSent (es : List Event) : Prop := remapping <:+: es.filter isControllerWrite

/-- The gates of the vectors below `n` are present and no others, and each leads to the adapter of
its vector. -/
structure GatesBelow (n : Nat) (table : GateTable) : Prop where
  present : ∀ v, Gate64.isPresent (table.gate v) = true ↔ v.toNat < n
  adapters : ∀ v : UInt8, v.toNat < n → ∃ g, Gate64.decode (table.gate v) = .ok g ∧
    adapterAt? Trap.Adapter.addresses g.offset = some v

/-- What may be seen of the tables at any instant: the events so far, the gates in memory, and the
register that says where they are. -/
structure TablesSound (es : List Event) (gates : GateTable) (idtr : Option TablePointer) :
    Prop where
  segmentTable : es.countP isSegmentTable ≤ 1
  gateTable : es.countP isGateLoad ≤ 1
  loaded : ∀ before limit table after, es = before ++ .gateTable limit table :: after →
    limit = 4095 ∧ idtr = some ⟨4095, GateTable.address⟩ ∧ gates = table ∧
    (GatesBelow exceptionVectors table ∧ ¬ RemapSent before ∨
      GatesBelow supportedVectors table ∧ RemapSent before)
  /-- With a gate for an IRQ in memory, the controllers raise no IRQ on an exception vector,
  whatever state they had at first. -/
  irqs : (∃ v : UInt8, exceptionVectors ≤ v.toNat ∧ Gate64.isPresent (gates.gate v) = true) →
    ∀ cs : Pic.Chips, (cs.afterEvents es).Remapped

structure Cold (m : Machine) : Prop where
  kernel : ∃ log accepted, m.kernel = { log := log, revisionAccepted := accepted }
  past : m.past = []
  arrivals : ∀ a ∈ m.arrivals, m.accepts a.trap = false
  wake : ∀ t ∈ m.wake, m.accepts t = false

structure Initialised (calls : List Call) (m : Machine) : Prop where
  sound : TablesSound m.events m.kernel.gates m.idtr
  segments : m.kernel.segmentsLoaded.isSet = true ↔
    ∃ limit words, .segmentTable limit words ∈ m.events
  gates : m.kernel.gatesLoaded.isSet = true ↔ ∃ limit table, .gateTable limit table ∈ m.events
  remapped : m.kernel.picRemapped.isSet = true ↔ RemapSent m.events
  called : (m.kernel.segmentsLoaded.isSet = true ↔ .segments ∈ calls) ∧
    (m.kernel.gatesLoaded.isSet = true ↔ .gates ∈ calls) ∧
    (m.kernel.picRemapped.isSet = true ↔ .controllers ∈ calls)

theorem gatesBelow_armed {n : Nat} (hn : n ≤ supportedVectors) :
    GatesBelow n (GateTable.armed Trap.Adapter.addresses n) := by
  refine ⟨fun v => GateTable.isPresent_armed_iff hn, ?_⟩
  intro v hv
  have hadapter := adapterAt_get Board.addresses_distinct ⟨v.toNat, Nat.lt_of_lt_of_le hv hn⟩
  rw [UInt8.ofNat_toNat] at hadapter
  exact ⟨_, GateTable.decode_armed hn hv, hadapter⟩

theorem afterEvents_append (cs : Pic.Chips) (es more : List Event) :
    cs.afterEvents (es ++ more) = (cs.afterEvents es).afterEvents more := List.foldl_append

theorem afterEvents_sent (cs : Pic.Chips) (ts : List Pic.Transfer) :
    cs.afterEvents (sent ts) = cs.after ts := by
  induction ts generalizing cs with
  | nil => rfl
  | cons t ts ih =>
    cases t with
    | write p v => exact ih _
    | read p => exact ih _
    | delay => exact ih _

theorem RemapSent.append {es : List Event} (h : RemapSent es) (more : List Event) :
    RemapSent (es ++ more) := by
  rw [RemapSent, List.filter_append]
  exact h.trans (List.prefix_append _ _).isInfix

theorem remapSent_filter (es : List Event) : RemapSent (es.filter isLandmark) ↔ RemapSent es := by
  have hwrites : (es.filter isLandmark).filter isControllerWrite = es.filter isControllerWrite := by
    rw [List.filter_filter]
    congr 1
    funext e
    cases e <;> simp [isControllerWrite, isLandmark]
  rw [RemapSent, hwrites, RemapSent]

theorem RemapSent.started {es : List Event} (h : RemapSent es) :
    .out Port.pic1Command Pic.initWord ∈ es := by
  have hfirst : Event.out Port.pic1Command Pic.initWord ∈ remapping := by decide
  exact (List.mem_filter.mp (h.subset hfirst)).1

namespace TablesSound

variable {es : List Event} {gates : GateTable} {idtr : Option TablePointer}

theorem of_landmarks (h : TablesSound (es.filter isLandmark) gates idtr) :
    TablesSound es gates idtr := by
  have hcount : ∀ p : Event → Bool, (∀ e, p e = true → isLandmark e = true) →
      es.countP p = (es.filter isLandmark).countP p := by
    intro p hp
    rw [List.countP_filter]
    apply List.countP_congr
    intro e _
    constructor
    · intro he
      rw [he, hp e he]
      rfl
    · intro he
      exact (Bool.and_eq_true _ _ ▸ he).1
  constructor
  · rw [hcount isSegmentTable (fun e he => by cases e <;> first | rfl | nomatch he)]
    exact h.segmentTable
  · rw [hcount isGateLoad fun e he => isLandmark_of_isGateLoad he]
    exact h.gateTable
  · intro before limit table after hes
    have hsplit : es.filter isLandmark =
        before.filter isLandmark ++ .gateTable limit table :: after.filter isLandmark := by
      rw [hes, List.filter_append, List.filter_cons_of_pos rfl]
    have hloaded := h.loaded _ _ _ _ hsplit
    rwa [remapSent_filter] at hloaded
  · intro hgate cs
    rw [← afterEvents_filter]
    exact h.irqs hgate cs

theorem extend {more : List Event} (h : TablesSound es gates idtr)
    (hsegments : (es ++ more).countP isSegmentTable ≤ 1)
    (hgates : ∀ e ∈ more, isGateLoad e = false)
    (hirqs : (∃ v : UInt8, exceptionVectors ≤ v.toNat ∧ Gate64.isPresent (gates.gate v) = true) →
      ∀ cs : Pic.Chips, (cs.afterEvents (es ++ more)).Remapped) :
    TablesSound (es ++ more) gates idtr := by
  refine ⟨hsegments, ?_, ?_, hirqs⟩
  · have hnone : more.countP isGateLoad = 0 :=
      List.countP_eq_zero.mpr fun e he => by simp [hgates e he]
    rw [List.countP_append, hnone]
    exact h.gateTable
  · intro before limit table after heq
    -- The load is among the events before: none of the new ones is one.
    rcases List.append_eq_append_iff.mp heq with ⟨as, hbefore, hmore⟩ | ⟨as, hes, hafter⟩
    · have hmem : Event.gateTable limit table ∈ more := by simp [hmore]
      exact absurd (hgates _ hmem) (by simp [isGateLoad])
    · cases as with
      | nil =>
        have hmem : Event.gateTable limit table ∈ more := by simp at hafter; simp [← hafter]
        exact absurd (hgates _ hmem) (by simp [isGateLoad])
      | cons a as =>
        obtain ⟨rfl, -⟩ := List.cons_eq_cons.mp hafter
        exact h.loaded before limit table as hes

theorem afterEvents_segments (cs : Pic.Chips) (xs : List (SegmentRegister × Selector)) :
    cs.afterEvents (xs.map fun x => .segment x.1 x.2) = cs := by
  induction xs with
  | nil => rfl
  | cons x xs ih => exact ih

theorem load {gates : GateTable} {installed : Bool} (h : TablesSound es gates idtr)
    (hnone : ∀ e ∈ es, isGateLoad e = false)
    (hgates : gates = GateTable.armed Trap.Adapter.addresses (GateTable.installed installed))
    (hsent : installed = true ↔ RemapSent es) :
    TablesSound (es ++ [.gateTable 4095 gates]) gates (some ⟨4095, GateTable.address⟩) := by
  have hzero : es.countP isGateLoad = 0 :=
    List.countP_eq_zero.mpr fun e he => by simp [hnone e he]
  refine ⟨?_, ?_, ?_, ?_⟩
  · rw [List.countP_append]
    exact h.segmentTable
  · rw [List.countP_append, hzero]
    exact Nat.le_refl 1
  · intro before limit table after heq
    rcases List.eq_nil_or_concat after with rfl | ⟨as, a, rfl⟩
    · obtain ⟨rfl, hsame⟩ := List.append_inj' heq rfl
      obtain ⟨rfl, rfl⟩ := Event.gateTable.inj (List.singleton_inj.mp hsame)
      refine ⟨rfl, rfl, rfl, ?_⟩
      subst hgates
      cases installed with
      | false => exact .inl ⟨gatesBelow_armed (by decide), fun h => nomatch hsent.mpr h⟩
      | true => exact .inr ⟨gatesBelow_armed (Nat.le_refl _), hsent.mp rfl⟩
    · have hsplit : es ++ [.gateTable 4095 gates] =
          (before ++ .gateTable limit table :: as) ++ [a] := by simpa using heq
      obtain ⟨rfl, -⟩ := List.append_inj' hsplit rfl
      exact nomatch hnone (.gateTable limit table) (by simp)
  · intro hgate cs
    rw [afterEvents_append]
    exact h.irqs hgate cs

end TablesSound

theorem Trail.foldl_transfer (ts : List Pic.Transfer) (ρ : Trail) :
    ts.foldl Trail.transfer ρ =
      { ρ with past := ((sent ts).filter isLandmark).reverse ++ ρ.past } := by
  induction ts generalizing ρ with
  | nil => rfl
  | cons t ts ih =>
    rw [List.foldl_cons, ih]
    cases t with
    | write p v =>
      change _ = { ρ with past := ((Event.out p v :: sent ts).filter isLandmark).reverse ++ ρ.past }
      rw [List.filter_cons]
      simp only [Trail.transfer, Trail.see]
      split <;> simp
    | read p => rfl
    | delay => rfl

theorem Trail.command_eq (ρ : Trail) (c : Pic.Command) :
    ρ.command c =
      { ρ with
        kernel := { ρ.kernel with pic := ρ.kernel.pic.next c }
        past := ((sent (ρ.kernel.pic.transfers c)).filter isLandmark).reverse ++ ρ.past } := by
  rw [Trail.command, Trail.foldl_transfer]
  rfl

theorem Trail.remap_eq (ρ : Trail) :
    ρ.remap =
      { ρ with
        kernel := { ρ.kernel with
          pic := ρ.kernel.pic.next (.remap Pic.Masks.standard)
          picRemapped := ⟨true⟩ }
        past := remapping.reverse ++ ρ.past } := by
  rw [Trail.remap, Trail.command_eq]
  rfl

theorem Trail.foldl_segment (xs : List (SegmentRegister × Selector)) (ρ : Trail) :
    xs.foldl Trail.segment ρ =
      { ρ with past := (xs.map fun x => .segment x.1 x.2).reverse ++ ρ.past } := by
  induction xs generalizing ρ with
  | nil => rfl
  | cons x xs ih =>
    rw [List.foldl_cons, ih, List.map_cons, List.reverse_cons, List.append_assoc]
    rfl

/-- A machine on which some calls were made, seen between two of them. -/
structure Between (done : List Call) (ρ : Trail) : Prop where
  sound : TablesSound ρ.past.reverse ρ.kernel.gates ρ.idtr
  segmentsLoaded : ρ.kernel.segmentsLoaded.isSet = true ↔ .segments ∈ done
  segmentTable : ρ.past.any isSegmentTable = true ↔ .segments ∈ done
  gatesLoaded : ρ.kernel.gatesLoaded.isSet = true ↔ .gates ∈ done
  gateTable : ρ.past.any isGateLoad = true ↔ .gates ∈ done
  remapped : ρ.kernel.picRemapped.isSet = true ↔ .controllers ∈ done
  complete : .controllers ∈ done → RemapSent ρ.past.reverse
  untouched : .controllers ∉ done → ∀ v, .out Port.pic1Command v ∉ ρ.past
  chips : .controllers ∈ done →
    ∀ cs : Pic.Chips, (cs.afterEvents ρ.past.reverse).Settled ∧
      (cs.afterEvents ρ.past.reverse).Remapped
  irqGates : (∃ v : UInt8, exceptionVectors ≤ v.toNat ∧
    Gate64.isPresent (ρ.kernel.gates.gate v) = true) → .controllers ∈ done

namespace Between

variable {done : List Call} {ρ : Trail}

theorem remapSent_iff (h : Between done ρ) :
    RemapSent ρ.past.reverse ↔ .controllers ∈ done := by
  refine ⟨fun hsent => Decidable.byContradiction fun hnot => ?_, h.complete⟩
  exact h.untouched hnot _ (List.mem_reverse.mp hsent.started)

theorem segmentTable_eq_false (h : Between done ρ) (hnot : .segments ∉ done) {e : Event}
    (he : e ∈ ρ.past) : isSegmentTable e = false :=
  Bool.eq_false_iff.mpr fun hload => hnot (h.segmentTable.mp (List.any_eq_true.mpr ⟨e, he, hload⟩))

theorem gateLoad_eq_false (h : Between done ρ) (hnot : .gates ∉ done) {e : Event}
    (he : e ∈ ρ.past) : isGateLoad e = false :=
  Bool.eq_false_iff.mpr fun hload => hnot (h.gateTable.mp (List.any_eq_true.mpr ⟨e, he, hload⟩))

theorem congr {done' : List Call} (h : Between done ρ)
    (hsame : ∀ c ∈ [Call.segments, .gates, .controllers], c ∈ done' ↔ c ∈ done) :
    Between done' ρ := by
  have hsegments := hsame .segments (by decide)
  have hgates := hsame .gates (by decide)
  have hcontrollers := hsame .controllers (by decide)
  constructor
  · exact h.sound
  · rw [hsegments]; exact h.segmentsLoaded
  · rw [hsegments]; exact h.segmentTable
  · rw [hgates]; exact h.gatesLoaded
  · rw [hgates]; exact h.gateTable
  · rw [hcontrollers]; exact h.remapped
  · rw [hcontrollers]; exact h.complete
  · rw [hcontrollers]; exact h.untouched
  · rw [hcontrollers]; exact h.chips
  · rw [hcontrollers]; exact h.irqGates

/-- A change of memory that is not seen in the tables. -/
theorem modify (h : Between done ρ) {f : Kernel → Kernel}
    (hgates : (f ρ.kernel).gates = ρ.kernel.gates)
    (hsegmentsLoaded : (f ρ.kernel).segmentsLoaded = ρ.kernel.segmentsLoaded)
    (hgatesLoaded : (f ρ.kernel).gatesLoaded = ρ.kernel.gatesLoaded)
    (hremapped : (f ρ.kernel).picRemapped = ρ.kernel.picRemapped) :
    Between done (ρ.modify f) := by
  constructor
  · exact hgates.symm ▸ h.sound
  · exact hsegmentsLoaded.symm ▸ h.segmentsLoaded
  · exact h.segmentTable
  · exact hgatesLoaded.symm ▸ h.gatesLoaded
  · exact h.gateTable
  · exact hremapped.symm ▸ h.remapped
  · exact h.complete
  · exact h.untouched
  · exact h.chips
  · exact hgates.symm ▸ h.irqGates

theorem extend (h : Between done ρ) (more : List Event)
    (hmore : ∀ e ∈ more, isSegmentTable e = false ∧ isGateLoad e = false ∧
      ∀ v, e ≠ .out Port.pic1Command v)
    (hchips : ∀ cs : Pic.Chips, cs.Settled ∧ cs.Remapped →
      (cs.afterEvents more).Settled ∧ (cs.afterEvents more).Remapped) :
    Between done { ρ with past := more.reverse ++ ρ.past } := by
  have hevents : (more.reverse ++ ρ.past).reverse = ρ.past.reverse ++ more := by
    rw [List.reverse_append, List.reverse_reverse]
  have hchips' : .controllers ∈ done → ∀ cs : Pic.Chips,
      (cs.afterEvents (ρ.past.reverse ++ more)).Settled ∧
        (cs.afterEvents (ρ.past.reverse ++ more)).Remapped := by
    intro hin cs
    rw [afterEvents_append]
    exact hchips _ (h.chips hin cs)
  have hany : ∀ p : Event → Bool, (∀ e ∈ more, p e = false) →
      (more.reverse ++ ρ.past).any p = ρ.past.any p := by
    intro p hp
    have hnone : more.any p = false := List.any_eq_false.mpr fun e he => by simp [hp e he]
    rw [List.any_append, List.any_reverse, hnone, Bool.false_or]
  constructor
  · rw [hevents]
    apply h.sound.extend
    · have hnone : more.countP isSegmentTable = 0 :=
        List.countP_eq_zero.mpr fun e he => by simp [(hmore e he).1]
      rw [List.countP_append, hnone]
      exact h.sound.segmentTable
    · exact fun e he => (hmore e he).2.1
    · exact fun hirq cs => (hchips' (h.irqGates hirq) cs).2
  · exact h.segmentsLoaded
  · change (more.reverse ++ ρ.past).any isSegmentTable = true ↔ _
    rw [hany _ fun e he => (hmore e he).1]
    exact h.segmentTable
  · exact h.gatesLoaded
  · change (more.reverse ++ ρ.past).any isGateLoad = true ↔ _
    rw [hany _ fun e he => (hmore e he).2.1]
    exact h.gateTable
  · exact h.remapped
  · rw [hevents]
    exact fun hin => (h.complete hin).append more
  · intro hnot v hmem
    rcases List.mem_append.mp hmem with hnew | hold
    · exact (hmore _ (List.mem_reverse.mp hnew)).2.2 v rfl
    · exact h.untouched hnot v hold
  · rw [hevents]
    exact hchips'
  · exact h.irqGates

end Between

theorem after_prefix_writeMasks {cs : Pic.Chips} (h : cs.Settled ∧ cs.Remapped) {m : Pic.Masks}
    {before : List Pic.Transfer} (hbefore : before <+: Pic.writeMasks m) :
    (cs.after before).Settled ∧ (cs.after before).Remapped := by
  obtain ⟨hs, hr⟩ := h
  have hmaster : cs.after [.write Port.pic1Data m.master] =
      { cs with master := { cs.master with mask := m.master } } := by
    rw [← Pic.Chip.data_of_mask hs.1]
    rfl
  rcases before with _ | ⟨a, _ | ⟨b, _ | ⟨c, more⟩⟩⟩
  · exact ⟨hs, hr⟩
  · obtain rfl : a = .write Port.pic1Data m.master := by
      simpa [Pic.writeMasks] using hbefore
    rw [hmaster]
    exact ⟨hs, ⟨hr.1, hr.2, hr.3, hr.4⟩⟩
  · obtain ⟨rfl, rfl⟩ : a = .write Port.pic1Data m.master ∧ b = .write Port.pic2Data m.slave := by
      simpa [Pic.writeMasks] using hbefore
    have hboth := Pic.Chips.after_writeMasks hs m
    rw [Pic.writeMasks] at hboth
    rw [hboth]
    exact ⟨hs, ⟨hr.1, hr.2, hr.3, hr.4⟩⟩
  · have hlen := hbefore.length_le
    simp [Pic.writeMasks] at hlen

/-- A remap gives the chips the vectors that they have after a remap, so that they have no others
while it is repeated. -/
theorem after_prefix_remap {cs : Pic.Chips} (hr : cs.Remapped) {before : List Pic.Transfer}
    (hbefore : before <+: Pic.initialise ++ Pic.writeMasks Pic.Masks.standard) :
    (cs.after before).Remapped := by
  obtain ⟨⟨mask, base, cascade, mode, expected⟩, ⟨mask', base', cascade', mode', expected'⟩⟩ := cs
  obtain ⟨rfl, rfl, rfl, rfl⟩ := hr
  have hlen : before.length ≤ 18 := hbefore.length_le
  rw [List.prefix_iff_eq_take.mp hbefore]
  generalize before.length = n at hlen
  interval_cases n <;> exact ⟨rfl, rfl, rfl, rfl⟩

/-- Either nothing comes, or interrupts are closed to what comes. -/
def tableLookout (live : Bool) : Lookout where
  calm := live = true
  inv ρ := TablesSound ρ.past.reverse ρ.kernel.gates ρ.idtr
  expects t := live = false ∧ exceptionVectors ≤ t.vector.toNat

namespace Between

variable {done : List Call} {ρ : Trail} {live : Bool}

theorem safe (h : Between done ρ) (live : Bool) : (tableLookout live).Safe live ρ :=
  ⟨id, h.sound⟩

theorem masks (h : Between done ρ) {m : Pic.Masks} {before : List Pic.Transfer}
    (hbefore : before <+: Pic.writeMasks m) : Between done (before.foldl Trail.transfer ρ) := by
  rw [Trail.foldl_transfer]
  apply h.extend
  · intro e he
    have hsent : e ∈ sent (Pic.writeMasks m) :=
      ((hbefore.filterMap _).subset (List.mem_filter.mp he).1)
    have hwrites : sent (Pic.writeMasks m) =
      [.out Port.pic1Data m.master, .out Port.pic2Data m.slave] := rfl
    rw [hwrites] at hsent
    rcases List.mem_cons.mp hsent with rfl | hslave
    · exact ⟨rfl, rfl, fun v hv => by cases hv⟩
    · cases List.mem_singleton.mp hslave
      exact ⟨rfl, rfl, fun v hv => by cases hv⟩
  · intro cs hcs
    rw [afterEvents_filter, afterEvents_sent]
    exact after_prefix_writeMasks hcs hbefore

theorem unmask (h : Between done ρ) (line : UInt8) :
    Between done (ρ.command (.unmaskLine line)) :=
  (h.masks (List.prefix_refl (Pic.writeMasks _))).modify rfl rfl rfl rfl

/-- A call of a kind that was made before, or of one that is not told apart. -/
theorem again (h : Between done ρ) {c : Call}
    (hc : c ∈ done ∨ c ∉ [Call.segments, .gates, .controllers]) : Between (done ++ [c]) ρ := by
  apply h.congr
  intro c' hc'
  rw [List.mem_append, List.mem_singleton]
  refine ⟨fun hmem => hmem.elim id ?_, Or.inl⟩
  rintro rfl
  exact hc.elim id fun hnot => absurd hc' hnot

theorem sound_segments (h : Between done ρ) (hnot : .segments ∉ done)
    (xs : List (SegmentRegister × Selector)) :
    TablesSound (xs.foldl Trail.segment ρ.segmentTable).past.reverse ρ.kernel.gates ρ.idtr := by
  have hpast : (xs.foldl Trail.segment ρ.segmentTable).past.reverse =
      ρ.past.reverse ++ (.segmentTable 23 (ρ.kernel.segments.take 3) ::
        xs.map fun x => .segment x.1 x.2) := by
    rw [Trail.foldl_segment]
    change ((xs.map fun x => Event.segment x.1 x.2).reverse ++
      (.segmentTable 23 (ρ.kernel.segments.take 3) :: ρ.past)).reverse = _
    simp
  rw [hpast]
  apply h.sound.extend
  · have hold : ρ.past.reverse.countP isSegmentTable = 0 :=
      List.countP_eq_zero.mpr fun e he => by
        simp [h.segmentTable_eq_false hnot (List.mem_reverse.mp he)]
    have hloads : (xs.map fun x => Event.segment x.1 x.2).countP isSegmentTable = 0 :=
      List.countP_eq_zero.mpr fun e he => by
        obtain ⟨x, -, rfl⟩ := List.mem_map.mp he
        simp [isSegmentTable]
    rw [List.countP_append, hold, List.countP_cons, hloads]
    exact Nat.le_refl 1
  · intro e he
    rcases List.mem_cons.mp he with rfl | he
    · rfl
    · obtain ⟨x, -, rfl⟩ := List.mem_map.mp he
      rfl
  · intro hirq cs
    have hsee : (cs.afterEvents ρ.past.reverse).afterEvents (.segmentTable 23
        (ρ.kernel.segments.take 3) :: xs.map fun x => .segment x.1 x.2) =
        cs.afterEvents ρ.past.reverse := TablesSound.afterEvents_segments _ xs
    rw [afterEvents_append, hsee]
    exact h.sound.irqs hirq cs

theorem segmentTable_loaded (h : Between done ρ) (hnot : .segments ∉ done) :
    Between (done ++ [.segments]) (ρ.segmentTable.modify fun k =>
      { k with segmentsLoaded := k.segmentsLoaded.mark }) := by
  have hpast : (.segmentTable 23 (ρ.kernel.segments.take 3) :: ρ.past).reverse =
      ρ.past.reverse ++ [.segmentTable 23 (ρ.kernel.segments.take 3)] := List.reverse_cons
  have hchips : ∀ cs : Pic.Chips,
      cs.afterEvents (.segmentTable 23 (ρ.kernel.segments.take 3) :: ρ.past).reverse =
        cs.afterEvents ρ.past.reverse := by
    intro cs
    rw [hpast, afterEvents_append]
    rfl
  have hgates : Call.gates ∈ done ++ [.segments] ↔ .gates ∈ done := by simp
  have hcontrollers : Call.controllers ∈ done ++ [.segments] ↔ .controllers ∈ done := by simp
  constructor
  · exact h.sound_segments hnot []
  · exact iff_of_true rfl (by simp)
  · exact iff_of_true rfl (by simp)
  · exact h.gatesLoaded.trans hgates.symm
  · exact h.gateTable.trans hgates.symm
  · exact h.remapped.trans hcontrollers.symm
  · intro hin
    change RemapSent (.segmentTable 23 (ρ.kernel.segments.take 3) :: ρ.past).reverse
    rw [hpast]
    exact (h.complete (hcontrollers.mp hin)).append _
  · intro hin v hmem
    rcases List.mem_cons.mp hmem with heq | hmem
    · nomatch heq
    · exact h.untouched (mt hcontrollers.mpr hin) v hmem
  · intro hin cs
    have hold := h.chips (hcontrollers.mp hin) cs
    rw [← hchips] at hold
    exact hold
  · exact fun hirq => hcontrollers.mpr (h.irqGates hirq)

theorem segments (h : Between done ρ) (hnot : .segments ∉ done) :
    Between (done ++ [.segments]) ρ.segments := by
  have hmore := (h.segmentTable_loaded hnot).extend
    (segmentRegisters.map fun x => .segment x.1 x.2) ?_ ?_
  · rw [Trail.segments, Trail.foldl_segment]
    exact hmore
  · intro e he
    obtain ⟨x, -, rfl⟩ := List.mem_map.mp he
    exact ⟨rfl, rfl, fun v hv => nomatch hv⟩
  · intro cs hcs
    rwa [TablesSound.afterEvents_segments]

theorem sound_remap (h : Between done ρ) {before : List Pic.Transfer}
    (hbefore : before <+: Pic.initialise ++ Pic.writeMasks Pic.Masks.standard) :
    (tableLookout live).Safe live (before.foldl Trail.transfer ρ) := by
  refine ⟨id, ?_⟩
  rw [Trail.foldl_transfer]
  change TablesSound (((sent before).filter isLandmark).reverse ++ ρ.past).reverse _ _
  rw [List.reverse_append, List.reverse_reverse]
  have hwrites : ∀ e ∈ (sent before).filter isLandmark,
      isSegmentTable e = false ∧ isGateLoad e = false := by
    intro e he
    obtain ⟨t, -, ht⟩ := List.mem_filterMap.mp (List.mem_filter.mp he).1
    cases t <;> cases ht
    exact ⟨rfl, rfl⟩
  apply h.sound.extend
  · have hnone : ((sent before).filter isLandmark).countP isSegmentTable = 0 :=
      List.countP_eq_zero.mpr fun e he => by simp [(hwrites e he).1]
    rw [List.countP_append, hnone]
    exact h.sound.segmentTable
  · exact fun e he => (hwrites e he).2
  · intro hirq cs
    rw [afterEvents_append, afterEvents_filter, afterEvents_sent]
    exact after_prefix_remap (h.chips (h.irqGates hirq) cs).2 hbefore

theorem remap (h : Between done ρ) : Between (done ++ [.controllers]) ρ.remap := by
  have hsegments : Call.segments ∈ done ++ [.controllers] ↔ .segments ∈ done := by simp
  have hgates : Call.gates ∈ done ++ [.controllers] ↔ .gates ∈ done := by simp
  have hevents : (remapping.reverse ++ ρ.past).reverse = ρ.past.reverse ++ remapping := by
    rw [List.reverse_append, List.reverse_reverse]
  have hchips : ∀ cs : Pic.Chips,
      (cs.afterEvents (ρ.past.reverse ++ remapping)).Settled ∧
        (cs.afterEvents (ρ.past.reverse ++ remapping)).Remapped := by
    intro cs
    rw [afterEvents_append]
    exact ⟨⟨rfl, rfl⟩, rfl, rfl, rfl, rfl⟩
  have hsound : (tableLookout false).Safe false _ :=
    h.sound_remap (List.prefix_refl (Pic.initialise ++ Pic.writeMasks Pic.Masks.standard))
  rw [Trail.foldl_transfer] at hsound
  rw [Trail.remap_eq]
  constructor
  · exact hsound.2
  · exact h.segmentsLoaded.trans hsegments.symm
  · rw [hsegments, ← h.segmentTable, List.any_append]
    exact Bool.or_eq_true_iff.trans (or_iff_right (by decide))
  · exact h.gatesLoaded.trans hgates.symm
  · rw [hgates, ← h.gateTable, List.any_append]
    exact Bool.or_eq_true_iff.trans (or_iff_right (by decide))
  · exact iff_of_true rfl (by simp)
  · intro _
    rw [hevents, RemapSent, List.filter_append]
    exact (List.suffix_append _ _).isInfix
  · exact fun hnot => absurd (by simp) hnot
  · rw [hevents]
    exact fun _ => hchips
  · exact fun _ => by simp

/-- The table is given gates for the IRQs only after a remap. -/
theorem remapped_of_irqGate (h : Between done ρ) {n : Nat}
    (hn : n = GateTable.installed ρ.kernel.picRemapped.isSet)
    (hirq : ∃ v : UInt8, exceptionVectors ≤ v.toNat ∧
      Gate64.isPresent ((GateTable.armed Trap.Adapter.addresses n).gate v) = true) :
    .controllers ∈ done := by
  obtain ⟨v, hv, hpresent⟩ := hirq
  have hlt : v.toNat < n :=
    (GateTable.isPresent_armed_iff (hn ▸ GateTable.installed_le _)).mp hpresent
  apply h.remapped.mp
  by_contra hset
  rw [hn, Bool.eq_false_iff.mpr hset] at hlt
  exact absurd hlt (Nat.not_lt.mpr hv)

theorem sound_populate (h : Between done ρ) (hnot : .gates ∉ done) {n : Nat}
    (hn : n = GateTable.installed ρ.kernel.picRemapped.isSet) :
    TablesSound ρ.past.reverse (GateTable.armed Trap.Adapter.addresses n) ρ.idtr := by
  refine ⟨h.sound.segmentTable, h.sound.gateTable, ?_, ?_⟩
  · intro before limit table after heq
    have hmem : Event.gateTable limit table ∈ ρ.past.reverse := by simp [heq]
    exact nomatch h.gateLoad_eq_false hnot (List.mem_reverse.mp hmem)
  · exact fun hirq cs => (h.chips (h.remapped_of_irqGate hn hirq) cs).2

theorem past_arm (ρ : Trail) (n : Nat) : (ρ.arm n).past =
    .gateTable 4095 (GateTable.armed Trap.Adapter.addresses n) :: ρ.past := by
  simp only [Trail.arm, Trail.gateTable, Trail.populate, Trail.modify, Trail.see, isLandmark,
    if_true]

theorem sound_arm (h : Between done ρ) (hnot : .gates ∉ done) {n : Nat}
    (hn : n = GateTable.installed ρ.kernel.picRemapped.isSet) :
    TablesSound (ρ.arm n).past.reverse (ρ.arm n).kernel.gates (ρ.arm n).idtr := by
  rw [past_arm, List.reverse_cons]
  refine (h.sound_populate hnot hn).load ?_ (congrArg _ hn) (h.remapped.trans h.remapSent_iff.symm)
  exact fun e he => h.gateLoad_eq_false hnot (List.mem_reverse.mp he)

theorem arm (h : Between done ρ) (hnot : .gates ∉ done) {n : Nat}
    (hn : n = GateTable.installed ρ.kernel.picRemapped.isSet) :
    Between (done ++ [.gates]) (ρ.arm n) := by
  have hsegments : Call.segments ∈ done ++ [.gates] ↔ .segments ∈ done := by simp
  have hcontrollers : Call.controllers ∈ done ++ [.gates] ↔ .controllers ∈ done := by simp
  have hchips : ∀ cs : Pic.Chips,
      cs.afterEvents (ρ.arm n).past.reverse = cs.afterEvents ρ.past.reverse := by
    intro cs
    rw [past_arm, List.reverse_cons, afterEvents_append]
    rfl
  constructor
  · exact h.sound_arm hnot hn
  · exact h.segmentsLoaded.trans hsegments.symm
  · rw [past_arm, hsegments, List.any_cons]
    exact h.segmentTable
  · exact iff_of_true rfl (by simp)
  · rw [past_arm, List.any_cons]
    exact iff_of_true rfl (by simp)
  · exact h.remapped.trans hcontrollers.symm
  · intro hin
    rw [past_arm, List.reverse_cons]
    exact (h.complete (hcontrollers.mp hin)).append _
  · intro hin v hmem
    rw [past_arm] at hmem
    rcases List.mem_cons.mp hmem with heq | hmem
    · nomatch heq
    · exact h.untouched (mt hcontrollers.mpr hin) v hmem
  · intro hin cs
    rw [hchips]
    exact h.chips (hcontrollers.mp hin) cs
  · exact fun hirq => hcontrollers.mpr (h.remapped_of_irqGate hn hirq)

theorem handler (h : Between done ρ) (live : Bool) (line : UInt8) (name : String) (f : Handler) :
    ∃ ρ', (tableLookout live).Moves (Interrupts.register line name f) (fun _ => True) live {} ρ ρ' ∧
      Between done ρ' := by
  cases he : ρ.kernel.irqs.lookup line with
  | none => exact ⟨ρ, (Lookout.Moves.register_none name f (h.safe live) he).weaken, h⟩
  | some e =>
    have hentered : Between done (ρ.enter line ⟨some f, name, e.count, false⟩) :=
      h.modify rfl rfl rfl rfl
    have hdone := hentered.unmask line
    exact ⟨_, (Lookout.Moves.register name f (h.safe live) he
      (fun before hbefore => (hentered.masks hbefore).safe live) (hdone.safe live)).weaken, hdone⟩

theorem timer (h : Between done ρ) (live : Bool) (hz : UInt32) :
    ∃ ρ', (tableLookout live).Moves (Timer.init hz) (fun _ => True) live {} ρ ρ' ∧
      Between done ρ' := by
  have hset : Between done (ρ.setFrequency hz) := h.modify rfl rfl rfl rfl
  obtain ⟨ρ', hmoves, hdone⟩ := hset.handler live Irq.Known.timer.line "pit" .timer
  refine ⟨ρ', ?_, hdone⟩
  apply (Lookout.Moves.writeLog (h.safe live) _).bind
  intro _ _
  apply (Lookout.Moves.setFrequency (h.safe live) hz (hset.safe live)).bind
  exact fun _ _ => hmoves

theorem call (h : Between done ρ) (live : Bool) (c : Call) :
    ∃ ρ', (tableLookout live).Moves c.run (fun _ => True) live {} ρ ρ' ∧
      Between (done ++ [c]) ρ' := by
  cases c with
  | segments =>
    by_cases hin : .segments ∈ done
    · exact ⟨ρ, (Lookout.Moves.initSegments_again (h.safe live)
        (h.segmentsLoaded.mpr hin)).discard, h.again (.inl hin)⟩
    · have hfresh : ρ.kernel.segmentsLoaded.isSet = false :=
        Bool.eq_false_iff.mpr fun hset => hin (h.segmentsLoaded.mp hset)
      refine ⟨_, (Lookout.Moves.initSegments (h.safe live) hfresh ?_).discard, h.segments hin⟩
      intro before _
      refine ⟨id, ?_⟩
      have hsound := h.sound_segments hin before
      rw [Trail.foldl_segment] at hsound ⊢
      exact hsound
  | gates =>
    by_cases hin : .gates ∈ done
    · exact ⟨ρ, (Lookout.Moves.initGates_again (h.safe live)
        (h.gatesLoaded.mpr hin)).discard, h.again (.inl hin)⟩
    · have hfresh : ρ.kernel.gatesLoaded.isSet = false :=
        Bool.eq_false_iff.mpr fun hset => hin (h.gatesLoaded.mp hset)
      obtain ⟨n, hn⟩ : ∃ n, n = GateTable.installed ρ.kernel.picRemapped.isSet := ⟨_, rfl⟩
      have hpopulate : (tableLookout live).Safe live (ρ.populate n) := by
        refine ⟨id, ?_⟩
        simp only [tableLookout, Trail.populate, Trail.modify]
        exact h.sound_populate hin hn
      have hdone := h.arm hin hn
      have hload : (tableLookout live).Safe live (ρ.populate n).gateTable :=
        ⟨id, hdone.sound⟩
      exact ⟨_, (Lookout.Moves.initGates (h.safe live) hfresh hn hpopulate hload
        (hdone.safe live)).discard, hdone⟩
  | controllers =>
    have hdone := h.remap
    exact ⟨_, Lookout.Moves.remap (fun before hbefore => h.sound_remap hbefore)
      (h.sound_remap (List.prefix_refl _)) (hdone.safe live), hdone⟩
  | timer hz =>
    obtain ⟨ρ', hmoves, hdone⟩ := h.timer live hz
    exact ⟨ρ', hmoves.discard, hdone.again (.inr (by simp))⟩
  | handler line name f =>
    obtain ⟨ρ', hmoves, hdone⟩ := h.handler live line name f
    exact ⟨ρ', hmoves.discard, hdone.again (.inr (by simp))⟩

end Between

theorem between_start {log : Log Sink} {accepted : Bool} {gdtr idtr : Option TablePointer} :
    Between [] ⟨{ log := log, revisionAccepted := accepted }, gdtr, idtr, []⟩ := by
  have hempty : ∀ v : UInt8, Gate64.isPresent (GateTable.empty.gate v) = false := by
    intro v
    have hgate : GateTable.empty.gate v = 0 := Vector.getElem_replicate v.toNat_lt
    rw [hgate]
    rfl
  have hnoGate : ¬ ∃ v : UInt8, exceptionVectors ≤ v.toNat ∧
      Gate64.isPresent (GateTable.empty.gate v) = true :=
    fun ⟨v, _, hv⟩ => absurd hv (by simp [hempty v])
  have hnot : ∀ c : Call, c ∉ ([] : List Call) := fun _ => List.not_mem_nil
  have hunset : ∀ c : Call, false = true ↔ c ∈ ([] : List Call) :=
    fun c => iff_of_false nofun (hnot c)
  refine ⟨⟨Nat.zero_le 1, Nat.zero_le 1, ?_, fun hirq => absurd hirq hnoGate⟩, hunset _, hunset _,
    hunset _, hunset _, hunset _, fun h => absurd h (hnot _), fun _ _ => List.not_mem_nil,
    fun h => absurd h (hnot _), fun hirq => absurd hirq hnoGate⟩
  intro before limit table after heq
  simp at heq

theorem Between.initialised {calls : List Call} {m : Machine} (h : Between calls (trail m)) :
    Initialised calls m := by
  have hevents : (trail m).past.reverse = m.events.filter isLandmark := by
    rw [events, List.filter_reverse]
    rfl
  have hany : ∀ p : Event → Bool, (∀ e, p e = true → isLandmark e = true) →
      ((trail m).past.any p = true ↔ ∃ e ∈ m.events, p e = true) := by
    intro p hp
    rw [List.any_eq_true]
    refine exists_congr fun e => ?_
    rw [events, List.mem_reverse]
    refine ⟨fun h => ⟨(List.mem_filter.mp h.1).1, h.2⟩, fun h => ⟨?_, h.2⟩⟩
    exact List.mem_filter.mpr ⟨h.1, hp e h.2⟩
  have hsent := h.remapSent_iff
  have hsound := h.sound
  rw [hevents] at hsound hsent
  refine ⟨hsound.of_landmarks, ?_, ?_, ?_, h.segmentsLoaded, h.gatesLoaded, h.remapped⟩
  · refine (h.segmentsLoaded.trans h.segmentTable.symm).trans ((hany _ ?_).trans ?_)
    · intro e he
      cases e <;> first | rfl | exact absurd he Bool.false_ne_true
    · constructor
      · rintro ⟨e, he, hload⟩
        cases e <;> first | exact ⟨_, _, he⟩ | exact absurd hload Bool.false_ne_true
      · rintro ⟨limit, words, he⟩
        exact ⟨_, he, rfl⟩
  · refine (h.gatesLoaded.trans h.gateTable.symm).trans ((hany _ ?_).trans ?_)
    · exact fun e he => isLandmark_of_isGateLoad he
    · constructor
      · rintro ⟨e, he, hload⟩
        cases e <;> first | exact ⟨_, _, he⟩ | exact absurd hload Bool.false_ne_true
      · rintro ⟨limit, table, he⟩
        exact ⟨_, he, rfl⟩
  · exact h.remapped.trans (hsent.symm.trans (remapSent_filter _))

theorem tables_bear (live : Bool) (take : Taking) (visit : Visiting) :
    (tableLookout live).watch.terms.Bears take visit := by
  rintro t m ⟨rfl, hirq⟩ - ⟨r, hs, -⟩ haccepts
  have hflag : m.flag = true := by
    rw [accepts, Bool.or_eq_true, decide_eq_true_eq] at haccepts
    exact haccepts.resolve_right (Nat.not_lt.mpr hirq)
  exact absurd (hs.1 hflag) Bool.false_ne_true

/-- Every run of calls comes to its end, whatever their order: no table is loaded twice, none is
changed after it was loaded, and IRQs have gates only where they can do no harm. -/
theorem calls_keep_tables_sound (drivers : Drivers) {m : Machine} (hm : Cold m)
    (calls : List Call) :
    (∃ after, run drivers (calls.forM Call.run) m = .answered () after ∧ after.flag = m.flag ∧
      Initialised calls after) ∧
    ∀ i ∈ instants drivers (calls.forM Call.run) m,
      TablesSound i.machine.events i.machine.kernel.gates i.machine.idtr := by
  obtain ⟨log, accepted, hkernel⟩ := hm.kernel
  have hexpects : ∀ t, m.accepts t = false → (tableLookout m.flag).expects t := by
    intro t ht
    rw [accepts, Bool.or_eq_false_iff, decide_eq_false_iff_not] at ht
    exact ⟨ht.1, Nat.not_lt.mp ht.2⟩
  have hstart : Between [] (trail m) := by
    rw [trail, hkernel, hm.past]
    exact between_start
  have hmeets : (tableLookout m.flag).watch.terms.Meets (calls.forM Call.run)
      (fun _ g => ∃ ρ, g = ⟨m.flag, {}, ρ⟩ ∧ Between calls ρ)
      ((tableLookout m.flag).watch.view m) := by
    refine Terms.Meets.forM_prefix
      (I := fun done g => ∃ ρ, g = (⟨m.flag, {}, ρ⟩ : Guard Trail) ∧ Between done ρ) ?_ []
      ⟨trail m, ?_, hstart⟩
    · rintro done c _ ⟨ρ, rfl, h⟩
      obtain ⟨ρ', hmoves, hdone⟩ := h.call m.flag c
      exact hmoves.mono fun _ g hg => ⟨ρ', hg.2, hdone⟩
    · exact Watch.view_eq.mpr ⟨rfl, congrArg Kernel.locks hkernel, rfl⟩
  have hholds := hmeets.holds
    (tables_bear m.flag (take drivers m.pending) (visit drivers m.pending))
    ⟨fun a ha => hexpects _ (hm.arrivals a ha), fun t ht => hexpects _ (hm.wake t ht)⟩
  constructor
  · have hends := hholds.ends
    rw [← run] at hends
    cases hrun : run drivers (calls.forM Call.run) m with
    | stopped why after =>
      rw [hrun] at hends
      exact hends.elim
    | answered u after =>
      rw [hrun] at hends
      obtain ⟨⟨ρ, hview, hdone⟩, -⟩ := hends
      obtain ⟨hflag, -, rfl⟩ := Watch.view_eq.mp hview
      exact ⟨after, rfl, hflag, hdone.initialised⟩
  · intro i hi
    have hevents : (trail i.machine).past.reverse = i.machine.events.filter isLandmark := by
      rw [events, List.filter_reverse]
      rfl
    have hsound := (hholds.instants i hi).1.2
    change TablesSound (trail i.machine).past.reverse _ _ at hsound
    rw [hevents] at hsound
    exact hsound.of_landmarks

/-- The gates come before the controllers, so that the loaded table has none for IRQs, then and
after the second call. A key that is pressed meanwhile is lost. -/
theorem calls_keep_tables_sound_gates_first :
    let key : Incoming := { vector := 33, registers := { frame := { rflags := 0x202 } } }
    let m : Machine :=
      { kernel := { log := { level := .trace } }, arrivals := [⟨fun _ _ => true, key⟩] }
    let calls := [Call.gates, .timer 0, .controllers, .gates, .segments,
      .handler 1 "keyboard" (.device (.recorder "keyboard")), .handler 16 "none" .timer, .segments]
    Cold m ∧
    (∃ after, run notingDrivers (calls.forM Call.run) m = .answered () after ∧
      after.flag = m.flag ∧ Initialised calls after) ∧
    (∀ i ∈ instants notingDrivers (calls.forM Call.run) m,
      TablesSound i.machine.events i.machine.kernel.gates i.machine.idtr) ∧
    Gate64.isPresent ((run notingDrivers (calls.forM Call.run) m).machine.kernel.gates.gate 31) =
      true ∧
    Gate64.isPresent ((run notingDrivers (calls.forM Call.run) m).machine.kernel.gates.gate 33) =
      false := by
  intro key m calls
  have hm : Cold m := by
    refine ⟨⟨_, _, rfl⟩, rfl, ?_, fun _ ht => absurd ht List.not_mem_nil⟩
    intro a ha
    cases List.mem_singleton.mp ha
    rfl
  have h := calls_keep_tables_sound notingDrivers hm calls
  refine ⟨hm, h.1, h.2, ?_⟩
  decide +kernel

end InterruptCore.Kernel.Boot

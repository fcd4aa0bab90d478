import InterruptCore.Pic.Chip
import InterruptCore.Proofs.Kernel.StartUp

/-! Start-up opens interrupts on a finished machine. Up to the one request that sets the interrupt
flag, the flag is clear; at that request the tables are loaded, the controllers are remapped, and
the lines that are open have a gate. -/
namespace InterruptCore

open Machine Program

namespace Pic.Chips

def see (cs : Chips) : Event → Chips
  | .out p v => cs.write p v
  | _ => cs

def afterEvents (cs : Chips) (es : List Event) : Chips := es.foldl see cs

def vector (cs : Chips) (line : UInt8) : UInt8 :=
  if line < Irq.linesPerChip then cs.master.vectorBase + line
  else cs.slave.vectorBase + (line - Irq.linesPerChip)

end Pic.Chips

namespace Kernel.Boot

variable {level : Log.Level} {gdtr idtr : Option TablePointer} {m : Machine}

def isSegmentLoad : Event → Bool
  | .segmentTable _ _ | .segment _ _ => true
  | _ => false

def isGateLoad : Event → Bool
  | .gateTable _ _ => true
  | _ => false

def segmentLoads : List Event :=
  .segmentTable 23 SegmentTable.kernel :: .segment .cs Selector.kernelCode ::
    [SegmentRegister.ds, .es, .ss, .fs, .gs].map (.segment · Selector.kernelData)

/-- The selector names an entry that is present, of ring 0 and inside the limit: code for `cs`,
data for the other registers. -/
structure Loadable (limit : UInt16) (words : List UInt64) (r : SegmentRegister) (s : Selector) :
    Prop where
  global : s.isLdt = false
  ring : s.rpl = 0
  inside : 8 * s.index.toNat + 7 ≤ limit.toNat
  entry : ∃ d, words[s.index.toNat]?.map SegmentDescriptor.decode = some d ∧
    d.access.toNat.testBit 7 = true ∧ d.access.toNat.testBit 4 = true ∧ d.dpl = 0 ∧
    (d.isCode = true ↔ r = .cs)

/-- The power was just turned on, and the boot loader supports the revision. Interrupts may come,
but no exceptions. -/
structure PowerOn (level : Log.Level) (m : Machine) : Prop where
  flag : m.flag = false
  kernel : m.kernel = { log := { level := level }, revisionAccepted := true }
  past : m.past = []
  arrivals : ∀ a ∈ m.arrivals, exceptionVectors ≤ a.trap.vector.toNat
  wake : ∀ t ∈ m.wake, exceptionVectors ≤ t.vector.toNat

def RemappedFirst (m : Machine) : Prop :=
  ∃ before after, m.events = before ++ .gateTable 4095 m.kernel.gates :: after ∧
    (∀ e ∈ before ++ after, isGateLoad e = false) ∧
    ∀ cs : Pic.Chips, (cs.afterEvents before).Settled ∧
      (cs.afterEvents before).master.vectorBase = 32 ∧
      (cs.afterEvents before).slave.vectorBase = 40

def OpenLines (m : Machine) (cs : Pic.Chips) : Prop :=
  cs.masks = m.kernel.pic.masks ∧ ∀ line : UInt8, line.toNat < irqLines →
    (cs.masks.isMasked line = .ok false ↔ line = 0 ∨ line = 1) ∧
    (cs.masks.isMasked line = .ok false →
      Gate64.isPresent (m.kernel.gates.gate (cs.vector line)) = true)

structure Finished (m : Machine) : Prop where
  booted : m.kernel.booted.isSet = true
  segmentTable : m.gdtr = some ⟨23, SegmentTable.address⟩
  segments : m.events.filter isSegmentLoad = segmentLoads
  loadable : ∀ r s, .segment r s ∈ m.events → Loadable 23 SegmentTable.kernel r s
  remapped : RemappedFirst m
  gateTable : m.idtr = some ⟨4095, GateTable.address⟩
  present : ∀ v, Gate64.isPresent (m.kernel.gates.gate v) = true ↔ v.toNat < supportedVectors
  adapters : ∀ v : UInt8, v.toNat < supportedVectors →
    ∃ g, Gate64.decode (m.kernel.gates.gate v) = .ok g ∧
      adapterAt? Trap.Adapter.addresses g.offset = some v
  timer : ∃ e, m.kernel.irqs.lookup Irq.Known.timer.line = some e ∧ e.handler = some .timer
  lines : ∀ cs : Pic.Chips, OpenLines m (cs.afterEvents m.events)

def sent (ts : List Pic.Transfer) : List Event :=
  ts.filterMap fun
    | .write p v => some (.out p v)
    | _ => none

def armedGates : GateTable := GateTable.armed Trap.Adapter.addresses supportedVectors

def remapping : List Event := sent (Pic.initialise ++ Pic.writeMasks Pic.Masks.standard)

def unmasking : List Event := sent (Pic.writeMasks Pic.Masks.standard)

def course : List Event :=
  segmentLoads ++ remapping ++ .gateTable 4095 armedGates :: unmasking

def entered (level : Log.Level) (gdtr idtr : Option TablePointer) : Trail where
  kernel := { log := { level := level }, revisionAccepted := true, booted := ⟨true⟩ }
  gdtr := gdtr
  idtr := idtr
  past := []

section Prepared

variable {ρ : Trail} (h : ρ.kernel.pic = ⟨Pic.Masks.standard, true⟩)
include h

/-- The line of the timer is open already, so that its unmasking writes the same masks again. -/
theorem past_timer : (Step.timer.trail ρ).past = unmasking.reverse ++ ρ.past := by
  have hsame : Pic.Masks.standard.unmask Irq.Known.timer.line = Pic.Masks.standard := rfl
  change ((Pic.writeMasks (ρ.kernel.pic.masks.unmask Irq.Known.timer.line)).foldl
    Trail.transfer _).past = _
  rw [h, hsame]
  rfl

theorem pic_timer : (Step.timer.trail ρ).kernel.pic = ⟨Pic.Masks.standard, true⟩ := by
  change Pic.Driver.next ρ.kernel.pic (.unmaskLine Irq.Known.timer.line) = _
  rw [h]
  rfl

end Prepared

theorem prepared_eq (ρ : Trail) : prepared ρ =
    Step.timer.trail (Step.gates.trail (Step.controllers.trail (Step.segments.trail
      (Step.serial.trail ρ)))) := rfl

theorem past_prepared : (prepared (entered level gdtr idtr)).past.reverse = course := by
  rw [prepared_eq, past_timer rfl]
  rfl

theorem afterEvents_filter (cs : Pic.Chips) (es : List Event) :
    cs.afterEvents (es.filter isLandmark) = cs.afterEvents es := by
  have hsee : ∀ cs e, isLandmark e = false → Pic.Chips.see cs e = cs := by
    intro cs e he
    cases e with
    | out p v =>
      have hp : p ∉ controllerPorts := of_decide_eq_false he
      simp only [controllerPorts, List.mem_cons, List.not_mem_nil, or_false, not_or] at hp
      simp only [Pic.Chips.see, Pic.Chips.write, hp, if_false]
    | _ => rfl
  induction es generalizing cs with
  | nil => rfl
  | cons e es ih =>
    cases he : isLandmark e with
    | false =>
      rw [List.filter_cons_of_neg (Bool.eq_false_iff.mp he), ih]
      exact congrArg (·.afterEvents es) (hsee cs e he).symm
    | true =>
      rw [List.filter_cons_of_pos he]
      exact ih (cs.see e)

def remappedChips : Pic.Chips := ⟨⟨0xfc, 32, 4, 1, .mask⟩, ⟨0xff, 40, 2, 1, .mask⟩⟩

theorem chips_remapped (cs : Pic.Chips) :
    cs.afterEvents (segmentLoads ++ remapping) = remappedChips := rfl

theorem chips_course (cs : Pic.Chips) : cs.afterEvents course = remappedChips := rfl

theorem isLandmark_of_isGateLoad {e : Event} (he : isGateLoad e = true) : isLandmark e = true := by
  cases e with
  | gateTable limit table => rfl
  | _ => exact absurd he Bool.false_ne_true

theorem isGateLoad_eq_false {es : List Event}
    (h : ∀ e ∈ es.filter isLandmark, isGateLoad e = false) : ∀ e ∈ es, isGateLoad e = false := by
  intro e he
  apply Bool.eq_false_iff.mpr
  intro hgate
  have hmem := List.mem_filter.mpr ⟨he, isLandmark_of_isGateLoad hgate⟩
  exact Bool.eq_false_iff.mp (h e hmem) hgate

theorem loadable_code : Loadable 23 SegmentTable.kernel .cs Selector.kernelCode := by
  refine ⟨rfl, rfl, by decide, SegmentDescriptor.kernelCode64, rfl, rfl, rfl, rfl, ?_⟩
  exact iff_of_true rfl rfl

theorem loadable_data {r : SegmentRegister} (hr : r ≠ .cs) :
    Loadable 23 SegmentTable.kernel r Selector.kernelData := by
  refine ⟨rfl, rfl, by decide, SegmentDescriptor.kernelData, rfl, rfl, rfl, rfl, ?_⟩
  exact iff_of_false (by decide) hr

theorem loadable_of_mem {r : SegmentRegister} {s : Selector} (h : .segment r s ∈ segmentLoads) :
    Loadable 23 SegmentTable.kernel r s := by
  rcases List.mem_cons.mp h with h | h
  · nomatch h
  rcases List.mem_cons.mp h with h | h
  · cases h
    exact loadable_code
  · obtain ⟨r', hr', heq⟩ := List.mem_map.mp h
    cases heq
    apply loadable_data
    rintro rfl
    exact absurd hr' (by decide)

theorem isMasked_standard {line : UInt8} (hline : line.toNat < irqLines) :
    Pic.Masks.standard.isMasked line = .ok false ↔ line = 0 ∨ line = 1 := by
  have hmaster : ∀ l : Fin 8, Pic.Masks.standard.master.toNat.testBit l.val = false ↔
      UInt8.ofNat l.val = 0 ∨ UInt8.ofNat l.val = 1 := by decide
  have hslave : ∀ l : Fin 8, Pic.Masks.standard.slave.toNat.testBit l.val = true := by decide
  rw [Pic.Masks.isMasked]
  split
  · rename_i hlow
    have h := hmaster ⟨line.toNat, hlow⟩
    rw [UInt8.ofNat_toNat] at h
    rwa [Except.ok.injEq]
  · rename_i hhigh
    have hhigh : 8 ≤ line.toNat := Nat.not_lt.mp hhigh
    have hsub : (line - Irq.linesPerChip).toNat = line.toNat - 8 :=
      UInt8.toNat_sub_of_le _ _ hhigh
    have hlt : (line - Irq.linesPerChip).toNat < 8 := by
      have hline : line.toNat < 16 := hline
      omega
    have hwithin : line - Irq.linesPerChip < 8 := hlt
    rw [if_pos hwithin, hslave ⟨_, hlt⟩]
    refine iff_of_false (fun h => nomatch h) ?_
    rintro (rfl | rfl)
    · exact absurd hhigh (by decide)
    · exact absurd hhigh (by decide)

section Trails

variable (h : trail m = prepared (entered level gdtr idtr))
include h

theorem landmarks_of_trail : m.events.filter isLandmark = course := by
  have hpast : m.past.filter isLandmark = (prepared (entered level gdtr idtr)).past :=
    congrArg Trail.past h
  rw [events, List.filter_reverse, hpast, past_prepared]

theorem afterEvents_of_trail (cs : Pic.Chips) :
    cs.afterEvents m.events = remappedChips := by
  rw [← afterEvents_filter, landmarks_of_trail h, chips_course]

theorem remapped_of_trail (hgates : m.kernel.gates = armedGates) : RemappedFirst m := by
  obtain ⟨before, rest, hevents, hbefore, hrest⟩ :=
    List.filter_eq_append_iff.mp (landmarks_of_trail h)
  obtain ⟨skipped, after, hsplit, hskipped, -, hafter⟩ := List.filter_eq_cons_iff.mp hrest
  -- Events between two landmarks may be on either side; here they go before the load.
  have hfirst : (before ++ skipped).filter isLandmark = segmentLoads ++ remapping := by
    rw [List.filter_append, hbefore, List.filter_eq_nil_iff.mpr hskipped, List.append_nil]
  refine ⟨before ++ skipped, after, ?_, ?_, ?_⟩
  · rw [hevents, hsplit, hgates, List.append_assoc]
  · apply isGateLoad_eq_false
    rw [List.filter_append, hfirst, hafter]
    decide
  · intro cs
    rw [← afterEvents_filter, hfirst, chips_remapped]
    exact ⟨⟨rfl, rfl⟩, rfl, rfl⟩

theorem segments_of_trail : m.events.filter isSegmentLoad = segmentLoads := by
  have hmark : ∀ e, isSegmentLoad e = (isSegmentLoad e && isLandmark e) := by
    intro e
    cases e <;> rfl
  have hfilter : m.events.filter isSegmentLoad = course.filter isSegmentLoad := by
    rw [← landmarks_of_trail h, List.filter_filter]
    exact congrArg (m.events.filter ·) (funext hmark)
  rw [hfilter]
  rfl

theorem kernel_of_trail {γ : Type} (f : Kernel → γ) :
    f (m.kernel.withLocks {}) = f (prepared (entered level gdtr idtr)).kernel :=
  congrArg (fun ρ : Trail => f ρ.kernel) h

theorem finished_of_trail : Finished m := by
  have hpic : m.kernel.pic = (prepared (entered level gdtr idtr)).kernel.pic :=
    kernel_of_trail h Kernel.pic
  rw [prepared_eq, pic_timer rfl] at hpic
  have hgates : m.kernel.gates = armedGates := kernel_of_trail h Kernel.gates
  have hirqs : m.kernel.irqs =
      Irq.Table.empty.set Irq.Known.timer.line ⟨some .timer, "pit", 0, false⟩ :=
    kernel_of_trail h Kernel.irqs
  have hbooted : m.kernel.booted = ⟨true⟩ := kernel_of_trail h Kernel.booted
  have hgdtr : m.gdtr = some ⟨23, SegmentTable.address⟩ := congrArg Trail.gdtr h
  have hidtr : m.idtr = some ⟨4095, GateTable.address⟩ := congrArg Trail.idtr h
  refine ⟨?_, hgdtr, segments_of_trail h, ?_, remapped_of_trail h hgates, hidtr, ?_, ?_, ?_, ?_⟩
  · rw [hbooted]
  · intro r s hmem
    apply loadable_of_mem
    rw [← segments_of_trail h]
    exact List.mem_filter.mpr ⟨hmem, rfl⟩
  · intro v
    rw [hgates]
    exact GateTable.isPresent_armed_iff (Nat.le_refl _)
  · intro v hv
    have hadapter := adapterAt_get Board.addresses_distinct ⟨v.toNat, hv⟩
    rw [UInt8.ofNat_toNat] at hadapter
    rw [hgates]
    exact ⟨_, GateTable.decode_armed (Nat.le_refl _) hv, hadapter⟩
  · rw [hirqs]
    refine ⟨⟨some .timer, "pit", 0, false⟩, ?_, rfl⟩
    rw [Irq.Table.lookup_set _ (by decide), if_pos rfl]
  · intro cs
    rw [afterEvents_of_trail h, OpenLines, hpic, hgates]
    refine ⟨rfl, fun line hline => ?_⟩
    have hmasked := isMasked_standard hline
    refine ⟨hmasked, fun hopen => GateTable.isPresent_armed_iff (Nat.le_refl _) |>.mpr ?_⟩
    rcases hmasked.mp hopen with rfl | rfl <;> decide

end Trails

theorem closed_bear (take : Taking) (visit : Visiting) : bootWatch.terms.Bears take visit := by
  rintro t m hirq - ⟨r, hs, -⟩ haccepts
  have hflag : m.flag = true := by
    rw [accepts, Bool.or_eq_true, decide_eq_true_eq] at haccepts
    exact haccepts.resolve_right (Nat.not_lt.mpr hirq)
  exact (hs.1 hflag).elim

/-- The first request of start-up, and the only one when it ran before. -/
def look : Request := .memory fun k => { k with booted := k.booted.mark }

theorem runs_once (drivers : Drivers) {m now : Machine}
    (hnow : settle (take drivers m.pending) look m = .answered () now)
    (hbooted : now.kernel.booted.isSet = true) :
    run drivers runAll m = .answered () now.tick ∧
      (instants drivers runAll m).map Instant.bare =
        (settling (take drivers m.pending) (visit drivers m.pending) look m).map Instant.bare ++
          [(look, now)] := by
  have hlook : runAll = .ask look fun before =>
      if before.booted.isSet then pure () else order.forM runStep >>= fun _ => closing := rfl
  have hmark : now.kernel.booted.mark = now.kernel.booted := congrArg OnceFlag.mk hbooted.symm
  have hperform : perform look now.tick = .answered now.kernel now.tick := by
    change Outcome.answered now.kernel { now.tick with
      kernel := { now.kernel with booted := now.kernel.booted.mark } } = _
    rw [hmark]
    rfl
  have hanswer : ∀ take, answer take look now.tick = .answered now.kernel now.tick :=
    fun _ => hperform
  constructor
  · rw [run, hlook, runWith, hnow]
    simp only [Outcome.bind, hanswer, hbooted, if_true]
    rfl
  · rw [instants, hlook, instantsWith, hnow]
    simp only [Outcome.afterwards, hanswer, hbooted, if_true, List.map_append]
    rfl

/-- Start-up reaches the request that sets the interrupt flag, and asks for it nowhere before: up
to there the flag is clear, and there the machine is finished and only a line of the log is left
to write. Once it was entered, start-up does nothing but look: an interrupt may come before that,
as before any request, and the machine is left as it was found. -/
theorem opens_finished_machine (drivers : Drivers) (hm : PowerOn level m) :
    (∃ (before after : List Instant) (now : Machine),
      instants drivers runAll m = before ++ ⟨.setFlag, now, fun _ => closing⟩ :: after ∧
      (∀ i ∈ before, i.machine.flag = false ∧ i.request ≠ .setFlag) ∧
      now.flag = false ∧ Finished now) ∧
    ∀ later now : Machine,
      settle (take drivers later.pending) look later = .answered () now →
      now.kernel.booted.isSet = true →
      run drivers runAll later = .answered () now.tick ∧
        (instants drivers runAll later).map Instant.bare =
          (settling (take drivers later.pending) (visit drivers later.pending) look later).map
            Instant.bare ++ [(look, now)] := by
  refine ⟨?_, fun later now => runs_once drivers⟩
  have hview : bootWatch.view m = closed {} (trail m) :=
    Watch.view_eq.mpr ⟨hm.flag, congrArg Kernel.locks hm.kernel, rfl⟩
  have htrail : (trail m).modify (fun k => { k with booted := k.booted.mark }) =
      entered level m.gdtr m.idtr := by
    rw [trail, Trail.modify, hm.kernel, hm.past]
    rfl
  have hfresh : Fresh (trail m).kernel := by
    rw [trail, hm.kernel]
    exact ⟨rfl, rfl, rfl, rfl, rfl⟩
  have hbooted : (trail m).kernel.booted.isSet = false := by
    rw [trail, hm.kernel]
    rfl
  have hreaches := runAll_reaches hfresh hbooted
  rw [htrail, ← hview] at hreaches
  obtain ⟨before, after, r, next, now, heq, hbefore, hnow, hnext⟩ :=
    hreaches.instants (closed_bear (take drivers m.pending) (visit drivers m.pending))
      (fun _ _ => id) ⟨hm.arrivals, hm.wake⟩
  cases hnext
  obtain ⟨hflag, -, hrest⟩ := Watch.view_eq.mp hnow
  refine ⟨before, after, now, heq, ?_, hflag, finished_of_trail hrest⟩
  intro i hi
  obtain ⟨hs, -, hset⟩ := hbefore i hi
  exact ⟨Bool.eq_false_iff.mpr hs.1, hset⟩

/-- A start with the log at its busiest, on a slow serial port. A key that was pressed too early
is lost, and one that is pressed while the last line is written is not. -/
theorem opens_finished_machine_for_keys :
    let key : Incoming := { vector := 33, registers := { frame := { rflags := 0x202 } } }
    let m : Machine :=
      { cr0 := 0x80010033
        latches := ⟨[(Port.pic1Data, 0xa5)]⟩
        busyReads := [3, 0, 2]
        kernel := { log := { level := .trace }, revisionAccepted := true }
        arrivals := [⟨fun _ _ => true, key⟩,
          ⟨fun r so => r matches .interruptFlag && 480 ≤ so.outs, key⟩] }
    let later : Machine := { m with kernel := { m.kernel with booted := ⟨true⟩ }, arrivals := [] }
    PowerOn .trace m ∧
    (∃ (before after : List Instant) (now : Machine),
      instants notingDrivers runAll m = before ++ ⟨.setFlag, now, fun _ => closing⟩ :: after ∧
      (∀ i ∈ before, i.machine.flag = false ∧ i.request ≠ .setFlag) ∧
      now.flag = false ∧ Finished now) ∧
    .returned 33 key.registers true ∈ (run notingDrivers runAll m).machine.past ∧
    run notingDrivers runAll later = .answered () later.tick := by
  intro key m later
  have harrivals : ∀ a ∈ m.arrivals, exceptionVectors ≤ a.trap.vector.toNat := by
    intro a ha
    simp only [m, List.mem_cons, List.not_mem_nil, or_false] at ha
    rcases ha with rfl | rfl <;> decide
  have hm : PowerOn .trace m := ⟨rfl, rfl, rfl, harrivals, fun _ ht => absurd ht List.not_mem_nil⟩
  have h := opens_finished_machine notingDrivers hm
  refine ⟨hm, h.1, ?_, (h.2 later later rfl rfl).1⟩
  decide +kernel

end Kernel.Boot

end InterruptCore

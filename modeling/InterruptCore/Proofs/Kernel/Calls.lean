import InterruptCore.Proofs.Descriptor.GateTable
import InterruptCore.Proofs.Irq.Registration
import InterruptCore.Proofs.Kernel.Trails

/-! The calls that initialise the tables, the controllers, the timer and the lines, each from any
trail that it can find. A call that finds its work done leaves the trail alone. -/
namespace InterruptCore.Kernel.Boot

open Machine Program

def segmentRegisters : List (SegmentRegister × Selector) :=
  (.cs, Selector.kernelCode) ::
    [SegmentRegister.ds, .es, .ss, .fs, .gs].map fun r => (r, Selector.kernelData)

namespace Trail

def segmentTable (ρ : Trail) : Trail :=
  { ρ with gdtr := some ⟨23, SegmentTable.address⟩ }.see
    (.segmentTable 23 (ρ.kernel.segments.take 3))

def segment (ρ : Trail) (x : SegmentRegister × Selector) : Trail := ρ.see (.segment x.1 x.2)

def segments (ρ : Trail) : Trail :=
  (segmentRegisters.foldl segment ρ.segmentTable).modify fun k =>
    { k with segmentsLoaded := k.segmentsLoaded.mark }

def remap (ρ : Trail) : Trail :=
  (ρ.command (.remap Pic.Masks.standard)).modify fun k =>
    { k with picRemapped := k.picRemapped.mark }

def populate (ρ : Trail) (n : Nat) : Trail :=
  ρ.modify fun k => { k with gates := GateTable.armed Trap.Adapter.addresses n }

def gateTable (ρ : Trail) : Trail :=
  { ρ with idtr := some ⟨4095, GateTable.address⟩ }.see (.gateTable 4095 ρ.kernel.gates)

def arm (ρ : Trail) (n : Nat) : Trail :=
  (ρ.populate n).gateTable.modify fun k => { k with gatesLoaded := k.gatesLoaded.mark }

def enter (ρ : Trail) (line : UInt8) (e : Irq.Entry Handler) : Trail :=
  ρ.modify fun k => { k with irqs := k.irqs.set line e }

def register (ρ : Trail) (line : UInt8) (e : Irq.Entry Handler) : Trail :=
  (ρ.enter line e).command (.unmaskLine line)

def setFrequency (ρ : Trail) (hz : UInt32) : Trail :=
  ρ.modify fun k => { k with frequency := Pit.actualHz hz }

end Trail

namespace Lookout.Moves

variable {V : Lookout} {flag : Bool} {ρ : Trail}

theorem initSegments_again (hs : V.Safe flag ρ) (hk : ρ.kernel.segmentsLoaded.isSet = true) :
    V.Moves Tables.initSegments (· = .ok ()) flag {} ρ ρ := by
  apply (memory hs).bind
  rintro _ rfl
  simp only [Kernel.withLocks, hk]
  exact pure rfl

theorem initSegments (hs : V.Safe flag ρ) (hk : ρ.kernel.segmentsLoaded.isSet = false)
    (hloads : ∀ before, before <+: segmentRegisters →
      V.Safe flag (before.foldl Trail.segment ρ.segmentTable)) :
    V.Moves Tables.initSegments (· = .ok ()) flag {} ρ ρ.segments := by
  have hall := hloads _ (List.prefix_refl _)
  have hregisters : V.Moves Tables.loadSegments (fun _ => True) flag {} ρ.segmentTable
      (segmentRegisters.foldl Trail.segment ρ.segmentTable) := by
    have hforM : Tables.loadSegments =
        segmentRegisters.forM fun x => Program.request (.loadSegment x.1 x.2) := rfl
    rw [hforM]
    apply forM
    intro before x hbefore
    exact loadSegment (hloads before ((List.prefix_append before [x]).trans hbefore)) x.1 x.2
  apply (memory hs).bind
  rintro _ rfl
  simp only [Kernel.withLocks, hk]
  apply (writeLog hs _).bind
  intro _ _
  apply (loadSegmentTable hs ⟨23, SegmentTable.address⟩).bind
  intro _ _
  apply hregisters.bind
  intro _ _
  apply (writeLog hall _).bind
  intro _ _
  apply (change hall fun _ _ => rfl).bind
  exact fun _ _ => pure rfl

theorem remap
    (hs : ∀ before, before <+: Pic.initialise ++ Pic.writeMasks Pic.Masks.standard →
      V.Safe flag (before.foldl Trail.transfer ρ))
    (hcommand : V.Safe flag (ρ.command (.remap Pic.Masks.standard)))
    (hmarked : V.Safe flag ρ.remap) :
    V.Moves Controllers.remap (fun _ => True) flag {} ρ ρ.remap := by
  have hsend : V.Moves (Controllers.command (.remap Pic.Masks.standard)) (∃ vs, · = .ok vs) false
      (Locks.take {} .controllers) ρ (ρ.command (.remap Pic.Masks.standard)) :=
    command rfl fun before hbefore => (hs before hbefore).masked
  have hstart : V.Safe flag ρ := hs [] List.nil_prefix
  apply (withoutInterrupts hstart hcommand (.holding hstart.masked hcommand.masked rfl
    hsend.discard)).bind
  intro _ _
  apply (change hcommand fun _ _ => rfl).bind
  intro _ _
  exact writeLog hmarked _

theorem initGates_again (hs : V.Safe flag ρ) (hk : ρ.kernel.gatesLoaded.isSet = true) :
    V.Moves Tables.initGates (· = .ok ()) flag {} ρ ρ := by
  apply (memory hs).bind
  rintro _ rfl
  simp only [Kernel.withLocks, hk]
  exact pure rfl

theorem initGates {n : Nat} (hs : V.Safe flag ρ) (hk : ρ.kernel.gatesLoaded.isSet = false)
    (hn : n = GateTable.installed ρ.kernel.picRemapped.isSet)
    (hpopulate : V.Safe flag (ρ.populate n)) (hload : V.Safe flag (ρ.populate n).gateTable)
    (harm : V.Safe flag (ρ.arm n)) :
    V.Moves Tables.initGates (· = .ok ()) flag {} ρ (ρ.arm n) := by
  have hrest : V.Moves (do
        Program.change fun k => { k with gates := GateTable.armed Trap.Adapter.addresses n }
        Program.request (.loadGateTable ⟨4095, GateTable.address⟩)
        Program.change fun k => { k with gatesLoaded := k.gatesLoaded.mark }
        Kernel.writeLog (Log.debug ["IDT: loaded ", Text.decimal n, " gates"])
        return .ok ()) (· = Except.ok (ε := DescriptorError) ()) flag {} ρ (ρ.arm n) := by
    apply (change hs fun _ _ => rfl).bind
    intro _ _
    apply (loadGateTable hpopulate ⟨4095, GateTable.address⟩).bind
    intro _ _
    apply (change hload fun _ _ => rfl).bind
    intro _ _
    apply (writeLog harm _).bind
    exact fun _ _ => pure rfl
  apply (memory hs).bind
  rintro _ rfl
  simp only [Kernel.withLocks, hk, GateTable.populate_eq, ← hn]
  cases ρ.kernel.picRemapped.isSet with
  | true => exact hrest
  | false => exact (writeLog hs _).bind fun _ _ => hrest

section Registration

variable {line : UInt8} {e : Irq.Entry Handler} (name : String) (h : Handler)

theorem register_none (hs : V.Safe flag ρ) (he : ρ.kernel.irqs.lookup line = none) :
    V.Moves (Interrupts.register line name h) (· = .error (.outOfRange line)) flag {} ρ ρ := by
  have hstore : V.Moves (Interrupts.store line name h) (· = .error (.outOfRange line)) false
      (Locks.take {} .tableWrite) ρ ρ := by
    apply (memory hs.masked).bind
    rintro _ rfl
    simp only [Kernel.withLocks, Irq.Table.register, he]
    exact pure rfl
  have hrest : V.Moves (Program.withoutInterrupts (Program.holding .tableWrite
      (Interrupts.store line name h))) (· = .error (.outOfRange line)) flag {} ρ ρ :=
    withoutInterrupts hs hs (.holding hs.masked hs.masked rfl hstore)
  apply Watch.ask_interruptFlag (hs.guard {})
  cases flag with
  | false =>
    apply hrest.bind
    rintro _ rfl
    exact pure rfl
  | true =>
    apply (writeLog hs _).bind
    intro _ _
    apply hrest.bind
    rintro _ rfl
    exact pure rfl

theorem register (hs : V.Safe flag ρ) (he : ρ.kernel.irqs.lookup line = some e)
    (hunmask : ∀ before,
      before <+: Pic.writeMasks (ρ.kernel.pic.masks.unmask line) →
      V.Safe flag (before.foldl Trail.transfer (ρ.enter line ⟨some h, name, e.count, false⟩)))
    (hdone : V.Safe flag (ρ.register line ⟨some h, name, e.count, false⟩)) :
    V.Moves (Interrupts.register line name h) (· = .ok ()) flag {} ρ
      (ρ.register line ⟨some h, name, e.count, false⟩) := by
  have hentered := hunmask [] List.nil_prefix
  have hstore : V.Moves (Interrupts.store line name h) (· = .ok ()) false
      (Locks.take {} .tableWrite) ρ (ρ.enter line ⟨some h, name, e.count, false⟩) := by
    apply (memory hs.masked).bind
    rintro _ rfl
    simp only [Kernel.withLocks, Irq.Table.register_of_lookup he]
    apply (of_keeps (Watch.keeps_forM fun l _ =>
      Watch.keeps_writeLog (hs.masked.guard _) l)).bind
    intro _ _
    apply (change hs.masked fun _ _ => rfl).bind
    exact fun _ _ => pure rfl
  have hline : Pic.Driver.check (.unmaskLine line) = .ok () :=
    if_pos (Irq.Table.lt_of_lookup he)
  have hsend : V.Moves (Controllers.unmaskLine line) (· = .ok ()) flag {}
      (ρ.enter line ⟨some h, name, e.count, false⟩)
      (ρ.register line ⟨some h, name, e.count, false⟩) := by
    apply (withoutInterrupts hentered hdone (.holding hentered.masked hdone.masked rfl
      (command hline fun before hbefore => (hunmask before hbefore).masked))).bind
    rintro _ ⟨vs, rfl⟩
    exact pure rfl
  have hstored : V.Moves (Program.withoutInterrupts (Program.holding .tableWrite
      (Interrupts.store line name h))) (· = .ok ()) flag {} ρ
      (ρ.enter line ⟨some h, name, e.count, false⟩) :=
    withoutInterrupts hs hentered (.holding hs.masked hentered.masked rfl hstore)
  apply Watch.ask_interruptFlag (hs.guard {})
  cases flag
  case' true => refine (writeLog hs _).bind fun _ _ => ?_
  all_goals
    apply hstored.bind
    rintro _ rfl
    apply hsend.bind
    rintro _ rfl
    apply (writeLog hdone _).bind
    exact fun _ _ => pure rfl

end Registration

theorem setFrequency (hs : V.Safe flag ρ) (hz : UInt32) (hset : V.Safe flag (ρ.setFrequency hz)) :
    V.Moves (Timer.setFrequency hz) (fun _ => True) flag {} ρ (ρ.setFrequency hz) := by
  apply (writeLog hs _).bind
  intro _ _
  apply (out hs Port.pitCommand _).bind
  intro _ _
  apply (out hs Port.pitChannel0 _).bind
  intro _ _
  apply (out hs Port.pitChannel0 _).bind
  intro _ _
  apply (out hs Port.postDelay 0).bind
  intro _ _
  apply (change hs fun _ _ => rfl).bind
  exact fun _ _ => writeLog hset _

theorem initTimer {e : Irq.Entry Handler} (hs : V.Safe flag ρ) (hz : UInt32)
    (he : ρ.kernel.irqs.lookup Irq.Known.timer.line = some e)
    (hunmask : ∀ before,
      before <+: Pic.writeMasks (ρ.kernel.pic.masks.unmask Irq.Known.timer.line) →
      V.Safe flag (before.foldl Trail.transfer
        ((ρ.setFrequency hz).enter Irq.Known.timer.line ⟨some .timer, "pit", e.count, false⟩)))
    (hdone : V.Safe flag
      ((ρ.setFrequency hz).register Irq.Known.timer.line ⟨some .timer, "pit", e.count, false⟩))
    (hset : V.Safe flag (ρ.setFrequency hz)) :
    V.Moves (Timer.init hz) (· = .ok ()) flag {} ρ
      ((ρ.setFrequency hz).register Irq.Known.timer.line
        ⟨some .timer, "pit", e.count, false⟩) := by
  apply (writeLog hs _).bind
  intro _ _
  apply (setFrequency hs hz hset).bind
  intro _ _
  exact register "pit" .timer hset he hunmask hdone

end Lookout.Moves

end InterruptCore.Kernel.Boot

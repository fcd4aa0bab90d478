import InterruptCore.Proofs.Kernel.Calls
import InterruptCore.Proofs.Machine.Gates

/-! Start-up step by step. Each step is run from any state that it can find, and leaves memory and
the table registers in a known state. -/
namespace InterruptCore

open Machine Program

variable {α β : Type}

namespace Kernel.Boot

/-- Up to its last step start-up runs with interrupts closed, so that none that may come is
taken. -/
def bootLookout : Lookout where
  calm := False
  inv _ := True
  expects t := exceptionVectors ≤ t.vector.toNat

def bootWatch : Watch Trail := bootLookout.watch

abbrev closed (locks : Locks) (ρ : Trail) : Guard Trail := ⟨false, locks, ρ⟩

variable {locks : Locks} {ρ ρ' : Trail} {Q : α → Prop}

theorem safe_closed : bootWatch.Safe (closed locks ρ) := ⟨nofun, trivial⟩

theorem safe_boot (ρ : Trail) : bootLookout.Safe false ρ := ⟨nofun, trivial⟩

theorem ok_halt : bootWatch.terms.ok (closed locks ρ) .halt := ⟨safe_closed, nofun, nofun⟩

/-- The program answers with `Q`, gives the locks back, and takes the trail from `ρ` to `ρ'`. -/
abbrev Leaves (p : Program α) (Q : α → Prop) (locks : Locks) (ρ ρ' : Trail) : Prop :=
  bootLookout.Moves p Q false locks ρ ρ'

/-- What a step adds to the trail when it runs for the first time. -/
def Step.trail : Step → Trail → Trail
  | .serial, ρ => (ρ.modify fun k => { k with serialReady := k.serialReady.mark }).modify fun k =>
    { k with log := k.log.attach .serial }
  | .protocol, ρ | .interrupts, ρ => ρ
  | .segments, ρ => ρ.segments
  | .controllers, ρ => ρ.remap
  | .gates, ρ => ρ.arm supportedVectors
  | .timer, ρ =>
    (ρ.setFrequency Pit.defaultHz).register Irq.Known.timer.line ⟨some .timer, "pit", 0, false⟩

theorem leaves_serial (hk : ρ.kernel.serialReady.isSet = false) :
    Leaves Step.serial.run (· = .ok ()) {} ρ (Step.serial.trail ρ) := by
  have hplain : ∀ w ∈ Console.setup, isLandmark (.out w.1 w.2) = false := by decide
  have hsetup : ∀ ρ, Leaves (Console.locked (Console.setup.forM fun w => Program.out w.1 w.2))
      (fun _ => True) {} ρ ρ := by
    intro ρ
    apply Lookout.Moves.of_keeps
    apply Watch.keeps_locked safe_closed rfl
    apply Watch.keeps_forM
    intro w hw
    have hout : Leaves (Program.out w.1 w.2) (fun _ => True) (Locks.take {} .serial) ρ
        (ρ.see (.out w.1 w.2)) := .out (safe_boot ρ) w.1 w.2
    rw [Trail.see, hplain w hw] at hout
    exact hout.keeps
  have hinit : Leaves Console.init (fun _ => True) {} ρ (Step.serial.trail ρ) := by
    apply (Lookout.Moves.exchange (safe_boot ρ) fun _ _ => rfl).bind
    rintro _ rfl
    simp only [Kernel.withLocks, hk]
    apply (hsetup _).bind
    exact fun _ _ => .change (safe_boot _) fun _ _ => rfl
  exact hinit.bind fun _ _ => .pure rfl

theorem leaves_protocol (hk : ρ.kernel.revisionAccepted = true) :
    Leaves Step.protocol.run (· = .ok ()) {} ρ (Step.protocol.trail ρ) := by
  apply (Lookout.Moves.memory (safe_boot ρ)).bind
  rintro _ rfl
  simp only [Kernel.withLocks, hk]
  exact .pure rfl

theorem leaves_segments (hk : ρ.kernel.segmentsLoaded.isSet = false) :
    Leaves Step.segments.run (· = .ok ()) {} ρ (Step.segments.trail ρ) := by
  apply (Lookout.Moves.initSegments (safe_boot ρ) hk fun _ _ => safe_boot _).bind
  rintro _ rfl
  exact .pure rfl

theorem leaves_remap :
    Leaves Step.controllers.run (· = .ok ()) {} ρ (Step.controllers.trail ρ) := by
  apply (Lookout.Moves.remap (fun _ _ => safe_boot _) (safe_boot _) (safe_boot _)).bind
  exact fun _ _ => .pure rfl

theorem leaves_gates (hk : ρ.kernel.gatesLoaded.isSet = false)
    (hremapped : ρ.kernel.picRemapped.isSet = true) :
    Leaves Step.gates.run (· = .ok ()) {} ρ (Step.gates.trail ρ) := by
  have hn : supportedVectors = GateTable.installed ρ.kernel.picRemapped.isSet := by
    rw [hremapped]
    rfl
  apply (Lookout.Moves.initGates (safe_boot ρ) hk hn (safe_boot _) (safe_boot _)
    (safe_boot _)).bind
  rintro _ rfl
  exact .pure rfl

theorem leaves_timer (hk : ρ.kernel.irqs = Irq.Table.empty) :
    Leaves Step.timer.run (· = .ok ()) {} ρ (Step.timer.trail ρ) := by
  have hlookup : ρ.kernel.irqs.lookup Irq.Known.timer.line = some {} := by
    rw [hk]
    exact Irq.Table.lookup_empty (by decide)
  have hinit : Leaves (Timer.init Pit.defaultHz) (· = .ok ()) {} ρ (Step.timer.trail ρ) :=
    .initTimer (e := {}) (safe_boot ρ) _ hlookup (fun _ _ => safe_boot _) (safe_boot _)
      (safe_boot _)
  apply hinit.bind
  rintro _ rfl
  exact .pure rfl

theorem leaves_runStep {s : Step} (h : Leaves s.run (· = .ok ()) {} ρ ρ') :
    Leaves (runStep s) (fun _ => True) {} ρ ρ' := by
  apply (Lookout.Moves.writeLog (safe_boot ρ) _).bind
  intro _ _
  apply h.bind
  rintro _ rfl
  exact .pure trivial

def preparations : List Step := [.serial, .protocol, .segments, .controllers, .gates, .timer]

def prepared (ρ : Trail) : Trail := preparations.foldl (fun ρ s => s.trail ρ) ρ

structure Fresh (k : Kernel) : Prop where
  serial : k.serialReady.isSet = false
  accepted : k.revisionAccepted = true
  segments : k.segmentsLoaded.isSet = false
  gates : k.gatesLoaded.isSet = false
  irqs : k.irqs = Irq.Table.empty

theorem leaves_preparations (hk : Fresh ρ.kernel) :
    Leaves (preparations.forM runStep) (fun _ => True) {} ρ (prepared ρ) := by
  refine (leaves_runStep (leaves_serial hk.serial)).bind fun _ _ => ?_
  refine (leaves_runStep (leaves_protocol ?_)).bind fun _ _ => ?_
  · exact hk.accepted
  refine (leaves_runStep (leaves_segments ?_)).bind fun _ _ => ?_
  · exact hk.segments
  refine (leaves_runStep leaves_remap).bind fun _ _ => ?_
  refine (leaves_runStep (leaves_gates ?_ ?_)).bind fun _ _ => ?_
  · exact hk.gates
  · rfl
  refine (leaves_runStep (leaves_timer ?_)).bind fun _ _ => ?_
  · exact hk.irqs
  · exact .pure trivial

def closing : Program Unit :=
  writeLog (Log.info ["BOOT: early init complete, interrupts enabled"])

theorem order_forM : (order.forM runStep >>= fun _ => closing) =
    preparations.forM runStep >>= fun _ => runStep .interrupts >>= fun _ => closing := by
  simp only [order, preparations, List.forM_eq_forM, List.forM_cons, List.forM_nil,
    LawfulMonad.bind_assoc, LawfulMonad.pure_bind]

theorem Lookout.Moves.reaches {P : Guard Trail → Program β → Prop} {p : Program α}
    {f : α → Program β} (h : Leaves p Q locks ρ ρ')
    (hf : ∀ a, Q a → bootWatch.terms.Reaches P (f a) (closed locks ρ')) :
    bootWatch.terms.Reaches P (p >>= f) (closed locks ρ) := by
  apply Terms.Meets.reaches
  apply h.mono
  rintro a _ ⟨ha, rfl⟩
  exact hf a ha

theorem runAll_reaches (hk : Fresh ρ.kernel) (hbooted : ρ.kernel.booted.isSet = false) :
    bootWatch.terms.Reaches
      (fun g p => g = closed {} (prepared (ρ.modify fun k => { k with booted := k.booted.mark })) ∧
        p = .ask .setFlag fun _ => closing) runAll (closed {} ρ) := by
  apply (Lookout.Moves.exchange (safe_boot ρ) fun _ _ => rfl).reaches
  rintro _ rfl
  simp only [Kernel.withLocks, hbooted]
  change bootWatch.terms.Reaches _ (order.forM runStep >>= fun _ => closing) _
  rw [order_forM]
  have hfresh : Fresh (ρ.modify fun k => { k with booted := k.booted.mark }).kernel :=
    ⟨hk.serial, hk.accepted, hk.segments, hk.gates, hk.irqs⟩
  apply (leaves_preparations hfresh).reaches
  intro _ _
  simp only [runStep, Step.run, LawfulMonad.bind_assoc]
  apply (Lookout.Moves.writeLog (safe_boot _) _).reaches
  intro _ _
  apply (Lookout.Moves.memory (safe_boot _)).reaches
  rintro _ rfl
  exact .inl ⟨⟨rfl, rfl⟩, .halt, ok_halt⟩

end Kernel.Boot

end InterruptCore

import InterruptCore.Kernel.Traps
import InterruptCore.Proofs.Machine.Masked
import InterruptCore.Proofs.Trap.Vector

/-! The trap path with interrupts off. Reports of exceptions and panics wait for nothing but the
transmitter of the serial port; interrupts wait for locks as well, but enable nothing either. -/
namespace InterruptCore

open Machine Program

def Machine.Request.Tame : Request → Prop
  | .setFlag | .halt | .haltWhile _ | .acquire _ | .loadGateTable _ => False
  | .memory change => ∀ k, (change k).gates = k.gates
  | _ => True

theorem Machine.Request.Tame.ne_setFlag {r : Request} (h : r.Tame) : r ≠ .setFlag := by
  rintro rfl
  exact h

namespace Kernel

variable {allowed : Request → Prop} {Q : Unit → Prop}

@[simp] theorem masked_change (f : Kernel → Kernel) :
    Masked allowed Q (change f) ↔ allowed (.memory f) ∧ Q () :=
  and_congr_right' ⟨fun h => h default trivial, fun h _ _ => h⟩

@[simp] theorem masked_discard {α : Type} (p : Program α) :
    Masked allowed Q (discard p) ↔ Masked allowed (fun _ => Q ()) p :=
  masked_bind p fun _ => pure ()

namespace Console

theorem tame_send (s : String) : Masked Request.Tame (fun _ => True) (send s) := by
  apply Masked.forM
  intro b _
  simp [sendByte, out, request, Request.Tame]

theorem tame_sendAll (pieces : List String) :
    Masked Request.Tame (fun _ => True) (sendAll pieces) :=
  Masked.forM fun s _ => tame_send s

/-- The flag was found clear, so it is not set again. -/
theorem tame_unblocked {body : Program Unit} (h : Masked Request.Tame (fun _ => True) body) :
    Masked Request.Tame (fun _ => True) (unblocked body) := by
  simp only [unblocked, interruptFlag, clearFlag, tryAcquire, masked_bind, request, masked_ask,
    masked_done]
  refine ⟨trivial, ?_⟩
  rintro _ rfl
  refine ⟨trivial, fun _ _ => ⟨trivial, fun taken _ => ?_⟩⟩
  cases taken with
  | false => exact h
  | true =>
    simp only [if_true, masked_bind]
    apply h.mono (fun _ => id)
    simp [release, restoreFlag, request, Request.Tame]

theorem tame_emergency (pieces : List String) :
    Masked Request.Tame (fun _ => True) (emergency pieces) :=
  tame_unblocked (tame_sendAll pieces)

theorem tame_report (pieces : List String) :
    Masked Request.Tame (fun _ => True) (report pieces) :=
  Masked.forM fun s _ => tame_emergency [s]

end Console

theorem tame_write (sink : Sink) (s : String) :
    Masked Request.Tame (fun _ => True) (sink.write s) := by
  cases sink with
  | serial => exact Console.tame_emergency [s]
  | buffer n => simp [Sink.write, request, Request.Tame]

theorem tame_writeLog (line : Log.Line) : Masked Request.Tame (fun _ => True) (writeLog line) := by
  simp only [writeLog, memory, masked_bind, request, masked_ask, masked_done]
  refine ⟨fun _ => rfl, fun k _ => ?_⟩
  cases k.log.writes line with
  | none => trivial
  | some w => exact Masked.forM fun s _ => tame_write w.1 s

theorem tame_haltLoop {P : Empty → Prop} : Masked Request.Tame P haltLoop := by
  simp only [haltLoop, clearFlag, request, masked_bind, masked_ask, masked_done]
  exact ⟨trivial, fun _ _ => ⟨trivial, fun never _ => never.elim⟩⟩

namespace Panic

theorem tame_enter : Masked Request.Tame (fun _ => True) enter := by
  simp only [enter, clearFlag, exchange, masked_bind, request, masked_ask, masked_done]
  refine ⟨trivial, fun _ _ => ⟨fun _ => rfl, fun before _ => ?_⟩⟩
  split
  · exact (masked_bind _ _).mpr tame_haltLoop
  · trivial

theorem tame_panicWithContext (message : List String) (c : Context) :
    Masked Request.Tame (fun _ => False) (panicWithContext message c) := by
  simp only [panicWithContext, masked_bind]
  apply tame_enter.mono (fun _ => id)
  intro _ _
  apply (Console.tame_emergency _).mono (fun _ => id)
  intro _ _
  apply (Console.tame_report _).mono (fun _ => id)
  intro _ _
  apply (Console.tame_emergency _).mono (fun _ => id)
  intro _ _
  exact tame_haltLoop

end Panic

namespace Traps

theorem tame_reportFault (c : Context) : Masked Request.Tame (fun _ => True) (reportFault c) := by
  have haddress : Masked Request.Tame (fun _ => True) (faultAddress c) := by
    unfold faultAddress
    split
    · exact ⟨trivial, fun _ _ => trivial⟩
    · trivial
  simp only [reportFault, memory, request, masked_bind, masked_ask, masked_done, masked_change]
  apply haddress.mono (fun _ => id)
  refine fun cr2 _ => ⟨fun _ => rfl, fun k _ => ?_⟩
  apply (Console.tame_report _).mono (fun _ => id)
  exact fun _ _ => ⟨fun _ => rfl, trivial⟩

theorem tame_fault (c : Context) : Masked Request.Tame (fun _ => True) (fault c) := by
  simp only [fault, tryAcquire, request, masked_bind, masked_ask, masked_done]
  refine ⟨trivial, fun taken _ => ?_⟩
  cases taken with
  | false =>
    apply (masked_bind _ _).mpr
    exact (Panic.tame_panicWithContext _ c).mono (fun _ => id) fun _ h => h.elim
  | true =>
    apply (masked_bind _ _).mpr
    apply (tame_reportFault c).mono (fun _ => id)
    exact fun _ _ => ⟨trivial, fun _ _ => trivial⟩

/-- An exception ends in a wait for ever. -/
theorem tame_entry {drivers : Drivers} {c : Context} (hc : c.vectorWord.toNat % 256 < 32) :
    Masked Request.Tame (fun _ => False) (entry drivers c) := by
  simp only [entry, dispatch, Trap.dispatch, Trap.route_eq_fault hc, targets, masked_bind,
    masked_pure]
  apply (tame_fault c).mono (fun _ => id)
  intro _ _
  exact tame_haltLoop

end Traps

section Interrupts

theorem masked_writeLog (line : Log.Line) : (writeLog line).StaysMasked :=
  (tame_writeLog line).mono (fun _ => Request.Tame.ne_setFlag) fun _ => id

theorem masked_notingDrivers (d : Device) (c : Context) : (notingDrivers d c).StaysMasked := by
  cases d with
  | recorder name => exact ⟨by simp, fun _ _ => trivial⟩
  | logger name => exact masked_writeLog _
  | plain => exact ⟨by simp, fun _ _ => trivial⟩

theorem masked_holding {l : Lock} {p : Program Unit} (h : p.StaysMasked) :
    (holding l p).StaysMasked := by
  simp only [StaysMasked, holding, acquire, release, request, masked_bind, masked_ask, masked_done]
  refine ⟨by simp, fun _ _ => ?_⟩
  apply h.mono (fun _ => id)
  exact fun _ _ => ⟨by simp, fun _ _ => trivial⟩

theorem masked_transfer (t : Pic.Transfer) : (Controllers.transfer t).StaysMasked := by
  cases t <;> exact ⟨by simp, fun _ _ => trivial⟩

theorem masked_command (c : Pic.Command) : (Controllers.command c).StaysMasked := by
  unfold Controllers.command
  cases Pic.Driver.check c with
  | error e => trivial
  | ok _ =>
    simp only [StaysMasked, memory, request, masked_bind, masked_ask, masked_done]
    refine ⟨by simp, fun k _ => ?_⟩
    apply (Masked.mapM fun t _ => masked_transfer t).mono (fun _ => id)
    intro _ _
    simp

variable {drivers : Drivers} (hd : ∀ d c, (drivers d c).StaysMasked)
include hd

theorem masked_perform (c : Context) (a : Irq.Action Handler) :
    (Interrupts.perform drivers c a).StaysMasked := by
  cases a with
  | log line => exact masked_writeLog line
  | acknowledge line =>
    apply masked_holding
    exact (masked_discard _).mpr (masked_command _)
  | run h =>
    cases h with
    | timer => simp [Interrupts.perform, Handler.run, StaysMasked]
    | device d => exact hd d c

theorem masked_dispatch (c : Context) : (Interrupts.dispatch drivers c).StaysMasked := by
  apply masked_holding
  simp only [StaysMasked, exchange, request, masked_bind, masked_ask, masked_done]
  refine ⟨by simp, fun before _ => ?_⟩
  exact Masked.forM fun a _ => masked_perform hd c a

/-- An interrupt may return, but with the flag still clear. -/
theorem masked_entry (c : Context) : (Traps.entry drivers c).StaysMasked := by
  by_cases hc : c.vectorWord.toNat % 256 < 32
  · exact (Traps.tame_entry hc).mono (fun _ => Request.Tame.ne_setFlag) fun _ h => h.elim
  · simp only [StaysMasked, Traps.entry, Traps.dispatch, Trap.dispatch,
      Trap.route_eq_irq (Nat.not_lt.mp hc), Traps.targets, masked_bind, masked_pure]
    exact masked_dispatch hd c

end Interrupts

end Kernel

end InterruptCore

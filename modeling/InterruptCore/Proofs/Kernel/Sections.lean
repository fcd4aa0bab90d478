import InterruptCore.Kernel.Interrupts
import InterruptCore.Proofs.Machine.Guard

/-! Sections of the kernel's code under a guard: those that save the interrupt flag, those that
hold a lock, and the console, which does both. Each gives flag and locks back as it found them. -/
namespace InterruptCore

open Machine Program

variable {α β ρ : Type}

theorem Kernel.Locks.drop_take {ls : Kernel.Locks} {l : Kernel.Lock} (h : ls.free l = true) :
    (ls.take l).drop l = ls := by
  obtain ⟨serial, controllers, faults, readers, writer⟩ := ls
  cases l <;> simp_all [Kernel.Locks.free, Kernel.Locks.take, Kernel.Locks.drop]

namespace Machine.Watch

open Kernel Console

variable {W : Watch ρ} {g : Guard ρ} {Q : α → Guard ρ → Prop} {R : β → Guard ρ → Prop}

/-- The program ends as it began, as far as the guard can see. -/
def Keeps (W : Watch ρ) (p : Program α) (g : Guard ρ) : Prop :=
  W.terms.Meets p (fun _ g' => g' = g) g

theorem meets_bind {p : Program α} {f : α → Program β}
    (h : W.terms.Meets p (fun a g => W.terms.Meets (f a) R g) g) :
    W.terms.Meets (p >>= f) R g :=
  Terms.Meets.bind h

theorem Keeps.bind {p : Program α} {f : α → Program β} (h : W.Keeps p g)
    (hf : ∀ a, W.terms.Meets (f a) R g) : W.terms.Meets (p >>= f) R g := by
  apply meets_bind
  apply h.mono
  rintro a _ rfl
  exact hf a

theorem keeps_pure (a : α) : W.Keeps (pure a) g := rfl

theorem keeps_forM {ι : Type} {xs : List ι} {f : ι → Program Unit}
    (h : ∀ x ∈ xs, W.Keeps (f x) g) : W.Keeps (xs.forM f) g := by
  refine Terms.Meets.forM (I := (· = g)) ?_ rfl
  rintro x hx _ rfl
  exact h x hx

theorem keeps_mapM {ι : Type} {xs : List ι} {f : ι → Program β}
    (h : ∀ x ∈ xs, W.Keeps (f x) g) : W.Keeps (xs.mapM f) g := by
  induction xs with
  | nil => exact keeps_pure []
  | cons x xs ih =>
    rw [List.mapM_cons]
    apply (h x List.mem_cons_self).bind
    intro b
    apply (ih fun y hy => h y (List.mem_cons_of_mem x hy)).bind
    exact fun _ => keeps_pure _

section Sections

variable (hs : W.Safe g)
include hs

theorem restore {k : Unit → Program α} (h : W.terms.Meets (k ()) Q g) :
    W.terms.Meets (restoreFlag g.flag >>= k) Q { g with flag := false } := by
  obtain ⟨flag, locks, rest⟩ := g
  cases flag with
  | false => exact h
  | true => exact ask_setFlag (hs.masked locks) (hs.1 rfl) h

theorem restored :
    W.terms.Meets (restoreFlag g.flag) (fun _ g' => g' = g) { g with flag := false } := by
  have hrestored := restore (k := pure) hs (keeps_pure ())
  rwa [bind_pure] at hrestored

theorem meets_withoutInterrupts {p : Program α}
    (h : W.terms.Meets p (fun a g' => g'.flag = false ∧ W.Safe { g' with flag := g.flag } ∧
      Q a { g' with flag := g.flag }) { g with flag := false }) :
    W.terms.Meets (withoutInterrupts p) Q g := by
  apply ask_interruptFlag hs
  obtain ⟨flag, locks, rest⟩ := g
  cases flag with
  | false =>
    apply h.mono
    rintro a ⟨flag, locks', rest'⟩ ⟨rfl, -, hQ⟩
    exact hQ
  | true =>
    apply ask_clearFlag hs
    refine meets_bind (p := p) ?_
    apply h.mono
    rintro a ⟨flag, locks', rest'⟩ ⟨rfl, hs', hQ⟩
    exact ask_setFlag (g := ⟨false, locks', rest'⟩) (hs'.masked locks') (hs'.1 rfl) hQ

theorem keeps_withoutInterrupts {p : Program α} (h : W.Keeps p { g with flag := false }) :
    W.Keeps (withoutInterrupts p) g := by
  apply meets_withoutInterrupts hs
  apply h.mono
  rintro a _ rfl
  exact ⟨rfl, hs, rfl⟩

theorem meets_holding {l : Lock} (hfree : g.locks.free l = true) {p : Program α}
    (h : W.terms.Meets p (fun a g' => W.Safe g' ∧ Q a { g' with locks := g'.locks.drop l })
      { g with locks := g.locks.take l }) :
    W.terms.Meets (holding l p) Q g := by
  apply ask_acquire hs hfree
  refine meets_bind (p := p) ?_
  apply h.mono
  rintro a g' ⟨hs', hQ⟩
  exact ask_release hs' hQ

theorem keeps_holding {l : Lock} (hfree : g.locks.free l = true)
    (hs' : W.Safe { g with locks := g.locks.take l }) {p : Program α}
    (h : W.Keeps p { g with locks := g.locks.take l }) : W.Keeps (holding l p) g := by
  apply meets_holding hs hfree
  apply h.mono
  rintro a _ rfl
  refine ⟨hs', ?_⟩
  rw [Locks.drop_take hfree]

theorem keeps_send (s : String) : W.Keeps (send s) g := by
  apply keeps_forM
  intro b _
  apply ask_poll hs
  exact ask_console hs (by decide) rfl

theorem keeps_sendAll (pieces : List String) : W.Keeps (sendAll pieces) g :=
  keeps_forM fun s _ => keeps_send hs s

theorem keeps_locked (hfree : g.locks.free .serial = true) {body : Program Unit}
    (h : W.Keeps body { g with flag := false, locks := g.locks.take .serial }) :
    W.Keeps (locked body) g := by
  apply ask_interruptFlag hs
  apply ask_clearFlag hs
  apply ask_acquire (hs.masked _) hfree
  apply h.bind
  intro _
  apply ask_release (hs.masked _)
  rw [Locks.drop_take hfree]
  exact restored hs

theorem keeps_unblocked {body : Program Unit}
    (h : ∀ g', W.Safe g' → g'.rest = g.rest → W.Keeps body g') : W.Keeps (unblocked body) g := by
  apply ask_interruptFlag hs
  apply ask_clearFlag hs
  apply ask_tryAcquire (hs.masked _)
  split
  · rename_i hfree
    apply (h _ (hs.masked _) rfl).bind
    intro _
    apply ask_release (hs.masked _)
    rw [Locks.drop_take hfree]
    exact restored hs
  · exact restore hs (h g hs rfl)

theorem keeps_emergency (pieces : List String) : W.Keeps (emergency pieces) g :=
  keeps_unblocked hs fun _ hs' _ => keeps_sendAll hs' pieces

theorem keeps_write (sink : Sink) (s : String) : W.Keeps (sink.write s) g := by
  cases sink with
  | serial => exact keeps_emergency hs [s]
  | buffer n => exact ask_capture hs rfl

theorem keeps_writeLog (line : Log.Line) : W.Keeps (writeLog line) g := by
  apply ask_look hs
  intro m _
  dsimp only [Program.bind]
  cases m.kernel.log.writes line with
  | none => exact keeps_pure ()
  | some w => exact keeps_forM fun s _ => keeps_write hs w.1 s

end Sections

/-- Neither the quiet requests nor the memory of the controllers' driver touch the part. -/
structure Aloof (W : Watch ρ) : Prop where
  quiet : ∀ m m', Alike m m' → W.part m' = W.part m
  pic : ∀ (m : Machine) d, W.part { m with kernel := { m.kernel with pic := d } } = W.part m

section Controllers

variable (hW : W.Aloof) (hs : W.Safe g)
include hW hs

theorem ask_quiet {r : Request} (hr : r.Quiet) {next : r.Answer → Program α}
    (h : ∀ a, W.terms.Meets (next a) Q g) : W.terms.Meets (.ask r next) Q g := by
  refine ⟨⟨hs, ?_, ?_⟩, ?_⟩
  · rintro l rfl
    exact hr.elim
  · rintro rfl
    exact hr.elim
  refine Terms.follows_quiet hr (fun m m' halike => ?_) h
  change W.view m' = W.view m
  simp only [view, halike.flag, halike.kernel, hW.quiet m m' halike]

theorem keeps_transfer (t : Pic.Transfer) : W.Keeps (Controllers.transfer t) g := by
  cases t with
  | write p v => exact ask_quiet hW hs (r := .out p v) trivial fun _ => rfl
  | read p => exact ask_quiet hW hs (r := .input p) trivial fun _ => rfl
  | delay => exact ask_quiet hW hs (r := .out Port.postDelay 0) trivial fun _ => rfl

theorem keeps_command (c : Pic.Command) : W.Keeps (Controllers.command c) g := by
  unfold Controllers.command
  cases Pic.Driver.check c with
  | error e => exact keeps_pure _
  | ok _ =>
    apply ask_look hs
    intro m _
    apply (keeps_mapM fun t _ => keeps_transfer hW hs t).bind
    intro values
    apply ask_memory hs
    rintro m rfl
    change W.view { m with kernel := { m.kernel with pic := m.kernel.pic.next c } } = W.view m
    simp only [view, hW.pic]

end Controllers

end Machine.Watch

end InterruptCore

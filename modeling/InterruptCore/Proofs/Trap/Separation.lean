import InterruptCore.Proofs.Board.Effects
import InterruptCore.Proofs.Trap.Vector

/-! The two ways of a trap never cross. A fault reaches the fault handler alone and an
interrupt everything but it, so over a run the fault handler tells whether there was a fault,
and which was the first. -/
namespace InterruptCore.Board

open Irq Pic Trap

def Call.Wired : Call → Prop
  | .register _ _ _ | .unregister _ | .command _ | .dispatch _ _ => True
  | _ => False

def Event.IsDelivery : Event → Prop
  | .fault _ | .irq _ => True
  | _ => False

structure Spared (b t : Board) : Prop where
  faults : t.faults = b.faults
  events : ∃ own, (∀ e ∈ own, ¬ Event.IsDelivery e) ∧ t.events = b.events ++ own

/-- Handlers have no way to the fault handler or the dispatcher. -/
def Drivers.Spare (drivers : Drivers) : Prop := ∀ d c b, Spared b ((drivers d c).run b).2

def Call.fatal : Call → Option UInt8
  | .dispatch c _ =>
    if c.vectorWord.toNat % 256 < 32 then some (UInt8.ofNat (c.vectorWord.toNat % 256)) else none
  | _ => none

theorem Spared.refl (b : Board) : Spared b b :=
  ⟨rfl, [], fun _ he => absurd he List.not_mem_nil, (List.append_nil _).symm⟩

theorem Spared.trans {b s t : Board} (h : Spared b s) (k : Spared s t) : Spared b t := by
  obtain ⟨own, hown, hevents⟩ := h.events
  obtain ⟨more, hmore, hevents'⟩ := k.events
  refine ⟨k.faults.trans h.faults, own ++ more, ?_, ?_⟩
  · intro e he
    exact (List.mem_append.mp he).elim (hown e) (hmore e)
  · rw [hevents', hevents, List.append_assoc]

theorem Event.IsOutput.not_isDelivery {e : Event} (h : e.IsOutput) : ¬ e.IsDelivery := by
  cases e with
  | note _ => exact id
  | logged _ => exact id
  | _ => exact h.elim

theorem notingDrivers_spare : notingDrivers.Spare := by
  intro d c b
  obtain ⟨own, hown, hrun⟩ := run_notingDrivers d c b
  rw [hrun]
  exact ⟨rfl, own, fun e he => (hown e he).not_isDelivery, rfl⟩

theorem spared_writeLog (line : Log.Line) (b : Board) : Spared b ((writeLog line).run b).2 := by
  rw [run_writeLog]
  exact ⟨rfl, b.lineEvents line,
    fun e he => (lineEvents_isLogged b line e he).isOutput.not_isDelivery, rfl⟩

theorem spared_forM {α : Type} {f : α → Action Unit} {xs : List α}
    (h : ∀ x ∈ xs, ∀ b, Spared b ((f x).run b).2) (b : Board) :
    Spared b ((xs.forM f).run b).2 := by
  induction xs generalizing b with
  | nil => exact .refl b
  | cons x xs ih =>
    have hx := h x List.mem_cons_self b
    have hxs := ih (fun y hy => h y (List.mem_cons_of_mem x hy)) ((f x).run b).2
    exact hx.trans hxs

theorem spared_command (c : Command) (b : Board) : Spared b ((command c).run b).2 := by
  cases hc : Driver.check c with
  | error e =>
    rw [run_command_refused hc]
    exact .refl b
  | ok _ =>
    rw [run_command hc]
    refine ⟨rfl, _, ?_, rfl⟩
    intro e he
    obtain ⟨t, _, rfl⟩ := List.mem_map.mp he
    exact id

theorem spared_register (line : UInt8) (name : String) (d : Device) (b : Board) :
    Spared b ((register line name d).run b).2 := by
  cases he : b.irqs.lookup line with
  | none =>
    rw [run_register_refused he]
    exact .refl b
  | some e =>
    rw [run_register he]
    refine ⟨rfl, _, ?_, rfl⟩
    intro x hx
    obtain ⟨l, _, hl⟩ := List.mem_flatMap.mp hx
    exact (lineEvents_isLogged b l x hl).isOutput.not_isDelivery

theorem spared_unregister (line : UInt8) (b : Board) :
    Spared b ((unregister line).run b).2 := by
  cases he : b.irqs.lookup line with
  | none =>
    rw [run_unregister_refused he]
    exact .refl b
  | some e =>
    rw [run_unregister he]
    exact ⟨rfl, (Spared.refl b).events⟩

section Dispatch

variable {drivers : Drivers} {b : Board} {c : Context} {cr2 : UInt64}

theorem spared_carryOut (hs : drivers.Spare) (c : Context) (a : Irq.Action Device) (b : Board) :
    Spared b ((carryOut drivers c a).run b).2 := by
  cases a with
  | log line => exact spared_writeLog line b
  | run d =>
    have hcall : Spared b { b with events := b.events ++ [.called d c] } := by
      refine ⟨rfl, [.called d c], ?_, rfl⟩
      intro e he
      rw [List.mem_singleton.mp he]
      exact id
    exact hcall.trans (hs d c _)
  | acknowledge line => exact spared_command (.endOfInterrupt line) b

theorem spared_dispatchIrq (hs : drivers.Spare) (c : Context) (b : Board) :
    Spared b ((dispatchIrq drivers c).run b).2 := by
  have htable : Spared b { b with irqs := (b.irqs.dispatch c).1 } :=
    ⟨rfl, (Spared.refl b).events⟩
  rw [run_dispatchIrq]
  exact htable.trans (spared_forM (fun a _ => spared_carryOut hs c a) _)

theorem run_dispatch_fault (hc : c.vectorWord.toNat % 256 < 32) :
    (dispatch drivers c cr2).run b =
      (.halt, { b with
        faults := b.faults.next c
        events := b.events ++ .fault c.vector :: (b.faults.output c cr2).map .reported }) := by
  have hrun : (dispatch drivers c cr2).run b =
      (.halt, (((b.faults.output c cr2).forM fun p => emit (.reported p)).run
        { b with
          faults := b.faults.next c
          events := b.events ++ [.fault c.vector] }).2) := by
    unfold dispatch Trap.dispatch
    rw [route_eq_fault hc]
    rfl
  rw [hrun, run_emitAll]
  simp

theorem run_dispatch_irq (hc : 32 ≤ c.vectorWord.toNat % 256) :
    (dispatch drivers c cr2).run b =
      (.resume, ((dispatchIrq drivers c).run
        { b with events := b.events ++ [.irq c.vector] }).2) := by
  unfold dispatch Trap.dispatch
  rw [route_eq_irq hc]
  rfl

theorem dispatch_irq_spares (hs : drivers.Spare) (hc : 32 ≤ c.vectorWord.toNat % 256) :
    ((dispatch drivers c cr2).run b).2.faults = b.faults ∧
    ∃ own, (∀ e ∈ own, ¬ Event.IsDelivery e) ∧
      ((dispatch drivers c cr2).run b).2.events = b.events ++ .irq c.vector :: own := by
  have h := spared_dispatchIrq hs c { b with events := b.events ++ [.irq c.vector] }
  obtain ⟨own, hown, hevents⟩ := h.events
  rw [run_dispatch_irq hc]
  refine ⟨h.faults, own, hown, ?_⟩
  rw [hevents]
  simp

theorem Call.fatal_dispatch_fault (hc : c.vectorWord.toNat % 256 < 32) :
    (Call.dispatch c cr2).fatal = some c.vector := by
  rw [Call.fatal, if_pos hc, ← c.vector_toNat, UInt8.ofNat_toNat]

theorem Call.fatal_dispatch_irq (hc : 32 ≤ c.vectorWord.toNat % 256) :
    (Call.dispatch c cr2).fatal = none := if_neg (Nat.not_lt.mpr hc)

theorem faults_next (hs : drivers.Spare) (b : Board) {call : Call} (hcall : call.Wired) :
    (next drivers b call).faults =
      match b.faults.state, call.fatal with
      | .running, some v => ⟨.halted, some v⟩
      | _, _ => b.faults := by
  have hother : ∀ t : Board, Spared b t → call.fatal = none → t.faults =
      match b.faults.state, call.fatal with
      | .running, some v => ⟨.halted, some v⟩
      | _, _ => b.faults := by
    intro t h hf
    rw [hf, h.faults]
    cases b.faults.state <;> rfl
  cases call with
  | register line name d => exact hother _ (spared_register line name d b) rfl
  | unregister line => exact hother _ (spared_unregister line b) rfl
  | command c => exact hother _ (spared_command c b) rfl
  | dispatch c cr2 =>
    have hnext : next drivers b (.dispatch c cr2) = ((dispatch drivers c cr2).run b).2 := rfl
    rcases Nat.lt_or_ge (c.vectorWord.toNat % 256) 32 with hc | hc
    · rw [hnext, run_dispatch_fault hc, Call.fatal_dispatch_fault hc]
      unfold Fault.Handler.next
      cases b.faults.state <;> rfl
    · rw [hnext, (dispatch_irq_spares hs hc).1, Call.fatal_dispatch_irq hc]
      cases b.faults.state <;> rfl
  | interrupt _ => exact hcall.elim
  | populate _ => exact hcall.elim
  | trap _ _ => exact hcall.elim

theorem faults_run_of_halted (hs : drivers.Spare) {calls : List Call}
    (hcalls : ∀ call ∈ calls, call.Wired) (hb : b.faults.state = .halted) :
    (run drivers b calls).faults = b.faults := by
  induction calls generalizing b with
  | nil => rfl
  | cons call calls ih =>
    have hnext : (next drivers b call).faults = b.faults := by
      rw [faults_next hs b (hcalls call List.mem_cons_self), hb]
    have hrest := ih (fun c hc => hcalls c (List.mem_cons_of_mem _ hc))
      (b := next drivers b call) (by rw [hnext, hb])
    exact hrest.trans hnext

/-- Until the first fault the handler runs, and that fault is the one it keeps. -/
theorem faults_run (hs : drivers.Spare) {calls : List Call}
    (hcalls : ∀ call ∈ calls, call.Wired) (hb : b.faults = {}) :
    (run drivers b calls).faults =
      match (calls.filterMap Call.fatal).head? with
      | some v => ⟨.halted, some v⟩
      | none => {} := by
  induction calls generalizing b with
  | nil => exact hb
  | cons call calls ih =>
    have hnext := faults_next hs b (hcalls call List.mem_cons_self)
    have hrest : ∀ c ∈ calls, c.Wired := fun c hc => hcalls c (List.mem_cons_of_mem _ hc)
    have hrun : run drivers b (call :: calls) = run drivers (next drivers b call) calls := rfl
    rw [hb] at hnext
    cases hf : call.fatal with
    | none =>
      rw [hf] at hnext
      rw [hrun, ih hrest hnext, List.filterMap_cons_none hf]
    | some v =>
      rw [hf] at hnext
      have hhalted : (next drivers b call).faults.state = .halted := by rw [hnext]
      rw [hrun, faults_run_of_halted hs hrest hhalted, hnext, List.filterMap_cons_some hf]
      rfl

end Dispatch

/-- What the next dispatch on a board does: which target it calls, what it returns, and what
it leaves alone. -/
structure Apart (drivers : Drivers) (b : Board) : Prop where
  fault : ∀ (c : Context) (cr2 : UInt64), c.vectorWord.toNat % 256 < 32 →
    (perform drivers (.dispatch c cr2)).run b =
      (.halt, { b with
        faults := b.faults.next c
        events := b.events ++ .fault c.vector :: (b.faults.output c cr2).map .reported })
  irq : ∀ (c : Context) (cr2 : UInt64), 32 ≤ c.vectorWord.toNat % 256 →
    ((perform drivers (.dispatch c cr2)).run b).1 = .resume ∧
    (next drivers b (.dispatch c cr2)).faults = b.faults ∧
    ∃ own, (∀ e ∈ own, ¬ Event.IsDelivery e) ∧
      (next drivers b (.dispatch c cr2)).events = b.events ++ .irq c.vector :: own

theorem apart_of_spare {drivers : Drivers} (hs : drivers.Spare) (b : Board) :
    Apart drivers b where
  fault _ _ hc := run_dispatch_fault hc
  irq c cr2 hc := by
    have hreply : ((perform drivers (.dispatch c cr2)).run b).1 = .resume :=
      congrArg Prod.fst (run_dispatch_irq hc)
    exact ⟨hreply, dispatch_irq_spares hs hc⟩

theorem filterMap_fatal_ne_nil_iff {calls : List Call} :
    calls.filterMap Call.fatal ≠ [] ↔
      ∃ c cr2, Call.dispatch c cr2 ∈ calls ∧ c.vectorWord.toNat % 256 < 32 := by
  constructor
  · intro hne
    obtain ⟨v, hv⟩ := List.exists_mem_of_ne_nil _ hne
    obtain ⟨call, hmem, hf⟩ := List.mem_filterMap.mp hv
    cases call with
    | dispatch c cr2 =>
      refine ⟨c, cr2, hmem, Nat.not_le.mp ?_⟩
      intro hc
      rw [Call.fatal_dispatch_irq hc] at hf
      cases hf
    | _ => cases hf
  · rintro ⟨c, cr2, hmem, hc⟩
    exact List.ne_nil_of_mem (List.mem_filterMap.mpr ⟨_, hmem, Call.fatal_dispatch_fault hc⟩)

/-- The disposition and the target depend on the low byte of the vector word alone, whatever
the targets are and do. -/
theorem dispatch_eq_by_low_byte {m : Type → Type} [Monad m] (targets : Targets m) (c : Context) :
    Trap.dispatch targets c =
      if c.vectorWord.toNat % 256 < 32 then (do targets.fault c; return .halt)
      else (do targets.irq c; return .resume) := by
  unfold Trap.dispatch
  by_cases hc : c.vectorWord.toNat % 256 < 32
  · rw [route_eq_fault hc, if_pos hc]
  · rw [route_eq_irq (Nat.not_lt.mp hc), if_neg hc]

/-- Over every run on a board whose fault handler is fresh, faults and interrupts go their own
ways: the fault handler is halted just when a fault was dispatched, and names the first. -/
theorem run_keeps_paths_apart (drivers : Drivers) (hs : drivers.Spare) (b : Board)
    (hb : b.faults = {}) (calls : List Call) (hcalls : ∀ call ∈ calls, call.Wired) :
    (∀ {m : Type → Type} [Monad m] (targets : Targets m) (c : Context),
      Trap.dispatch targets c =
        if c.vectorWord.toNat % 256 < 32 then (do targets.fault c; return .halt)
        else (do targets.irq c; return .resume)) ∧
    Apart drivers (run drivers b calls) ∧
    ((run drivers b calls).faults.state = .halted ↔
      ∃ c cr2, Call.dispatch c cr2 ∈ calls ∧ c.vectorWord.toNat % 256 < 32) ∧
    (run drivers b calls).faults.vector = (calls.filterMap Call.fatal).head? := by
  have hfaults := faults_run hs hcalls hb
  refine ⟨dispatch_eq_by_low_byte, apart_of_spare hs _, ?_, ?_⟩
  · rw [← filterMap_fatal_ne_nil_iff, hfaults]
    cases calls.filterMap Call.fatal <;> simp
  · rw [hfaults]
    cases calls.filterMap Call.fatal <;> rfl

/-- The words are above 255: the first goes to line 1 and the second is a page fault. -/
theorem run_keeps_page_fault_apart :
    let key : Context := { vectorWord := 0x121 }
    let fault : Context := { vectorWord := 0x10e, errorCode := 4 }
    let calls : List Call := [.register 1 "keyboard" .plain, .dispatch key 0,
      .command (.unmaskLine 1), .dispatch fault 0xb8000, .dispatch { vectorWord := 3 } 0,
      .dispatch key 0]
    let b := run notingDrivers {} calls
    notingDrivers.Spare ∧ ({} : Board).faults = {} ∧ (∀ call ∈ calls, call.Wired) ∧
      b.faults.state = .halted ∧ b.faults.vector = some 14 ∧
      ((perform notingDrivers (.dispatch key 0)).run b).1 = .resume := by
  intro key fault calls b
  have hcalls : ∀ call ∈ calls, call.Wired := by simp [calls, Call.Wired]
  have h := run_keeps_paths_apart notingDrivers notingDrivers_spare {} rfl calls hcalls
  have hfault : Call.dispatch fault 0xb8000 ∈ calls := by simp [calls]
  have hfirst : (calls.filterMap Call.fatal).head? = some 14 := by decide
  refine ⟨notingDrivers_spare, rfl, hcalls, h.2.2.1.mpr ⟨fault, _, hfault, by decide⟩, ?_,
    (h.2.1.irq key 0 (by decide)).1⟩
  rw [h.2.2.2, hfirst]

end InterruptCore.Board

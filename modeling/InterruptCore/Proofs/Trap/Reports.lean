import InterruptCore.Proofs.Text.Wire
import InterruptCore.Proofs.Trap.Terminal

/-! Each banner of an exception begins once. Reports that cannot hold a banner cost nothing, and
where one is written, what let it begin is gone: the fault handler is held until it has halted,
and a panic marks itself first. -/
namespace InterruptCore.Machine

open Kernel Program Console

variable {α : Type}

def faultBanner : List String := ["\n=== CPU EXCEPTION ===\n"]

def nested : List String := ["exception while reporting an exception"]

def panicBanner : List String := ["\n\n=== KERNEL PANIC ===\nPANIC: "] ++ nested ++ ["\n"]

def panicTrailer : String := "===================\nSystem halted.\n"

section Pieces

theorem occurrences_eq_zero {text bytes : List UInt8} {x : UInt8} (hx : x ∈ text)
    (hb : x ∉ bytes) : occurrences text bytes = 0 := by
  induction bytes with
  | nil => rfl
  | cons b bytes ih =>
    have hprefix : text.isPrefixOf (b :: bytes) = false := by
      rw [Bool.eq_false_iff, ne_eq, List.isPrefixOf_iff_prefix]
      exact fun h => hb (h.subset hx)
    rw [occurrences, hprefix, ih fun h => hb (List.mem_cons_of_mem b h)]
    rfl

theorem sendAll_eq (pieces : List String) :
    sendAll pieces = (pieces.flatMap wire).forM sendByte := by
  induction pieces with
  | nil => rfl
  | cons p pieces ih =>
    have hcons : sendAll (p :: pieces) = (wire p).forM sendByte >>= fun _ => sendAll pieces := rfl
    rw [hcons, ih, List.flatMap_cons]
    exact (List.forM_append (f := sendByte)).symm

theorem report_cons (p : String) (pieces : List String) (k : Unit → Program α) :
    (report (p :: pieces) >>= k) = emergency [p] >>= fun _ => report pieces >>= k := by
  rw [← LawfulMonad.bind_assoc]
  rfl

theorem pauses_report {k : Unit → Program α} (hk : (k ()).Pauses) (pieces : List String) :
    (report pieces >>= k).Pauses := by
  cases pieces with
  | nil => exact hk
  | cons p pieces => exact pauses_ask (r := .interruptFlag) nofun _

theorem pauses_change (f : Kernel → Kernel) (k : Unit → Program α) :
    (Program.change f >>= k).Pauses :=
  pauses_ask (r := .memory f) nofun _

end Pieces

/-- A text, and what an exception can still have of it: the text stands in the two banners at
most, and the banner that is being written has used up what the standing allowed. -/
structure Tariff (text : String) (cost : Standing → Nat) : Prop where
  nonempty : wire text ≠ []
  report : ∀ c cr2, ∀ p ∈ (Fault.report c cr2).tail, occurrences (wire text) (wire p) = 0
  notice : ∀ c, ∀ p ∈ Fault.notice c, occurrences (wire text) (wire p) = 0
  trailer : occurrences (wire text) (wire panicTrailer) = 0
  held : ∀ s, cost { s with held := true } ≤ cost s
  reporting : ∀ s, s.held = false → s.state = .running →
    cost { s with held := true } + occurrences (wire text) (faultBanner.flatMap wire) ≤ cost s
  halted : ∀ s held, s.held = false → cost { s with held := held, state := .halted } ≤
    cost s - occurrences (wire text) (faultBanner.flatMap wire)
  marked : ∀ s, cost { s with panicking := true } ≤ cost s
  panicking : ∀ s, s.panicking = false → cost { s with panicking := true } +
    occurrences (wire text) (panicBanner.flatMap wire) ≤ cost s

section Owing

variable {n : Nat} {returns : List Event} {text : String} {cost : Standing → Nat} {c : Nat}
  {s : Standing} {k : Unit → Program α} (ht : Tariff text cost) (hs : s.Closed n returns)
include ht hs

theorem owes_ask {r : Request} {next : r.Answer → Program α} (hr : r.Tame)
    (hr' : ∀ w, r ≠ .poll w) (hcost : cost s ≤ c)
    (h : (terminal n returns).Follows s r fun a s =>
      Owes (terminal n returns) text cost (next a) c s) :
    Owes (terminal n returns) text cost (.ask r next) c s := by
  refine ⟨c, ?_, hcost, (hr.keeps hs).1, h⟩
  rw [(pauses_ask hr' next).sends_eq_false ht.nonempty]
  exact Nat.le_refl c

theorem owes_bytes (hk : (k ()).Pauses) {bytes : List UInt8}
    (hcost : cost s + occurrences (wire text) bytes ≤ c)
    (h : Owes (terminal n returns) text cost (k ()) (c - occurrences (wire text) bytes) s) :
    Owes (terminal n returns) text cost (bytes.forM sendByte >>= k) c s := by
  induction bytes generalizing c with
  | nil => exact h
  | cons b bytes ih =>
    have hsends := sends_bytes hk (b :: bytes) (wire text)
    have hoccurs : occurrences (wire text) (b :: bytes) =
        ((wire text).isPrefixOf (b :: bytes)).toNat + occurrences (wire text) bytes := rfl
    rw [hoccurs] at hcost h
    have hstart : ((b :: bytes).forM sendByte >>= k) =
        .ask (.poll transmitter) fun _ => .ask (.out (register 0) b) fun _ =>
          bytes.forM sendByte >>= k := rfl
    rw [hstart] at hsends ⊢
    -- A text that starts with this byte is paid for before the byte goes out.
    refine ⟨c - ((wire text).isPrefixOf (b :: bytes)).toNat, ?_, ?_, ⟨hs, nofun⟩, ?_⟩
    · rw [hsends]
      omega
    · omega
    apply follows_plain (r := .poll transmitter) trivial
    intro _
    apply owes_ask (r := .out (register 0) b) ht hs trivial nofun (by omega)
    apply follows_plain (r := .out (register 0) b) trivial
    intro _
    apply ih (by omega)
    rwa [Nat.sub_sub]

theorem owes_emergency (hk : (k ()).Pauses) {pieces : List String}
    (hcost : cost s + occurrences (wire text) (pieces.flatMap wire) ≤ c)
    (h : Owes (terminal n returns) text cost (k ())
      (c - occurrences (wire text) (pieces.flatMap wire)) s) :
    Owes (terminal n returns) text cost (emergency pieces >>= k) c s := by
  have hemergency : (emergency pieces >>= k) =
      .ask .interruptFlag fun found => .ask .clearFlag fun _ => .ask (.tryAcquire .serial)
        fun taken => (if taken then do sendAll pieces; release .serial; restoreFlag found
          else do restoreFlag found; sendAll pieces) >>= k := rfl
  rw [hemergency]
  apply owes_ask (r := .interruptFlag) ht hs trivial nofun (by omega)
  apply follows_interruptFlag hs
  apply owes_ask (r := .clearFlag) ht hs trivial nofun (by omega)
  apply follows_clearFlag hs
  apply owes_ask (r := .tryAcquire .serial) ht hs trivial nofun (by omega)
  apply follows_plain (r := .tryAcquire .serial) nofun
  intro taken
  cases taken with
  | true =>
    rw [if_pos rfl, LawfulMonad.bind_assoc, sendAll_eq]
    apply owes_bytes ht hs (pauses_ask (r := .release .serial) nofun _) hcost
    apply owes_ask (r := .release .serial) ht hs trivial nofun (by omega)
    apply follows_plain (r := .release .serial) nofun
    exact fun _ => h
  | false =>
    rw [if_neg Bool.false_ne_true, sendAll_eq]
    exact owes_bytes ht hs hk hcost h

theorem owes_silent (hk : (k ()).Pauses) {p : String}
    (hnone : occurrences (wire text) (wire p) = 0) (hcost : cost s ≤ c)
    (h : Owes (terminal n returns) text cost (k ()) c s) :
    Owes (terminal n returns) text cost (emergency [p] >>= k) c s := by
  have hpieces : occurrences (wire text) ([p].flatMap wire) = 0 := by
    rwa [List.flatMap_singleton]
  apply owes_emergency ht hs hk
  · rwa [hpieces]
  · rwa [hpieces]

theorem owes_report (hk : (k ()).Pauses) {pieces : List String}
    (hpieces : ∀ p ∈ pieces, occurrences (wire text) (wire p) = 0) (hcost : cost s ≤ c)
    (h : Owes (terminal n returns) text cost (k ()) c s) :
    Owes (terminal n returns) text cost (report pieces >>= k) c s := by
  induction pieces with
  | nil => exact h
  | cons p pieces ih =>
    rw [report_cons]
    apply owes_silent ht hs (pauses_report hk pieces) (hpieces p List.mem_cons_self) hcost
    exact ih fun q hq => hpieces q (List.mem_cons_of_mem p hq)

theorem owes_haltLoop {k : Empty → Program α} (hcost : cost s ≤ c) :
    Owes (terminal n returns) text cost (haltLoop >>= k) c s := by
  apply owes_ask (r := .clearFlag) ht hs trivial nofun hcost
  apply follows_clearFlag hs
  apply owes_ask (r := .haltForever) ht hs trivial nofun hcost
  exact follows_haltForever hs

theorem owes_panicWithContext {ctx : Context} {k : Empty → Program α} (hcost : cost s ≤ c) :
    Owes (terminal n returns) text cost (Panic.panicWithContext nested ctx >>= k) c s := by
  obtain ⟨never, hpanic⟩ : ∃ never : Empty → Program Unit,
      (Panic.panicWithContext nested ctx >>= k) =
        .ask .clearFlag fun _ => .ask (.memory fun k => { k with panicking := k.panicking.mark })
          fun before => ((if before.panicking.isSet then haltLoop >>= never else pure ())
            >>= fun _ => do
              emergency panicBanner
              report ctx.dump
              emergency [panicTrailer]
              haltLoop) >>= k := ⟨_, rfl⟩
  have hclosed : { s with panicking := true }.Closed n returns :=
    ⟨hs.masked, hs.gated, hs.returned⟩
  rw [hpanic]
  apply owes_ask (r := .clearFlag) ht hs trivial (by simp) hcost
  apply follows_clearFlag hs
  apply owes_ask (r := .memory fun k => { k with panicking := k.panicking.mark }) ht hs
    (fun _ => rfl) (by simp) hcost
  apply follows_memory
  rintro m rfl
  change Owes _ _ _ _ _ { standing m with panicking := true }
  cases hp : m.kernel.panicking.isSet with
  | true =>
    simp only [if_true, LawfulMonad.bind_assoc]
    exact owes_haltLoop ht hclosed (Nat.le_trans (ht.marked _) hcost)
  | false =>
    have hbanner := Nat.le_trans (ht.panicking (standing m) hp) hcost
    have hleft := Nat.le_sub_of_add_le hbanner
    simp only [Bool.false_eq_true, if_false, LawfulMonad.pure_bind, LawfulMonad.bind_assoc]
    refine owes_emergency ht hclosed (fun _ _ => rfl) hbanner ?_
    refine owes_report ht hclosed (fun _ _ => rfl) ?_ hleft ?_
    · intro p hp
      exact ht.report ctx 0 p (by simp [Fault.report, hp])
    · refine owes_silent ht hclosed (fun _ _ => rfl) ht.trailer hleft ?_
      exact owes_haltLoop ht hclosed hleft

theorem owes_faultAddress {ctx : Context} {k : UInt64 → Program α} (hcost : cost s ≤ c)
    (h : ∀ cr2, Owes (terminal n returns) text cost (k cr2) c s) :
    Owes (terminal n returns) text cost (Traps.faultAddress ctx >>= k) c s := by
  unfold Traps.faultAddress
  split
  · apply owes_ask (r := .control .cr2) ht hs trivial (by simp) hcost
    exact follows_plain (r := .control .cr2) trivial h
  · exact h 0

/-- The handler writes its banner if it still runs, and has halted afterwards in any case. -/
theorem owes_reportFault {ctx : Context} {k : Unit → Program α} (hcost : cost s ≤ c)
    (hbanner : s.state = .running →
      cost s + occurrences (wire text) (faultBanner.flatMap wire) ≤ c)
    (h : Owes (terminal n returns) text cost (k ())
      (c - occurrences (wire text) (faultBanner.flatMap wire)) { s with state := .halted }) :
    Owes (terminal n returns) text cost (Traps.reportFault ctx >>= k) c s := by
  simp only [Traps.reportFault, LawfulMonad.bind_assoc]
  apply owes_faultAddress ht hs hcost
  intro cr2
  apply owes_ask (r := .memory id) ht hs (fun _ => rfl) (by simp) hcost
  apply follows_memory
  rintro m rfl
  have hhalt : ∀ d, cost (standing m) ≤ d →
      c - occurrences (wire text) (faultBanner.flatMap wire) ≤ d →
      Owes (terminal n returns) text cost
        (change (fun k => { k with faults := k.faults.next ctx }) >>= k) d (standing m) := by
    intro d hcost hd
    apply owes_ask (r := .memory fun k => { k with faults := k.faults.next ctx }) ht hs
      (fun _ => rfl) (by simp) hcost
    apply follows_memory
    intro m' hm'
    have hnext : standing { m' with kernel := { m'.kernel with
        faults := m'.kernel.faults.next ctx } } = { standing m with state := .halted } := by
      rw [← show standing m' = standing m from hm']
      simp only [standing, Fault.Handler.state_next]
    change Owes _ _ _ (k ()) d (standing { m' with kernel := { m'.kernel with
      faults := m'.kernel.faults.next ctx } })
    rw [hnext]
    exact h.mono hd
  change Owes _ _ _ (report (m.kernel.faults.output ctx cr2) >>= fun _ =>
    change (fun k => { k with faults := k.faults.next ctx }) >>= k) c (standing m)
  unfold Fault.Handler.output
  cases hstate : m.kernel.faults.state with
  | halted =>
    apply owes_report ht hs (pauses_change _ _) (ht.notice ctx) hcost
    exact hhalt c hcost (Nat.sub_le c _)
  | running =>
    have hbanner := hbanner hstate
    have hleft := Nat.le_sub_of_add_le hbanner
    have hreport : Fault.report ctx cr2 =
        "\n=== CPU EXCEPTION ===\n" :: (Fault.report ctx cr2).tail := rfl
    rw [hreport, report_cons]
    refine owes_emergency ht hs (pauses_report (pauses_change _ _) _) hbanner ?_
    refine owes_report ht hs (pauses_change _ _) (ht.report ctx cr2) hleft ?_
    exact hhalt _ hleft (Nat.le_refl _)

theorem owes_fault {ctx : Context} {k : Unit → Program α}
    (h : ∀ s' d, s'.Closed n returns → cost s' ≤ d →
      Owes (terminal n returns) text cost (k ()) d s') :
    Owes (terminal n returns) text cost (Traps.fault ctx >>= k) (cost s) s := by
  obtain ⟨never, hfault⟩ : ∃ never : Empty → Program Unit,
      (Traps.fault ctx >>= k) = .ask (.tryAcquire .faults) fun taken =>
        (if taken then Traps.reportFault ctx >>= fun _ => release .faults
          else Panic.panicWithContext nested ctx >>= never) >>= k := ⟨_, rfl⟩
  rw [hfault]
  apply owes_ask (r := .tryAcquire .faults) ht hs trivial (by simp) (Nat.le_refl _)
  apply follows_tryAcquire
  cases hheld : s.held with
  | true =>
    simp only [if_true, Bool.false_eq_true, if_false, LawfulMonad.bind_assoc]
    exact owes_panicWithContext ht hs (Nat.le_refl _)
  | false =>
    have hclosed : { s with held := true }.Closed n returns :=
      ⟨hs.masked, hs.gated, hs.returned⟩
    have hdone : ∀ held, { s with held := held, state := .halted }.Closed n returns := fun _ =>
      ⟨hs.masked, hs.gated, hs.returned⟩
    simp only [Bool.false_eq_true, if_false, if_true, LawfulMonad.bind_assoc]
    refine owes_reportFault ht hclosed (ht.held s) (ht.reporting s hheld) ?_
    apply owes_ask (r := .release .faults) ht (hdone true) trivial (by simp)
      (ht.halted s true hheld)
    apply follows_release
    exact h _ _ (hdone false) (ht.halted s false hheld)

theorem owes_entry {drivers : Drivers} {ctx : Context} (hctx : ctx.vectorWord.toNat % 256 < 32) :
    Owes (terminal n returns) text cost (Traps.entry drivers ctx) (cost s) s := by
  have hentry : Traps.entry drivers ctx =
      Traps.fault ctx >>= fun _ => haltLoop >>= Empty.rec := by
    simp only [Traps.entry, Traps.dispatch, Trap.dispatch, Trap.route_eq_fault hctx,
      Traps.targets, LawfulMonad.bind_assoc, LawfulMonad.pure_bind]
    congr
    funext _
    congr
    exact funext fun never => never.elim
  rw [hentry]
  apply owes_fault ht hs
  exact fun _ _ hs' hcost => owes_haltLoop ht hs' hcost

end Owing

section Tariffs

def reportCost (s : Standing) : Nat := (!s.held && s.state = .running).toNat

def panicCost (s : Standing) : Nat := (!s.panicking).toNat

theorem silent_of_ruled {text : String} (h61 : 61 ∈ wire text)
    (hruled : ∀ p ∈ Text.ruled, occurrences (wire text) (wire p) = 0) {p : String}
    (hp : '=' ∉ p.toList ∨ p ∈ Text.ruled) : occurrences (wire text) (wire p) = 0 := by
  rcases hp with hp | hp
  · exact occurrences_eq_zero h61 fun h => hp (Text.equals_mem_of_mem_wire h)
  · exact hruled p hp

/-- The text is gone once the handler is held: it has halted when it is free again. -/
theorem tariff_report : Tariff "=== CPU EXCEPTION ===" reportCost where
  nonempty := by decide
  report c cr2 p hp := silent_of_ruled (by decide) (by decide) (Text.equals_mem_report c cr2 p hp)
  notice c p hp :=
    silent_of_ruled (by decide) (by decide) (.inl (Text.equals_not_mem_notice c p hp))
  trailer := by decide
  held s := by simp [reportCost]
  reporting s hheld hstate := by
    have hone : occurrences (wire "=== CPU EXCEPTION ===") (faultBanner.flatMap wire) = 1 := by
      decide
    simp [reportCost, hheld, hstate, hone]
  halted s held _ := by simp [reportCost]
  marked s := Nat.le_refl _
  panicking s _ := by
    have hnone : occurrences (wire "=== CPU EXCEPTION ===") (panicBanner.flatMap wire) = 0 := by
      decide
    rw [hnone]
    exact Nat.le_refl _

theorem tariff_panic : Tariff "=== KERNEL PANIC ===" panicCost where
  nonempty := by decide
  report c cr2 p hp := silent_of_ruled (by decide) (by decide) (Text.equals_mem_report c cr2 p hp)
  notice c p hp :=
    silent_of_ruled (by decide) (by decide) (.inl (Text.equals_not_mem_notice c p hp))
  trailer := by decide
  held s := Nat.le_refl _
  reporting s _ _ := by
    have hnone : occurrences (wire "=== KERNEL PANIC ===") (faultBanner.flatMap wire) = 0 := by
      decide
    rw [hnone]
    exact Nat.le_refl _
  halted s held _ := by
    have hnone : occurrences (wire "=== KERNEL PANIC ===") (faultBanner.flatMap wire) = 0 := by
      decide
    rw [hnone]
    exact Nat.le_refl _
  marked s := by simp [panicCost]
  panicking s hs := by
    have hone : occurrences (wire "=== KERNEL PANIC ===") (panicBanner.flatMap wire) = 1 := by
      decide
    simp [panicCost, hs, hone]

end Tariffs

section Main

variable {n : Nat} (hlo : exceptionVectors ≤ n) (hhi : n ≤ supportedVectors) {text : String}
  {cost : Standing → Nat} (ht : Tariff text cost)
include hlo hhi ht

theorem countP_visit {drivers : Drivers} {k : Nat} {returns : List Event}
    (hc : Charges (terminal n returns) text cost (take drivers k) (visit drivers k))
    {t : Incoming} {m : Machine} (hv : t.vector.toNat < exceptionVectors)
    (hg : Gated n m.idtr m.kernel.gates) (hreturns : m.past.filter Event.isReturn = returns) :
    (visit drivers (k + 1) t m).countP (·.starts text) ≤ cost (standing (m.behindGate t)) := by
  have hclosed : (standing (m.behindGate t)).Closed n returns := ⟨rfl, hg, hreturns⟩
  rw [visit_gated hg hhi (Nat.lt_of_lt_of_le hv hlo)]
  exact (owes_entry ht hclosed (t.vectorWord_context.symm ▸ hv)).countP_le hc ht.nonempty

theorem exceptions_charge (drivers : Drivers) (returns : List Event) (k : Nat) :
    Charges (terminal n returns) text cost (take drivers k) (visit drivers k) := by
  induction k with
  | zero => exact fun t m _ _ => .answered rfl
  | succ k ih =>
    rintro t m ⟨r, hclosed, -⟩ haccepts
    have hflag : m.flag = false := hclosed.masked
    rw [accepts, hflag, Bool.false_or, decide_eq_true_eq] at haccepts
    have hstanding : standing (m.behindGate t) = standing m := by
      simp [standing, behindGate, hflag]
    have hcount := countP_visit hlo hhi ht ih haccepts hclosed.gated hclosed.returned
    have hholds := exception_holds hlo hhi (exceptions_bear hlo hhi drivers returns k) haccepts
      hclosed.gated hclosed.returned
    rw [hstanding] at hcount
    exact hholds.ends.mono (fun _ _ h => h.1.elim) fun _ _ _ => hcount

end Main

/-- An exception ends the work of the machine, whatever it interrupts and whatever exceptions
come on top of it: the CPU halts with interrupts off, having waited for no lock and returned from
nothing, and has begun each banner once at most. -/
theorem interrupt_exception_halts (drivers : Drivers) {n : Nat} (hlo : exceptionVectors ≤ n)
    (hhi : n ≤ supportedVectors) (m : Machine) (hg : Gated n m.idtr m.kernel.gates) (t : Incoming)
    (hv : t.vector.toNat < exceptionVectors) :
    (∃ m', interrupt drivers t m = .stopped .halted m' ∧ m'.flag = false ∧
      m'.events.filter Event.isReturn = m.events.filter Event.isReturn) ∧
    (∀ i ∈ interruptInstants drivers t m, i.machine.flag = false ∧ ∀ l, i.request ≠ .acquire l) ∧
    (interruptInstants drivers t m).countP (·.starts "=== CPU EXCEPTION ===") ≤ 1 ∧
    (interruptInstants drivers t m).countP (·.starts "=== KERNEL PANIC ===") ≤ 1 := by
  have hbear := exceptions_bear hlo hhi drivers (m.past.filter Event.isReturn) m.pending
  have hholds := exception_holds hlo hhi hbear hv hg rfl
  have hends := hholds.ends
  refine ⟨?_, ?_, ?_, ?_⟩
  · rw [interrupt]
    cases ho : take drivers (m.pending + 1) t m with
    | answered _ m' =>
      rw [ho] at hends
      exact hends.1.elim
    | stopped why m' =>
      rw [ho] at hends
      obtain ⟨rfl, hclosed⟩ := hends
      refine ⟨m', rfl, hclosed.masked, ?_⟩
      have hreturned : m'.past.filter Event.isReturn = m.past.filter Event.isReturn :=
        hclosed.returned
      rw [events, events, List.filter_reverse, List.filter_reverse, hreturned]
  · intro i hi
    have hok := hholds.instants i hi
    exact ⟨hok.1.masked, hok.2⟩
  · exact Nat.le_trans (countP_visit hlo hhi tariff_report
      (exceptions_charge hlo hhi tariff_report drivers _ _) hv hg rfl) (Bool.toNat_le _)
  · exact Nat.le_trans (countP_visit hlo hhi tariff_panic
      (exceptions_charge hlo hhi tariff_panic drivers _ _) hv hg rfl) (Bool.toNat_le _)

/-- With the port held by the interrupted code: the report of a breakpoint is interrupted, so is
the panic that follows, and each has begun. -/
theorem interrupt_nested_exceptions_halt :
    let m : Machine :=
      { flag := true
        idtr := some ⟨4095, GateTable.address⟩
        kernel :=
          { gates := GateTable.armed Trap.Adapter.addresses 48
            locks := { serial := true } }
        arrivals :=
          [.beforeOut 30 { vector := 13, errorCode := 8 }, .beforeOut 45 { vector := 8 }] }
    let t : Incoming := { vector := 3 }
    exceptionVectors ≤ 48 ∧ 48 ≤ supportedVectors ∧ Gated 48 m.idtr m.kernel.gates ∧
    t.vector.toNat < exceptionVectors ∧
    (∃ m', interrupt notingDrivers t m = .stopped .halted m' ∧ m'.flag = false ∧
      m'.events.filter Event.isReturn = []) ∧
    (interruptInstants notingDrivers t m).countP (·.starts "=== CPU EXCEPTION ===") = 1 ∧
    (interruptInstants notingDrivers t m).countP (·.starts "=== KERNEL PANIC ===") = 1 := by
  intro m t
  have hg : Gated 48 m.idtr m.kernel.gates := ⟨rfl, rfl⟩
  have h := interrupt_exception_halts notingDrivers (by decide : exceptionVectors ≤ 48) (by decide)
    m hg t (by decide)
  exact ⟨by decide, by decide, hg, by decide, h.1, by decide +kernel, by decide +kernel⟩

end InterruptCore.Machine

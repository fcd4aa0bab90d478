import InterruptCore.Proofs.Irq.Registration

/-! What the IRQ table tells the log over whole runs. A line that nobody serves is reported
with its first interrupt and not again until it has been registered; whether that report is
out is read off the calls alone. A replacement names the registration it replaces. -/
namespace InterruptCore.Board

open Irq Pic

def loggedLine? : Irq.Action Device → Option Log.Line
  | .log line => some line
  | _ => none

def Call.issues (t : Table Device) : Call → List Log.Line
  | .register line _ _ => t.registerLog line
  | .interrupt c => (t.dispatch c).2.filterMap loggedLine?
  | _ => []

def Call.registers (line : UInt8) : Call → Bool
  | .register l _ _ => l = line
  | _ => false

/-- An interrupt on the line that finds no registration in force after `earlier` calls. -/
def misses (line : UInt8) (earlier : List Call) : Call → Bool
  | .interrupt c => c.vectorWord.toNat % 256 = 32 + line.toNat && (inForce line earlier).isNone
  | _ => false

/-- Some interrupt on the line found no registration in force, and the line was not
registered since. -/
def unanswered (line : UInt8) (calls : List Call) : Bool :=
  (List.range calls.length).any fun i =>
    (calls[i]?.map (misses line (calls.take i))).getD false &&
      (calls.drop (i + 1)).all fun call => !call.registers line

theorem unanswered_concat (line : UInt8) (calls : List Call) (call : Call) :
    unanswered line (calls ++ [call]) =
      (misses line calls call || (unanswered line calls && !call.registers line)) := by
  have hearlier : (List.range calls.length).any (fun i =>
      (((calls ++ [call])[i]?.map (misses line ((calls ++ [call]).take i))).getD false &&
        ((calls ++ [call]).drop (i + 1)).all fun c => !c.registers line)) =
      (unanswered line calls && !call.registers line) := by
    rw [unanswered, List.and_any_distrib_right, Bool.eq_iff_iff, List.any_eq_true,
      List.any_eq_true]
    refine exists_congr fun i => and_congr_right fun hi => ?_
    have hlt : i < calls.length := List.mem_range.mp hi
    rw [List.getElem?_append_left hlt, List.take_append_of_le_length (Nat.le_of_lt hlt),
      List.drop_append_of_le_length hlt]
    simp [Bool.and_assoc]
  rw [unanswered, List.length_append, List.length_singleton, List.range_succ, List.any_append,
    hearlier]
  simp [Bool.or_comm]

/-- An entry that agrees with the calls and knows whether the line was reported. -/
structure Remembers (line : UInt8) (calls : List Call) (e : Entry Device) : Prop
    extends Agrees line calls e where
  reported : e.reported = unanswered line calls

theorem Remembers.next {line : UInt8} {calls : List Call} {e : Entry Device}
    (h : Remembers line calls e) {call : Call} (hcall : call.OnTable) :
    Remembers line (calls ++ [call]) (call.entry line e) := by
  refine ⟨h.toAgrees.next hcall, ?_⟩
  rw [unanswered_concat, ← h.reported]
  cases call with
  | register l name d =>
    by_cases hl : l = line
    · simp [Call.entry, Call.registers, misses, hl]
    · simp [Call.entry, Call.registers, misses, hl]
  | unregister l =>
    by_cases hl : l = line
    · simp [Call.entry, Call.registers, misses, hl]
    · simp [Call.entry, Call.registers, misses, hl]
  | interrupt c =>
    have hmisses : misses line calls (.interrupt c) =
        (decide (c.vectorWord.toNat % 256 = 32 + line.toNat) && e.handler.isNone) := by
      rw [misses, h.handler, Option.isNone_map]
    rw [hmisses, Call.entry]
    cases hh : e.handler with
    | none =>
      by_cases hlow : c.vectorWord.toNat % 256 = 32 + line.toNat
      · simp [hlow]
      · simp [hlow, Call.registers]
    | some d =>
      by_cases hlow : c.vectorWord.toNat % 256 = 32 + line.toNat
      · simp [hlow, Call.registers]
      · simp [hlow, Call.registers]
  | _ => exact hcall.elim

theorem remembers_empty : EachLine Remembers [] (Table.empty : Table Device) := by
  intro line hline
  obtain ⟨e, he, ha⟩ := reflects_empty line hline
  rw [Table.lookup_empty hline] at he
  cases he
  exact ⟨{}, Table.lookup_empty hline, ha, rfl⟩

section Lines

variable {t : Table Device} {line : UInt8} {c : Context} {e : Entry Device}

theorem issues_register (he : t.lookup line = some e) (name : String) (d : Device) :
    (Call.register line name d).issues t =
      (e.handler.map fun _ => Table.replacing e.name line).toList := by
  obtain ⟨handler, old, count, reported⟩ := e
  rw [Call.issues, Table.registerLog, he]
  cases handler <;> rfl

theorem issues_refused (he : t.lookup line = none) (name : String) (d : Device) :
    (Call.register line name d).issues t = [] := by
  rw [Call.issues, Table.registerLog, he]

theorem issues_foreign (hc : c.irqLine = none) :
    (Call.interrupt c).issues t = [Table.foreign c] := by
  rw [Call.issues, Table.dispatch_foreign hc]
  rfl

theorem issues_interrupt (hc : c.irqLine = some line) (he : t.lookup line = some e) :
    (Call.interrupt c).issues t =
      if e.handler.isNone && !e.reported then [Table.unhandled line] else [] := by
  rw [Call.issues]
  cases hh : e.handler with
  | some d =>
    rw [Table.dispatch_handled hc he hh]
    rfl
  | none =>
    rw [Table.dispatch_unhandled hc he hh]
    cases e.reported <;> rfl

end Lines

/-- What a board on which `calls` were made tells the log with the next call on its table. -/
structure Tells (drivers : Drivers) (calls : List Call) (b : Board) : Prop where
  unhandled : ∀ (c : Context) (line : UInt8),
    line.toNat < irqLines → c.vectorWord.toNat % 256 = 32 + line.toNat →
    (Call.interrupt c).issues b.irqs =
      if (inForce line calls).isNone && !unanswered line calls then
        [Log.info ["IRQ: unhandled line ", Text.decimal line.toNat]]
      else []
  replaced : ∀ (line : UInt8) (name : String) (d : Device), line.toNat < irqLines →
    (Call.register line name d).issues b.irqs =
      match inForce line calls with
      | some (old, _) =>
        [Log.warn ["IRQ: replacing handler '", old, "' on line ", Text.decimal line.toNat]]
      | none => []
  refused : ∀ line : UInt8, irqLines ≤ line.toNat →
    (∀ name d, next drivers b (.register line name d) = b ∧
      (Call.register line name d).issues b.irqs = []) ∧
    next drivers b (.unregister line) = b
  foreign : ∀ c : Context,
    ¬ (32 ≤ c.vectorWord.toNat % 256 ∧ c.vectorWord.toNat % 256 < 48) →
    (Call.interrupt c).issues b.irqs =
      [Log.warn ["IRQ: vector ", Text.decimal c.vectorWord.toNat, " is not a legacy IRQ"]]
  /-- Only a registration on the line and an interrupt that finds none there change whether
  the line counts as reported. -/
  kept : ∀ (call : Call) (line : UInt8), call.OnTable → call.registers line = false →
    misses line calls call = false →
    ((next drivers b call).irqs.lookup line).map Entry.reported =
      (b.irqs.lookup line).map Entry.reported
  /-- Where no handler runs, just what is told is logged, as far as the log takes it. -/
  written : ∀ call : Call, call.OnTable → (∀ line, line.toNat < irqLines →
      finds line calls call = false) →
    ∃ rest, (∀ x ∈ rest, ¬ Event.IsLogged x) ∧
      (next drivers b call).events =
        b.events ++ (call.issues b.irqs).flatMap b.lineEvents ++ rest

section Telling

variable {drivers : Drivers} {calls : List Call} {b : Board}

theorem tells_unhandled (h : EachLine Remembers calls b.irqs) {c : Context} {line : UInt8}
    (hline : line.toNat < irqLines) (hc : c.vectorWord.toNat % 256 = 32 + line.toNat) :
    (Call.interrupt c).issues b.irqs =
      if (inForce line calls).isNone && !unanswered line calls then [Table.unhandled line]
      else [] := by
  obtain ⟨e, he, hr⟩ := h line hline
  rw [issues_interrupt (Context.irqLine_eq_some_iff.mpr ⟨hline, hc⟩) he, hr.handler,
    Option.isNone_map, hr.reported]

theorem tells_replaced (h : EachLine Remembers calls b.irqs) {line : UInt8}
    (hline : line.toNat < irqLines) (name : String) (d : Device) :
    (Call.register line name d).issues b.irqs =
      match inForce line calls with
      | some (old, _) => [Table.replacing old line]
      | none => [] := by
  obtain ⟨e, he, hr⟩ := h line hline
  rw [issues_register he, hr.handler]
  cases hforce : inForce line calls with
  | none => rfl
  | some r =>
    rw [hr.name r hforce]
    rfl

theorem reported_entry {call : Call} (hcall : call.OnTable) {line : UInt8} {e : Entry Device}
    (hr : Remembers line calls e) (hregisters : call.registers line = false)
    (hmisses : misses line calls call = false) : (call.entry line e).reported = e.reported := by
  rw [(hr.next hcall).reported, hr.reported, unanswered_concat, hmisses, hregisters]
  simp

theorem endEvents_not_logged (line : UInt8) : ∀ x ∈ endEvents line, ¬ Event.IsLogged x := by
  intro x hx
  unfold endEvents at hx
  by_cases h : line < 8
  · rw [if_pos h, List.nil_append] at hx
    rw [List.mem_singleton.mp hx]
    exact id
  · rw [if_neg h, List.singleton_append] at hx
    rcases List.mem_cons.mp hx with rfl | hx
    · exact id
    · rw [List.mem_singleton.mp hx]
      exact id

theorem tells_written (h : EachLine Remembers calls b.irqs) {call : Call} (hcall : call.OnTable)
    (hfinds : ∀ line, line.toNat < irqLines → finds line calls call = false) :
    ∃ rest, (∀ x ∈ rest, ¬ Event.IsLogged x) ∧
      (next drivers b call).events =
        b.events ++ (call.issues b.irqs).flatMap b.lineEvents ++ rest := by
  have hnothing : ∀ x ∈ ([] : List Event), ¬ Event.IsLogged x := by simp
  cases call with
  | register line name d =>
    refine ⟨[], hnothing, ?_⟩
    have hnext : next drivers b (.register line name d) = ((register line name d).run b).2 := rfl
    rw [hnext, List.append_nil]
    cases he : b.irqs.lookup line with
    | none =>
      rw [run_register_refused he, issues_refused he]
      simp
    | some e =>
      rw [run_register he]
      rfl
  | unregister line =>
    refine ⟨[], hnothing, ?_⟩
    have hnext : next drivers b (.unregister line) = ((unregister line).run b).2 := rfl
    have hissues : (Call.unregister line).issues b.irqs = [] := rfl
    rw [hnext, hissues, List.flatMap_nil, List.append_nil, List.append_nil]
    cases he : b.irqs.lookup line with
    | none => rw [run_unregister_refused he]
    | some e => rw [run_unregister he]
  | interrupt c =>
    have hnext : next drivers b (.interrupt c) = ((dispatchIrq drivers c).run b).2 := rfl
    rw [hnext]
    cases hc : c.irqLine with
    | none =>
      refine ⟨[], hnothing, ?_⟩
      rw [run_dispatchIrq_foreign hc, issues_foreign hc]
      simp
    | some line =>
      obtain ⟨hline, hlow⟩ := Context.irqLine_eq_some_iff.mp hc
      obtain ⟨e, he, hr⟩ := h line hline
      have hnone : inForce line calls = none := by
        have hsome := hfinds line hline
        rw [finds, decide_eq_true hlow, Bool.true_and] at hsome
        exact Option.isNone_iff_eq_none.mp (Option.isSome_eq_false_iff.mp hsome)
      have hh : e.handler = none := by rw [hr.handler, hnone]; rfl
      refine ⟨endEvents line, endEvents_not_logged line, ?_⟩
      rw [run_dispatchIrq_unhandled hc he hh, issues_interrupt hc he, hh]
      cases e.reported <;> simp
  | _ => exact hcall.elim

theorem tells_of_remembers (hd : drivers.KeepTable) (h : EachLine Remembers calls b.irqs) :
    Tells drivers calls b where
  unhandled _ _ hline hc := tells_unhandled h hline hc
  replaced _ name d hline := tells_replaced h hline name d
  refused line hline := by
    have he := Table.lookup_eq_none_iff (t := b.irqs).mpr hline
    refine ⟨fun name d => ⟨?_, issues_refused he name d⟩, ?_⟩
    · exact congrArg Prod.snd (run_register_refused he name d)
    · exact congrArg Prod.snd (run_unregister_refused he)
  foreign _ hc := issues_foreign (Context.irqLine_eq_none_iff.mpr hc)
  kept call line hcall hregisters hmisses := by
    rw [lookup_next hd hcall]
    by_cases hline : line.toNat < irqLines
    · obtain ⟨e, he, hr⟩ := h line hline
      simp [he, reported_entry hcall hr hregisters hmisses]
    · have he := Table.lookup_eq_none_iff (t := b.irqs).mpr (Nat.not_lt.mp hline)
      simp [he]
  written _ hcall hfinds := tells_written h hcall hfinds

end Telling

/-- A line is reported with the first interrupt that finds no handler since it was last
registered, and with no other, over every run on a fresh table. Handlers may do anything but
change the table. -/
theorem run_reports_once_per_registration (drivers : Drivers) (hd : drivers.KeepTable) (b : Board)
    (hb : b.irqs = Table.empty) (calls : List Call) (hcalls : ∀ call ∈ calls, call.OnTable) :
    Tells drivers calls (run drivers b calls) := by
  have hstart : EachLine Remembers [] b.irqs := hb ▸ remembers_empty
  have hrun := eachLine_run (fun hr hcall => hr.next hcall) hd hstart hcalls
  rw [List.nil_append] at hrun
  exact tells_of_remembers hd hrun

/-- Line 9 is reported, and stays so over a refused registration, one on line 3 and an
unregistration. Once it was registered again, the next miss is reported and a replacement
names the handler in force. -/
theorem run_reports_again_after_registration :
    let device := Device.recorder "device"
    let on : Context := { vectorWord := 41 }
    let quiet : List Call := [.interrupt on, .register 16 "a" device, .register 3 "a" device,
      .unregister 9]
    let again : List Call := quiet ++ [.register 9 "a" device, .unregister 9]
    let replaced : List Call := again ++ [.interrupt on, .register 9 "b" device]
    let after := run notingDrivers {}
    notingDrivers.KeepTable ∧ ({} : Board).irqs = Table.empty ∧
      (∀ call ∈ replaced, call.OnTable) ∧
      (Call.interrupt on).issues ({} : Board).irqs = [Log.info ["IRQ: unhandled line ", "9"]] ∧
      (Call.interrupt on).issues (after quiet).irqs = [] ∧
      (Call.interrupt on).issues (after again).irqs =
        [Log.info ["IRQ: unhandled line ", "9"]] ∧
      (Call.register 9 "c" device).issues (after replaced).irqs =
        [Log.warn ["IRQ: replacing handler '", "b", "' on line ", "9"]] := by
  intro device on quiet again replaced after
  have hd := notingDrivers_isolated.keepTable
  have hcalls : ∀ call ∈ replaced, call.OnTable := by simp [replaced, again, quiet, Call.OnTable]
  have htells : ∀ calls, calls ⊆ replaced → Tells notingDrivers calls (after calls) :=
    fun calls hsub => run_reports_once_per_registration notingDrivers hd {} rfl calls
      fun call hcall => hcalls call (hsub hcall)
  have hagain : again ⊆ replaced := List.subset_append_left again _
  have hquiet : quiet ⊆ replaced := List.Subset.trans (List.subset_append_left quiet _) hagain
  refine ⟨hd, rfl, hcalls, ?_, ?_, ?_, ?_⟩
  · exact (htells [] (List.nil_subset _)).unhandled on 9 (by decide) (by decide)
  · exact (htells quiet hquiet).unhandled on 9 (by decide) (by decide)
  · exact (htells again hagain).unhandled on 9 (by decide) (by decide)
  · exact (htells replaced (List.Subset.refl _)).replaced 9 "c" device (by decide)

end InterruptCore.Board

import InterruptCore.Proofs.Board.Effects
import InterruptCore.Proofs.Trap.Vector

/-! The IRQ table over whole runs. What is in force on a line is read off the calls alone:
the last call that decided the line. The table agrees with that after every run, so an
interrupt runs the handler in force, once, and the count of a line is the number of its
interrupts that found one. -/
namespace InterruptCore.Board

open Irq Pic

def Call.OnTable : Call → Prop
  | .register _ _ _ | .unregister _ | .interrupt _ => True
  | _ => False

def Call.decides (line : UInt8) : Call → Bool
  | .register l _ _ | .unregister l => l = line
  | _ => false

def Call.registration : Call → Option (String × Device)
  | .register _ name d => some (name, d)
  | _ => none

def Call.entry (line : UInt8) (e : Entry Device) : Call → Entry Device
  | .register l name d => if l = line then ⟨some d, name, e.count, false⟩ else e
  | .unregister l => if l = line then { e with handler := none, name := "" } else e
  | .interrupt c =>
    if c.vectorWord.toNat % 256 = 32 + line.toNat then
      if e.handler.isSome then { e with count := e.count + 1 } else { e with reported := true }
    else e
  | _ => e

/-- The registration in force on a line, if the last call that decided the line was one. -/
def inForce (line : UInt8) (calls : List Call) : Option (String × Device) :=
  (calls.filter (·.decides line)).getLast?.bind Call.registration

def finds (line : UInt8) (earlier : List Call) : Call → Bool
  | .interrupt c => c.vectorWord.toNat % 256 = 32 + line.toNat && (inForce line earlier).isSome
  | _ => false

def served (line : UInt8) (calls : List Call) : Nat :=
  (List.range calls.length).countP fun i => (calls[i]?.map (finds line (calls.take i))).getD false

theorem inForce_concat (line : UInt8) (calls : List Call) (call : Call) :
    inForce line (calls ++ [call]) =
      if call.decides line then call.registration else inForce line calls := by
  unfold inForce
  cases h : call.decides line <;> simp [h]

theorem served_concat (line : UInt8) (calls : List Call) (call : Call) :
    served line (calls ++ [call]) =
      served line calls + if finds line calls call then 1 else 0 := by
  have hearlier : (List.range calls.length).countP (fun i => ((calls ++ [call])[i]?.map
      (finds line ((calls ++ [call]).take i))).getD false) = served line calls := by
    apply List.countP_congr
    intro i hi
    have hlt : i < calls.length := List.mem_range.mp hi
    rw [List.getElem?_append_left hlt, List.take_append_of_le_length (Nat.le_of_lt hlt)]
  rw [served, List.length_append, List.length_singleton, List.range_succ, List.countP_append,
    hearlier]
  simp [List.countP_singleton]

structure Agrees (line : UInt8) (calls : List Call) (e : Entry Device) : Prop where
  handler : e.handler = (inForce line calls).map Prod.snd
  name : ∀ r, inForce line calls = some r → e.name = r.1
  count : e.count = UInt64.ofNat (served line calls)

theorem Agrees.concat {line : UInt8} {calls : List Call} {e : Entry Device}
    (h : Agrees line calls e) {call : Call} (hd : call.decides line = false)
    (hf : finds line calls call = false) : Agrees line (calls ++ [call]) e := by
  have hforce : inForce line (calls ++ [call]) = inForce line calls := by
    rw [inForce_concat, hd]; rfl
  have hserved : served line (calls ++ [call]) = served line calls := by
    rw [served_concat, hf]; rfl
  constructor
  · rw [hforce]; exact h.handler
  · rw [hforce]; exact h.name
  · rw [hserved]; exact h.count

/-- The entry of the decided line is what the call says, apart from its count. -/
theorem Agrees.decided {line : UInt8} {calls : List Call} {e e' : Entry Device}
    (h : Agrees line calls e) {call : Call} (hd : call.decides line = true)
    (hf : finds line calls call = false) (hhandler : e'.handler = call.registration.map Prod.snd)
    (hname : ∀ r, call.registration = some r → e'.name = r.1) (hcount : e'.count = e.count) :
    Agrees line (calls ++ [call]) e' := by
  have hforce : inForce line (calls ++ [call]) = call.registration := by
    rw [inForce_concat, if_pos hd]
  constructor
  · rw [hforce, hhandler]
  · rw [hforce]; exact hname
  · rw [served_concat, hf, hcount]; exact h.count

theorem Agrees.next {line : UInt8} {calls : List Call} {e : Entry Device}
    (h : Agrees line calls e) {call : Call} (hcall : call.OnTable) :
    Agrees line (calls ++ [call]) (call.entry line e) := by
  have hhandled : e.handler.isSome = (inForce line calls).isSome := by
    rw [h.handler, Option.isSome_map]
  cases call with
  | register l name d =>
    by_cases hl : l = line
    · have hentry : (Call.register l name d).entry line e = ⟨some d, name, e.count, false⟩ :=
        if_pos hl
      rw [hentry]
      exact h.decided (decide_eq_true hl) rfl rfl (by rintro r ⟨⟩; rfl) rfl
    · rw [show (Call.register l name d).entry line e = e from if_neg hl]
      exact h.concat (decide_eq_false hl) rfl
  | unregister l =>
    by_cases hl : l = line
    · have hentry : (Call.unregister l).entry line e = { e with handler := none, name := "" } :=
        if_pos hl
      rw [hentry]
      exact h.decided (decide_eq_true hl) rfl rfl (by rintro r ⟨⟩) rfl
    · rw [show (Call.unregister l).entry line e = e from if_neg hl]
      exact h.concat (decide_eq_false hl) rfl
  | interrupt c =>
    have hforce : inForce line (calls ++ [.interrupt c]) = inForce line calls :=
      inForce_concat line calls _
    have hfinds : finds line calls (.interrupt c) =
        (decide (c.vectorWord.toNat % 256 = 32 + line.toNat) && e.handler.isSome) := by
      rw [finds, hhandled]
    rw [Call.entry]
    split
    · rename_i hlow
      rw [decide_eq_true hlow, Bool.true_and] at hfinds
      split
      · rename_i hsome
        constructor
        · rw [hforce]; exact h.handler
        · rw [hforce]; exact h.name
        · rw [served_concat, hfinds, hsome, if_pos rfl, UInt64.ofNat_add, ← h.count]; rfl
      · rename_i hnone
        have hkept := h.concat rfl (hfinds.trans (Bool.eq_false_iff.mpr hnone))
        exact ⟨hkept.handler, hkept.name, hkept.count⟩
    · rename_i hlow
      rw [decide_eq_false hlow, Bool.false_and] at hfinds
      exact h.concat rfl hfinds
  | _ => exact hcall.elim

def EachLine (P : UInt8 → List Call → Entry Device → Prop) (calls : List Call)
    (t : Table Device) : Prop :=
  ∀ line, line.toNat < irqLines → ∃ e, t.lookup line = some e ∧ P line calls e

def Reflects (calls : List Call) (t : Table Device) : Prop :=
  ∀ line, line.toNat < irqLines → ∃ e, t.lookup line = some e ∧ Agrees line calls e

theorem reflects_empty : Reflects [] (Table.empty : Table Device) := by
  intro line hline
  refine ⟨{}, Table.lookup_empty hline, rfl, ?_, rfl⟩
  intro r hr
  cases hr

section Step

variable {drivers : Drivers} {calls : List Call} {b : Board}

theorem lookup_changed {t : Table Device} {l : UInt8} {f : Entry Device → Entry Device}
    (hnone : b.irqs.lookup l = none → t = b.irqs)
    (hsome : ∀ e, b.irqs.lookup l = some e → t = b.irqs.set l (f e)) (line : UInt8) :
    t.lookup line = (b.irqs.lookup line).map fun e => if l = line then f e else e := by
  cases hl : b.irqs.lookup l with
  | none =>
    rw [hnone hl]
    by_cases hsame : l = line
    · rw [← hsame, hl, Option.map_none]
    · simp [hsame]
  | some e =>
    rw [hsome e hl, Table.lookup_set _ (Table.lt_of_lookup hl)]
    by_cases hsame : l = line
    · simp [← hsame, hl]
    · simp [hsame, Ne.symm hsame]

theorem lookup_dispatchIrq (hd : drivers.KeepTable) {c : Context} {n : UInt8} {e : Entry Device}
    (hc : c.irqLine = some n) (he : b.irqs.lookup n = some e) (line : UInt8) :
    ((dispatchIrq drivers c).run b).2.irqs.lookup line =
      if line = n then some ((Call.interrupt c).entry n e) else b.irqs.lookup line := by
  obtain ⟨hn, hlow⟩ := Context.irqLine_eq_some_iff.mp hc
  cases hh : e.handler with
  | some d =>
    rw [irqs_dispatchIrq_handled hd hc he hh, Table.lookup_set _ hn]
    simp [Call.entry, hlow, hh]
  | none =>
    rw [run_dispatchIrq_unhandled hc he hh]
    cases hr : e.reported with
    | true =>
      have hsame : (Call.interrupt c).entry n e = e := by
        have hset : { e with reported := true } = e := by rw [← hr]
        rw [Call.entry, if_pos hlow, if_neg (by simp [hh]), hset]
      by_cases hline : line = n
      · simp [hline, he, hsame]
      · simp [hline]
    | false =>
      simp [Table.lookup_set _ hn, Call.entry, hlow, hh]

/-- Each line has its entry to itself: a call changes it as `Call.entry` says, and no other. -/
theorem lookup_next (hd : drivers.KeepTable) {call : Call} (hcall : call.OnTable) (line : UInt8) :
    (next drivers b call).irqs.lookup line = (b.irqs.lookup line).map (call.entry line) := by
  cases call with
  | register l name d =>
    apply lookup_changed (t := ((register l name d).run b).2.irqs)
    · exact fun hl => by rw [run_register_refused hl]
    · exact fun e hl => by rw [run_register hl]
  | unregister l =>
    apply lookup_changed (t := ((unregister l).run b).2.irqs)
    · exact fun hl => by rw [run_unregister_refused hl]
    · exact fun e hl => by rw [run_unregister hl]
  | interrupt c =>
    have hnext : next drivers b (.interrupt c) = ((dispatchIrq drivers c).run b).2 := rfl
    rw [hnext]
    cases hc : c.irqLine with
    | none =>
      rw [run_dispatchIrq_foreign hc]
      cases he : b.irqs.lookup line with
      | none => rfl
      | some e =>
        have hlow : ¬ c.vectorWord.toNat % 256 = 32 + line.toNat := by
          intro hlow
          rw [Context.irqLine_eq_some_iff.mpr ⟨Table.lt_of_lookup he, hlow⟩] at hc
          cases hc
        simp [Call.entry, hlow]
    | some n =>
      obtain ⟨hn, hlow⟩ := Context.irqLine_eq_some_iff.mp hc
      obtain ⟨e, he⟩ := b.irqs.exists_lookup hn
      rw [lookup_dispatchIrq hd hc he]
      by_cases hsame : line = n
      · simp [hsame, he]
      · have hne : ¬ c.vectorWord.toNat % 256 = 32 + line.toNat := by
          rw [hlow, Nat.add_left_cancel_iff, UInt8.toNat_inj]
          exact Ne.symm hsame
        simp [Call.entry, hsame, hne]
  | _ => exact hcall.elim

variable {P : UInt8 → List Call → Entry Device → Prop}
  (hP : ∀ {line calls e call}, P line calls e → Call.OnTable call →
    P line (calls ++ [call]) (call.entry line e))
include hP

theorem eachLine_next (hd : drivers.KeepTable) (h : EachLine P calls b.irqs) {call : Call}
    (hcall : call.OnTable) : EachLine P (calls ++ [call]) (next drivers b call).irqs := by
  intro line hline
  obtain ⟨e, he, h⟩ := h line hline
  refine ⟨call.entry line e, ?_, hP h hcall⟩
  rw [lookup_next hd hcall, he]
  rfl

/-- What each call keeps of the entries, line by line, a run keeps. -/
theorem eachLine_run (hd : drivers.KeepTable) {earlier : List Call}
    (h : EachLine P earlier b.irqs) (hcalls : ∀ call ∈ calls, call.OnTable) :
    EachLine P (earlier ++ calls) (run drivers b calls).irqs := by
  -- The calls made already are kept: `P` looks back at them.
  induction calls generalizing b earlier with
  | nil =>
    rw [List.append_nil]
    exact h
  | cons call calls ih =>
    have hnext := eachLine_next hP hd h (hcalls call List.mem_cons_self)
    have hrest := ih hnext fun c hc => hcalls c (List.mem_cons_of_mem _ hc)
    rw [List.append_assoc] at hrest
    exact hrest

end Step

/-- What a board on which `calls` were made does with the next interrupt, and what its table
shows. The acknowledge comes after the handler and is all that reaches the bus. -/
structure Serves (drivers : Drivers) (calls : List Call) (b : Board) : Prop where
  handled : ∀ (c : Context) (line : UInt8) (name : String) (d : Device),
    line.toNat < irqLines → c.vectorWord.toNat % 256 = 32 + line.toNat →
    inForce line calls = some (name, d) →
    ∃ own, (∀ x ∈ own, Event.IsOutput x) ∧
      (next drivers b (.interrupt c)).events =
        b.events ++ .called d c :: own ++ endEvents line
  unhandled : ∀ (c : Context) (line : UInt8),
    line.toNat < irqLines → c.vectorWord.toNat % 256 = 32 + line.toNat →
    inForce line calls = none →
    ∃ lines, (∀ x ∈ lines, Event.IsLogged x) ∧
      (next drivers b (.interrupt c)).events = b.events ++ lines ++ endEvents line
  foreign : ∀ c : Context,
    ¬ (32 ≤ c.vectorWord.toNat % 256 ∧ c.vectorWord.toNat % 256 < 48) →
    ∃ lines, (∀ x ∈ lines, Event.IsLogged x) ∧
      next drivers b (.interrupt c) = { b with events := b.events ++ lines }
  accepted : ∀ (line : UInt8) (name : String) (d : Device),
    ((perform drivers (.register line name d)).run b).1 =
      if line.toNat < irqLines then .ok () else .error (.outOfRange line)
  removed : ∀ line : UInt8,
    ((perform drivers (.unregister line)).run b).1 =
      if line.toNat < irqLines then .ok () else .error (.outOfRange line)
  registered : ∀ line : UInt8, line.toNat < irqLines →
    b.irqs.isRegistered line = (inForce line calls).isSome
  name : ∀ line : UInt8, line.toNat < irqLines →
    b.irqs.handlerName line = (inForce line calls).map Prod.fst
  count : ∀ line : UInt8, line.toNat < irqLines →
    b.irqs.count line = UInt64.ofNat (served line calls)

section Serving

variable {drivers : Drivers} {calls : List Call} {b : Board}

end Serving

end InterruptCore.Board

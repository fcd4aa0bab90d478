import InterruptCore.Proofs.Kernel.PoweredOn
import InterruptCore.Proofs.Text.Lines

/-! The kernel from power-on until it idles. Its two lines hold the mark, and nothing else that is
sent does; so each stands once in what the port sent, the second if the kernel woke at all. -/
namespace InterruptCore

open Machine Program

namespace Machine

def Event.byte : Event → Option UInt8
  | .character b => some b
  | _ => none

def transmitted (es : List Event) : List UInt8 := es.filterMap Event.byte

theorem transmitted_append (es es' : List Event) :
    transmitted (es ++ es') = transmitted es ++ transmitted es' := List.filterMap_append

theorem transmitted_characters (bytes : List UInt8) :
    transmitted (bytes.map .character) = bytes := by
  rw [transmitted, List.filterMap_map]
  exact List.filterMap_some

theorem not_mem_transmitted {b : UInt8} {es : List Event} (h : .character b ∉ es) :
    b ∉ transmitted es := by
  intro hb
  obtain ⟨e, he, hbyte⟩ := List.mem_filterMap.mp hb
  cases e with
  | character c =>
    cases hbyte
    exact h he
  | _ => cases hbyte

theorem Later.served_le {past past' : List Event} (h : Later past past') :
    served past ≤ served past' := by
  obtain ⟨new, rfl, -⟩ := h
  rw [served, served, List.countP_append]
  exact Nat.le_add_left _ _

theorem Tallied.toNat_ticks {k : Kernel} {past : List Event} (h : Tallied k past)
    (hwrap : served past < 2 ^ 64) : k.ticks.toNat = served past := by
  rw [h.ticks]
  exact UInt64.toNat_ofNat_of_lt' hwrap

end Machine

namespace Kernel.Boot

open Console Text

variable {level : Log.Level} {m : Machine}

def phrase (word rest : List UInt8) : List UInt8 :=
  wire "DomeO" ++ mark :: (wire ": " ++ (word ++ 32 :: rest))

def online : List UInt8 := ["DomeOS: interrupt core online.", "\n"].flatMap wire

def idling (n : Nat) : List UInt8 :=
  ["DomeOS: ", decimal n, " timer ticks, idling.\n"].flatMap wire

theorem online_eq : online = phrase (wire "interrupt") (wire "core online.\n") := by decide

theorem idling_eq (n : Nat) :
    idling n = phrase (wire (decimal n)) (wire "timer ticks, idling.\n") := by
  have hname : wire "DomeOS: " = wire "DomeO" ++ mark :: wire ": " := by decide
  have hrest : wire " timer ticks, idling.\n" = 32 :: wire "timer ticks, idling.\n" := by decide
  simp [idling, phrase, hname, hrest]

section Phrases

/-- The word of a phrase ends at the first blank, and the mark is neither in it nor after it. -/
structure Spoken (word rest : List UInt8) : Prop where
  blank : 32 ∉ word
  word : mark ∉ word
  rest : mark ∉ rest

variable {w t w' t' w'' t'' x y z : List UInt8}

theorem spoken_online : Spoken (wire "interrupt") (wire "core online.\n") := by
  constructor <;> decide

theorem spoken_idling (n : Nat) : Spoken (wire (decimal n)) (wire "timer ticks, idling.\n") := by
  refine ⟨fun h => ?_, fun h => ?_, by decide⟩
  · exact absurd (mem_wire_decimal h).1 (by decide)
  · exact absurd (mem_wire_decimal h).2 (by decide)

theorem mark_mem_phrase (w t : List UInt8) : mark ∈ phrase w t :=
  List.mem_append_right _ List.mem_cons_self

theorem occurrences_phrase (hw : 32 ∉ w) (hw' : 32 ∉ w') (hx : mark ∉ x) :
    occurrences (phrase w t) (x ++ phrase w' t' ++ y) =
      (w == w' && t.isPrefixOf (t' ++ y)).toNat +
        occurrences (phrase w t) (wire ": " ++ (w' ++ 32 :: t') ++ y) := by
  have hname : mark ∉ wire "DomeO" := by decide
  have hbefore : mark ∉ x ++ wire "DomeO" := fun h => (List.mem_append.mp h).elim hx hname
  have hsplit : x ++ phrase w' t' ++ y = (x ++ wire "DomeO") ++
      mark :: (wire ": " ++ (w' ++ 32 :: (t' ++ y))) := by
    simp [phrase]
  have hsuffix : (wire "DomeO").isSuffixOf (x ++ wire "DomeO") = true :=
    List.isSuffixOf_iff_suffix.mpr (List.suffix_append x _)
  have hrest : (wire ": " ++ (w ++ 32 :: t)).isPrefixOf (wire ": " ++ (w' ++ 32 :: (t' ++ y))) =
      (w == w' && t.isPrefixOf (t' ++ y)) := by
    rw [← isPrefixOf_marked hw hw', Bool.eq_iff_iff, List.isPrefixOf_iff_prefix,
      List.isPrefixOf_iff_prefix, List.prefix_append_right_inj]
  rw [hsplit, phrase, occurrences_marked hname hbefore, hsuffix, hrest, Bool.true_and]
  simp

theorem Spoken.after_mark (h : Spoken w t) (hy : mark ∉ y) :
    mark ∉ wire ": " ++ (w ++ 32 :: t) ++ y := by
  have hcolon : mark ∉ wire ": " := by decide
  simp only [List.mem_append, List.mem_cons, not_or]
  exact ⟨⟨hcolon, h.word, by decide, h.rest⟩, hy⟩

/-- After the last phrase there is no other. -/
theorem occurrences_last (h : Spoken w t) (h' : Spoken w' t') (hx : mark ∉ x) (hy : mark ∉ y) :
    occurrences (phrase w t) (x ++ phrase w' t' ++ y) =
      (w == w' && t.isPrefixOf (t' ++ y)).toNat := by
  rw [occurrences_phrase h.blank h'.blank hx,
    occurrences_eq_zero (mark_mem_phrase w t) (h'.after_mark hy), Nat.add_zero]

theorem occurrences_pair (h : Spoken w t) (h' : Spoken w' t') (h'' : Spoken w'' t'')
    (hx : mark ∉ x) (hy : mark ∉ y) (hz : mark ∉ z) :
    occurrences (phrase w t) (x ++ phrase w' t' ++ (y ++ phrase w'' t'' ++ z)) =
      (w == w' && t.isPrefixOf (t' ++ (y ++ phrase w'' t'' ++ z))).toNat +
        (w == w'' && t.isPrefixOf (t'' ++ z)).toNat := by
  rw [occurrences_phrase h.blank h'.blank hx, ← occurrences_last h h'' (h'.after_mark hy) hz]
  simp only [List.append_assoc]

theorem isPrefixOf_append_self (t y : List UInt8) : t.isPrefixOf (t ++ y) = true :=
  List.isPrefixOf_iff_prefix.mpr (List.prefix_append t y)

theorem decimal_ne_interrupt (n : Nat) : wire (decimal n) ≠ wire "interrupt" := by
  intro h
  have hletter : 105 ∈ wire (decimal n) := by
    rw [h]
    decide
  exact absurd (mem_wire_decimal hletter).2 (by decide)

theorem occurrences_online_alone (hx : mark ∉ x) (hy : mark ∉ y) :
    occurrences online (x ++ online ++ y) = 1 ∧
      ∀ n, occurrences (idling n) (x ++ online ++ y) = 0 := by
  rw [online_eq]
  refine ⟨?_, fun n => ?_⟩
  · rw [occurrences_last spoken_online spoken_online hx hy, beq_self_eq_true,
      isPrefixOf_append_self]
    rfl
  · rw [idling_eq, occurrences_last (spoken_idling n) spoken_online hx hy,
      beq_false_of_ne (decimal_ne_interrupt n)]
    rfl

theorem occurrences_online_idling (hx : mark ∉ x) (hy : mark ∉ y) (hz : mark ∉ z) (n : Nat) :
    occurrences online (x ++ online ++ (y ++ idling n ++ z)) = 1 ∧
      ∀ k, occurrences (idling k) (x ++ online ++ (y ++ idling n ++ z)) =
        if k = n then 1 else 0 := by
  rw [online_eq, idling_eq n]
  refine ⟨?_, fun k => ?_⟩
  · rw [occurrences_pair spoken_online spoken_online (spoken_idling n) hx hy hz, beq_self_eq_true,
      isPrefixOf_append_self, beq_false_of_ne (decimal_ne_interrupt n).symm]
    rfl
  · rw [idling_eq, occurrences_pair (spoken_idling k) spoken_online (spoken_idling n) hx hy hz,
      beq_false_of_ne (decimal_ne_interrupt k), isPrefixOf_append_self, Bool.false_and,
      Bool.and_true]
    split
    · rename_i hk
      rw [hk, beq_self_eq_true]
      rfl
    · rename_i hk
      rw [beq_false_of_ne (mt wire_decimal_inj.mp hk)]
      rfl

end Phrases

def opening : Program Unit := do
  runAll
  Console.writeLine "DomeOS: interrupt core online."
  Timer.sleep 100

def reporting (k : Kernel) : Program Empty := do
  Console.print ["DomeOS: ", decimal k.ticks.toNat, " timer ticks, idling.\n"]
  request .haltForever

theorem start_eq : start = opening >>= fun _ => memory >>= reporting := by
  simp only [start, opening, LawfulMonad.bind_assoc]
  rfl

/-- Among these instants is the one at which memory was read for the second line. The first line
came after `past`. -/
structure Reads (is : List Instant) (past : List Event) (now after : Machine) : Prop where
  instant : ⟨.memory id, now, reporting⟩ ∈ is
  slept : Later (sending online past) now.past
  ten : served now.past + 10 < 2 ^ 64 → served (sending online past) + 10 ≤ served now.past
  sent : ∃ past', Later now.past past' ∧
    Later (sending (idling now.kernel.ticks.toNat) past') after.past

def Rests (is : List Instant) (after : Machine) : Prop :=
  Tallied after.kernel after.past ∧ ∃ past, Later [] past ∧
    (Later (sending online past) after.past ∨ ∃ now, Reads is past now after)

section Waking

variable {is : List Instant} {take : Taking} {S : Machine → Prop}
  (hb : ∀ rests since, (openTerms rests since).Bears take unvisited)
include hb

theorem passes_sleep {since : List Event} (hm : Onward since m) :
    Passes take (Timer.sleep 100)
      (fun _ now => Onward since now ∧
        (served now.past + 10 < 2 ^ 64 → served since + 10 ≤ served now.past))
      (fun now => Opened since now.idtr (scene now)) m := by
  apply Passes.look hb hm
  intro now hnow
  have hneeded : Pit.ticksFor 100 (Timer.rate now.kernel) = 10 := by
    rw [show Timer.rate now.kernel = 100 from hnow.opened.armed.rate]
    rfl
  rw [hneeded]
  apply Passes.look hb hnow
  intro start hstart
  apply (Passes.haltWhile hb hstart.here _).mono
  · rintro _ last ⟨hlast, hdone⟩
    refine ⟨hlast.since_before hstart.later, fun hwrap => ?_⟩
    have hbefore : served since ≤ served start.past := hstart.later.served_le
    have hafter : served start.past ≤ served last.past := hlast.later.served_le
    have hticks : last.kernel.ticks.toNat = served last.past :=
      hlast.tallied.toNat_ticks (by omega)
    have htarget : (start.kernel.ticks + 10).toNat = served start.past + 10 := by
      have hten : (10 : UInt64).toNat = 10 := rfl
      rw [UInt64.toNat_add, hstart.tallied.toNat_ticks (by omega), hten]
      exact Nat.mod_eq_of_lt (by omega)
    have hreached : (start.kernel.ticks + 10).toNat ≤ last.kernel.ticks.toNat :=
      UInt64.not_lt.mp (of_decide_eq_false hdone)
    omega
  · exact fun _ h => ⟨h.flag, h.loaded, h.armed, hstart.later.trans h.later⟩

theorem passes_opening (hm : PowerOn level m) (he : AwaitsIrqs m) :
    Passes take opening
      (fun _ now => ∃ past, Later [] past ∧ Onward (sending online past) now ∧
        (served now.past + 10 < 2 ^ 64 → served (sending online past) + 10 ≤ served now.past))
      (Rests is) m := by
  apply (passes_runAll hb hm he).bind
  intro _ booted hbooted
  apply (Passes.locked hb hbooted ["DomeOS: interrupt core online.", "\n"]).bind
  rintro _ spoken ⟨past, hpast, hspoken⟩
  apply (passes_sleep hb hspoken).mono
  · exact fun _ _ h => ⟨past, hpast, h⟩
  · exact fun _ h => ⟨h.armed.tallied, past, hpast, .inl h.later⟩

theorem passes_reporting {Q : Empty → Machine → Prop} {since : List Event}
    (hm : Onward since m) :
    Passes take (memory >>= reporting) Q
      (fun after => Tallied after.kernel after.past ∧ ∃ now : Machine,
        ⟨.memory id, now, reporting⟩ ∈ instantsWith take unvisited (memory >>= reporting) m ∧
        Later m.past now.past ∧ ∃ past, Later now.past past ∧
        Later (sending (idling now.kernel.ticks.toNat) past) after.past) m := by
  apply Passes.ask_at hb hm.here (r := .memory id) id
  intro now hnow hinstant
  refine ⟨now.kernel, now.tick, rfl, ?_⟩
  apply (Passes.locked hb hnow.here _).bind
  rintro _ spoken ⟨past, hpast, hspoken⟩
  apply (Passes.haltForever hb hspoken).mono fun _ _ => id
  exact fun after h => ⟨h.armed.tallied, now, hinstant, hnow.later, past, hpast, h.later⟩

theorem passes_start (hm : PowerOn level m) (he : AwaitsIrqs m) :
    Passes take start (fun _ _ => True) (Rests (instantsWith take unvisited start m)) m := by
  have hopening : Passes take opening _ (Rests (instantsWith take unvisited start m)) m :=
    passes_opening hb hm he
  rw [start_eq] at hopening ⊢
  apply hopening.bind_run
  rintro _ woken hrun ⟨past, hpast, hwoken, hten⟩
  apply (passes_reporting hb hwoken).mono fun _ _ => id
  rintro after ⟨htallied, now, hinstant, hlater, hsent⟩
  refine ⟨htallied, past, hpast, .inr ⟨now, mem_instants_bind hrun hinstant,
    hwoken.later.trans hlater, fun hwrap => ?_, hsent⟩⟩
  have hmore := hlater.served_le
  exact (hten (by omega)).trans hmore

end Waking

/-- The second line was sent, with the number of ticks that memory held at `now`; `slept` happened
between the first line and then, and `rest` is all that happened after the first line. -/
structure Idles (drivers : Drivers) (m now after : Machine) (slept rest : List Event) : Prop where
  reads : ⟨.memory id, now, reporting⟩ ∈ instantsWith (take drivers m.pending) unvisited start m
  sent : ∃ late last, rest = slept ++ late ++
    (idling now.kernel.ticks.toNat).map .character ++ last
  once : ∀ n, occurrences (idling n) (transmitted after.events) =
    if n = now.kernel.ticks.toNat then 1 else 0
  counted : now.kernel.ticks.toNat = served now.past % 2 ^ 64
  ten : served now.past + 10 < 2 ^ 64 → 10 ≤ served slept ∧ 10 ≤ now.kernel.ticks.toNat

theorem events_of_later {past past' : List Event} (h : Later past past') :
    ∃ new, past'.reverse = past.reverse ++ new ∧ mark ∉ transmitted new ∧
      served past' = served new + served past := by
  obtain ⟨new, rfl, hnew⟩ := h
  refine ⟨new.reverse, List.reverse_append, ?_, ?_⟩
  · exact not_mem_transmitted fun h => hnew (List.mem_reverse.mp h)
  · rw [served, List.countP_append, served, List.countP_reverse, served]

theorem reverse_sending (bytes : List UInt8) (past : List Event) :
    (sending bytes past).reverse = past.reverse ++ bytes.map .character := by
  rw [sending, List.reverse_append, List.reverse_reverse]

theorem mark_not_mem_past {past : List Event} (h : Later [] past) :
    mark ∉ transmitted past.reverse := by
  obtain ⟨new, hnew, hmark, -⟩ := events_of_later h
  rwa [hnew]

theorem events_of_sleep {past : List Event} {after : Machine} (hpast : Later [] past)
    (h : Later (sending online past) after.past) : ∃ rest,
      after.events = past.reverse ++ online.map .character ++ rest ∧
      occurrences online (transmitted after.events) = 1 ∧
      ∀ n, occurrences (idling n) (transmitted after.events) = 0 := by
  obtain ⟨rest, hafter, hrest, -⟩ := events_of_later h
  rw [reverse_sending] at hafter
  have hbytes : transmitted after.events =
      transmitted past.reverse ++ online ++ transmitted rest := by
    rw [events, hafter, transmitted_append, transmitted_append, transmitted_characters]
  have honce := occurrences_online_alone (mark_not_mem_past hpast) hrest
  rw [← hbytes] at honce
  exact ⟨rest, hafter, honce⟩

theorem idles_of_reads {drivers : Drivers} {past : List Event} {now after : Machine}
    (hpast : Later [] past) (htallied : Tallied now.kernel now.past)
    (h : Reads (instantsWith (take drivers m.pending) unvisited start m) past now after) :
    ∃ slept rest, now.events = past.reverse ++ online.map .character ++ slept ∧
      after.events = past.reverse ++ online.map .character ++ rest ∧
      occurrences online (transmitted after.events) = 1 ∧
      Idles drivers m now after slept rest := by
  obtain ⟨slept, hnow, hslept, hserved⟩ := events_of_later h.slept
  obtain ⟨past', hlate, hsent⟩ := h.sent
  obtain ⟨late, hpast', hlate, -⟩ := events_of_later hlate
  obtain ⟨last, hafter, hlast, -⟩ := events_of_later hsent
  rw [reverse_sending] at hnow hafter
  rw [hpast', hnow] at hafter
  have hbytes : transmitted after.events = transmitted past.reverse ++ online ++
      (transmitted (slept ++ late) ++ idling now.kernel.ticks.toNat ++ transmitted last) := by
    rw [events, hafter]
    simp only [transmitted_append, transmitted_characters, List.append_assoc]
  have hbetween : mark ∉ transmitted (slept ++ late) := by
    rw [transmitted_append]
    exact fun h => (List.mem_append.mp h).elim hslept hlate
  obtain ⟨honline, hidling⟩ := occurrences_online_idling (mark_not_mem_past hpast) hbetween hlast
    now.kernel.ticks.toNat
  rw [← hbytes] at honline hidling
  refine ⟨slept, slept ++ late ++ (idling now.kernel.ticks.toNat).map .character ++ last, hnow, ?_,
    honline, h.instant, ⟨late, last, rfl⟩, hidling, ?_, fun hwrap => ?_⟩
  · rw [events, hafter]
    simp only [List.append_assoc]
  · rw [htallied.ticks, UInt64.toNat_ofNat']
  · have hticks := htallied.toNat_ticks (by omega)
    have hten := h.ten hwrap
    omega

/-- From power-on, whatever IRQs come: wherever the kernel is not in an interrupt, its ticks and the
count of the timer's line are the number of timer interrupts so far, modulo 2^64. The first line is
sent once. The second is sent once or not at all; it comes after the first, and says how many timer
interrupts there were since power-on. At least ten of them came since the first line, unless the
ticks were about to wrap around. -/
theorem start_counts_timer_interrupts (drivers : Drivers) (hm : PowerOn level m)
    (harrivals : ∀ a ∈ m.arrivals, a.trap.IsIrq) (hwake : ∀ t ∈ m.wake, t.IsIrq) :
    (∀ i ∈ instantsWith (take drivers m.pending) unvisited start m,
      Tallied i.machine.kernel i.machine.past) ∧
    ∃ (after : Machine) (before rest : List Event),
      run drivers start m = .stopped .idle after ∧ Tallied after.kernel after.past ∧
      after.events = before ++ online.map .character ++ rest ∧
      occurrences online (transmitted after.events) = 1 ∧
      ((∀ n, occurrences (idling n) (transmitted after.events) = 0) ∨
        ∃ now slept, now.events = before ++ online.map .character ++ slept ∧
          Idles drivers m now after slept rest) := by
  have hb : ∀ rests since, (openTerms rests since).Bears (take drivers m.pending) unvisited :=
    fun rests since => openTerms_bear drivers rests since m.pending
  have hpasses := passes_start hb hm ⟨harrivals, hwake⟩
  refine ⟨hpasses.instants, ?_⟩
  have hends := hpasses.ends
  change (run drivers start m).Ends _ _ at hends
  cases ho : run drivers start m with
  | answered never _ => exact never.elim
  | stopped why after =>
    rw [ho] at hends
    obtain ⟨rfl, htallied, past, hpast, hsleeps | ⟨now, hreads⟩⟩ := hends
    · obtain ⟨rest, hafter, honline, hidling⟩ := events_of_sleep hpast hsleeps
      exact ⟨after, past.reverse, rest, rfl, htallied, hafter, honline, .inl hidling⟩
    · obtain ⟨slept, rest, hnow, hafter, honline, hidles⟩ :=
        idles_of_reads hpast (hpasses.instants _ hreads.instant) hreads
      exact ⟨after, past.reverse, rest, rfl, htallied, hafter, honline,
        .inr ⟨now, slept, hnow, hidles⟩⟩

/-- The first tick comes just before the wait, and a key wakes the kernel too early. The last tick
is too late for the line. -/
theorem start_counts_ten_timer_interrupts :
    let tick : Incoming := { vector := 32, registers := { frame := { rflags := 0x202 } } }
    let key : Incoming := { tick with vector := 33 }
    let m : Machine :=
      { kernel := { log := { level := .warn }, revisionAccepted := true }
        arrivals := [⟨fun r _ => r matches .haltWhile _, tick⟩,
          ⟨fun r _ => r matches .haltForever, tick⟩]
        wake := key :: List.replicate 9 tick }
    PowerOn .warn m ∧ (∀ a ∈ m.arrivals, a.trap.IsIrq) ∧ (∀ t ∈ m.wake, t.IsIrq) ∧
    (∀ i ∈ instantsWith (take notingDrivers m.pending) unvisited start m,
      Tallied i.machine.kernel i.machine.past) ∧
    (∃ (after : Machine) (before rest : List Event),
      run notingDrivers start m = .stopped .idle after ∧ Tallied after.kernel after.past ∧
      after.events = before ++ online.map .character ++ rest ∧
      occurrences online (transmitted after.events) = 1 ∧
      ((∀ n, occurrences (idling n) (transmitted after.events) = 0) ∨
        ∃ now slept, now.events = before ++ online.map .character ++ slept ∧
          Idles notingDrivers m now after slept rest)) ∧
    occurrences (idling 10) (transmitted (run notingDrivers start m).machine.events) = 1 ∧
    served (run notingDrivers start m).machine.past = 11 := by
  intro tick key m
  have harrivals : ∀ a ∈ m.arrivals, a.trap.IsIrq := by
    intro a ha
    simp only [m, List.mem_cons, List.not_mem_nil, or_false] at ha
    rcases ha with rfl | rfl <;> decide
  have hwake : ∀ t ∈ m.wake, t.IsIrq := by decide
  have hm : PowerOn .warn m :=
    ⟨rfl, rfl, rfl, fun a ha => (harrivals a ha).1, fun t ht => (hwake t ht).1⟩
  have h := start_counts_timer_interrupts notingDrivers hm harrivals hwake
  refine ⟨hm, harrivals, hwake, h.1, h.2, ?_⟩
  decide +kernel

end Kernel.Boot

end InterruptCore

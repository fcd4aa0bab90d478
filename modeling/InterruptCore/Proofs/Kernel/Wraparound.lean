import InterruptCore.Proofs.Kernel.Idling
import InterruptCore.Proofs.Kernel.Output
import InterruptCore.Proofs.Kernel.Servicing
import InterruptCore.Proofs.Machine.Ahead

/-! Ticks that wrap around. The kernel sleeps until its ticks have reached a sum, which wraps
around as they do. With so many interrupts of the timer behind it that the sum is less than the
ticks are, it does not sleep at all; and with enough of them while it looks at the ticks it wakes
with next to none. -/
namespace InterruptCore

open Machine Program

variable {α β : Type}

namespace Machine

theorem runWith_seq (take : Taking) (p : Program α) (f : α → Program β) (m : Machine) :
    runWith take (p >>= f) m = (runWith take p m).bind fun a m => runWith take (f a) m :=
  runWith_bind take p f m

theorem runWith_look {take : Taking} {m : Machine} (h : Spares m.arrivals (.memory id, m))
    (next : Kernel → Program α) :
    runWith take (.ask (.memory id) next) m = runWith take (next m.kernel) m.tick := by
  rw [runWith, settle_of_spares take h]
  rfl

theorem walk_outs {p : Program α} {m now : Machine} {a : α} (h : p.walk m = .answered a now) :
    m.progress.outs ≤ now.progress.outs := by
  induction p generalizing m with
  | done b =>
    obtain ⟨rfl, rfl⟩ := Outcome.answered.inj h
    exact Nat.le_refl _
  | ask r next ih =>
    obtain ⟨b, later, hperform, hrest⟩ := Outcome.bind_eq_answered h
    have houts := perform_outs r m
    rw [hperform] at houts
    have hlater : later.progress.outs = m.progress.outs + r.outs := houts
    have hmore := ih b hrest
    omega

end Machine

namespace Kernel

def Serving : Request → Prop
  | .acquire _ | .memory _ | .out _ _ | .release _ => True
  | _ => False

def Serves (p : Program Unit) (m : Machine) : Prop :=
  ∃ after, Walks (Serving ·.1) p m (.answered () after)

section Tick

variable {m m' : Machine} {c : Context} {e : Irq.Entry Handler}

theorem serves_ask {r : Request} {b : r.Answer} {next : r.Answer → Program Unit} (hr : Serving r)
    (h : perform r m = .answered b m') (hnext : Serves (next b) m') : Serves (.ask r next) m := by
  obtain ⟨after, hwalks⟩ := hnext
  have hwait : ¬ r.IsWait := by
    cases r <;> first | exact id | exact hr.elim
  exact ⟨after, .ask hwait hr h hwalks⟩

theorem serves_acquire {l : Lock} {next : Unit → Program Unit}
    (hfree : m.kernel.locks.free l = true) (hnext : Serves (next ()) (m.mapLocks (·.take l))) :
    Serves (.ask (.acquire l) next) m := serves_ask (r := .acquire l) trivial (if_pos hfree) hnext

theorem serves_actions (drivers : Drivers) (hlocks : m.kernel.locks = Locks.take {} .tableRead) :
    Serves ([.run .timer, .acknowledge Irq.Known.timer.line].forM (Interrupts.perform drivers c) >>=
      fun _ => release .tableRead) m := by
  have hform : ([.run .timer, .acknowledge Irq.Known.timer.line].forM
      (Interrupts.perform drivers c) >>= fun _ => release .tableRead) =
      .ask (.memory fun k => { k with ticks := k.ticks + 1 }) fun _ =>
      .ask (.acquire .controllers) fun _ => .ask (.memory id) fun _ =>
      .ask (.out Port.pic1Command Pic.endWord) fun _ =>
      .ask (.memory fun k =>
        { k with pic := k.pic.next (.endOfInterrupt Irq.Known.timer.line) }) fun _ =>
      .ask (.release .controllers) fun _ => .ask (.release .tableRead) .done := rfl
  have hfree : m.kernel.locks.free .controllers = true := by
    rw [hlocks]
    rfl
  rw [hform]
  apply serves_ask (r := .memory _) trivial rfl
  refine serves_acquire hfree ?_
  apply serves_ask (r := .memory id) trivial rfl
  apply serves_ask (r := .out _ _) trivial rfl
  apply serves_ask (r := .memory _) trivial rfl
  apply serves_ask (r := .release .controllers) trivial rfl
  exact serves_ask (r := .release .tableRead) trivial rfl ⟨_, .done () _⟩

theorem serves_dispatch (drivers : Drivers) (hlocks : m.kernel.locks = {})
    (hc : c.irqLine = some Irq.Known.timer.line)
    (he : m.kernel.irqs.lookup Irq.Known.timer.line = some e) (hh : e.handler = some .timer) :
    Serves (Interrupts.dispatch drivers c) m := by
  have hform : Interrupts.dispatch drivers c = .ask (.acquire .tableRead) fun _ =>
      .ask (.memory fun k => { k with irqs := (k.irqs.dispatch c).1 }) fun before =>
        (before.irqs.dispatch c).2.forM (Interrupts.perform drivers c) >>= fun _ =>
          release .tableRead := rfl
  have hfree : m.kernel.locks.free .tableRead = true := by
    rw [hlocks]
    rfl
  rw [hform]
  refine serves_acquire hfree ?_
  apply serves_ask (r := .memory _) trivial rfl
  have hbefore : (m.mapLocks (·.take .tableRead)).kernel.irqs = m.kernel.irqs := rfl
  rw [hbefore, Irq.Table.dispatch_handled hc he hh]
  exact serves_actions drivers (congrArg (Locks.take · .tableRead) hlocks)

/-- An interrupt of the timer is served, and none of the arrivals behind it is lost. -/
theorem take_tick {since : List Event} {t : Incoming} (ht : t.isTick = true) (hm : Onward since m)
    (hnext : ∀ a ∈ m.arrivals.head?, ∀ r p, Serving r → a.due r p = false) (k : Nat) :
    ∃ now, take notingDrivers (k + 1) t m = .answered () now ∧ Onward since now ∧
      now.arrivals = m.arrivals ∧ now.wake = m.wake ∧ m.progress.outs ≤ now.progress.outs ∧
      served now.past = served m.past + 1 := by
  have hvector : t.vector = Irq.Known.timer.vector := of_decide_eq_true ht
  have hirq : t.IsIrq := by
    rw [Incoming.IsIrq, hvector]
    decide
  have hg : Gated supportedVectors m.idtr m.kernel.gates :=
    ⟨hm.opened.loaded, hm.opened.armed.gates⟩
  have hlocks : m.kernel.locks = {} := hm.opened.armed.locks
  obtain ⟨now, htake, -, -, hservice, hwake, -⟩ := take_serves mannered_notingDrivers hg
    (by rw [hlocks]; exact ⟨rfl, rfl, rfl⟩) hm.awaits.arrivals hirq k
  have hserved : served now.past = served m.past + 1 := by
    have htimers := congrArg Service.timers hservice
    change served now.past = served m.past + t.isTick.toNat at htimers
    rwa [ht] at htimers
  have hopened := (openTerms_bear notingDrivers True since (k + 1) t m hirq
    ⟨hm.awaits.arrivals, hm.awaits.wake⟩ ⟨.halt, hm.opened⟩
    (by rw [accepts, show m.flag = true from hm.opened.flag, Bool.true_or])).ends
  rw [htake] at hopened
  obtain ⟨hview, he⟩ := hopened
  -- What is asked for on the way is known of the walk, and the arrivals stay by that.
  obtain ⟨e, he', hh⟩ := hm.opened.armed.timer
  have hc : t.context.irqLine = some Irq.Known.timer.line := by
    rw [hirq.irqLine, hirq.line_eq_timer_iff.mpr hvector]
  have hword : 32 ≤ t.context.vectorWord.toNat % 256 := t.vectorWord_context.symm ▸ hirq.1
  obtain ⟨after, hwalks⟩ := serves_dispatch (m := m.behindGate t) notingDrivers hlocks hc he' hh
  have hspares : Walks (Spares (m.behindGate t).arrivals)
      (Interrupts.dispatch notingDrivers t.context) (m.behindGate t) (.answered () after) := by
    refine hwalks.mono fun x hx => ⟨?_, fun a ha n => hnext a ha x.1 _ hx⟩
    intro hwait
    revert hx hwait
    cases x.1 <;> simp [Serving, Request.IsWait]
  obtain ⟨inner, hrun, halong⟩ :=
    runWith_of_spares (take notingDrivers k) (Alongside.refl (m.behindGate t)) hspares
  rw [take_gated hg (Nat.le_refl _) hirq.2, entry_eq_dispatch notingDrivers hword, hrun] at htake
  cases htake
  refine ⟨_, ?_, ⟨hview.mpr hm.opened, he.arrivals, he.wake⟩, halong.arrivals, hwake, ?_, hserved⟩
  · rw [take_gated hg (Nat.le_refl _) hirq.2, entry_eq_dispatch notingDrivers hword, hrun]
    rfl
  · exact (walk_outs hspares.walk).trans halong.outs.ge

end Tick

section Burst

variable {since : List Event} {a : Arrival} {rest : List Arrival} {r : Request} {m : Machine}

def Patient (a : Arrival) : Prop := ∀ r p, Serving r → a.due r p = false

/-- Any number of ticks that are due at one instant are served there, one after the other. -/
theorem settle_burst (htick : a.trap.isTick = true) (hpatient : ∀ b ∈ a :: rest, Patient b)
    (hrest : ∀ b ∈ rest.head?, ∀ p, b.due r p = false) (k n : Nat) (hm : Onward since m)
    (harrivals : m.arrivals = List.replicate n a ++ rest)
    (hdue : ∀ p : Progress, m.progress.outs ≤ p.outs → a.due r p = true) :
    ∃ now, settle (take notingDrivers (k + 1)) r m = .answered () now ∧ Onward since now ∧
      now.arrivals = rest ∧ now.wake = m.wake ∧ m.progress.outs ≤ now.progress.outs ∧
      served now.past = served m.past + n := by
  induction n generalizing m with
  | zero =>
    have hnone : m.arrivals = rest := harrivals
    refine ⟨m, settle_of_not_due _ fun b hb => ?_, hm, hnone, rfl, Nat.le_refl _, rfl⟩
    exact hrest b (hnone ▸ hb) _
  | succ n ih =>
    obtain ⟨left, hleft⟩ : ∃ left, left = List.replicate n a ++ rest := ⟨_, rfl⟩
    have hcons : m.arrivals = a :: left := by rw [harrivals, hleft, List.replicate_succ]; rfl
    have hmem : ∀ b ∈ left, b ∈ a :: rest := by
      intro b hb
      rw [hleft] at hb
      rcases List.mem_append.mp hb with hb | hb
      · rw [List.eq_of_mem_replicate hb]
        exact List.mem_cons_self
      · exact List.mem_cons_of_mem a hb
    have hawaits : ∀ b ∈ left, b.trap.IsIrq := fun b hb =>
      hm.awaits.arrivals b (hcons ▸ List.mem_cons_of_mem a hb)
    have hlater : Onward since { m with arrivals := left } :=
      ⟨hm.opened, hawaits, hm.awaits.wake⟩
    obtain ⟨next, htake, hnext, harrive, hwake, houts, hserved⟩ := take_tick htick hlater
      (fun b hb => hpatient b (hmem b (List.mem_of_mem_head? hb))) k
    obtain ⟨now, hsettle, hnow, hend, hwakes, hmore, hcount⟩ := ih hnext (harrive.trans hleft)
      fun p hp => hdue p (houts.trans hp)
    refine ⟨now, ?_, hnow, hend, hwakes.trans hwake, houts.trans hmore, ?_⟩
    · have haccepts : ({ m with arrivals := left } : Machine).accepts a.trap = true := by
        rw [accepts, show m.flag = true from hm.opened.flag, Bool.true_or]
      have hnow : settle (take notingDrivers (k + 1)) r next =
          arrive (take notingDrivers (k + 1)) left.length r next := by
        rw [settle, show next.arrivals = left from harrive]
      rw [settle, hcons, List.length_cons, arrive, hcons]
      simp only [hdue m.progress (Nat.le_refl _), haccepts, if_true, htake, Outcome.bind]
      rw [← hnow, hsettle]
    · rw [hcount, show served next.past = served m.past + 1 from hserved]
      omega

end Burst

namespace Boot

open Console

def timerTick : Incoming := { vector := 32, registers := { frame := { rflags := 0x202 } } }

/-- Comes at the first look at the interrupt flag after start-up, before the first line. -/
def beforeLine : Arrival := ⟨fun r p => (r matches .interruptFlag) && 31 ≤ p.outs, timerTick⟩

def beforeWait : Arrival := ⟨fun r _ => r matches .haltWhile _, timerTick⟩

/-- The power is turned on, and ticks are to come before the first line and before the sleep. -/
def crowded (before during : Nat) : Machine where
  kernel := { log := { level := .warn }, revisionAccepted := true }
  arrivals := List.replicate before beforeLine ++ List.replicate during beforeWait

theorem mem_crowded {before during : Nat} {a : Arrival}
    (h : a ∈ (crowded before during).arrivals) : a = beforeLine ∨ a = beforeWait :=
  (List.mem_append.mp h).imp List.eq_of_mem_replicate List.eq_of_mem_replicate

theorem patient_beforeLine : Patient beforeLine := by
  intro r p hr
  cases r <;> first | rfl | exact hr.elim

theorem patient_beforeWait : Patient beforeWait := by
  intro r p hr
  cases r <;> first | rfl | exact hr.elim

theorem isIrq_crowded {before during : Nat} :
    ∀ a ∈ (crowded before during).arrivals, a.trap.IsIrq := by
  intro a ha
  rcases mem_crowded ha with rfl | rfl <;> decide

theorem powerOn_crowded (before during : Nat) : PowerOn .warn (crowded before during) :=
  ⟨rfl, rfl, rfl, fun a ha => (isIrq_crowded a ha).1, fun _ ht => absurd ht List.not_mem_nil⟩

theorem spares_beforeWait {n : Nat} {x : Request × Machine} (hx : ¬ x.1.IsWait) :
    Spares (List.replicate n beforeWait) x := by
  refine ⟨hx, fun a ha k => ?_⟩
  rw [List.eq_of_mem_replicate (List.mem_of_mem_head? ha)]
  obtain ⟨r, m⟩ := x
  cases r <;> first | rfl | exact absurd trivial hx

/-- At a step of start-up none of them is due. -/
def early (x : Request × Machine) : Bool :=
  match x.1 with
  | .interruptFlag => x.2.progress.outs < 31
  | .halt | .haltWhile _ | .haltForever => false
  | _ => true

theorem spares_of_early {before during : Nat} {x : Request × Machine} (hx : early x = true) :
    Spares (crowded before during).arrivals x := by
  obtain ⟨r, m⟩ := x
  constructor
  · cases r <;> first | exact id | exact absurd hx Bool.false_ne_true
  · intro a ha n
    rcases mem_crowded (List.mem_of_mem_head? ha) with rfl | rfl
    · cases r with
      | interruptFlag => simpa [beforeLine, early] using hx
      | _ => rfl
    · cases r <;> first | rfl | exact absurd hx Bool.false_ne_true

/-- Start-up on its own is over after 31 writes to ports. -/
theorem walks_startUp : ∃ booted,
    Walks (early · = true) runAll (crowded 0 0) (.answered () booted) ∧
      booted.progress.outs = 31 ∧ served booted.past = 0 := by
  have hsteps : (runAll.steps (crowded 0 0)).all early = true := by decide +kernel
  have hanswered : (runAll.walk (crowded 0 0)).isAnswered = true := by decide +kernel
  have hends : (runAll.walk (crowded 0 0)).machine.progress.outs = 31 ∧
      served (runAll.walk (crowded 0 0)).machine.past = 0 := by decide +kernel
  cases ho : runAll.walk (crowded 0 0) with
  | stopped why booted =>
    rw [ho] at hanswered
    exact absurd hanswered Bool.false_ne_true
  | answered _ booted =>
    rw [ho] at hends
    exact ⟨booted, ⟨List.all_eq_true.mp hsteps, ho⟩, hends⟩

theorem past_of_spoken {m s : Machine} {bytes : List UInt8} (hs : s.still = (m.spoken bytes).still)
    (hdivisor : divisorAccess m.latches = false) : s.past = sending bytes m.past := by
  have hevents := events_of_still hs
  rw [spoken_events, outEvent_data hdivisor] at hevents
  have hreverse := congrArg List.reverse hevents
  rwa [events, events, List.reverse_reverse, List.reverse_append, List.reverse_reverse] at hreverse

section Crowded

variable (k before during : Nat)

theorem runWith_startUp : ∃ booted,
    runWith (take notingDrivers (k + 1)) runAll (crowded before during) = .answered () booted ∧
      Onward [] booted ∧ booted.arrivals = (crowded before during).arrivals ∧ booted.wake = [] ∧
      booted.progress.outs = 31 ∧ served booted.past = 0 := by
  obtain ⟨walked, hwalks, houts, hserved⟩ := walks_startUp
  have hm : Alongside (crowded before during) (crowded before during) (crowded 0 0) :=
    ⟨rfl, rfl, rfl, rfl⟩
  obtain ⟨booted, hrun, halong⟩ := runWith_of_spares (take notingDrivers (k + 1)) hm
    (hwalks.mono fun _ => spares_of_early)
  have hends := (passes_runAll (S := fun _ => True) (fun rests since =>
    openTerms_bear notingDrivers rests since (k + 1)) (powerOn_crowded before during)
    ⟨isIrq_crowded, fun _ ht => absurd ht List.not_mem_nil⟩).ends
  rw [hrun] at hends
  have hpast : booted.past = walked.past := (congrArg Machine.past halong.still :)
  exact ⟨booted, hrun, hends, halong.arrivals, halong.wake, halong.outs.trans houts,
    hpast ▸ hserved⟩

theorem runWith_line {booted : Machine} (hm : Onward [] booted)
    (harrivals : booted.arrivals = (crowded before during).arrivals)
    (houts : booted.progress.outs = 31) :
    ∃ past spoken, runWith (take notingDrivers (k + 1))
        (Console.writeLine "DomeOS: interrupt core online.") booted = .answered () spoken ∧
      served past = served booted.past + before ∧ Onward (sending online past) spoken ∧
      spoken.past = sending online past ∧
      spoken.arrivals = List.replicate during beforeWait ∧ spoken.wake = booted.wake := by
  have hwaits : ∀ b ∈ (List.replicate during beforeWait).head?, ∀ p,
      b.due .interruptFlag p = false := by
    intro b hb p
    rw [List.eq_of_mem_replicate (List.mem_of_mem_head? hb)]
    rfl
  have hpatient : ∀ b ∈ beforeLine :: List.replicate during beforeWait, Patient b := by
    intro b hb
    rcases List.mem_cons.mp hb with rfl | hb
    · exact patient_beforeLine
    · rw [List.eq_of_mem_replicate hb]
      exact patient_beforeWait
  obtain ⟨now, hsettle, hnow, hleft, hwake, -, hserved⟩ := settle_burst (r := .interruptFlag)
    (a := beforeLine) (by decide) hpatient hwaits k before hm harrivals fun p hp => by
      simpa [beforeLine, houts] using hp
  obtain ⟨next, hform⟩ : ∃ next, Console.writeLine "DomeOS: interrupt core online." =
      .ask .interruptFlag next := ⟨_, rfl⟩
  have hstart : runWith (take notingDrivers (k + 1)) (.ask .interruptFlag next) booted =
      runWith (take notingDrivers (k + 1)) (.ask .interruptFlag next) now :=
    runWith_settled _ hsettle fun b hb => hwaits b (hleft ▸ hb) _
  have hlocks : now.kernel.locks = {} := hnow.opened.armed.locks
  have hprint := walks_print (m := now) (by rw [hlocks]; rfl)
    ["DomeOS: interrupt core online.", "\n"]
  obtain ⟨spoken, hrun, halong⟩ := runWith_of_spares (take notingDrivers (k + 1))
    (Alongside.refl now) (hprint.mono fun x hx => hleft ▸ spares_beforeWait hx.request)
  have hpast : spoken.past = sending online now.past :=
    past_of_spoken halong.still hnow.opened.armed.divisor
  have hpasses := (Passes.locked (S := fun _ => True) (fun rests since =>
    openTerms_bear notingDrivers rests since (k + 1)) hnow
    ["DomeOS: interrupt core online.", "\n"]).ends
  rw [show Console.locked (sendAll ["DomeOS: interrupt core online.", "\n"]) =
    print ["DomeOS: interrupt core online.", "\n"] from rfl, hrun] at hpasses
  obtain ⟨_, -, hspoken⟩ := hpasses
  refine ⟨now.past, spoken, ?_, hserved, hpast ▸ hspoken.here, hpast,
    halong.arrivals.trans hleft, halong.wake.trans hwake⟩
  rw [hform, hstart, ← hform]
  exact hrun

theorem runWith_sleep {since : List Event} {m : Machine} (hm : Onward since m)
    (harrivals : m.arrivals = List.replicate during beforeWait) (hwake : m.wake = [])
    (hdone : ¬ UInt64.ofNat (served m.past + during) < UInt64.ofNat (served m.past) + 10) :
    ∃ woken, runWith (take notingDrivers (k + 1)) (Timer.sleep 100) m = .answered () woken ∧
      Onward since woken ∧ served woken.past = served m.past + during ∧ woken.arrivals = [] ∧
      woken.wake = [] := by
  have hrate : Timer.rate m.kernel = 100 := hm.opened.armed.rate
  obtain ⟨waiting, hwaiting⟩ : ∃ waiting : Kernel → Bool, waiting = fun k : Kernel =>
      decide (k.ticks < m.kernel.ticks + Pit.ticksFor 100 (Timer.rate m.kernel)) := ⟨_, rfl⟩
  have hlooks : runWith (take notingDrivers (k + 1)) (Timer.sleep 100) m =
      runWith (take notingDrivers (k + 1)) (request (.haltWhile waiting)) m.tick.tick := by
    have hspares : ∀ now : Machine, now.arrivals = m.arrivals →
        Spares now.arrivals (.memory id, now) := fun now hnow => by
      rw [hnow, harrivals]
      exact spares_beforeWait id
    have hform : Timer.sleep 100 = .ask (.memory id) fun k => .ask (.memory id) fun k' =>
        request (.haltWhile fun x => x.ticks < k'.ticks + Pit.ticksFor 100 (Timer.rate k)) := rfl
    rw [hform, runWith_look (hspares m rfl), runWith_look (hspares m.tick rfl), hwaiting]
    rfl
  have hpatient : ∀ b ∈ [beforeWait], Patient b := fun b hb => by
    rw [List.mem_singleton.mp hb]
    exact patient_beforeWait
  have hlooked : m.tick.tick.arrivals = List.replicate during beforeWait ++ [] := by
    rw [List.append_nil]
    exact harrivals
  have hnow : Onward since m.tick.tick := ⟨hm.opened, hm.awaits.arrivals, hm.awaits.wake⟩
  obtain ⟨now, hsettle, hnow, hleft, hslept, -, hserved⟩ := settle_burst (r := .haltWhile waiting)
    (by decide) hpatient (fun _ hb => nomatch hb) k during hnow hlooked fun _ _ => rfl
  have hover : waiting now.kernel = false := by
    have hneeded : Pit.ticksFor 100 100 = 10 := rfl
    have hcount : served now.past = served m.past + during := hserved
    rw [hwaiting, decide_eq_false_iff_not, hrate, hneeded, hnow.tallied.ticks, hcount,
      hm.tallied.ticks]
    exact hdone
  have hanswer : answer (take notingDrivers (k + 1)) (.haltWhile waiting) now.tick =
      .answered () now.tick := by
    have hasleep : now.tick.wake = [] := hslept.trans hwake
    rw [answer, hasleep, List.length_nil, sleepWhile,
      show waiting now.tick.kernel = false from hover, if_neg Bool.false_ne_true]
  refine ⟨now.tick, ?_, ⟨hnow.opened, hnow.awaits.arrivals, hnow.awaits.wake⟩, hserved, hleft,
    hslept.trans hwake⟩
  rw [hlooks, request, runWith, hsettle, Outcome.bind, hanswer]
  rfl

end Crowded

theorem runWith_reporting {m : Machine} {since : List Event} (hm : Onward since m)
    (harrivals : m.arrivals = []) (hwake : m.wake = []) (take : Taking) :
    ∃ after, runWith take (memory >>= reporting) m = .stopped .idle after ∧
      after.past = sending (idling m.kernel.ticks.toNat) m.past := by
  have hnone : ∀ (now : Machine) (r : Request), now.arrivals = [] →
      settle take r now = .answered () now := fun now r h =>
    settle_of_not_due take fun b hb => by rw [h] at hb; cases hb
  have hlocks : m.kernel.locks = {} := hm.opened.armed.locks
  have hprint := walks_print (m := m.tick) (by rw [show m.tick.kernel.locks = {} from hlocks]; rfl)
    ["DomeOS: ", Text.decimal m.kernel.ticks.toNat, " timer ticks, idling.\n"]
  obtain ⟨printed, hrun, halong⟩ := runWith_of_spares take (Alongside.refl m.tick)
    (hprint.mono fun x hx => ⟨hx.request, fun b hb => by
      rw [show m.tick.arrivals = [] from harrivals] at hb
      cases hb⟩)
  have hflag : printed.flag = true := (flag_of_still halong.still).trans
    ((flag_of_core (spoken_core _ _)).trans hm.opened.flag)
  have hleft : printed.arrivals = [] := halong.arrivals.trans harrivals
  have hasleep : printed.tick.wake = [] := halong.wake.trans hwake
  have hidle : runWith take (request .haltForever) printed = .stopped .idle printed.tick := by
    rw [request, runWith, hnone printed _ hleft, Outcome.bind, answer, hasleep, List.length_nil,
      sleepWhile, if_pos rfl, hnone printed.tick _ hleft]
    simp only [Outcome.bind, waitingStop, show printed.tick.flag = true from hflag, if_true]
  have hpast := past_of_spoken halong.still
    (show divisorAccess m.tick.latches = false from hm.opened.armed.divisor)
  refine ⟨printed.tick, ?_, hpast⟩
  have hform : memory >>= reporting = .ask (.memory id) reporting := rfl
  rw [hform, runWith_look ⟨id, fun b hb => by rw [harrivals] at hb; cases hb⟩]
  rw [reporting, runWith_seq, hrun, Outcome.bind]
  exact hidle

/-- The kernel idles with the ticks that came before the sleep and in it, and does not wait for any
other, where they are not less than what it sleeps for. -/
theorem start_idles_after_crowd {before during : Nat}
    (hdone : ¬ UInt64.ofNat (before + during) < UInt64.ofNat before + 10) :
    ∃ (after : Machine) (past slept : List Event),
      run notingDrivers start (crowded before during) = .stopped .idle after ∧
      after.events = past ++ online.map .character ++ slept ++
        (idling ((before + during) % 2 ^ 64)).map .character ∧
      served past = before ∧ served slept = during := by
  obtain ⟨k, hk⟩ : ∃ k, (crowded before during).pending = k + 1 := by
    refine Nat.exists_eq_add_one.mpr (Nat.pos_of_ne_zero fun hnone => hdone ?_)
    have hcount : before + during = 0 := by
      simpa [pending, crowded] using hnone
    rw [hcount, Nat.eq_zero_of_add_eq_zero_right hcount]
    decide
  obtain ⟨booted, hboot, hbooted, harrivals, hwake, houts, hnone⟩ :=
    runWith_startUp k before during
  obtain ⟨past, spoken, hline, hpast, hspoken, hsent, hleft, hawake⟩ :=
    runWith_line k before during hbooted harrivals houts
  have hbefore : served spoken.past = before := by
    rw [hsent, sending, served_muted, hpast, hnone, Nat.zero_add]
    intro e he
    obtain ⟨b, -, rfl⟩ := List.mem_map.mp (List.mem_reverse.mp he)
    rfl
  obtain ⟨woken, hsleep, hwoken, hserved, hempty, hasleep⟩ :=
    runWith_sleep k during hspoken hleft (hawake.trans hwake) (by rwa [hbefore])
  obtain ⟨after, hreport, hafter⟩ :=
    runWith_reporting hwoken hempty hasleep (take notingDrivers (k + 1))
  obtain ⟨slept, hslept, -, hcount⟩ := events_of_later hwoken.later
  have hticks : woken.kernel.ticks.toNat = (before + during) % 2 ^ 64 := by
    rw [hwoken.tallied.ticks, hserved, hbefore, UInt64.toNat_ofNat']
  refine ⟨after, past.reverse, slept, ?_, ?_, ?_, ?_⟩
  · have hopening : runWith (take notingDrivers (k + 1)) opening (crowded before during) =
        .answered () woken := by
      rw [opening, runWith_seq, hboot, Outcome.bind, runWith_seq, hline, Outcome.bind, hsleep]
    rw [run, hk, start_eq, runWith_seq, hopening, Outcome.bind]
    exact hreport
  · rw [events, hafter, reverse_sending, hslept, reverse_sending, hticks]
  · rw [served, List.countP_reverse]
    exact hpast.trans (by rw [hnone, Nat.zero_add])
  · have hsum : served woken.past = served slept + served (sending online past) := hcount
    rw [← hsent] at hsum
    omega

/-- The sum wraps around, and the second line follows the first with no tick in between; the ticks
wrap around, and the second line speaks of none at all. -/
theorem start_idles_too_early :
    (PowerOn .warn (crowded (2 ^ 64 - 5) 0) ∧
      (∀ a ∈ (crowded (2 ^ 64 - 5) 0).arrivals, a.trap.IsIrq) ∧
      ∃ (after : Machine) (past slept : List Event),
        run notingDrivers start (crowded (2 ^ 64 - 5) 0) = .stopped .idle after ∧
        after.events = past ++ online.map .character ++ slept ++
          (idling (2 ^ 64 - 5)).map .character ∧ served slept = 0) ∧
    PowerOn .warn (crowded (2 ^ 64 - 10) 10) ∧
    (∀ a ∈ (crowded (2 ^ 64 - 10) 10).arrivals, a.trap.IsIrq) ∧
    ∃ (after : Machine) (past slept : List Event),
      run notingDrivers start (crowded (2 ^ 64 - 10) 10) = .stopped .idle after ∧
      after.events = past ++ online.map .character ++ slept ++ (idling 0).map .character ∧
      served past + served slept = 2 ^ 64 := by
  constructor
  · have hdone : ¬ UInt64.ofNat (2 ^ 64 - 5 + 0) < UInt64.ofNat (2 ^ 64 - 5) + 10 := by decide
    have hcount : (2 ^ 64 - 5 + 0) % 2 ^ 64 = 2 ^ 64 - 5 := by decide
    obtain ⟨after, past, slept, hrun, hevents, -, hslept⟩ := start_idles_after_crowd hdone
    rw [hcount] at hevents
    exact ⟨powerOn_crowded _ _, isIrq_crowded, after, past, slept, hrun, hevents, hslept⟩
  · have hdone : ¬ UInt64.ofNat (2 ^ 64 - 10 + 10) < UInt64.ofNat (2 ^ 64 - 10) + 10 := by decide
    have hcount : (2 ^ 64 - 10 + 10) % 2 ^ 64 = 0 := by decide
    obtain ⟨after, past, slept, hrun, hevents, hpast, hslept⟩ := start_idles_after_crowd hdone
    rw [hcount] at hevents
    refine ⟨powerOn_crowded _ _, isIrq_crowded, after, past, slept, hrun, hevents, ?_⟩
    rw [hpast, hslept]
    exact Nat.sub_add_cancel (by decide)

end Boot

end Kernel

end InterruptCore

import InterruptCore.Proofs.Kernel.Ticks

/-! Code that runs with interrupts open. Interrupts come before its requests and while it waits;
what it knows of the machine it knows up to them. Sections of the console close interrupts,
write, and open them again. -/
namespace InterruptCore

open Machine Program

variable {α β : Type}

namespace Machine

structure AwaitsIrqs (m : Machine) : Prop where
  arrivals : ∀ a ∈ m.arrivals, a.trap.IsIrq
  wake : ∀ t ∈ m.wake, t.IsIrq

/-- No trap has instants: what is left are the instants of the code itself. -/
abbrev unvisited : Visiting := fun _ _ => []

theorem answer_of_not_lasts (take : Taking) (visit : Visiting) {r : Request} (hr : ¬ r.Lasts)
    (m : Machine) : answer take r m = perform r m ∧ answering take visit r m = [] := by
  cases r <;> first | exact ⟨rfl, rfl⟩ | exact absurd trivial hr

theorem not_waiting {take : Taking} {waiting : Kernel → Bool} {n : Nat} {m after : Machine}
    (h : sleepWhile take waiting n m = .answered () after) : waiting after.kernel = false := by
  induction n generalizing m with
  | zero =>
    simp only [sleepWhile] at h
    split at h
    · obtain ⟨_, now, -, hstop⟩ := Outcome.bind_eq_answered h
      cases hstop
    · rename_i hwait
      cases h
      exact Bool.eq_false_iff.mpr hwait
  | succ n ih =>
    simp only [sleepWhile] at h
    split at h
    · obtain ⟨_, _, -, h⟩ := Outcome.bind_eq_answered h
      obtain ⟨_, _, -, h⟩ := Outcome.bind_eq_answered h
      obtain ⟨_, _, -, h⟩ := Outcome.bind_eq_answered h
      exact ih h
    · rename_i hwait
      cases h
      exact Bool.eq_false_iff.mpr hwait

/-- An instant of code that is put together is an instant of a part, as far as the machine goes. -/
theorem exists_instant_of_bind {take : Taking} {visit : Visiting} {p : Program α}
    {f : α → Program β} {m : Machine} {i : Instant}
    (hi : i ∈ instantsWith take visit (p >>= f) m) :
    ∃ j : Instant, j.machine = i.machine ∧ (j ∈ instantsWith take visit p m ∨
      ∃ a after, runWith take p m = .answered a after ∧
        j ∈ instantsWith take visit (f a) after) := by
  have hbare := List.mem_map_of_mem (f := Instant.bare) hi
  change i.bare ∈ (instantsWith take visit (p.bind f) m).map Instant.bare at hbare
  rw [instantsWith_bind, List.mem_append] at hbare
  rcases hbare with hfirst | hsecond
  · obtain ⟨j, hj, hji⟩ := List.mem_map.mp hfirst
    exact ⟨j, congrArg Prod.snd hji, .inl hj⟩
  · cases ho : runWith take p m with
    | stopped why after =>
      rw [ho] at hsecond
      exact absurd hsecond List.not_mem_nil
    | answered a after =>
      rw [ho] at hsecond
      obtain ⟨j, hj, hji⟩ := List.mem_map.mp hsecond
      exact ⟨j, congrArg Prod.snd hji, .inr ⟨a, after, rfl, hj⟩⟩

theorem mem_instants_bind {take : Taking} {visit : Visiting} {p : Program α} {f : α → Program β}
    {m after : Machine} {a : α} (ha : runWith take p m = .answered a after) {i : Instant}
    (hi : i ∈ instantsWith take visit (f a) after) : i ∈ instantsWith take visit (p >>= f) m := by
  induction p generalizing m with
  | done b =>
    cases ha
    exact hi
  | ask r next ih =>
    obtain ⟨_, now, hsettle, ha⟩ := Outcome.bind_eq_answered ha
    obtain ⟨b, later, hanswer, ha⟩ := Outcome.bind_eq_answered ha
    change i ∈ instantsWith take visit (.ask r fun b => next b >>= f) m
    rw [instantsWith, hsettle, Outcome.afterwards, hanswer]
    exact List.mem_append_right _ (List.mem_append_right _ (ih b ha))

end Machine

namespace Kernel

/-- Interrupts are open, IRQs may come, and the mark was not sent since. -/
structure Onward (since : List Event) (m : Machine) : Prop where
  opened : Opened since m.idtr (scene m)
  awaits : AwaitsIrqs m

namespace Onward

variable {since past : List Event} {m : Machine} (h : Onward since m)
include h

theorem tallied : Tallied m.kernel m.past := h.opened.armed.tallied

theorem later : Later since m.past := h.opened.later

theorem here : Onward m.past m :=
  ⟨⟨h.opened.flag, h.opened.loaded, h.opened.armed, Later.refl m.past⟩, h.awaits⟩

theorem since_before (hpast : Later past since) : Onward past m :=
  ⟨⟨h.opened.flag, h.opened.loaded, h.opened.armed, hpast.trans h.later⟩, h.awaits⟩

end Onward

/-- A run of code, its interrupts left out: the counts are right at each of its instants, and it
answers with `Q` or comes to rest with `S`. -/
structure Passes (take : Taking) (p : Program α) (Q : α → Machine → Prop) (S : Machine → Prop)
    (m : Machine) : Prop where
  instants : ∀ i ∈ instantsWith take unvisited p m, Tallied i.machine.kernel i.machine.past
  ends : (runWith take p m).Ends Q fun why m => why = .idle ∧ S m

namespace Passes

variable {take : Taking} {m : Machine} {Q : α → Machine → Prop} {R : β → Machine → Prop}
  {S S' : Machine → Prop}

theorem pure {a : α} (h : Q a m) : Passes take (Pure.pure a) Q S m :=
  ⟨fun _ hi => absurd hi List.not_mem_nil, h⟩

theorem mono {p : Program α} {Q' : α → Machine → Prop} (h : Passes take p Q S m)
    (hQ : ∀ a m, Q a m → Q' a m) (hS : ∀ m, S m → S' m) : Passes take p Q' S' m :=
  ⟨h.instants, h.ends.mono hQ fun _ m hm => ⟨hm.1, hS m hm.2⟩⟩

theorem bind_run {p : Program α} {f : α → Program β} (h : Passes take p Q S m)
    (hf : ∀ a now, runWith take p m = .answered a now → Q a now → Passes take (f a) R S now) :
    Passes take (p >>= f) R S m := by
  have hends := h.ends
  constructor
  · intro i hi
    obtain ⟨j, hj, hfirst | ⟨a, after, hrun, hsecond⟩⟩ := exists_instant_of_bind hi
    · exact hj ▸ h.instants j hfirst
    · rw [hrun] at hends
      exact hj ▸ (hf a after hrun hends).instants j hsecond
  · change (runWith take (p.bind f) m).Ends R _
    rw [runWith_bind]
    cases ho : runWith take p m with
    | stopped why after =>
      rw [ho] at hends
      exact hends
    | answered a after =>
      rw [ho] at hends
      exact (hf a after ho hends).ends

theorem bind {p : Program α} {f : α → Program β} (h : Passes take p Q S m)
    (hf : ∀ a m, Q a m → Passes take (f a) R S m) : Passes take (p >>= f) R S m :=
  h.bind_run fun a now _ => hf a now

theorem forM {ι : Type} {xs : List ι} {f : ι → Program Unit} {I : Machine → Prop}
    (h : ∀ x ∈ xs, ∀ m, I m → Passes take (f x) (fun _ => I) S m) (hm : I m) :
    Passes take (xs.forM f) (fun _ => I) S m := by
  induction xs generalizing m with
  | nil => exact pure hm
  | cons x xs ih =>
    apply (h x List.mem_cons_self m hm).bind
    intro _ m hm
    exact ih (fun y hy => h y (List.mem_cons_of_mem x hy)) hm

theorem also {p : Program α} {P : Machine → Prop} {T : Stop → Machine → Prop}
    (h : Passes take p Q S m) (hends : (runWith take p m).Ends (fun _ => P) T) :
    Passes take p (fun a now => Q a now ∧ P now) S m := by
  have hfirst := h.ends
  refine ⟨h.instants, ?_⟩
  cases ho : runWith take p m with
  | answered a now =>
    rw [ho] at hfirst hends
    exact ⟨hfirst, hends⟩
  | stopped why now =>
    rw [ho] at hfirst
    exact hfirst

theorem of_meets {p : Program α} {K : α → Option TablePointer × Scene → Prop}
    (hmeets : (closedTerms Scene.tallied).Meets p K (m.idtr, scene m)) (he : AwaitsIrqs m)
    (hQ : ∀ a after, K a (after.idtr, scene after) → AwaitsIrqs after → Q a after) :
    Passes take p Q S m := by
  have hholds := hmeets.holds (closedTerms_bear Scene.tallied take unvisited)
    ⟨he.arrivals, he.wake⟩
  refine ⟨fun i hi => (hholds.instants i hi).inv, hholds.ends.mono ?_ fun _ _ => False.elim⟩
  exact fun a after h => hQ a after h.1 ⟨h.2.arrivals, h.2.wake⟩

theorem closed {p : Program α} {P : α → Scene → Prop} (hruns : Runs Scene.tallied p P (scene m))
    (he : AwaitsIrqs m)
    (hQ : ∀ a after, P a (scene after) → after.idtr = m.idtr → AwaitsIrqs after → Q a after) :
    Passes take p Q S m :=
  of_meets (hruns m.idtr) he fun a after h => hQ a after h.1 h.2

section Requests

variable {since : List Event} (hb : ∀ rests since, (openTerms rests since).Bears take unvisited)
  (hm : Onward since m)
include hb hm

/-- Before a request of open code interrupts may be taken. -/
theorem ask_at {r : Request} {next : r.Answer → Program α} (hr : ¬ r.Lasts)
    (h : ∀ now, Onward since now.tick →
      ⟨r, now, next⟩ ∈ instantsWith take unvisited (.ask r next) m →
      ∃ a after, perform r now.tick = .answered a after ∧ Passes take (next a) Q S after) :
    Passes take (.ask r next) Q S m := by
  have hsettled := Terms.holds_settle (hb False since) (r := r) (m := m) ⟨r, hm.opened⟩
    ⟨hm.awaits.arrivals, hm.awaits.wake⟩
  have htallied : ∀ i ∈ settling take unvisited r m,
      Tallied i.machine.kernel i.machine.past := fun i hi => (hsettled.instants i hi).armed.tallied
  have hends := hsettled.ends
  cases hs : settle take r m with
  | stopped why now =>
    rw [hs] at hends
    exact hends.1.elim
  | answered _ now =>
    rw [hs] at hends
    obtain ⟨hview, he⟩ := hends
    have hopen : Opened since now.idtr (scene now) := hview.mpr hm.opened
    have hinstants : instantsWith take unvisited (.ask r next) m = settling take unvisited r m ++
        (⟨r, now, next⟩ :: answering take unvisited r now.tick ++
          (answer take r now.tick).afterwards fun a m =>
            instantsWith take unvisited (next a) m) := by
      rw [instantsWith, hs]
      rfl
    have hmem : ⟨r, now, next⟩ ∈ instantsWith take unvisited (.ask r next) m := by
      rw [hinstants]
      exact List.mem_append_right _ List.mem_cons_self
    obtain ⟨a, after, hperform, hnext⟩ := h now ⟨hopen, ⟨he.arrivals, he.wake⟩⟩ hmem
    obtain ⟨hanswer, hnone⟩ := answer_of_not_lasts take unvisited hr now.tick
    rw [hperform] at hanswer
    constructor
    · intro i hi
      rw [hinstants, hnone, hanswer] at hi
      rcases List.mem_append.mp hi with hi | hi
      · exact htallied i hi
      rcases List.mem_cons.mp hi with rfl | hi
      · exact hopen.armed.tallied
      · exact hnext.instants i hi
    · simp only [runWith, hs, Outcome.bind, hanswer]
      exact hnext.ends

theorem ask {r : Request} {next : r.Answer → Program α} (hr : ¬ r.Lasts)
    (h : ∀ now, Onward since now →
      ∃ a after, perform r now = .answered a after ∧ Passes take (next a) Q S after) :
    Passes take (.ask r next) Q S m :=
  ask_at hb hm hr fun now hnow _ => h now.tick hnow

theorem look {next : Kernel → Program α}
    (h : ∀ now, Onward since now → Passes take (next now.kernel) Q S now) :
    Passes take (memory >>= next) Q S m :=
  ask hb hm (r := .memory id) id fun now hnow => ⟨_, now, rfl, h now hnow⟩

theorem wait {r : Request} {K : r.Answer → Prop → Prop}
    (hfollows : ∀ ready : Prop, (openTerms True since).Waits ready → ready →
      (openTerms True since).Follows ready r K) :
    (openTerms True since).Holds (instantsWith take unvisited (request r) m)
      (runWith take (request r) m) K := by
  have hwaits : (openTerms True since).Waits ((openTerms True since).view m) := by
    refine ⟨hm.opened, fun now hnow => ⟨trivial, ?_, hm.opened⟩⟩
    have hopen : Opened since now.idtr (scene now) := cast hnow.symm hm.opened
    exact if_pos hopen.flag
  have hmeets : (openTerms True since).Meets (request r) K ((openTerms True since).view m) :=
    ⟨hm.opened, hfollows _ hwaits hm.opened⟩
  exact hmeets.holds (hb True since) ⟨hm.awaits.arrivals, hm.awaits.wake⟩

theorem haltForever {Q : Empty → Machine → Prop} : Passes take (request .haltForever) Q
    (fun now => Opened since now.idtr (scene now)) m := by
  have hholds := wait (K := fun _ _ => False) hb hm (r := .haltForever) fun _ hwaits _ => hwaits
  refine ⟨fun i hi => (hholds.instants i hi).armed.tallied, hholds.ends.mono ?_ ?_⟩
  · exact fun _ _ h => h.1.elim
  · exact fun _ _ h => h.2

theorem haltWhile (waiting : Kernel → Bool) : Passes take (request (.haltWhile waiting))
    (fun _ now => Onward since now ∧ waiting now.kernel = false)
    (fun now => Opened since now.idtr (scene now)) m := by
  have hholds := wait (K := fun _ ready => ready) hb hm (r := .haltWhile waiting)
    fun _ hwaits hready => ⟨hwaits, fun _ _ _ => hready⟩
  have hpasses : Passes take (request (.haltWhile waiting)) (fun _ => Onward since)
      (fun now => Opened since now.idtr (scene now)) m := by
    refine ⟨fun i hi => (hholds.instants i hi).armed.tallied, hholds.ends.mono ?_ ?_⟩
    · exact fun _ _ h => ⟨h.1, ⟨h.2.arrivals, h.2.wake⟩⟩
    · exact fun _ _ h => h.2
  apply hpasses.also (T := fun _ _ => True)
  cases ho : runWith take (request (.haltWhile waiting)) m with
  | stopped why now => exact trivial
  | answered _ now =>
    obtain ⟨_, _, -, h⟩ := Outcome.bind_eq_answered ho
    obtain ⟨_, _, hsleep, h⟩ := Outcome.bind_eq_answered h
    cases h
    exact not_waiting hsleep

/-- Code that closes interrupts, sends bytes and opens interrupts again. -/
theorem section_sends {bytes : List UInt8} {rest : Bool → Program Unit}
    (hrest : ∀ s, Closed Scene.tallied s → s.kernel.locks.free .serial = true → s.divisor = false →
      Runs Scene.tallied (rest true) (fun _ t => t = { s.say bytes with flag := true }) s) :
    Passes take (do let found ← interruptFlag; clearFlag; rest found)
      (fun _ now => ∃ past, Later since past ∧ Onward (sending bytes past) now) S m := by
  apply ask hb hm (r := .interruptFlag) id
  intro now hnow
  have hflag : now.flag = true := hnow.opened.flag
  refine ⟨true, now, by rw [← hflag]; rfl, ?_⟩
  apply ask hb hnow (r := .clearFlag) id
  intro last hlast
  refine ⟨(), { last with flag := false }, rfl, ?_⟩
  have harmed : (scene last).Armed := hlast.opened.armed
  have hfree : last.kernel.locks.free .serial = true := congrArg (Locks.free · .serial) harmed.locks
  have hruns := hrest (scene { last with flag := false }) ⟨rfl, harmed.tallied⟩ hfree harmed.divisor
  apply closed hruns ⟨hlast.awaits.arrivals, hlast.awaits.wake⟩
  intro _ after hafter htable he
  refine ⟨last.past, hlast.later, ⟨?_, htable.trans hlast.opened.loaded, ?_, ?_⟩, he⟩
  · rw [hafter]
  · rw [hafter]
    exact (harmed.say bytes).of_served rfl rfl rfl
  · rw [hafter]
    exact Later.refl _

theorem locked (pieces : List String) :
    Passes take (Console.locked (Console.sendAll pieces)) (fun _ now => ∃ past,
      Later since past ∧ Onward (sending (pieces.flatMap Console.wire) past) now) S m := by
  apply section_sends hb hm
  intro s hs hfree hdivisor
  exact runs_acquire hs hfree (runs_taken steady_tallied hs hdivisor hfree pieces true)

theorem emergency {pieces : List String} (hsilent : Silent pieces) :
    Passes take (Console.emergency pieces) (fun _ => Onward since) S m := by
  have hmark : mark ∉ pieces.flatMap Console.wire := fun h => by
    obtain ⟨p, hp, hmem⟩ := List.mem_flatMap.mp h
    exact hsilent p hp hmem
  have hsends : Passes take (Console.emergency pieces) (fun _ now => ∃ past,
      Later since past ∧ Onward (sending (pieces.flatMap Console.wire) past) now) S m := by
    apply section_sends hb hm
    intro s hs hfree hdivisor
    refine .ask (r := .tryAcquire .serial) hs (if_pos hfree) (fun _ => rfl) ?_
    exact runs_taken steady_tallied hs hdivisor hfree pieces true
  refine hsends.mono ?_ fun _ => id
  rintro _ now ⟨past, hlater, hnow⟩
  exact hnow.since_before (hlater.trans (later_sending hmark past))

theorem write (sink : Sink) {p : String} (hp : mark ∉ Console.wire p) :
    Passes take (sink.write p) (fun _ => Onward since) S m := by
  cases sink with
  | serial =>
    apply emergency hb hm
    intro x hx
    rwa [List.mem_singleton.mp hx]
  | buffer n =>
    apply ask hb hm (r := .capture n p) id
    intro now hnow
    have hadds : (scene now).Adds (scene (now.record (.captured n p))) :=
      Scene.adds_record ⟨nofun, rfl⟩
    refine ⟨(), now.record (.captured n p), rfl, .pure ⟨⟨?_, ?_, ?_, ?_⟩, ?_⟩⟩
    · exact hnow.opened.flag
    · exact hnow.opened.loaded
    · exact hnow.opened.armed.adds hadds
    · exact hnow.later.trans hadds.later
    · exact ⟨hnow.awaits.arrivals, hnow.awaits.wake⟩

theorem writeLog {line : Log.Line} (hline : Silent line.pieces) :
    Passes take (Kernel.writeLog line) (fun _ => Onward since) S m := by
  apply look hb hm
  intro now hnow
  cases hw : now.kernel.log.writes line with
  | none => exact .pure hnow
  | some w => exact .forM (fun p hp _ h => write hb h w.1 (silent_writes hline hw p hp)) hnow

end Requests

end Passes

end Kernel

end InterruptCore

import InterruptCore.Proofs.Machine.Terms

/-! Programs that no trap disturbs. What such a program does is read off its requests one after
the other, and its run, with the traps that are to come and are refused, is no other. Main
statements: a run that takes no trap has the outcome and the instants of the bare program, and a
run takes none if the CPU accepts none at any of the program's steps. -/
namespace InterruptCore

open Machine

variable {α β : Type}

namespace Machine

def pass (r : Request) (m : Machine) : Machine :=
  { m with arrivals := m.arrivals.dropWhile fun a => a.due r m.progress }

def Refuses (r : Request) (m : Machine) : Prop :=
  ∀ a ∈ m.arrivals.takeWhile fun a => a.due r m.progress, m.accepts a.trap = false

def Dormant (m : Machine) : Prop := ∀ t ∈ m.wake.head?, m.accepts t = false

/-- No trap is taken: those that are accepted are lost. -/
abbrev ignoring : Taking := fun _ m => .answered () m

def RestsReading (w : Poll) : Nat → Machine → Prop
  | 0, _ => True
  | n + 1, m => m.lacks w = true → (m.readPort w.port).2.Refuses (.poll w) ∧
      RestsReading w n ((m.readPort w.port).2.pass (.poll w)).tick

def Rests : Request → Machine → Prop
  | .poll w, m => RestsReading w m.busyLeft m
  | .halt, m => m.Dormant
  | .haltWhile waiting, m => waiting m.kernel = true → m.Refuses .halt ∧ m.Dormant
  | .haltForever, m => m.Refuses .halt ∧ m.Dormant
  | _, _ => True

/-- A machine apart from the traps to come and the progress of the run. -/
def still (m : Machine) : Machine := { m with arrivals := [], wake := [], progress := {} }

def Instant.seen (i : Instant) : Request × Machine := (i.request, i.machine.still)

def Outcome.still : Outcome α → Outcome α
  | .answered a m => .answered a m.still
  | .stopped why m => .stopped why m.still

/-- Each halt of a longer wait is a step of its own; the first of them is the last. -/
def halts : Request → Machine → List (Request × Machine)
  | .haltWhile waiting, m => if waiting m.kernel then [(.halt, m)] else []
  | .haltForever, m => [(.halt, m)]
  | _, _ => []

end Machine

namespace Program

/-- What a program does when no trap comes. -/
def walk : Program α → Machine → Outcome α
  | .done a, m => .answered a m
  | .ask r next, m => (perform r m).bind fun a m => (next a).walk m

def steps : Program α → Machine → List (Request × Machine)
  | .done _, _ => []
  | .ask r next, m =>
    (r, m) :: halts r m ++ (perform r m).afterwards fun a m => (next a).steps m

def Undisturbed : Program α → Machine → Prop
  | .done _, _ => True
  | .ask r next, m =>
    m.Refuses r ∧ (m.pass r).tick.Rests r ∧
      ∀ a m', answer ignoring r (m.pass r).tick = .answered a m' → (next a).Undisturbed m'

theorem walk_bind (p : Program α) (f : α → Program β) (m : Machine) :
    (p >>= f).walk m = (p.walk m).bind fun a m => (f a).walk m := by
  induction p generalizing m with
  | done a => rfl
  | ask r next ih =>
    change (perform r m).bind (fun a m => (next a >>= f).walk m) = _
    simp only [ih, walk, Outcome.bind_bind]

theorem steps_bind (p : Program α) (f : α → Program β) (m : Machine) :
    (p >>= f).steps m = p.steps m ++ (p.walk m).afterwards fun a m => (f a).steps m := by
  induction p generalizing m with
  | done a => rfl
  | ask r next ih =>
    change (r, m) :: halts r m ++ (perform r m).afterwards (fun a m => (next a >>= f).steps m) = _
    simp only [ih, steps, walk]
    cases perform r m with
    | stopped why m' => simp [Outcome.afterwards, Outcome.bind]
    | answered a m' => simp [Outcome.afterwards, Outcome.bind]

end Program

namespace Machine

variable {r : Request} {m m' : Machine} (take : Taking) (visit : Visiting)

section Still

variable {m m' : Machine} (h : m.still = m'.still)
include h

theorem flag_of_still : m.flag = m'.flag := (congrArg Machine.flag h :)

theorem kernel_of_still : m.kernel = m'.kernel := (congrArg Machine.kernel h :)

theorem latches_of_still : m.latches = m'.latches := (congrArg Machine.latches h :)

theorem busyReads_of_still : m.busyReads = m'.busyReads := (congrArg Machine.busyReads h :)

theorem events_of_still : m.events = m'.events := (congrArg Machine.events h :)

end Still

theorem Outcome.exists_answered {a : α} {o : Outcome α}
    (h : (Outcome.answered a m).still = o.still) :
    ∃ m', o = .answered a m' ∧ m.still = m'.still := by
  cases o with
  | stopped why m' => cases h
  | answered b m' =>
    obtain ⟨rfl, hm⟩ := Outcome.answered.inj h
    exact ⟨m', rfl, hm⟩

theorem Outcome.exists_stopped {why : Stop} {o : Outcome α}
    (h : (Outcome.stopped why m).still = o.still) :
    ∃ m', o = .stopped why m' ∧ m.still = m'.still := by
  cases o with
  | answered b m' => cases h
  | stopped why' m' =>
    obtain ⟨rfl, hm⟩ := Outcome.stopped.inj h
    exact ⟨m', rfl, hm⟩

theorem perform_still (r : Request) (m : Machine) :
    (perform r m).still = (perform r m.still).still := by
  cases r with
  | input p =>
    by_cases hp : p = lineStatus
    · rcases hbusy : m.busyReads with _ | ⟨_ | n, rest⟩ <;>
        simp [perform, readPort, still, Outcome.still, hp, hbusy]
    · simp [perform, readPort, still, Outcome.still, record, hp]
  | poll w =>
    rw [perform_poll, perform_poll]
    rfl
  | haltWhile waiting =>
    cases hwait : waiting m.kernel <;> simp only [perform, still, hwait] <;> rfl
  | acquire l =>
    cases hfree : m.kernel.locks.free l <;> simp only [perform, still, hfree] <;> rfl
  | tryAcquire l =>
    cases hfree : m.kernel.locks.free l <;> simp only [perform, still, hfree] <;> rfl
  | _ => rfl

theorem perform_congr (h : m.still = m'.still) : (perform r m).still = (perform r m').still := by
  rw [perform_still, h, ← perform_still]

theorem halts_congr (h : m.still = m'.still) :
    (halts r m).map (Prod.map id still) = (halts r m').map (Prod.map id still) := by
  have hkernel := kernel_of_still h
  cases r with
  | haltWhile waiting =>
    simp only [halts, hkernel]
    split
    · exact congrArg (fun x => [(Request.halt, x)]) h
    · rfl
  | haltForever => exact congrArg (fun x => [(Request.halt, x)]) h
  | _ => rfl

theorem settle_of_refuses (h : m.Refuses r) :
    settle take r m = .answered () (m.pass r) ∧ settling take visit r m = [] := by
  unfold settle settling
  obtain ⟨as, has⟩ : ∃ as, m.arrivals = as := ⟨_, rfl⟩
  induction as generalizing m with
  | nil =>
    have hpass : m.pass r = m := by
      rw [pass, has]
      exact congrArg (fun as => { m with arrivals := as }) has.symm
    rw [has, hpass]
    exact ⟨rfl, rfl⟩
  | cons a rest ih =>
    rw [has, List.length_cons]
    simp only [arrive, arriving, has]
    cases hdue : a.due r m.progress with
    | true =>
      have hall : ∀ b ∈ a :: rest.takeWhile fun b => b.due r m.progress,
          m.accepts b.trap = false := by
        intro b hb
        apply h
        simpa only [has, List.takeWhile_cons, hdue, if_true] using hb
      have hrefused : ({ m with arrivals := rest } : Machine).accepts a.trap = false :=
        hall a List.mem_cons_self
      have hpass : ({ m with arrivals := rest } : Machine).pass r = m.pass r := by
        simp only [pass, has, List.dropWhile_cons, hdue, if_true]
      have hrest := ih (m := { m with arrivals := rest })
        (fun b hb => hall b (List.mem_cons_of_mem a hb)) rfl
      rw [hpass] at hrest
      simp only [if_true, hrefused, Bool.false_eq_true, if_false]
      exact hrest
    | false =>
      have hpass : m.pass r = m := by
        simp only [pass, has, List.dropWhile_cons, hdue, Bool.false_eq_true, if_false]
        exact congrArg (fun as => { m with arrivals := as }) has.symm
      rw [hpass]
      exact ⟨rfl, rfl⟩

theorem sleepOnce_of_dormant (h : m.Dormant) :
    sleepOnce take m = .stopped m.waitingStop m ∧ wakingOnce visit m = [] := by
  unfold sleepOnce wakingOnce
  cases hwake : m.wake with
  | nil => exact ⟨rfl, rfl⟩
  | cons t rest =>
    have hrefused : m.accepts t = false := h t (by rw [hwake]; rfl)
    simp [hrefused]

theorem sleepWhile_of_dormant (waiting : Kernel → Bool) (hwait : waiting m.kernel = true)
    (hrefuses : m.Refuses .halt) (h : m.Dormant) (n : Nat) :
    sleepWhile take waiting n m = .stopped (m.pass .halt).waitingStop (m.pass .halt) ∧
      wakingWhile take visit waiting n m = [⟨.halt, m.pass .halt, .done⟩] := by
  obtain ⟨hsettle, hsettling⟩ := settle_of_refuses take visit hrefuses
  obtain ⟨hsleep, hwaking⟩ :=
    sleepOnce_of_dormant take visit (m := m.pass .halt) h
  cases n with
  | zero => simp [sleepWhile, wakingWhile, hwait, hsettle, hsettling, Outcome.bind,
      Outcome.afterwards]
  | succ n => simp [sleepWhile, wakingWhile, hwait, hsettle, hsettling, hsleep, hwaking,
      Outcome.bind, Outcome.afterwards]

/-- A request in which no trap is taken, with its instants: it is carried out as ever. -/
structure Rested (take : Taking) (visit : Visiting) (r : Request) (m : Machine) : Prop where
  instants : (answering take visit r m).map Instant.seen = (halts r m).map (Prod.map id still)
  outcome : answer take r m = answer ignoring r m
  still : (answer ignoring r m).still = (perform r m).still
  pending : (answer ignoring r m).Ends
    (fun _ m' => m'.arrivals <:+ m.arrivals ∧ m'.wake = m.wake) fun _ _ => True

theorem pass_still (r : Request) (m : Machine) : (m.pass r).tick.still = m.still := rfl

theorem pollWhile_of_rests {w : Poll} {n : Nat} (h : RestsReading w n m) :
    polling take visit w n m = [] ∧ pollWhile take w n m = pollWhile ignoring w n m ∧
      (pollWhile ignoring w n m).still = (perform (.poll w) m).still ∧
      (pollWhile ignoring w n m).Ends
        (fun _ m' => m'.arrivals <:+ m.arrivals ∧ m'.wake = m.wake) fun _ _ => True := by
  induction n generalizing m with
  | zero =>
    refine ⟨rfl, rfl, rfl, ?_⟩
    rw [pollWhile, perform_poll]
    exact ⟨List.suffix_refl _, rfl⟩
  | succ n ih =>
    obtain ⟨reads, hread⟩ := readPort_poll m w
    cases hlacks : m.lacks w with
    | false =>
      rw [perform_poll_of_finds hlacks]
      simp only [polling, pollWhile, hlacks, Bool.false_eq_true, if_false, hread]
      exact ⟨trivial, trivial, trivial, List.suffix_refl _, rfl⟩
    | true =>
      obtain ⟨hrefuses, hrests⟩ := h hlacks
      obtain ⟨hsettle, hsettling⟩ := settle_of_refuses take visit hrefuses
      obtain ⟨hsettle', -⟩ := settle_of_refuses ignoring visit hrefuses
      obtain ⟨hnone, hsame, hstill, hpending⟩ := ih hrests
      simp only [polling, pollWhile, hlacks, if_true, hsettle, hsettle', hsettling, Outcome.bind,
        Outcome.afterwards, List.nil_append]
      refine ⟨hnone, hsame, ?_, hpending.mono (fun _ m' hm' => ?_) fun _ _ => id⟩
      · rw [hstill, perform_poll_of_lacks hlacks]
        exact perform_congr (pass_still _ _)
      · rw [hread] at hm'
        exact ⟨hm'.1.trans (List.dropWhile_suffix _), hm'.2⟩

theorem rested_of_rests (h : m.Rests r) : Rested take visit r m := by
  have hpending : (perform r m).Ends
      (fun _ m' => m'.arrivals <:+ m.arrivals ∧ m'.wake = m.wake) fun _ _ => True := by
    refine (Terms.perform_pending r m).mono (fun _ m' hm' => ?_) fun _ _ _ => trivial
    exact ⟨hm'.1 ▸ List.suffix_refl _, hm'.2⟩
  cases r with
  | poll w =>
    obtain ⟨hnone, hsame, hstill, hpending⟩ := pollWhile_of_rests take visit h
    exact ⟨congrArg (List.map Instant.seen) hnone, hsame, hstill, hpending⟩
  | halt =>
    obtain ⟨hsleep, hwaking⟩ := sleepOnce_of_dormant take visit h
    obtain ⟨hsleep', -⟩ := sleepOnce_of_dormant ignoring visit h
    refine ⟨congrArg (List.map Instant.seen) hwaking, hsleep.trans hsleep'.symm, ?_, ?_⟩
    · exact congrArg Outcome.still hsleep'
    · rw [answer, hsleep']
      trivial
  | haltWhile waiting =>
    cases hwait : waiting m.kernel with
    | false =>
      have hdone : ∀ take n, sleepWhile take waiting n m = .answered () m := by
        intro take n
        cases n <;> simp [sleepWhile, hwait]
      have hnone : ∀ n, wakingWhile take visit waiting n m = [] := by
        intro n
        cases n <;> simp [wakingWhile, hwait]
      refine ⟨?_, (hdone take _).trans (hdone ignoring _).symm, ?_, ?_⟩
      · simp [answering, hnone, halts, hwait]
      · rw [answer, hdone, perform, if_neg (Bool.eq_false_iff.mp hwait)]
      · rw [answer, hdone]
        exact ⟨List.suffix_refl _, rfl⟩
    | true =>
      obtain ⟨hrefuses, hdormant⟩ := h hwait
      obtain ⟨hsleep, hwaking⟩ :=
        sleepWhile_of_dormant take visit waiting hwait hrefuses hdormant m.wake.length
      obtain ⟨hsleep', -⟩ :=
        sleepWhile_of_dormant ignoring visit waiting hwait hrefuses hdormant m.wake.length
      refine ⟨?_, hsleep.trans hsleep'.symm, ?_, ?_⟩
      · rw [answering, hwaking, halts, if_pos hwait]
        rfl
      · rw [answer, hsleep', perform, if_pos hwait]
        rfl
      · rw [answer, hsleep']
        trivial
  | haltForever =>
    obtain ⟨hsleep, hwaking⟩ :=
      sleepWhile_of_dormant take visit (fun _ => true) rfl h.1 h.2 m.wake.length
    obtain ⟨hsleep', -⟩ :=
      sleepWhile_of_dormant ignoring visit (fun _ => true) rfl h.1 h.2 m.wake.length
    refine ⟨?_, ?_, ?_, ?_⟩
    · rw [answering, hwaking]
      rfl
    · rw [answer, hsleep, answer, hsleep']
    · rw [answer, hsleep']
      rfl
    · rw [answer, hsleep']
      trivial
  | _ => exact ⟨rfl, rfl, rfl, hpending⟩

/-- A run that takes no trap is what the program does alone, to the outcome and at every
instant. -/
theorem course_of_undisturbed {p : Program α} (h : p.Undisturbed m) (hm : m.still = m'.still) :
    (runWith take p m).still = (p.walk m').still ∧
      (instantsWith take visit p m).map Instant.seen =
        (p.steps m').map (Prod.map id still) := by
  -- The two machines differ in their traps and their progress alone. Each request keeps them so,
  -- and what it answers goes by neither.
  induction p generalizing m m' with
  | done a => exact ⟨congrArg (Outcome.answered a) hm, rfl⟩
  | ask r next ih =>
    obtain ⟨hrefuses, hrests, hnext⟩ := h
    obtain ⟨hsettle, hsettling⟩ := settle_of_refuses take visit hrefuses
    obtain ⟨hanswering, hanswer, hstill, -⟩ := rested_of_rests take visit hrests
    have hnow : (m.pass r).tick.still = m'.still := hm
    have hperform := hstill.trans (perform_congr (r := r) hnow)
    have hhalts := halts_congr (r := r) hnow
    have hfirst : Instant.seen ⟨r, m.pass r, next⟩ = Prod.map id still (r, m') :=
      congrArg (Prod.mk r) hm
    rw [runWith, hsettle, instantsWith, hsettling, hsettle]
    simp only [Outcome.bind, Outcome.afterwards, List.nil_append, List.map_append, List.map_cons,
      hfirst, hanswering, hhalts, Program.walk, Program.steps, List.cons_append, hanswer]
    cases hnow' : answer ignoring r (m.pass r).tick with
    | stopped why m₁ =>
      rw [hnow'] at hperform
      obtain ⟨m₂, hstop, hm₂⟩ := Outcome.exists_stopped hperform
      rw [hstop]
      exact ⟨congrArg (Outcome.stopped why) hm₂, by simp⟩
    | answered a m₁ =>
      rw [hnow'] at hperform
      obtain ⟨m₂, hanswered, hm₂⟩ := Outcome.exists_answered hperform
      obtain ⟨hrun, hinstants⟩ := ih a (hnext a m₁ hnow') hm₂
      rw [hanswered]
      exact ⟨hrun, by rw [hinstants]⟩

theorem exists_of_seen {is : List Instant} {xs : List (Request × Machine)}
    (h : is.map Instant.seen = xs.map (Prod.map id still)) {i : Instant} (hi : i ∈ is) :
    ∃ x ∈ xs, x.1 = i.request ∧ x.2.still = i.machine.still := by
  have hseen : i.seen ∈ xs.map (Prod.map id still) := h ▸ List.mem_map_of_mem hi
  obtain ⟨x, hx, hxi⟩ := List.mem_map.mp hseen
  exact ⟨x, hx, congrArg Prod.fst hxi, congrArg Prod.snd hxi⟩

section Run

variable {p : Program α} (drivers : Kernel.Drivers) (h : p.Undisturbed m)
include h

theorem run_answered {a : α} (hwalk : p.walk m = .answered a m') :
    ∃ after, run drivers p m = .answered a after ∧ after.still = m'.still := by
  have hcourse := (course_of_undisturbed (take drivers m.pending) (fun _ _ => []) h rfl).1
  rw [hwalk] at hcourse
  obtain ⟨after, hrun, hafter⟩ := Outcome.exists_answered hcourse.symm
  exact ⟨after, hrun, hafter.symm⟩

theorem run_stopped {why : Stop} (hwalk : p.walk m = .stopped why m') :
    ∃ after, run drivers p m = .stopped why after ∧ after.still = m'.still := by
  have hcourse := (course_of_undisturbed (take drivers m.pending) (fun _ _ => []) h rfl).1
  rw [hwalk] at hcourse
  obtain ⟨after, hrun, hafter⟩ := Outcome.exists_stopped hcourse.symm
  exact ⟨after, hrun, hafter.symm⟩

theorem instants_seen : (instants drivers p m).map Instant.seen =
    (p.steps m).map (Prod.map id still) :=
  (course_of_undisturbed (take drivers m.pending) (visit drivers m.pending) h rfl).2

theorem exists_step {i : Instant} (hi : i ∈ instants drivers p m) :
    ∃ x ∈ p.steps m, x.1 = i.request ∧ x.2.still = i.machine.still :=
  exists_of_seen (instants_seen drivers h) hi

theorem instants_split {xs ys zs : List (Request × Machine)}
    (hsteps : p.steps m = xs ++ ys ++ zs) :
    ∃ is js ks, instants drivers p m = is ++ js ++ ks ∧
      is.map Instant.seen = xs.map (Prod.map id still) ∧
      js.map Instant.seen = ys.map (Prod.map id still) ∧
      ks.map Instant.seen = zs.map (Prod.map id still) := by
  have hseen := instants_seen drivers h
  rw [hsteps, List.map_append, List.map_append] at hseen
  obtain ⟨front, ks, hfront, hfirst, hks⟩ := List.map_eq_append_iff.mp hseen
  obtain ⟨is, js, his, hx, hy⟩ := List.map_eq_append_iff.mp hfirst
  exact ⟨is, js, ks, by rw [hfront, his], hx, hy, hks⟩

end Run

section Refusing

variable {p : Program α} {as : List Arrival} {ts : List Incoming}

structure RefusesAll (as : List Arrival) (ts : List Incoming) (x : Request × Machine) : Prop where
  arrivals : ∀ a ∈ as, x.2.accepts a.trap = false
  wake : x.1.IsWait → ∀ t ∈ ts, x.2.accepts t = false

theorem restsReading_of_refusing {w : Poll} (n : Nat) {m : Machine}
    (h : ∀ a ∈ m.arrivals, m.accepts a.trap = false) : RestsReading w n m := by
  induction n generalizing m with
  | zero => trivial
  | succ n ih =>
    obtain ⟨reads, hread⟩ := readPort_poll m w
    intro _
    rw [hread]
    refine ⟨fun a ha => h a ((List.takeWhile_sublist _).subset ha), ih fun a ha => ?_⟩
    exact h a ((List.dropWhile_sublist _).subset ha)

theorem undisturbed_of_steps (h : ∀ x ∈ p.steps m', RefusesAll as ts x)
    (hm : m.still = m'.still) (has : m.arrivals ⊆ as) (hts : m.wake ⊆ ts) : p.Undisturbed m := by
  -- What is still to come gets less on the way, so that there are no other traps to refuse.
  induction p generalizing m m' with
  | done a => trivial
  | ask r next ih =>
    obtain ⟨harrivals, hwake⟩ := h (r, m') (by simp [Program.steps])
    have hflag := flag_of_still hm
    have haccepts : ∀ t, m.accepts t = m'.accepts t := fun t => by rw [accepts, hflag, accepts]
    have hrefused : ∀ a ∈ m.arrivals, m.accepts a.trap = false := fun a ha =>
      (haccepts a.trap).trans (harrivals a (has ha))
    have hpassed : (m.pass r).arrivals ⊆ m.arrivals := (List.dropWhile_sublist _).subset
    have hdormant : r.IsWait → (m.pass r).tick.Dormant := fun hwait t ht =>
      (haccepts t).trans (hwake hwait t (hts (List.mem_of_mem_head? ht)))
    have hrefuses : (m.pass r).tick.Refuses .halt := fun a ha =>
      hrefused a (hpassed ((List.takeWhile_sublist _).subset ha))
    have hrests : (m.pass r).tick.Rests r := by
      cases r with
      | poll w => exact restsReading_of_refusing _ fun a ha => hrefused a (hpassed ha)
      | halt => exact hdormant trivial
      | haltWhile waiting => exact fun _ => ⟨hrefuses, hdormant trivial⟩
      | haltForever => exact ⟨hrefuses, hdormant trivial⟩
      | _ => trivial
    refine ⟨fun a ha => hrefused a ((List.takeWhile_sublist _).subset ha), hrests, ?_⟩
    intro a m₁ hanswer
    obtain ⟨-, -, hstill, hpending⟩ := rested_of_rests ignoring (fun _ _ => []) hrests
    have hnow : (m.pass r).tick.still = m'.still := hm
    have hperform := hstill.trans (perform_congr (r := r) hnow)
    rw [hanswer] at hperform hpending
    obtain ⟨m₂, hanswer', hm₂⟩ := Outcome.exists_answered hperform
    refine ih a ?_ hm₂ ?_ ?_
    · intro x hx
      apply h
      rw [Program.steps, hanswer']
      exact List.mem_append_right _ hx
    · exact fun a ha => has (hpassed (hpending.1.subset ha))
    · rw [hpending.2]
      exact hts

/-- A program runs without a trap if the CPU accepts none at any of its steps. -/
theorem undisturbed_of_refusing (h : ∀ x ∈ p.steps m, RefusesAll m.arrivals m.wake x) :
    p.Undisturbed m :=
  undisturbed_of_steps h rfl (List.Subset.refl _) (List.Subset.refl _)

theorem undisturbed_of_none (harrivals : m.arrivals = []) (hwake : m.wake = []) :
    p.Undisturbed m := by
  apply undisturbed_of_refusing
  intro x _
  rw [harrivals, hwake]
  exact ⟨fun _ ha => absurd ha List.not_mem_nil, fun _ _ ht => absurd ht List.not_mem_nil⟩

end Refusing

/-- A program that ends like this, with `ok` at each of its steps. -/
structure Walks (ok : Request × Machine → Prop) (p : Program α) (m : Machine) (o : Outcome α) :
    Prop where
  steps : ∀ x ∈ p.steps m, ok x
  walk : p.walk m = o

namespace Walks

variable {ok ok' : Request × Machine → Prop} {p : Program α} {f : α → Program β} {a : α}

theorem done (a : α) (m : Machine) : Walks ok (.done a) m (.answered a m) :=
  ⟨fun _ hx => absurd hx List.not_mem_nil, rfl⟩

theorem mono {o : Outcome α} (h : Walks ok p m o) (hok : ∀ x, ok x → ok' x) : Walks ok' p m o :=
  ⟨fun x hx => hok x (h.steps x hx), h.walk⟩

theorem bind {o : Outcome β} (h : Walks ok p m (.answered a m')) (hf : Walks ok (f a) m' o) :
    Walks ok (p >>= f) m o := by
  constructor
  · intro x hx
    rw [Program.steps_bind, h.walk, List.mem_append] at hx
    exact hx.elim (h.steps x) (hf.steps x)
  · rw [Program.walk_bind, h.walk]
    exact hf.walk

theorem bind_stopped {why : Stop} (h : Walks ok p m (.stopped why m')) :
    Walks ok (p >>= f) m (.stopped why m') := by
  constructor
  · intro x hx
    rw [Program.steps_bind, h.walk, List.mem_append] at hx
    exact hx.elim (h.steps x) fun hx => absurd hx List.not_mem_nil
  · rw [Program.walk_bind, h.walk]
    rfl

theorem ask {r : Request} {b : r.Answer} {next : r.Answer → Program α} {o : Outcome α}
    (hr : ¬ r.IsWait) (hok : ok (r, m)) (h : perform r m = .answered b m')
    (hnext : Walks ok (next b) m' o) : Walks ok (.ask r next) m o := by
  constructor
  · intro x hx
    have hhalts : halts r m = [] := by
      cases r <;> first | rfl | exact absurd trivial hr
    rw [Program.steps, hhalts, h] at hx
    rcases List.mem_cons.mp hx with rfl | hx
    · exact hok
    · exact hnext.steps x hx
  · rw [Program.walk, h]
    exact hnext.walk

theorem memory {f : Kernel → Kernel} {next : Kernel → Program α} {o : Outcome α}
    (hok : ok (.memory f, m)) (h : Walks ok (next m.kernel) { m with kernel := f m.kernel } o) :
    Walks ok (.ask (.memory f) next) m o := ask nofun hok rfl h

theorem haltForever {next : Empty → Program α} (hm : m.flag = false) (hok : ok (.haltForever, m))
    (hhalt : ok (.halt, m)) : Walks ok (.ask .haltForever next) m (.stopped .halted m) := by
  constructor
  · intro x hx
    have hsteps : (Program.ask .haltForever next).steps m = [(.haltForever, m), (.halt, m)] := rfl
    rw [hsteps, List.mem_cons, List.mem_singleton] at hx
    rcases hx with rfl | rfl
    · exact hok
    · exact hhalt
  · have hstop : m.waitingStop = .halted := by rw [waitingStop, hm, if_neg Bool.false_ne_true]
    change Outcome.stopped m.waitingStop m = _
    rw [hstop]

theorem forM {ι : Type} {xs : List ι} {f : ι → Program Unit} {g : Machine → ι → Machine}
    {I : Machine → Prop}
    (h : ∀ x ∈ xs, ∀ m, I m → Walks ok (f x) m (.answered () (g m x)) ∧ I (g m x)) (hm : I m) :
    Walks ok (xs.forM f) m (.answered () (xs.foldl g m)) := by
  induction xs generalizing m with
  | nil => exact done () m
  | cons x xs ih =>
    obtain ⟨hx, hI⟩ := h x List.mem_cons_self m hm
    exact hx.bind (ih (fun y hy => h y (List.mem_cons_of_mem x hy)) hI)

end Walks

end Machine

end InterruptCore

import InterruptCore.Machine.Instants
import InterruptCore.Proofs.Machine.Polls

/-! Runs under terms. A program is checked request by request against a view of the machine,
without a look at the traps; that the traps bear the terms is shown once, by induction on how
deep they nest. Main statements: a program that meets its terms is held to them over its whole
run, at every instant and in every trap taken on the way; and one that reaches a point under its
terms has an instant there, with the terms kept at all instants before. -/
namespace InterruptCore.Machine

open Kernel

variable {α β σ : Type}

def Outcome.Ends (Q : α → Machine → Prop) (S : Stop → Machine → Prop) : Outcome α → Prop
  | .answered a m => Q a m
  | .stopped why m => S why m

def Outcome.isAnswered : Outcome α → Bool
  | .answered _ _ => true
  | .stopped _ _ => false

theorem Outcome.Ends.mono {Q Q' : α → Machine → Prop} {S S' : Stop → Machine → Prop}
    {o : Outcome α} (h : o.Ends Q S) (hQ : ∀ a m, Q a m → Q' a m) (hS : ∀ w m, S w m → S' w m) :
    o.Ends Q' S' := by
  cases o with
  | answered a m => exact hQ a m h
  | stopped why m => exact hS why m h

/-- The waits, which end by a trap or by a look at memory. -/
def Request.IsWait : Request → Prop
  | .halt | .haltWhile _ | .haltForever => True
  | _ => False

/-- The requests in which traps may come. -/
def Request.Lasts : Request → Prop
  | .poll _ | .halt | .haltWhile _ | .haltForever => True
  | _ => False

/-- The requests that have to do with neither the flag, nor memory, nor the gates. -/
def Request.Quiet : Request → Prop
  | .out _ _ | .input _ | .poll _ | .control _ | .stackPointer | .loadSegmentTable _
  | .loadSegment _ _ | .note _ | .capture _ _ => True
  | _ => False

def Event.isReturn : Event → Bool
  | .returned _ _ _ => true
  | _ => false

/-- Two machines that differ in ports and past at most, and have returned from the same traps. -/
structure Alike (m m' : Machine) : Prop where
  flag : m'.flag = m.flag
  idtr : m'.idtr = m.idtr
  kernel : m'.kernel = m.kernel
  returns : m'.past.filter Event.isReturn = m.past.filter Event.isReturn

theorem perform_quiet {r : Request} (hr : r.Quiet) (m : Machine) :
    ∃ a m', perform r m = .answered a m' ∧ Alike m m' := by
  cases r with
  | out p v =>
    have hevent : (outEvent m.latches p v).isReturn = false := by
      unfold outEvent
      split <;> rfl
    refine ⟨(), m.writePort p v, rfl, rfl, rfl, rfl, ?_⟩
    simp only [writePort, List.filter_cons, hevent]
    rfl
  | input p =>
    refine ⟨(m.readPort p).1, (m.readPort p).2, rfl, ?_⟩
    unfold readPort
    split
    · rcases m.busyReads with _ | ⟨_ | n, rest⟩ <;> exact ⟨rfl, rfl, rfl, rfl⟩
    · exact ⟨rfl, rfl, rfl, rfl⟩
  | poll w => exact ⟨_, _, perform_poll m w, rfl, rfl, rfl, rfl⟩
  | control register => exact ⟨_, _, rfl, rfl, rfl, rfl, rfl⟩
  | stackPointer => exact ⟨_, _, rfl, rfl, rfl, rfl, rfl⟩
  | loadSegmentTable p => exact ⟨_, _, rfl, rfl, rfl, rfl, rfl⟩
  | loadSegment register selector => exact ⟨_, _, rfl, rfl, rfl, rfl, rfl⟩
  | note n => exact ⟨_, _, rfl, rfl, rfl, rfl, rfl⟩
  | capture b text => exact ⟨_, _, rfl, rfl, rfl, rfl, rfl⟩
  | _ => exact hr.elim

/-- What a run is held to, said of a view of the machine. The traps to come and the progress of
the run are no part of a view. -/
structure Terms (σ : Type) where
  view : Machine → σ
  ok : σ → Request → Prop
  stop : Stop → σ → Prop
  expects : Incoming → Prop
  view_tick : ∀ m, view m.tick = view m
  view_arrivals : ∀ m as, view { m with arrivals := as } = view m
  view_wake : ∀ m ts, view { m with wake := ts } = view m

namespace Terms

structure Expected (T : Terms σ) (m : Machine) : Prop where
  arrivals : ∀ a ∈ m.arrivals, T.expects a.trap
  wake : ∀ t ∈ m.wake, T.expects t

/-- The instants and the outcome of a run that was held to the terms and answers with `Q`. -/
structure Holds (T : Terms σ) (is : List Instant) (o : Outcome α) (Q : α → σ → Prop) : Prop where
  instants : ∀ i ∈ is, T.ok (T.view i.machine) i.request
  ends : o.Ends (fun a m => Q a (T.view m) ∧ T.Expected m) (fun why m => T.stop why (T.view m))

/-- A trap is held to the terms itself, and leaves the view to the code that it interrupts. -/
def Bears (T : Terms σ) (take : Taking) (visit : Visiting) : Prop :=
  ∀ t m, T.expects t → T.Expected m → (∃ r, T.ok (T.view m) r) → m.accepts t = true →
    T.Holds (visit t m) (take t m) fun _ s => s = T.view m

def Waits (T : Terms σ) (s : σ) : Prop :=
  T.ok s .halt ∧ ∀ m, T.view m = s → T.stop m.waitingStop s

/-- Every answer to a request leads to `K`; reads of a port that is polled lead to nothing else. -/
def Follows (T : Terms σ) (s : σ) : (r : Request) → (r.Answer → σ → Prop) → Prop
  | .poll w, K => ∀ m, T.view m = s → T.view (m.readPort w.port).2 = s ∧ K () s
  | .halt, K => T.Waits s ∧ K () s
  | .haltWhile waiting, K =>
    T.Waits s ∧ ∀ m, T.view m = s → waiting m.kernel = false → K () s
  | .haltForever, _ => T.Waits s
  | r, K => ∀ m, T.view m = s →
    (perform r m).Ends (fun a m => K a (T.view m)) (fun why m => T.stop why (T.view m))

/-- Run on a machine of this view, the program keeps to the terms and answers with `Q`. -/
def Meets (T : Terms σ) : Program α → (α → σ → Prop) → σ → Prop
  | .done a, Q, s => Q a s
  | .ask r next, Q, s => T.ok s r ∧ T.Follows s r fun a s => T.Meets (next a) Q s

variable {T : Terms σ} {take : Taking} {visit : Visiting} {s : σ}

theorem follows_of_answered {r : Request} (hr : ¬ r.Lasts) {K : r.Answer → σ → Prop}
    (h : ∀ m, T.view m = s → ∃ a m', perform r m = .answered a m' ∧ K a (T.view m')) :
    T.Follows s r K := by
  have hperform : ∀ m, T.view m = s →
      (perform r m).Ends (fun a m => K a (T.view m)) (fun why m => T.stop why (T.view m)) := by
    intro m hm
    obtain ⟨a, m', hanswer, hK⟩ := h m hm
    rw [hanswer]
    exact hK
  cases r <;> first | exact hperform | exact absurd trivial hr

theorem follows_quiet {r : Request} (hr : r.Quiet) {K : r.Answer → σ → Prop}
    (hview : ∀ m m', Alike m m' → T.view m' = T.view m) (hK : ∀ a, K a s) : T.Follows s r K := by
  by_cases hlasts : r.Lasts
  · cases r with
    | poll w =>
      rintro m rfl
      obtain ⟨reads, hread⟩ := readPort_poll m w
      refine ⟨hview m _ ?_, hK ()⟩
      rw [hread]
      exact ⟨rfl, rfl, rfl, rfl⟩
    | halt => exact hr.elim
    | haltWhile waiting => exact hr.elim
    | haltForever => exact hr.elim
    | _ => exact hlasts.elim
  · apply follows_of_answered hlasts
    rintro m rfl
    obtain ⟨a, m', hanswer, halike⟩ := perform_quiet hr m
    refine ⟨a, m', hanswer, ?_⟩
    rw [hview m m' halike]
    exact hK a

theorem Follows.mono {r : Request} {K K' : r.Answer → σ → Prop} (h : T.Follows s r K)
    (hK : ∀ a s, K a s → K' a s) : T.Follows s r K' := by
  cases r with
  | halt => exact ⟨h.1, hK _ _ h.2⟩
  | haltWhile waiting => exact ⟨h.1, fun m hm hw => hK _ _ (h.2 m hm hw)⟩
  | haltForever => exact h
  | poll w => exact fun m hm => ⟨(h m hm).1, hK _ _ (h m hm).2⟩
  | _ => exact fun m hm => (h m hm).mono (fun a m => hK a (T.view m)) (fun _ _ => id)

namespace Meets

variable {Q Q' : α → σ → Prop} {R : β → σ → Prop}

theorem mono {p : Program α} (h : T.Meets p Q s) (hQ : ∀ a s, Q a s → Q' a s) :
    T.Meets p Q' s := by
  induction p generalizing s with
  | done a => exact hQ a s h
  | ask r next ih => exact ⟨h.1, h.2.mono fun a s hs => ih a hs⟩

theorem bind {p : Program α} {f : α → Program β}
    (h : T.Meets p (fun a s => T.Meets (f a) R s) s) : T.Meets (p.bind f) R s := by
  induction p generalizing s with
  | done a => exact h
  | ask r next ih => exact ⟨h.1, h.2.mono fun a s hs => ih a hs⟩

theorem forM {ι : Type} {xs : List ι} {f : ι → Program Unit} {I : σ → Prop}
    (h : ∀ x ∈ xs, ∀ s, I s → T.Meets (f x) (fun _ => I) s) (hs : I s) :
    T.Meets (xs.forM f) (fun _ => I) s := by
  induction xs generalizing s with
  | nil => exact hs
  | cons x xs ih =>
    apply bind
    apply (h x List.mem_cons_self s hs).mono
    intro _ s hs
    exact ih (fun y hy => h y (List.mem_cons_of_mem x hy)) hs

theorem forM_prefix {ι : Type} {xs : List ι} {f : ι → Program Unit} {I : List ι → σ → Prop}
    (h : ∀ before x s, I before s → T.Meets (f x) (fun _ => I (before ++ [x])) s)
    (before : List ι) (hs : I before s) :
    T.Meets (xs.forM f) (fun _ => I (before ++ xs)) s := by
  induction xs generalizing before s with
  | nil => rwa [List.append_nil]
  | cons x xs ih =>
    apply bind
    apply (h before x s hs).mono
    intro _ s hs
    have hrest := ih (before ++ [x]) hs
    rwa [List.append_assoc] at hrest

end Meets

/-- Run on a machine of this view, the program keeps to the terms until it is at a point with
`P`: there it is about to ask for something. -/
def Reaches (T : Terms σ) (P : σ → Program α → Prop) : Program α → σ → Prop
  | .done _, _ => False
  | .ask r next, s => (P s (.ask r next) ∧ ∃ r', T.ok s r') ∨
    (T.ok s r ∧ T.Follows s r fun a s => T.Reaches P (next a) s)

theorem Meets.reaches {P : σ → Program β → Prop} {p : Program α} {f : α → Program β}
    (h : T.Meets p (fun a s => T.Reaches P (f a) s) s) : T.Reaches P (p >>= f) s := by
  induction p generalizing s with
  | done a => exact h
  | ask r next ih => exact .inr ⟨h.1, h.2.mono fun a s hs => ih a hs⟩

namespace Holds

variable {is : List Instant} {o : Outcome α} {Q Q' : α → σ → Prop} {R : β → σ → Prop}

theorem answered {a : α} {m : Machine} (hQ : Q a (T.view m)) (he : T.Expected m) :
    T.Holds [] (.answered a m) Q :=
  ⟨fun _ hi => absurd hi List.not_mem_nil, hQ, he⟩

theorem stopped {why : Stop} {m : Machine} (h : T.stop why (T.view m)) :
    T.Holds [] (.stopped why m) Q :=
  ⟨fun _ hi => absurd hi List.not_mem_nil, h⟩

theorem append {f : α → Machine → Outcome β} {g : α → Machine → List Instant}
    (h : T.Holds is o Q)
    (hf : ∀ a m, Q a (T.view m) → T.Expected m → T.Holds (g a m) (f a m) R) :
    T.Holds (is ++ o.afterwards g) (o.bind f) R := by
  cases o with
  | stopped why m =>
    refine ⟨fun i hi => h.instants i ?_, h.ends⟩
    simpa [Outcome.afterwards] using hi
  | answered a m =>
    have hrest := hf a m h.ends.1 h.ends.2
    refine ⟨fun i hi => ?_, hrest.ends⟩
    exact (List.mem_append.mp hi).elim (h.instants i) (hrest.instants i)

theorem bind {f : α → Machine → Outcome β} (h : T.Holds is o Q)
    (hf : ∀ a m, Q a (T.view m) → T.Expected m → T.Holds [] (f a m) R) :
    T.Holds is (o.bind f) R := by
  have happend := h.append (g := fun _ _ => []) hf
  refine ⟨h.instants, happend.ends⟩

theorem cons {r : Request} {m : Machine} {ρ : Type} {next : r.Answer → Program ρ}
    (h : T.Holds is o Q) (hok : T.ok (T.view m) r) : T.Holds (⟨r, m, next⟩ :: is) o Q := by
  refine ⟨fun i hi => ?_, h.ends⟩
  rcases List.mem_cons.mp hi with rfl | hi
  · exact hok
  · exact h.instants i hi

end Holds

theorem perform_pending (r : Request) (m : Machine) :
    (perform r m).Ends (fun _ m' => m'.arrivals = m.arrivals ∧ m'.wake = m.wake)
      (fun _ m' => m' = m) := by
  cases r with
  | input p =>
    simp only [perform, readPort]
    split
    · rcases m.busyReads with _ | ⟨_ | n, rest⟩ <;> exact ⟨rfl, rfl⟩
    · exact ⟨rfl, rfl⟩
  | poll w =>
    rw [perform_poll]
    exact ⟨rfl, rfl⟩
  | haltWhile waiting => simp only [perform]; split <;> simp [Outcome.Ends]
  | acquire l => simp only [perform]; split <;> simp [Outcome.Ends, mapLocks]
  | tryAcquire l => simp only [perform]; split <;> simp [Outcome.Ends, mapLocks]
  | _ => simp [perform, Outcome.Ends, writePort, record, mapLocks]

theorem view_readUntil {w : Poll} {K : Unit → σ → Prop} (hK : T.Follows s (.poll w) K) (n : Nat)
    {m : Machine} (hm : T.view m = s) : T.view (readUntil w n m) = s := by
  induction n generalizing m with
  | zero => exact (hK m hm).1
  | succ n ih =>
    rw [readUntil]
    split
    · exact ih (hK m hm).1
    · exact (hK m hm).1

section Run

variable (hb : T.Bears take visit)
include hb

theorem holds_arrive {r : Request} {n : Nat} {m : Machine} (hok : ∃ r, T.ok (T.view m) r)
    (he : T.Expected m) :
    T.Holds (arriving take visit n r m) (arrive take n r m) fun _ s => s = T.view m := by
  induction n generalizing m with
  | zero => exact .answered rfl he
  | succ n ih =>
    cases has : m.arrivals with
    | nil =>
      simp only [arriving, arrive, has]
      exact .answered rfl he
    | cons a rest =>
      have hview := T.view_arrivals m rest
      have htrap : T.expects a.trap := he.arrivals a (by simp [has])
      have he' : T.Expected { m with arrivals := rest } :=
        ⟨fun b hb => he.arrivals b (by simp [has, hb]), he.wake⟩
      have hok' : ∃ r, T.ok (T.view { m with arrivals := rest }) r := hview.symm ▸ hok
      simp only [arriving, arrive, has]
      split
      · split
        · rename_i hacc
          have htaken := hb a.trap { m with arrivals := rest } htrap he' hok' hacc
          apply htaken.append
          intro _ m' hm' hem'
          rw [← hview, ← hm']
          exact ih (hm' ▸ hok') hem'
        · rw [← hview]
          exact ih hok' he'
      · exact .answered rfl he

theorem holds_settle {r : Request} {m : Machine} (hok : ∃ r, T.ok (T.view m) r)
    (he : T.Expected m) :
    T.Holds (settling take visit r m) (settle take r m) fun _ s => s = T.view m :=
  holds_arrive hb hok he

theorem holds_sleepOnce {m : Machine} (hw : T.Waits (T.view m)) (he : T.Expected m) :
    T.Holds (wakingOnce visit m) (sleepOnce take m) fun _ s => s = T.view m := by
  have hstop := hw.2 m rfl
  cases hwake : m.wake with
  | nil =>
    simp only [wakingOnce, sleepOnce, hwake]
    exact .stopped hstop
  | cons t rest =>
    have hview := T.view_wake m rest
    have he' : T.Expected { m with wake := rest } :=
      ⟨he.arrivals, fun b hb => he.wake b (by simp [hwake, hb])⟩
    simp only [wakingOnce, sleepOnce, hwake]
    split
    · rename_i hacc
      rw [← hview]
      exact hb t { m with wake := rest } (he.wake t (by simp [hwake])) he'
        ⟨.halt, hview.symm ▸ hw.1⟩ hacc
    · exact .stopped hstop

/-- A wait wakes for a trap at a time, and every one of them leaves the view as it is. -/
theorem holds_sleepWhile {waiting : Kernel → Bool} {Q : Unit → σ → Prop} (hw : T.Waits s)
    (hQ : ∀ m, T.view m = s → waiting m.kernel = false → Q () s) {n : Nat} {m : Machine}
    (hm : T.view m = s) (he : T.Expected m) :
    T.Holds (wakingWhile take visit waiting n m) (sleepWhile take waiting n m) Q := by
  induction n generalizing m with
  | zero =>
    simp only [wakingWhile, sleepWhile]
    split
    · apply (holds_settle hb ⟨.halt, hm ▸ hw.1⟩ he).append
      intro _ m' hm' _
      have hs : T.view m' = s := hm'.trans hm
      exact (Holds.stopped (hs ▸ hw.2 m' hs)).cons (hs ▸ hw.1)
    · rename_i hwait
      exact .answered (hm ▸ hQ m hm (Bool.eq_false_iff.mpr hwait)) he
  | succ n ih =>
    simp only [wakingWhile, sleepWhile]
    split
    · apply (holds_settle hb ⟨.halt, hm ▸ hw.1⟩ he).append
      intro _ m' hm' he'
      have hs : T.view m' = s := hm'.trans hm
      apply Holds.cons _ (hs ▸ hw.1)
      apply (holds_sleepOnce hb (hs ▸ hw) he').append
      intro _ m'' hm'' he''
      have hs' : T.view m'' = s := hm''.trans hs
      apply (holds_settle hb ⟨.halt, hs' ▸ hw.1⟩ he'').append
      intro _ m₃ hm₃ he₃
      exact ih (hm₃.trans hs') he₃
    · rename_i hwait
      exact .answered (hm ▸ hQ m hm (Bool.eq_false_iff.mpr hwait)) he

/-- A wait for a bit reads the port again and again, and every read leaves the view as it is. -/
theorem holds_pollWhile {w : Poll} {K : Unit → σ → Prop} (hok : ∃ r, T.ok s r)
    (hK : T.Follows s (.poll w) K) {n : Nat} {m : Machine} (hm : T.view m = s)
    (he : T.Expected m) :
    T.Holds (polling take visit w n m) (pollWhile take w n m) K := by
  induction n generalizing m with
  | zero =>
    have hpending := perform_pending (.poll w) m
    exact .answered (view_readUntil hK _ hm ▸ (hK m hm).2)
      ⟨hpending.1 ▸ he.arrivals, hpending.2 ▸ he.wake⟩
  | succ n ih =>
    obtain ⟨hread, hdone⟩ := hK m hm
    have he' : T.Expected (m.readPort w.port).2 := by
      obtain ⟨reads, hreads⟩ := readPort_poll m w
      rw [hreads]
      exact ⟨he.arrivals, he.wake⟩
    simp only [polling, pollWhile]
    split
    · apply (holds_settle hb (hread.symm ▸ hok) he').append
      intro _ m' hm' he''
      exact ih ((T.view_tick m').trans (hm'.trans hread)) ⟨he''.arrivals, he''.wake⟩
    · exact .answered (hread.symm ▸ hdone) he'

theorem holds_answer {r : Request} {m : Machine} {K : r.Answer → σ → Prop}
    (hok : ∃ r, T.ok (T.view m) r) (hK : T.Follows (T.view m) r K) (he : T.Expected m) :
    T.Holds (answering take visit r m) (answer take r m) K := by
  have hperform : (∀ m', T.view m' = T.view m →
      (perform r m').Ends (fun a m => K a (T.view m)) (fun why m => T.stop why (T.view m))) →
      T.Holds [] (perform r m) K := by
    intro h
    have hends := h m rfl
    have hpending := perform_pending r m
    refine ⟨fun _ hi => absurd hi List.not_mem_nil, ?_⟩
    cases ho : perform r m with
    | stopped why m' =>
      rw [ho] at hends
      exact hends
    | answered a m' =>
      rw [ho] at hends hpending
      exact ⟨hends, ⟨hpending.1 ▸ he.arrivals, hpending.2 ▸ he.wake⟩⟩
  cases r with
  | halt =>
    have hsleep := holds_sleepOnce hb hK.1 he
    exact ⟨hsleep.instants, hsleep.ends.mono (fun _ m' h => ⟨h.1 ▸ hK.2, h.2⟩) (fun _ _ => id)⟩
  | haltWhile waiting => exact holds_sleepWhile hb hK.1 hK.2 rfl he
  | poll w => exact holds_pollWhile hb hok hK rfl he
  | haltForever =>
    have hsleep : T.Holds (wakingWhile take visit (fun _ => true) m.wake.length m)
        (sleepWhile take (fun _ => true) m.wake.length m) fun _ _ => False :=
      holds_sleepWhile hb hK (fun _ _ h => nomatch h) rfl he
    have hends := hsleep.ends
    refine ⟨hsleep.instants, ?_⟩
    simp only [answer]
    cases hs : sleepWhile take (fun _ => true) m.wake.length m with
    | answered _ m' =>
      rw [hs] at hends
      exact hends.1.elim
    | stopped why m' =>
      rw [hs] at hends
      exact hends
  | _ => exact hperform hK

theorem Meets.holds {p : Program α} {Q : α → σ → Prop} {m : Machine}
    (h : T.Meets p Q (T.view m)) (he : T.Expected m) :
    T.Holds (instantsWith take visit p m) (runWith take p m) Q := by
  induction p generalizing m with
  | done a => exact .answered h he
  | ask r next ih =>
    simp only [instantsWith, runWith]
    apply (holds_settle hb ⟨r, h.1⟩ he).append
    intro _ m' hm' he'
    apply Holds.cons _ (hm' ▸ h.1)
    have hview : T.view m'.tick = T.view m := (T.view_tick m').trans hm'
    have hfollows : T.Follows (T.view m'.tick) r fun a s => T.Meets (next a) Q s := by
      rw [hview]
      exact h.2
    apply (holds_answer hb ⟨r, hview ▸ h.1⟩ hfollows ⟨he'.arrivals, he'.wake⟩).append
    intro a m'' ha he''
    exact ih a ha he''

theorem Reaches.instants (hstop : ∀ why s, ¬ T.stop why s) {P : σ → Program α → Prop}
    {p : Program α} {m : Machine} (h : T.Reaches P p (T.view m)) (he : T.Expected m) :
    ∃ (before after : List Instant) (r : Request) (next : r.Answer → Program α) (now : Machine),
      instantsWith take visit p m = before ++ ⟨r, now, next⟩ :: after ∧
      (∀ i ∈ before, T.ok (T.view i.machine) i.request) ∧ P (T.view now) (.ask r next) := by
  induction p generalizing m with
  | done a => exact h.elim
  | ask r next ih =>
    have hok : ∃ r', T.ok (T.view m) r' := h.elim And.right fun h => ⟨r, h.1⟩
    have hsettled := holds_settle (r := r) hb hok he
    have hsettles := hsettled.ends
    simp only [instantsWith]
    cases hs : settle take r m with
    | stopped why m' =>
      rw [hs] at hsettles
      exact (hstop why _ hsettles).elim
    | answered u now =>
      rw [hs] at hsettles
      obtain ⟨hview, he'⟩ := hsettles
      simp only [Outcome.afterwards]
      -- Either the point is here, or it is past this request and the traps that came before it.
      rcases h with ⟨hpoint, -⟩ | ⟨hasks, hfollows⟩
      · refine ⟨settling take visit r m, _, r, next, now, rfl, hsettled.instants, ?_⟩
        rwa [hview]
      · have hnow : T.view now.tick = T.view m := (T.view_tick now).trans hview
        rw [← hnow] at hfollows
        have hanswered := holds_answer hb ⟨r, hnow ▸ hasks⟩ hfollows ⟨he'.arrivals, he'.wake⟩
        have hanswers := hanswered.ends
        cases ha : answer take r now.tick with
        | stopped why m' =>
          rw [ha] at hanswers
          exact (hstop why _ hanswers).elim
        | answered a m' =>
          rw [ha] at hanswers
          obtain ⟨before, after, r', next', now', heq, hbefore, hpoint⟩ :=
            ih a hanswers.1 hanswers.2
          refine ⟨settling take visit r m ++ ⟨r, now, next⟩ ::
            (answering take visit r now.tick ++ before), after, r', next', now', ?_, ?_, hpoint⟩
          · simp only [heq, List.append_assoc, List.cons_append]
          · intro i hi
            rcases List.mem_append.mp hi with hi | hi
            · exact hsettled.instants i hi
            rcases List.mem_cons.mp hi with rfl | hi
            · exact hview ▸ hasks
            · exact (List.mem_append.mp hi).elim (hanswered.instants i) (hbefore i)

end Run

end Terms

end InterruptCore.Machine

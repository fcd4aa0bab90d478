import InterruptCore.Proofs.Machine.Terms

/-! The bounds of a run. A run takes no more traps than are pending, and a trap that is taken is
pending no longer; a wait for a bit makes no more reads in vain than the transmitter is busy for,
and each uses one of them up. So no run comes to a bound: any larger ones give the same outcome
and the same instants. -/
namespace InterruptCore.Machine

open Kernel

variable {α β : Type}

/-- No more traps are to come than before, and no more reads that find the transmitter busy. -/
structure Spent (m m' : Machine) : Prop where
  pending : m'.pending ≤ m.pending
  reads : m'.busyLeft ≤ m.busyLeft

theorem Spent.refl (m : Machine) : Spent m m := ⟨Nat.le_refl _, Nat.le_refl _⟩

theorem Spent.trans {m m₁ m₂ : Machine} (h : Spent m m₁) (h' : Spent m₁ m₂) : Spent m m₂ :=
  ⟨Nat.le_trans h'.pending h.pending, Nat.le_trans h'.reads h.reads⟩

/-- Two ways to take a trap that agree where fewer than `n` traps are pending. -/
structure Agree (n : Nat) (take take' : Taking) (visit visit' : Visiting) : Prop where
  outcome : ∀ t m, m.pending < n → take t m = take' t m
  instants : ∀ t m, m.pending < n → visit t m = visit' t m

def Spends (take : Taking) : Prop :=
  ∀ t m, (take t m).Ends (fun _ m' => Spent m m') fun _ _ => True

/-- One outcome with its instants, and nothing more to come than before. -/
structure Same (m : Machine) (o o' : Outcome α) (is is' : List Instant) : Prop where
  outcome : o = o'
  instants : is = is'
  spent : o.Ends (fun _ m' => Spent m m') fun _ _ => True

namespace Same

variable {m : Machine} {o o' : Outcome α} {is is' : List Instant}

theorem answered (a : α) : Same m (.answered a m) (.answered a m) [] [] :=
  ⟨rfl, rfl, Spent.refl m⟩

theorem stopped (why : Stop) (m' : Machine) :
    Same m (.stopped why m' : Outcome α) (.stopped why m') [] [] := ⟨rfl, rfl, trivial⟩

theorem append {f f' : α → Machine → Outcome β} {g g' : α → Machine → List Instant}
    (h : Same m o o' is is')
    (hf : ∀ a m', Spent m m' → Same m' (f a m') (f' a m') (g a m') (g' a m')) :
    Same m (o.bind f) (o'.bind f') (is ++ o.afterwards g) (is' ++ o'.afterwards g') := by
  obtain ⟨rfl, rfl, hspent⟩ := h
  cases o with
  | stopped why m' => exact ⟨rfl, rfl, trivial⟩
  | answered a m' =>
    obtain ⟨houtcome, hinstants, hspent'⟩ := hf a m' hspent
    refine ⟨houtcome, congrArg (is ++ ·) hinstants, ?_⟩
    exact hspent'.mono (fun _ _ h => hspent.trans h) fun _ _ => id

theorem bind {f : α → Machine → Outcome β} (h : Same m o o' is is')
    (hf : ∀ a m', (f a m').Ends (fun _ m'' => Spent m' m'') fun _ _ => True) :
    Same m (o.bind f) (o'.bind f) is is' := by
  obtain ⟨rfl, rfl, hspent⟩ := h
  refine ⟨rfl, rfl, ?_⟩
  cases o with
  | stopped why m' => trivial
  | answered a m' => exact (hf a m').mono (fun _ _ h => hspent.trans h) fun _ _ => id

theorem cons (h : Same m o o' is is') (i : Instant) : Same m o o' (i :: is) (i :: is') :=
  ⟨h.outcome, congrArg (i :: ·) h.instants, h.spent⟩

theorem of_spent {m' : Machine} (h : Same m' o o' is is') (hm : Spent m m') :
    Same m o o' is is' :=
  ⟨h.outcome, h.instants, h.spent.mono (fun _ _ h => hm.trans h) fun _ _ => id⟩

end Same

theorem spent_readPort (m : Machine) (p : Port) : Spent m (m.readPort p).2 := by
  unfold readPort
  split
  · split
    · exact Spent.refl m
    · rename_i rest h
      exact ⟨Nat.le_refl _, by simp [busyLeft, h]⟩
    · rename_i n rest h
      exact ⟨Nat.le_refl _, by simp [busyLeft, h]⟩
  · exact ⟨Nat.le_refl _, Nat.le_refl _⟩

theorem same_perform (r : Request) (m : Machine) : Same m (perform r m) (perform r m) [] [] := by
  refine ⟨rfl, rfl, ?_⟩
  cases r with
  | input p => exact spent_readPort m p
  | poll w =>
    rw [perform_poll]
    have hreads : m.busyReads.tail.foldr (· + ·) 0 ≤ m.busyReads.foldr (· + ·) 0 := by
      cases m.busyReads with
      | nil => exact Nat.le_refl 0
      | cons n rest => exact Nat.le_add_left _ n
    exact ⟨Nat.le_refl _, hreads⟩
  | haltWhile waiting =>
    simp only [perform]
    split
    · trivial
    · exact Spent.refl m
  | acquire l =>
    simp only [perform]
    split
    · exact ⟨Nat.le_refl _, Nat.le_refl _⟩
    · trivial
  | tryAcquire l =>
    simp only [perform]
    split <;> exact ⟨Nat.le_refl _, Nat.le_refl _⟩
  | halt => trivial
  | haltForever => trivial
  | _ => exact ⟨Nat.le_refl _, Nat.le_refl _⟩

theorem same_found {take take' : Taking} {visit visit' : Visiting} {w : Poll} {m : Machine}
    (h : m.lacks w = false) (k l : Nat) :
    Same m (pollWhile take w k m) (pollWhile take' w l m) (polling take visit w k m)
      (polling take' visit' w l m) := by
  have hfound : ∀ take visit k, pollWhile take w k m = .answered () (m.readPort w.port).2 ∧
      polling take visit w k m = [] := by
    intro take visit k
    cases k with
    | zero => exact ⟨perform_poll_of_finds h, rfl⟩
    | succ k => simp [pollWhile, polling, h]
  rw [(hfound take visit k).1, (hfound take visit k).2, (hfound take' visit' l).1,
    (hfound take' visit' l).2]
  exact (Same.answered ()).of_spent (spent_readPort m w.port)

/-- A read in vain uses up one of those to come. -/
theorem reads_of_lacks {w : Poll} {m : Machine} (h : m.lacks w = true) :
    (m.readPort w.port).2.busyLeft + 1 = m.busyLeft := by
  obtain ⟨n, rest, hbusy⟩ := lacks_iff.mp h
  rw [readPort_of_lacks hbusy, busyLeft, busyLeft, hbusy, List.foldr_cons, List.foldr_cons]
  omega

section Runs

variable {n : Nat} {take take' : Taking} {visit visit' : Visiting}
  (hagree : Agree n take take' visit visit') (hspends : Spends take)
include hagree hspends

theorem same_trap {t : Incoming} {m : Machine} (hm : m.pending < n) :
    Same m (take t m) (take' t m) (visit t m) (visit' t m) :=
  ⟨hagree.outcome t m hm, hagree.instants t m hm, hspends t m⟩

theorem same_arrive {r : Request} {k : Nat} {m : Machine} (hm : m.pending ≤ n) :
    Same m (arrive take k r m) (arrive take' k r m) (arriving take visit k r m)
      (arriving take' visit' k r m) := by
  induction k generalizing m with
  | zero => exact .answered ()
  | succ k ih =>
    cases has : m.arrivals with
    | nil =>
      simp only [arrive, arriving, has]
      exact .answered ()
    | cons a rest =>
      have hless : { m with arrivals := rest }.pending < m.pending := by
        simp only [pending, has, List.length_cons]
        omega
      have hspent : Spent m { m with arrivals := rest } := ⟨Nat.le_of_lt hless, Nat.le_refl _⟩
      simp only [arrive, arriving, has]
      split
      · split
        · apply Same.of_spent _ hspent
          apply (same_trap hagree hspends (Nat.lt_of_lt_of_le hless hm)).append
          intro _ m' hm'
          exact ih (Nat.le_trans hm'.pending (Nat.le_trans hspent.pending hm))
        · exact (ih (Nat.le_trans hspent.pending hm)).of_spent hspent
      · exact .answered ()

theorem same_settle {r : Request} {m : Machine} (hm : m.pending ≤ n) :
    Same m (settle take r m) (settle take' r m) (settling take visit r m)
      (settling take' visit' r m) :=
  same_arrive hagree hspends hm

theorem same_sleepOnce {m : Machine} (hm : m.pending ≤ n) :
    Same m (sleepOnce take m) (sleepOnce take' m) (wakingOnce visit m) (wakingOnce visit' m) := by
  cases hwake : m.wake with
  | nil =>
    simp only [sleepOnce, wakingOnce, hwake]
    exact .stopped _ _
  | cons t rest =>
    have hless : { m with wake := rest }.pending < m.pending := by
      simp only [pending, hwake, List.length_cons]
      omega
    simp only [sleepOnce, wakingOnce, hwake]
    split
    · exact (same_trap hagree hspends (Nat.lt_of_lt_of_le hless hm)).of_spent
        ⟨Nat.le_of_lt hless, Nat.le_refl _⟩
    · exact .stopped _ _

theorem same_sleepWhile {waiting : Kernel → Bool} {k : Nat} {m : Machine} (hm : m.pending ≤ n) :
    Same m (sleepWhile take waiting k m) (sleepWhile take' waiting k m)
      (wakingWhile take visit waiting k m) (wakingWhile take' visit' waiting k m) := by
  induction k generalizing m with
  | zero =>
    simp only [sleepWhile, wakingWhile]
    split
    · apply (same_settle hagree hspends hm).append
      intro _ m' _
      exact (Same.stopped _ _).cons _
    · exact .answered ()
  | succ k ih =>
    simp only [sleepWhile, wakingWhile]
    split
    · apply (same_settle hagree hspends hm).append
      intro _ m₁ h₁
      apply Same.cons
      apply (same_sleepOnce hagree hspends (Nat.le_trans h₁.pending hm)).append
      intro _ m₂ h₂
      have hm₂ : m₂.pending ≤ n := Nat.le_trans (h₁.trans h₂).pending hm
      apply (same_settle hagree hspends hm₂).append
      intro _ m₃ h₃
      exact ih (Nat.le_trans h₃.pending hm₂)
    · exact .answered ()

/-- A wait is the same under two bounds, neither of which it comes to. -/
theorem same_pollWhile {w : Poll} {k l : Nat} {m : Machine} (hm : m.pending ≤ n)
    (hk : m.busyLeft ≤ k) (hl : m.busyLeft ≤ l) :
    Same m (pollWhile take w k m) (pollWhile take' w l m) (polling take visit w k m)
      (polling take' visit' w l m) := by
  induction k generalizing m l with
  | zero =>
    have hfinds : m.lacks w = false := Bool.eq_false_iff.mpr fun hlacks => by
      have hreads := reads_of_lacks hlacks
      omega
    exact same_found hfinds 0 l
  | succ k ih =>
    cases hlacks : m.lacks w with
    | false => exact same_found hlacks (k + 1) l
    | true =>
      have hspent := spent_readPort m w.port
      have hread := Nat.le_trans hspent.pending hm
      have hreads := reads_of_lacks hlacks
      obtain ⟨l, rfl⟩ : ∃ l', l = l' + 1 := Nat.exists_eq_succ_of_ne_zero (by omega)
      simp only [pollWhile, polling, hlacks, if_true]
      apply Same.of_spent _ hspent
      apply (same_settle hagree hspends hread).append
      intro _ m' hm'
      have htick : Spent m' m'.tick := ⟨Nat.le_refl _, Nat.le_refl _⟩
      have hleft := hm'.reads
      exact (ih (m := m'.tick) (Nat.le_trans hm'.pending hread)
        (show m'.busyLeft ≤ k by omega) (show m'.busyLeft ≤ l by omega)).of_spent htick

theorem same_answer {r : Request} {m : Machine} (hm : m.pending ≤ n) :
    Same m (answer take r m) (answer take' r m) (answering take visit r m)
      (answering take' visit' r m) := by
  have hperform := same_perform r m
  cases r with
  | poll w => exact same_pollWhile hagree hspends hm (Nat.le_refl _) (Nat.le_refl _)
  | halt => exact same_sleepOnce hagree hspends hm
  | haltWhile waiting => exact same_sleepWhile hagree hspends hm
  | haltForever => exact (same_sleepWhile hagree hspends hm).bind fun _ _ => trivial
  | _ => exact hperform

theorem same_run {p : Program α} {m : Machine} (hm : m.pending ≤ n) :
    Same m (runWith take p m) (runWith take' p m) (instantsWith take visit p m)
      (instantsWith take' visit' p m) := by
  induction p generalizing m with
  | done a => exact .answered a
  | ask r next ih =>
    simp only [runWith, instantsWith]
    apply (same_settle hagree hspends hm).append
    intro _ m₁ h₁
    apply Same.cons
    have hpending : m₁.tick.pending ≤ n := Nat.le_trans h₁.pending hm
    have hanswer : Same m₁ (answer take r m₁.tick) (answer take' r m₁.tick)
        (answering take visit r m₁.tick) (answering take' visit' r m₁.tick) :=
      (same_answer hagree hspends hpending).of_spent ⟨Nat.le_refl _, Nat.le_refl _⟩
    apply hanswer.append
    intro a m₂ h₂
    exact ih a (Nat.le_trans h₂.pending hpending)

end Runs

section Traps

variable (drivers : Drivers)

theorem same_take {n k l : Nat} (hagree : Agree n (take drivers k) (take drivers l)
    (visit drivers k) (visit drivers l)) (hspends : Spends (take drivers k)) {t : Incoming}
    {m : Machine} (hm : m.pending ≤ n) :
    Same m (take drivers (k + 1) t m) (take drivers (l + 1) t m) (visit drivers (k + 1) t m)
      (visit drivers (l + 1) t m) := by
  simp only [take, visit]
  cases m.idtr with
  | none => exact .stopped _ m
  | some p =>
    simp only
    cases gateFor p m.kernel.gates t.vector with
    | none => exact .stopped _ m
    | some g =>
      simp only
      cases adapterAt? Trap.Adapter.addresses g.offset with
      | none => exact .stopped _ m
      | some v =>
        have hm' : (m.enterGate g t).pending ≤ n := hm
        apply Same.bind
        · exact (same_run hagree hspends hm').of_spent ⟨Nat.le_refl _, Nat.le_refl _⟩
        · exact fun _ m' => ⟨Nat.le_refl _, Nat.le_refl _⟩

theorem take_spends (n : Nat) : Spends (take drivers n) := by
  induction n with
  | zero => exact fun _ m => Spent.refl m
  | succ n ih =>
    intro t m
    have hagree : Agree m.pending (take drivers n) (take drivers n) (visit drivers n)
        (visit drivers n) := ⟨fun _ _ _ => rfl, fun _ _ _ => rfl⟩
    exact (same_take drivers hagree ih (Nat.le_refl _)).spent

theorem agree_of_le {n k : Nat} (hk : n ≤ k) :
    Agree n (take drivers n) (take drivers k) (visit drivers n) (visit drivers k) := by
  induction n generalizing k with
  | zero =>
    exact ⟨fun _ _ h => absurd h (Nat.not_lt_zero _), fun _ _ h => absurd h (Nat.not_lt_zero _)⟩
  | succ n ih =>
    obtain ⟨l, rfl⟩ := Nat.exists_eq_add_of_le' hk
    have hsame : ∀ t m, m.pending < n + 1 →
        Same m (take drivers (n + 1) t m) (take drivers (l + n + 1) t m)
          (visit drivers (n + 1) t m) (visit drivers (l + n + 1) t m) := by
      intro t m hm
      apply same_take drivers (ih (Nat.le_add_left n l)) (take_spends drivers n)
      exact Nat.le_of_lt_succ hm
    exact ⟨fun t m hm => (hsame t m hm).outcome, fun t m hm => (hsame t m hm).instants⟩

theorem poll_eq_of_reads_le (n : Nat) (w : Poll) {m : Machine} {k : Nat}
    (hk : m.busyLeft ≤ k) :
    answer (take drivers n) (.poll w) m = pollWhile (take drivers n) w k m ∧
      answering (take drivers n) (visit drivers n) (.poll w) m =
        polling (take drivers n) (visit drivers n) w k m := by
  have hagree : Agree m.pending (take drivers n) (take drivers n) (visit drivers n)
      (visit drivers n) := ⟨fun _ _ _ => rfl, fun _ _ _ => rfl⟩
  have hsame := same_pollWhile hagree (take_spends drivers n) (w := w) (Nat.le_refl m.pending)
    (Nat.le_refl m.busyLeft) hk
  exact ⟨hsame.outcome, hsame.instants⟩

/-- No run comes to the bound on its traps. -/
theorem run_eq_of_pending_le (p : Program α) {m : Machine} {n : Nat} (hn : m.pending ≤ n) :
    run drivers p m = runWith (take drivers n) p m ∧
      instants drivers p m = instantsWith (take drivers n) (visit drivers n) p m := by
  have hsame := same_run (p := p) (agree_of_le drivers hn) (take_spends drivers m.pending)
    (Nat.le_refl m.pending)
  exact ⟨hsame.outcome, hsame.instants⟩

theorem interrupt_eq_of_pending_lt (t : Incoming) {m : Machine} {n : Nat} (hn : m.pending < n) :
    interrupt drivers t m = take drivers n t m ∧
      interruptInstants drivers t m = visit drivers n t m :=
  ⟨(agree_of_le drivers hn).outcome t m (Nat.lt_succ_self _),
    (agree_of_le drivers hn).instants t m (Nat.lt_succ_self _)⟩

end Traps

end InterruptCore.Machine

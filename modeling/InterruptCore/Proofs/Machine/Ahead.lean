import InterruptCore.Proofs.Machine.Undisturbed

/-! Arrivals that stay ahead. They come in order, so that none comes before the next one is due;
and code that does not wait, at none of whose steps it is due, runs as it does alone and leaves the
arrivals to the code after it. -/
namespace InterruptCore.Machine

variable {α : Type} {r : Request} {m m' : Machine} (take : Taking)

def Request.outs : Request → Nat
  | .out _ _ => 1
  | _ => 0

theorem perform_outs (r : Request) (m : Machine) :
    (perform r m).Ends (fun _ m' => m'.progress.outs = m.progress.outs + r.outs)
      fun _ _ => True := by
  cases r with
  | input p =>
    simp only [perform, readPort]
    split
    · rcases m.busyReads with _ | ⟨_ | n, rest⟩ <;> rfl
    · rfl
  | poll w =>
    rw [perform_poll]
    rfl
  | haltWhile waiting =>
    simp only [perform]
    split
    · trivial
    · rfl
  | acquire l =>
    simp only [perform]
    split
    · rfl
    · trivial
  | tryAcquire l =>
    simp only [perform]
    split <;> rfl
  | halt => trivial
  | haltForever => trivial
  | _ => rfl

theorem settle_of_not_due (h : ∀ a ∈ m.arrivals.head?, a.due r m.progress = false) :
    settle take r m = .answered () m := by
  unfold settle
  cases has : m.arrivals with
  | nil => rfl
  | cons a rest =>
    have hdue : a.due r m.progress = false := h a (by rw [has]; rfl)
    rw [List.length_cons, arrive, has]
    simp only [hdue, Bool.false_eq_true, if_false]

/-- A step that is no wait, and at which the next of the arrivals is not due. -/
structure Spares (as : List Arrival) (x : Request × Machine) : Prop where
  waits : ¬ x.1.IsWait
  due : ∀ a ∈ as.head?, ∀ n, a.due x.1 ⟨x.2.progress.outs, n⟩ = false

theorem settle_of_spares (h : Spares m.arrivals (r, m)) : settle take r m = .answered () m :=
  settle_of_not_due take fun a ha => h.due a ha m.progress.requests

theorem pollWhile_of_spares {w : Poll} (n : Nat) (h : Spares m.arrivals (.poll w, m)) :
    ∃ k, pollWhile take w n m = .answered ()
      { m with busyReads := m.busyReads.tail, progress := ⟨m.progress.outs, k⟩ } := by
  induction n generalizing m with
  | zero => exact ⟨m.progress.requests, perform_poll m w⟩
  | succ n ih =>
    cases hlacks : m.lacks w with
    | false =>
      refine ⟨m.progress.requests, ?_⟩
      rw [pollWhile, hlacks, if_neg Bool.false_ne_true, readPort_of_finds hlacks]
    | true =>
      obtain ⟨busy, rest, hbusy⟩ := lacks_iff.mp hlacks
      have hread : Spares ({ m with busyReads := busy :: rest } : Machine).arrivals
          (.poll w, { m with busyReads := busy :: rest }) := ⟨h.waits, h.due⟩
      obtain ⟨k, hrest⟩ := ih (m := ({ m with busyReads := busy :: rest } : Machine).tick)
        ⟨h.waits, h.due⟩
      refine ⟨k, ?_⟩
      rw [pollWhile, hlacks, if_pos rfl, readPort_of_lacks hbusy, settle_of_spares take hread,
        Outcome.bind, hrest, hbusy]
      rfl

/-- The machine `m` has done what `m'` has, and its arrivals are those of `before`. -/
structure Alongside (before m m' : Machine) : Prop where
  still : m.still = m'.still
  outs : m.progress.outs = m'.progress.outs
  arrivals : m.arrivals = before.arrivals
  wake : m.wake = before.wake

theorem Alongside.refl (m : Machine) : Alongside m m m := ⟨rfl, rfl, rfl, rfl⟩

variable {before now' : Machine}

theorem answer_of_spares {a : r.Answer} (hm : Alongside before m m')
    (h : Spares before.arrivals (r, m')) (ha : perform r m' = .answered a now') :
    ∃ now, answer take r m.tick = .answered a now ∧ Alongside before now now' := by
  have hsame : m.tick.still = m'.still := hm.still
  have hlone : Spares m.tick.arrivals (r, m.tick) := by
    refine ⟨h.waits, fun b hb n => ?_⟩
    have hdue := h.due b (hm.arrivals ▸ hb) n
    rwa [← hm.outs] at hdue
  have hperform := perform_congr (r := r) hsame
  have houts := perform_outs r m.tick
  have houts' := perform_outs r m'
  have hpending := Terms.perform_pending r m.tick
  rw [ha] at hperform houts'
  obtain ⟨now, hnow, hstill⟩ := Outcome.exists_answered hperform.symm
  rw [hnow] at houts hpending
  have halong : Alongside before now now' := by
    refine ⟨hstill.symm, ?_, hpending.1.trans hm.arrivals, hpending.2.trans hm.wake⟩
    exact houts.trans ((congrArg (· + r.outs) hm.outs).trans houts'.symm)
  by_cases hlasts : r.Lasts
  · cases r with
    | poll w =>
      obtain ⟨k, hpoll⟩ := pollWhile_of_spares take m.tick.busyLeft hlone
      rw [perform_poll] at hnow
      cases hnow
      exact ⟨_, hpoll, ⟨halong.still, halong.outs, halong.arrivals, halong.wake⟩⟩
    | halt => exact absurd trivial h.waits
    | haltWhile waiting => exact absurd trivial h.waits
    | haltForever => exact absurd trivial h.waits
    | _ => exact hlasts.elim
  · have hanswer : answer take r m.tick = perform r m.tick := by
      cases r <;> first | rfl | exact absurd trivial hlasts
    exact ⟨now, hanswer.trans hnow, halong⟩

/-- Code that the arrivals are not due at runs as it does alone. -/
theorem runWith_of_spares {p : Program α} {a : α} (hm : Alongside before m m')
    (h : Walks (Spares before.arrivals) p m' (.answered a now')) :
    ∃ now, runWith take p m = .answered a now ∧ Alongside before now now' := by
  induction p generalizing m m' with
  | done b =>
    obtain ⟨rfl, rfl⟩ := Outcome.answered.inj h.walk
    exact ⟨m, rfl, hm⟩
  | ask r next ih =>
    have hfirst : Spares before.arrivals (r, m') := h.steps _ (by simp [Program.steps])
    have hsettle : settle take r m = .answered () m := by
      apply settle_of_spares
      refine ⟨hfirst.waits, fun b hb n => ?_⟩
      have hdue := hfirst.due b (hm.arrivals ▸ hb) n
      rwa [← hm.outs] at hdue
    have hwalk := h.walk
    rw [Program.walk] at hwalk
    obtain ⟨b, later', hperform, hrest⟩ := Outcome.bind_eq_answered hwalk
    obtain ⟨later, hanswer, hlater⟩ := answer_of_spares take hm hfirst hperform
    have hsteps : ∀ x ∈ (next b).steps later', Spares before.arrivals x := by
      intro x hx
      apply h.steps
      rw [Program.steps, hperform]
      exact List.mem_append_right _ hx
    obtain ⟨now, hrun, hnow⟩ := ih b hlater ⟨hsteps, hrest⟩
    refine ⟨now, ?_, hnow⟩
    rw [runWith, hsettle, Outcome.bind, hanswer]
    exact hrun

theorem runWith_settled {now : Machine} {next : r.Answer → Program α}
    (h : settle take r m = .answered () now)
    (hover : ∀ a ∈ now.arrivals.head?, a.due r now.progress = false) :
    runWith take (.ask r next) m = runWith take (.ask r next) now := by
  rw [runWith, runWith, h, settle_of_not_due take hover]

end InterruptCore.Machine

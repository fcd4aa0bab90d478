import InterruptCore.Machine.Run

/-! Waits for a bit of a port. A read that does not find it uses up one of the reads that find
the transmitter busy, so that every wait comes to its end, and it ends with the first read that
finds the bit. -/
namespace InterruptCore.Machine

variable {m after : Machine} {w : Poll}

theorem lacks_iff : m.lacks w = true ↔ ∃ n rest, m.busyReads = (n + 1) :: rest := by
  have hbit : (transmitterEmpty &&& w.mask = 0) = False := eq_false w.comes.2
  rw [lacks, w.comes.1, readPort, if_pos rfl]
  rcases m.busyReads with _ | ⟨_ | n, rest⟩ <;> simp [hbit]

theorem readPort_of_lacks {n : Nat} {rest : List Nat} (h : m.busyReads = (n + 1) :: rest) :
    (m.readPort w.port).2 = { m with busyReads := n :: rest } := by
  rw [w.comes.1, readPort, if_pos rfl, h]

theorem readPort_of_finds (h : m.lacks w = false) :
    (m.readPort w.port).2 = { m with busyReads := m.busyReads.tail } := by
  have hidle : ¬ ∃ n rest, m.busyReads = (n + 1) :: rest := fun hbusy =>
    Bool.false_ne_true (h.symm.trans (lacks_iff.mpr hbusy))
  rw [w.comes.1, readPort, if_pos rfl]
  cases hreads : m.busyReads with
  | nil => exact congrArg (fun reads => { m with busyReads := reads }) hreads
  | cons n rest =>
    cases n with
    | zero => rfl
    | succ n => exact absurd ⟨n, rest, hreads⟩ hidle

/-- A read of a port that is waited at changes nothing but the reads to come. -/
theorem readPort_poll (m : Machine) (w : Poll) :
    ∃ reads, (m.readPort w.port).2 = { m with busyReads := reads } := by
  cases h : m.lacks w with
  | true =>
    obtain ⟨n, rest, hbusy⟩ := lacks_iff.mp h
    exact ⟨n :: rest, readPort_of_lacks hbusy⟩
  | false => exact ⟨m.busyReads.tail, readPort_of_finds h⟩

theorem perform_poll_of_finds (h : m.lacks w = false) :
    perform (.poll w) m = .answered () (m.readPort w.port).2 := by
  rw [perform]
  cases m.busyReads.headD 0 with
  | zero => rfl
  | succ n => rw [readUntil, h, if_neg Bool.false_ne_true]

theorem perform_poll_of_lacks (h : m.lacks w = true) :
    perform (.poll w) m = perform (.poll w) (m.readPort w.port).2 := by
  obtain ⟨n, rest, hbusy⟩ := lacks_iff.mp h
  rw [perform, hbusy, List.headD_cons, readUntil, h, if_pos rfl, readPort_of_lacks hbusy]
  rfl

/-- Each wait has a count of busy reads of its own and uses it up. -/
theorem perform_poll (m : Machine) (w : Poll) :
    perform (.poll w) m = .answered () { m with busyReads := m.busyReads.tail } := by
  cases h : m.lacks w with
  | false => rw [perform_poll_of_finds h, readPort_of_finds h]
  | true =>
    obtain ⟨n, rest, hbusy⟩ := lacks_iff.mp h
    clear h
    induction n generalizing m with
    | zero =>
      have hlacks : m.lacks w = true := lacks_iff.mpr ⟨0, rest, hbusy⟩
      have hfinds : ({ m with busyReads := 0 :: rest } : Machine).lacks w = false := by
        rw [Bool.eq_false_iff, ne_eq, lacks_iff]
        exact nofun
      rw [perform_poll_of_lacks hlacks, readPort_of_lacks hbusy, perform_poll_of_finds hfinds,
        readPort_of_finds hfinds, hbusy]
      rfl
    | succ n ih =>
      have hlacks : m.lacks w = true := lacks_iff.mpr ⟨n + 1, rest, hbusy⟩
      rw [perform_poll_of_lacks hlacks, readPort_of_lacks hbusy, ih _ rfl, hbusy]
      rfl

/-- A wait ends with a read that finds the bit, whatever traps come in it. -/
theorem pollWhile_ends {take : Taking} {n : Nat} (h : pollWhile take w n m = .answered () after) :
    ∃ before : Machine, before.lacks w = false ∧ after = (before.readPort w.port).2 := by
  induction n generalizing m with
  | zero =>
    have hfinds : ({ m with busyReads := 0 :: m.busyReads.tail } : Machine).lacks w = false := by
      rw [Bool.eq_false_iff, ne_eq, lacks_iff]
      exact nofun
    rw [pollWhile, perform_poll] at h
    refine ⟨_, hfinds, ?_⟩
    rw [readPort_of_finds hfinds]
    exact (Outcome.answered.inj h).2.symm
  | succ n ih =>
    rw [pollWhile] at h
    split at h
    · obtain ⟨_, now, -, hrest⟩ := Outcome.bind_eq_answered h
      exact ih hrest
    · rename_i hfinds
      exact ⟨m, Bool.eq_false_iff.mpr hfinds, (Outcome.answered.inj h).2.symm⟩

end InterruptCore.Machine

import InterruptCore.MaskingLock

/-! Guards that are dropped in any order. A set interrupt flag is handed on: the guard that finds
it keeps it, and gives it back when it is dropped. So long as no guard outlives the one that was
oldest, the oldest guard is the one that keeps it, and interrupts are off while any guard is
alive; once a guard outlives the oldest, it does so with interrupts on. -/
namespace InterruptCore.MaskingLock

inductive Use where
  | lock (i : Nat)
  | tryLock (i : Nat)
  | drop (i : Nat)
  deriving DecidableEq, Repr

namespace Use

/-- Mutexes whose guard is alive after a use, in the order in which they were taken. -/
def alive (live : List Nat) : Use → List Nat
  | lock i | tryLock i => if i ∈ live then live else live ++ [i]
  | drop i => live.erase i

/-- The oldest guard is not dropped while there is another. -/
def SparesOldest (live : List Nat) (u : Use) : Prop :=
  ∀ i, u = drop i → live.head? = some i → live = [i]

end Use

def alive (us : List Use) : List Nat := us.foldl Use.alive []

/-- With the guards of `live` at first, no guard outlives the one that was oldest. -/
def OldestLast (live : List Nat) (us : List Use) : Prop :=
  ∀ before u after, us = before ++ u :: after → u.SparesOldest (before.foldl Use.alive live)

namespace Bank

variable {α : Type}

/-- There is no next bank where the CPU would wait for ever. -/
def next? (b : Bank α) : Use → Option (Bank α)
  | .lock i => b.lock? i
  | .tryLock i => some (b.tryLock i).1
  | .drop i => some (b.unlock i).1

def run? (b : Bank) (us : List Use) : Option Bank := us.foldlM next? b

/-- Interrupts are off if any guard is alive. -/
def Masks (b : Bank α) : Prop := ∀ i, b.held i = true → b.flag = false

def MasksThroughout (b : Bank) (us : List Use) : Prop :=
  ∀ before after b', us = before ++ after → b.run? before = some b' → b'.Masks

structure Guards (live : List Nat) (b : Bank α) : Prop where
  nodup : live.Nodup
  held : ∀ i, b.held i = true ↔ i ∈ live

/-- A flag that was set at first is set now or, if there are guards, kept by the oldest. -/
structure Keeps (enabled : Bool) (live : List Nat) (b : Bank α) : Prop where
  flag : b.flag = (enabled && live.isEmpty)
  found : ∀ i, (b.mutexes i).guard = some true ↔ enabled = true ∧ live.head? = some i

section Uses

variable {b b' : Bank α} {i : Nat} {u : Use}

theorem mutexes_update (m : Mutex α) (j : Nat) :
    (b.update i m).mutexes j = if j = i then m else b.mutexes j := rfl

theorem held_eq_false_iff : b.held i = false ↔ (b.mutexes i).guard = none := by
  rw [held, Mutex.locked_eq, Option.isSome_eq_false_iff, Option.isNone_iff_eq_none]

theorem held_iff : b.held i = true ↔ ∃ found, (b.mutexes i).guard = some found := by
  rw [held, Mutex.locked_eq, Option.isSome_iff_exists]

theorem held_congr (h : (b'.mutexes i).guard = (b.mutexes i).guard) : b'.held i = b.held i := by
  rw [held, held, Mutex.locked_eq, Mutex.locked_eq, h]

structure Sets (i : Nat) (g : Option Bool) (b b' : Bank α) : Prop where
  self : (b'.mutexes i).guard = g
  other : ∀ j, j ≠ i → (b'.mutexes j).guard = (b.mutexes j).guard

theorem sets_update (m : Mutex α) (flag : Bool) :
    Sets i m.guard b { b.update i m with flag := flag } := by
  refine ⟨?_, fun j hj => ?_⟩
  · change ((b.update i m).mutexes i).guard = _
    rw [mutexes_update, if_pos rfl]
  · change ((b.update i m).mutexes j).guard = _
    rw [mutexes_update, if_neg hj]

theorem Sets.held_self {g : Option Bool} (h : Sets i g b b') : b'.held i = g.isSome := by
  rw [held, Mutex.locked_eq, h.self]

theorem Sets.held_other {g : Option Bool} (h : Sets i g b b') {j : Nat} (hj : j ≠ i) :
    b'.held j = b.held j :=
  held_congr (h.other j hj)

theorem next?_cases (h : b.next? u = some b') :
    (∃ i, (u = .lock i ∨ u = .tryLock i) ∧ b.held i = false ∧
      Sets i (some b.flag) b b' ∧ b'.flag = false) ∨
    (∃ i found, u = .drop i ∧ (b.mutexes i).guard = some found ∧
      Sets i none b b' ∧ b'.flag = (b.flag || found)) ∨
    (b' = b ∧ ((∃ i, u = .tryLock i ∧ b.held i = true) ∨ ∃ i, u = .drop i ∧ b.held i = false)) := by
  cases u with
  | lock i =>
    cases hi : b.held i with
    | true =>
      rw [next?, lock?_of_held hi] at h
      nomatch h
    | false =>
      rw [next?, lock?_of_free hi, Option.some.injEq] at h
      subst h
      exact .inl ⟨i, .inl rfl, hi, sets_update ((b.mutexes i).acquire b.flag) _, rfl⟩
  | tryLock i =>
    cases hi : b.held i with
    | true =>
      rw [next?, tryLock_of_held hi, Option.some.injEq] at h
      exact .inr (.inr ⟨h.symm, .inl ⟨i, rfl, hi⟩⟩)
    | false =>
      rw [next?, tryLock_of_free hi, Option.some.injEq] at h
      subst h
      exact .inl ⟨i, .inr rfl, hi, sets_update ((b.mutexes i).acquire b.flag) _, rfl⟩
  | drop i =>
    cases hg : (b.mutexes i).guard with
    | some found =>
      rw [next?, unlock, hg, Option.some.injEq] at h
      subst h
      exact .inr (.inl ⟨i, found, rfl, hg, sets_update (b.mutexes i).release _, rfl⟩)
    | none =>
      rw [next?, unlock, hg, Option.some.injEq] at h
      exact .inr (.inr ⟨h.symm, .inr ⟨i, rfl, held_eq_false_iff.mpr hg⟩⟩)

end Uses

section Step

variable {enabled : Bool} {live : List Nat} {b b' : Bank α} {u : Use}

theorem Guards.not_mem_iff (hg : Guards live b) (i : Nat) : i ∉ live ↔ b.held i = false := by
  rw [← hg.held, Bool.not_eq_true]

theorem Guards.alive_of_idle (hg : Guards live b)
    (hu : (∃ i, u = .tryLock i ∧ b.held i = true) ∨ ∃ i, u = .drop i ∧ b.held i = false) :
    u.alive live = live := by
  rcases hu with ⟨i, rfl, hi⟩ | ⟨i, rfl, hi⟩
  · exact if_pos ((hg.held i).mp hi)
  · exact List.erase_of_not_mem ((hg.not_mem_iff i).mpr hi)

theorem Guards.next (hg : Guards live b) (h : b.next? u = some b') :
    Guards (u.alive live) b' := by
  rcases next?_cases h with ⟨i, hu, hi, hsets, -⟩ | ⟨i, found, rfl, -, hsets, -⟩ | ⟨rfl, hu⟩
  · have hnot : i ∉ live := (hg.not_mem_iff i).mpr hi
    have halive : u.alive live = live ++ [i] := by
      rcases hu with rfl | rfl <;> exact if_neg hnot
    rw [halive]
    refine ⟨?_, fun j => ?_⟩
    · refine List.nodup_append.mpr ⟨hg.nodup, List.nodup_cons.mpr ⟨nofun, .nil⟩, ?_⟩
      rintro j hj k hk rfl
      exact hnot (List.mem_singleton.mp hk ▸ hj)
    rw [List.mem_append, List.mem_singleton]
    by_cases hj : j = i
    · rw [hj, hsets.held_self]
      simp
    · rw [hsets.held_other hj, hg.held]
      simp [hj]
  · refine ⟨hg.nodup.erase i, fun j => ?_⟩
    rw [Use.alive, hg.nodup.mem_erase_iff]
    by_cases hj : j = i
    · rw [hj, hsets.held_self]
      simp
    · rw [hsets.held_other hj, hg.held]
      simp [hj]
  · rwa [hg.alive_of_idle hu]

theorem Keeps.take {i : Nat} (hk : Keeps enabled live b) (hnot : i ∉ live)
    (hsets : Sets i (some b.flag) b b') (hflag : b'.flag = false) :
    Keeps enabled (live ++ [i]) b' := by
  refine ⟨by simp [hflag], fun j => ?_⟩
  by_cases hj : j = i
  · rw [hj, hsets.self, Option.some.injEq, hk.flag]
    cases live with
    | nil => simp
    | cons k live =>
      have hne : k ≠ i := fun h => hnot (h ▸ List.mem_cons_self)
      simp [hne]
  · rw [hsets.other j hj, hk.found]
    cases live with
    | nil => simp [Ne.symm hj]
    | cons k live => simp

theorem Keeps.drop {i : Nat} {found : Bool} (hk : Keeps enabled live b) (hmem : i ∈ live)
    (hfound : (b.mutexes i).guard = some found) (hsets : Sets i none b b')
    (hflag : b'.flag = (b.flag || found))
    (hspares : enabled = true → live.head? = some i → live = [i]) :
    Keeps enabled (live.erase i) b' := by
  obtain ⟨k, rest, rfl⟩ := List.exists_cons_of_ne_nil (List.ne_nil_of_mem hmem)
  have hkept : found = true ↔ enabled = true ∧ k = i := by
    have h := hk.found i
    rwa [hfound, Option.some.injEq, List.head?_cons, Option.some.injEq] at h
  have hclear : b.flag = false := by rw [hk.flag, List.isEmpty_cons, Bool.and_false]
  rw [hclear, Bool.false_or] at hflag
  have hother : ∀ j, j ≠ i → ((b'.mutexes j).guard = some true ↔ enabled = true ∧ k = j) := by
    intro j hj
    rw [hsets.other j hj, hk.found, List.head?_cons, Option.some.injEq]
  have hself : (b'.mutexes i).guard ≠ some true := by
    rw [hsets.self]
    exact nofun
  by_cases hi : k = i
  · -- Where the oldest guard kept the flag, it was the only one.
    subst hi
    rw [List.erase_cons_head]
    have hlone : enabled = true → rest = [] := fun h => by simpa using hspares h rfl
    refine ⟨?_, fun j => ?_⟩
    · rw [hflag, Bool.eq_iff_iff, hkept]
      simp +contextual [hlone]
    · by_cases hj : j = k
      · refine iff_of_false (hj ▸ hself) ?_
        rintro ⟨h, hhead⟩
        rw [hlone h] at hhead
        nomatch hhead
      · rw [hother j hj]
        refine iff_of_false (fun h => hj h.2.symm) ?_
        rintro ⟨h, hhead⟩
        rw [hlone h] at hhead
        nomatch hhead
  · rw [List.erase_cons_tail (by simpa using hi)]
    refine ⟨?_, fun j => ?_⟩
    · rw [hflag, List.isEmpty_cons, Bool.and_false, Bool.eq_false_iff, ne_eq, hkept]
      exact fun h => hi h.2
    · rw [List.head?_cons, Option.some.injEq]
      by_cases hj : j = i
      · rw [hj]
        exact iff_of_false hself fun h => hi h.2
      · exact hother j hj

theorem Keeps.next (hg : Guards live b) (hk : Keeps enabled live b) (h : b.next? u = some b')
    (hu : enabled = true → u.SparesOldest live) : Keeps enabled (u.alive live) b' := by
  rcases next?_cases h with ⟨i, hi, hfree, hsets, hflag⟩ | ⟨i, found, rfl, hfound, hsets, hflag⟩ |
    ⟨rfl, hidle⟩
  · have hnot : i ∉ live := (hg.not_mem_iff i).mpr hfree
    have htake := hk.take hnot hsets hflag
    rcases hi with rfl | rfl <;> rwa [Use.alive, if_neg hnot]
  · have hmem : i ∈ live := (hg.held i).mp (held_iff.mpr ⟨found, hfound⟩)
    exact hk.drop hmem hfound hsets hflag fun h => hu h i rfl
  · rwa [hg.alive_of_idle hidle]

/-- Dropped before the others, the oldest guard sets the flag while they are alive. -/
theorem not_masks_of_not_spares (hg : Guards live b) (hk : Keeps true live b)
    (h : b.next? u = some b') (hu : ¬ u.SparesOldest live) : ¬ b'.Masks := by
  have hu : ∃ i, u = .drop i ∧ live.head? = some i ∧ live ≠ [i] := by
    simpa [Use.SparesOldest, Classical.not_imp] using hu
  obtain ⟨i, rfl, hhead, hlone⟩ := hu
  obtain ⟨rest, rfl⟩ := List.head?_eq_some_iff.mp hhead
  obtain ⟨j, rest, rfl⟩ := List.exists_cons_of_ne_nil fun h => hlone (congrArg (i :: ·) h)
  have hfound : (b.mutexes i).guard = some true := (hk.found i).mpr ⟨rfl, rfl⟩
  have hset : b'.flag = true := by
    rw [next?, unlock, hfound, Option.some.injEq] at h
    subst h
    exact Bool.or_true _
  have hheld : b'.held j = true := by
    rw [(hg.next h).held, Use.alive, List.erase_cons_head]
    exact List.mem_cons_self
  intro hmasks
  exact Bool.false_ne_true ((hmasks j hheld).symm.trans hset)

theorem Keeps.masks (hg : Guards live b) (hk : Keeps enabled live b) : b.Masks := by
  intro i hi
  have hne : live.isEmpty = false := List.isEmpty_eq_false_iff.mpr
    (List.ne_nil_of_mem ((hg.held i).mp hi))
  rw [hk.flag, hne, Bool.and_false]

end Step

section Run

variable {enabled : Bool} {live : List Nat} {b : Bank} {us : List Use}

theorem run?_cons (b : Bank) (u : Use) (us : List Use) :
    b.run? (u :: us) = (b.next? u).bind (·.run? us) := rfl

theorem guards_run {b' : Bank} (hg : Guards live b) (h : b.run? us = some b') :
    Guards (us.foldl Use.alive live) b' := by
  induction us generalizing live b with
  | nil =>
    cases h
    exact hg
  | cons u us ih =>
    rw [run?_cons, Option.bind_eq_some_iff] at h
    obtain ⟨b₁, hu, hrest⟩ := h
    exact ih (hg.next hu) hrest

theorem masksThroughout_cons {b' : Bank} {u : Use} (hb : b.Masks) (hu : b.next? u = some b') :
    b.MasksThroughout (u :: us) ↔ b'.MasksThroughout us := by
  constructor
  · intro h before after b'' heq hrun
    refine h (u :: before) after b'' (congrArg (u :: ·) heq) ?_
    rwa [run?_cons, hu]
  · intro h before after b'' heq hrun
    cases before with
    | nil =>
      cases hrun
      exact hb
    | cons v before =>
      obtain ⟨rfl, hrest⟩ := List.cons.inj heq
      rw [run?_cons, hu] at hrun
      exact h before after b'' hrest hrun

theorem oldestLast_nil : OldestLast live [] := by
  intro before u after heq
  exact absurd heq (by simp)

theorem oldestLast_cons {u : Use} :
    OldestLast live (u :: us) ↔ u.SparesOldest live ∧ OldestLast (u.alive live) us := by
  constructor
  · intro h
    refine ⟨h [] u us rfl, fun before v after heq => ?_⟩
    exact h (u :: before) v after (congrArg (u :: ·) heq)
  · rintro ⟨hu, h⟩ before v after heq
    cases before with
    | nil =>
      cases heq
      exact hu
    | cons w before =>
      obtain ⟨rfl, hrest⟩ := List.cons.inj heq
      exact h before v after hrest

/-- Interrupts are off under every guard just if every use spares the oldest one, provided that
there was a flag to be kept. -/
theorem masksThroughout_iff (hg : Guards live b) (hk : Keeps enabled live b)
    (h : (b.run? us).isSome = true) :
    b.MasksThroughout us ↔ (enabled = true → OldestLast live us) := by
  induction us generalizing live b with
  | nil =>
    refine iff_of_true ?_ fun _ => oldestLast_nil
    intro before after b' heq hrun
    obtain ⟨rfl, rfl⟩ := List.append_eq_nil_iff.mp heq.symm
    cases hrun
    exact hk.masks hg
  | cons u us ih =>
    rw [run?_cons] at h
    cases hu : b.next? u with
    | none =>
      rw [hu] at h
      nomatch h
    | some b' =>
      rw [hu] at h
      rw [masksThroughout_cons (hk.masks hg) hu, oldestLast_cons]
      by_cases hspares : enabled = true → u.SparesOldest live
      · rw [ih (hg.next hu) (hk.next hg hu hspares) h]
        exact forall_congr' fun henabled => (and_iff_right (hspares henabled)).symm
      · obtain ⟨rfl, hdrops⟩ := Classical.not_imp.mp hspares
        refine iff_of_false (fun h => ?_) fun h => hdrops (h rfl).1
        exact not_masks_of_not_spares hg hk hu hdrops (h [] us b' rfl rfl)

end Run

/-- From a bank without guards: the guards that are alive after a run are those that were taken
and not dropped, and interrupts are off under all of them throughout the run just if they were off
at first or the oldest guard is always dropped last. -/
theorem masks_throughout_iff_oldest_last {b : Bank} (hfree : ∀ i, b.held i = false)
    {us : List Use} {b' : Bank} (h : b.run? us = some b') :
    (∀ i, b'.held i = true ↔ i ∈ alive us) ∧
      (b.MasksThroughout us ↔ (b.flag = true → OldestLast [] us)) := by
  have hg : Guards [] b := ⟨.nil, fun i => by simp [hfree i]⟩
  have hk : Keeps b.flag [] b := by
    refine ⟨(Bool.and_true _).symm, fun i => ?_⟩
    rw [held_eq_false_iff.mp (hfree i)]
    exact iff_of_false nofun fun h => nomatch h.2
  exact ⟨(guards_run hg h).held, masksThroughout_iff hg hk (by rw [h]; rfl)⟩

/-- Three mutexes, of which two are tried: an attempt on a held one, and guards that are dropped
in the order in which they were taken, but for the oldest. -/
theorem masks_throughout_iff_oldest_last_of_three :
    let us : List Use :=
      [.lock 0, .tryLock 1, .tryLock 0, .lock 2, .drop 1, .drop 2, .drop 0, .tryLock 1]
    let b : Bank := { flag := true }
    (∀ i, b.held i = false) ∧ OldestLast [] us ∧
    ∃ b', b.run? us = some b' ∧ (∀ i, b'.held i = true ↔ i ∈ [1]) ∧ b.MasksThroughout us := by
  intro us b
  have horder : OldestLast [] us := by
    simp [us, oldestLast_cons, oldestLast_nil, Use.SparesOldest, Use.alive]
  obtain ⟨b', hrun⟩ : ∃ b', b.run? us = some b' := ⟨_, rfl⟩
  obtain ⟨halive, hmasks⟩ := masks_throughout_iff_oldest_last (b := b) (fun _ => rfl) hrun
  exact ⟨fun _ => rfl, horder, b', hrun, halive, hmasks.mpr fun _ => horder⟩

/-- The older of two guards is dropped first, and sets the flag while the other is alive. -/
theorem older_guard_dropped_first_sets_flag :
    ∃ b, Bank.run? { flag := true } [.lock 0, .lock 1, .drop 0] = some b ∧
      b.held 1 = true ∧ b.flag = true := ⟨_, rfl, rfl, rfl⟩

end Bank

end InterruptCore.MaskingLock

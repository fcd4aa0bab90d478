import InterruptCore.Proofs.MaskingLock.DropOrder

/-! Critical sections that are closed in the reverse order in which they were opened. Code is a
tree in which the body of a section stands under the guard that was taken for it, so that a
guard is used only while it is alive. Every run leaves a trail of moments, from which it can be
told which guards are alive and what was written last; what a section finds when it is opened
comes back when it is closed. -/
namespace InterruptCore.MaskingLock

/-- Code under the guards of the mutexes in `live`. -/
inductive Code (α : Type) : List Nat → Type → Type 1 where
  | done {live : List Nat} {ρ : Type} (r : ρ) : Code α live ρ
  | put {live : List Nat} {ρ : Type} (i : Nat) (hi : i ∈ live) (v : α) (next : Code α live ρ) :
      Code α live ρ
  | get {live : List Nat} {ρ : Type} (i : Nat) (hi : i ∈ live) (next : α → Code α live ρ) :
      Code α live ρ
  | lock {live : List Nat} {ρ σ : Type} (i : Nat) (hi : i ∉ live) (body : Code α (live ++ [i]) σ)
      (next : σ → Code α live ρ) : Code α live ρ
  /-- Takes the mutex for the body if it is free, and leaves the body out otherwise. -/
  | tryLock {live : List Nat} {ρ σ : Type} (i : Nat) (body : Code α (live ++ [i]) σ)
      (next : Option σ → Code α live ρ) : Code α live ρ
  | masked {live : List Nat} {ρ σ : Type} (body : Code α live σ) (next : σ → Code α live ρ) :
      Code α live ρ

/-- What happened; the end of a section comes with the bank in which it was opened. -/
inductive Event (α : Type) where
  | took (i : Nat)
  | tried (i : Nat) (got : Bool)
  | dropped (i : Nat) (opened : Bank α)
  | entered
  | left (opened : Bank α)
  | wrote (i : Nat) (v : α)
  | read (i : Nat) (v : α)

namespace Event

variable {α : Type}

/-- The guards that are alive after an event, by their mutexes: one more for each that was made,
even if it is the second of its mutex. -/
def guarded (live : List Nat) : Event α → List Nat
  | took i | tried i true => live ++ [i]
  | dropped i _ => live.erase i
  | _ => live

def written (i : Nat) : Event α → Option α
  | wrote j v => if j = i then some v else none
  | _ => none

def opened? : Event α → Option (Bank α)
  | dropped _ b | left b => some b
  | _ => none

end Event

structure Moment (α : Type) where
  event : Event α
  bank : Bank α

namespace Code

variable {α : Type}

/-- The trail of a run, the bank at its end and the result. There is no run of code that waits
for a lock for ever, or that uses a value without a guard. -/
def run? {live : List Nat} {ρ : Type} : Code α live ρ → Bank α →
    Option (List (Moment α) × Bank α × ρ)
  | .done r, b => some ([], b, r)
  | .put i _ v next, b => do
    let b₁ ← b.put i v
    let (rest, stop, r) ← next.run? b₁
    return (⟨.wrote i v, b₁⟩ :: rest, stop, r)
  | .get i _ next, b => do
    let v ← b.get i
    let (rest, stop, r) ← (next v).run? b
    return (⟨.read i v, b⟩ :: rest, stop, r)
  | .lock i _ body next, b => do
    let b₁ ← b.lock? i
    let (inside, b₂, x) ← body.run? b₁
    let b₃ := (b₂.unlock i).1
    let (rest, stop, r) ← (next x).run? b₃
    return (⟨.took i, b₁⟩ :: inside ++ ⟨.dropped i b, b₃⟩ :: rest, stop, r)
  | .tryLock i body next, b =>
    match b.tryLock i with
    | (b₁, true) => do
      let (inside, b₂, x) ← body.run? b₁
      let b₃ := (b₂.unlock i).1
      let (rest, stop, r) ← (next (some x)).run? b₃
      return (⟨.tried i true, b₁⟩ :: inside ++ ⟨.dropped i b, b₃⟩ :: rest, stop, r)
    | (b₁, false) => do
      let (rest, stop, r) ← (next none).run? b₁
      return (⟨.tried i false, b₁⟩ :: rest, stop, r)
  | .masked body next, b => do
    let (b₂, within) := b.withoutInterrupts fun b₁ =>
      match body.run? b₁ with
      | some (inside, b₂, x) => (b₂, some (b₁, inside, x))
      | none => (b₁, none)
    let (b₁, inside, x) ← within
    let (rest, stop, r) ← (next x).run? b₂
    return (⟨.entered, b₁⟩ :: inside ++ ⟨.left b, b₂⟩ :: rest, stop, r)

end Code

variable {α : Type}

def guarded (trail : List (Moment α)) : List Nat :=
  trail.foldl (fun live m => m.event.guarded live) []

def lastWritten (i : Nat) (trail : List (Moment α)) : Option α :=
  (trail.filterMap fun m => m.event.written i).getLast?

def bankAfter (start : Bank α) (trail : List (Moment α)) : Bank α :=
  (trail.getLast?.map Moment.bank).getD start

structure Agrees (start : Bank α) (trail : List (Moment α)) (b : Bank α) : Prop where
  guards : b.Guards (guarded trail)
  value : ∀ i, (b.mutexes i).value = (lastWritten i trail).getD (start.mutexes i).value
  bank : bankAfter start trail = b

/-- A moment after an earlier trail. -/
structure Moment.Sound (start : Bank α) (earlier : List (Moment α)) (m : Moment α) : Prop where
  agrees : Agrees start (earlier ++ [m]) m.bank
  /-- An attempt succeeds just if no guard is alive, and changes nothing if it fails. -/
  tried : ∀ i got, m.event = .tried i got →
    (got = true ↔ i ∉ guarded earlier) ∧ (got = false → m.bank = bankAfter start earlier)
  read : ∀ i v, m.event = .read i v → v = (lastWritten i earlier).getD (start.mutexes i).value
  /-- At the end of a section the flag is what it was when the section was opened. -/
  restored : ∀ opened, m.event.opened? = some opened → m.bank.flag = opened.flag

def Follows (start : Bank α) : List (Moment α) → List (Moment α) → Prop
  | _, [] => True
  | earlier, m :: rest => m.Sound start earlier ∧ Follows start (earlier ++ [m]) rest

theorem Follows.append {start : Bank α} {earlier t u : List (Moment α)}
    (ht : Follows start earlier t) (hu : Follows start (earlier ++ t) u) :
    Follows start earlier (t ++ u) := by
  induction t generalizing earlier with
  | nil => rwa [List.append_nil] at hu
  | cons m t ih =>
    rw [List.append_cons] at hu
    exact ⟨ht.1, ih ht.2 hu⟩

theorem Follows.sound {start : Bank α} {before earlier later : List (Moment α)} {m : Moment α}
    (h : Follows start before (earlier ++ m :: later)) : m.Sound start (before ++ earlier) := by
  induction earlier generalizing before with
  | nil =>
    rw [List.append_nil]
    exact h.1
  | cons first earlier ih =>
    rw [List.append_cons]
    exact ih h.2

theorem guarded_concat (trail : List (Moment α)) (m : Moment α) :
    guarded (trail ++ [m]) = m.event.guarded (guarded trail) := by
  rw [guarded, List.foldl_append, guarded]
  rfl

theorem lastWritten_concat (i : Nat) (trail : List (Moment α)) (m : Moment α) :
    lastWritten i (trail ++ [m]) = (m.event.written i).or (lastWritten i trail) := by
  unfold lastWritten
  cases h : m.event.written i <;> simp [h]

theorem bankAfter_concat (start : Bank α) (trail : List (Moment α)) (m : Moment α) :
    bankAfter start (trail ++ [m]) = m.bank := by
  rw [bankAfter, List.getLast?_concat]
  rfl

namespace Bank

variable {b b' : Bank α} {i : Nat}

structure Same (b b' : Bank α) : Prop where
  flag : b'.flag = b.flag
  guard : ∀ i, (b'.mutexes i).guard = (b.mutexes i).guard

theorem Same.refl (b : Bank α) : Same b b := ⟨rfl, fun _ => rfl⟩

theorem Same.trans {b'' : Bank α} (h : Same b b') (h' : Same b' b'') : Same b b'' :=
  ⟨h'.flag.trans h.flag, fun i => (h'.guard i).trans (h.guard i)⟩

theorem Guards.same {live : List Nat} (hg : Guards live b)
    (h : ∀ i, (b'.mutexes i).guard = (b.mutexes i).guard) : Guards live b' where
  nodup := hg.nodup
  held i := by rw [held_congr (h i), hg.held]

theorem sets_take (b : Bank α) (i : Nat) : Sets i (some b.flag) b (b.take i) :=
  sets_update ((b.mutexes i).acquire b.flag) false

theorem congr_update {β : Type} (f : Mutex α → β) {m : Mutex α} (h : f m = f (b.mutexes i))
    (j : Nat) : f ((b.update i m).mutexes j) = f (b.mutexes j) := by
  rw [mutexes_update]
  split
  next hj => rw [h, hj]
  next => rfl

theorem value_take (b : Bank α) (i j : Nat) :
    ((b.take i).mutexes j).value = (b.mutexes j).value :=
  congr_update Mutex.value (m := (b.mutexes i).acquire b.flag) rfl j

theorem guards_take {live : List Nat} (hg : Guards live b) (hi : i ∉ live) :
    Guards (live ++ [i]) (b.take i) := by
  have hfree := (hg.not_mem_iff i).mp hi
  have hnext := hg.next (u := .lock i) (lock?_of_free hfree)
  rwa [Use.alive, if_neg hi] at hnext

theorem same_unlock {b₂ : Bank α} (hfree : b.held i = false) (h : Same (b.take i) b₂) :
    Same b (b₂.unlock i).1 := by
  have hfound : (b₂.mutexes i).guard = some b.flag := (h.guard i).trans (sets_take b i).self
  have hflag : b₂.flag = false := h.flag
  rw [unlock, hfound]
  have hsets := sets_update (b := b₂) (i := i) (b₂.mutexes i).release
    (b₂.flag || b.flag)
  refine ⟨?_, fun j => ?_⟩
  · change (b₂.flag || b.flag) = b.flag
    rw [hflag, Bool.false_or]
  · by_cases hj : j = i
    · rw [hj, held_eq_false_iff.mp hfree]
      exact hsets.self
    · exact (hsets.other j hj).trans ((h.guard j).trans ((sets_take b i).other j hj))

theorem value_unlock (b : Bank α) (i j : Nat) :
    ((b.unlock i).1.mutexes j).value = (b.mutexes j).value := by
  unfold unlock
  split
  · rfl
  · exact congr_update Mutex.value (m := (b.mutexes i).release) rfl j

theorem same_put (i : Nat) (v : α) : Same b (b.update i { b.mutexes i with value := v }) where
  flag := rfl
  guard := congr_update Mutex.guard rfl

theorem clearFlag_of_clear (h : b.flag = false) : b.clearFlag = b := by
  obtain ⟨flag, mutexes⟩ := b
  rw [clearFlag, ← h]

theorem withoutInterrupts_eq {β : Type} (b : Bank α) (body : Bank α → Bank α × β) :
    b.withoutInterrupts body =
      (if b.flag then (body b.clearFlag).1.setFlag else (body b.clearFlag).1,
        (body b.clearFlag).2) := by
  unfold withoutInterrupts
  cases hf : b.flag with
  | true => rfl
  | false => exact congrArg body (clearFlag_of_clear hf).symm

theorem same_masked {b₂ : Bank α} (h : Same b.clearFlag b₂) :
    Same b (if b.flag then b₂.setFlag else b₂) := by
  have hclear : b₂.flag = false := h.flag
  cases hf : b.flag with
  | true => exact ⟨hf.symm, h.guard⟩
  | false => exact ⟨hclear.trans hf.symm, h.guard⟩

end Bank

section Step

variable {start b b' b₁ b₂ : Bank α} {earlier t u : List (Moment α)} {m o c : Moment α} {i : Nat}

theorem Agrees.next (h : Agrees start earlier b) (hg : m.bank.Guards (guarded (earlier ++ [m])))
    (hv : ∀ i, (m.bank.mutexes i).value = (m.event.written i).getD (b.mutexes i).value) :
    Agrees start (earlier ++ [m]) m.bank where
  guards := hg
  value i := by
    rw [hv, h.value, lastWritten_concat]
    cases m.event.written i <;> rfl
  bank := bankAfter_concat start earlier m

/-- Code that ran from `b` to `b'` and left the trail `t` has put everything back but the
values. -/
structure Restores (start : Bank α) (earlier : List (Moment α)) (b : Bank α)
    (t : List (Moment α)) (b' : Bank α) : Prop where
  follows : Follows start earlier t
  agrees : Agrees start (earlier ++ t) b'
  live : guarded (earlier ++ t) = guarded earlier
  same : b.Same b'

theorem Restores.nil (h : Agrees start earlier b) : Restores start earlier b [] b where
  follows := trivial
  agrees := by rwa [List.append_nil]
  live := by rw [List.append_nil]
  same := .refl b

theorem Restores.single (hm : m.Sound start earlier)
    (hlive : m.event.guarded (guarded earlier) = guarded earlier) (hsame : b.Same m.bank) :
    Restores start earlier b [m] m.bank where
  follows := ⟨hm, trivial⟩
  agrees := hm.agrees
  live := (guarded_concat earlier m).trans hlive
  same := hsame

theorem Restores.append (ht : Restores start earlier b t b₁)
    (hu : Restores start (earlier ++ t) b₁ u b') : Restores start earlier b (t ++ u) b' where
  follows := ht.follows.append hu.follows
  agrees := by
    rw [← List.append_assoc]
    exact hu.agrees
  live := by rw [← List.append_assoc, hu.live, ht.live]
  same := ht.same.trans hu.same

/-- What is between the opening and the end of a section puts back what it finds, and the end of
the section puts back what its opening changed. -/
theorem Restores.bracket (ho : o.Sound start earlier)
    (ht : Restores start (earlier ++ [o]) o.bank t b₂) (hc : c.Sound start (earlier ++ o :: t))
    (hlive : c.event.guarded (o.event.guarded (guarded earlier)) = guarded earlier)
    (hsame : b.Same c.bank) : Restores start earlier b (o :: t ++ [c]) c.bank where
  follows := Follows.append ⟨ho, ht.follows⟩ ⟨hc, trivial⟩
  agrees := by
    rw [← List.append_assoc]
    exact hc.agrees
  live := by
    rw [← List.append_assoc, guarded_concat, List.append_cons, ht.live, guarded_concat, hlive]
  same := hsame

theorem Moment.Sound.of_quiet (h : Agrees start earlier b)
    (hlive : m.event.guarded (guarded earlier) = guarded earlier)
    (hguard : ∀ i, (m.bank.mutexes i).guard = (b.mutexes i).guard)
    (hv : ∀ i, (m.bank.mutexes i).value = (m.event.written i).getD (b.mutexes i).value)
    (htried : ∀ i got, m.event = .tried i got → got = false ∧ i ∈ guarded earlier ∧ m.bank = b)
    (hread : ∀ i v, m.event = .read i v → v = (b.mutexes i).value)
    (hrestored : ∀ opened, m.event.opened? = some opened → m.bank.flag = opened.flag) :
    m.Sound start earlier where
  agrees := by
    refine h.next ?_ hv
    rw [guarded_concat, hlive]
    exact h.guards.same hguard
  tried i got hm := by
    obtain ⟨rfl, hi, hb⟩ := htried i got hm
    exact ⟨⟨nofun, fun hn => absurd hi hn⟩, fun _ => hb.trans h.bank.symm⟩
  read i v hm := (hread i v hm).trans (h.value i)
  restored := hrestored

theorem sound_wrote (h : Agrees start earlier b) (v : α) :
    Moment.Sound start earlier
      ⟨.wrote i v, b.update i { b.mutexes i with value := v }⟩ := by
  refine .of_quiet h rfl (Bank.same_put i v).guard (fun j => ?_) nofun nofun nofun
  rw [Bank.mutexes_update, Event.written]
  by_cases hj : j = i
  · rw [if_pos hj, if_pos hj.symm]
    rfl
  · rw [if_neg hj, if_neg (Ne.symm hj)]
    rfl

theorem sound_read (h : Agrees start earlier b) :
    Moment.Sound start earlier ⟨.read i (b.mutexes i).value, b⟩ := by
  refine .of_quiet h rfl (fun _ => rfl) (fun _ => rfl) nofun (fun j v hm => ?_) nofun
  cases hm
  rfl

theorem sound_tried_false (h : Agrees start earlier b) (hi : i ∈ guarded earlier) :
    Moment.Sound start earlier ⟨.tried i false, b⟩ := by
  refine .of_quiet h rfl (fun _ => rfl) (fun _ => rfl) (fun j got hm => ?_) nofun nofun
  cases hm
  exact ⟨rfl, hi, rfl⟩

theorem sound_entered (h : Agrees start earlier b) :
    Moment.Sound start earlier ⟨.entered, b.clearFlag⟩ :=
  .of_quiet h rfl (fun _ => rfl) (fun _ => rfl) nofun nofun nofun

theorem sound_taken (h : Agrees start earlier b) (hi : i ∉ guarded earlier) {e : Event α}
    (he : e = .took i ∨ e = .tried i true) : Moment.Sound start earlier ⟨e, b.take i⟩ where
  agrees := by
    refine h.next ?_ fun j => ?_
    · rw [guarded_concat]
      rcases he with rfl | rfl <;> exact Bank.guards_take h.guards hi
    · rw [Bank.value_take]
      rcases he with rfl | rfl <;> rfl
  tried j got hm := by
    rcases he with rfl | rfl <;> cases hm
    exact ⟨⟨fun _ => hi, fun _ => rfl⟩, nofun⟩
  read j v hm := by rcases he with rfl | rfl <;> nomatch hm
  restored opened hm := by rcases he with rfl | rfl <;> nomatch hm

theorem Restores.section (h : Agrees start earlier b) (hi : i ∉ guarded earlier) {e : Event α}
    (he : e = .took i ∨ e = .tried i true)
    (ht : Restores start (earlier ++ [⟨e, b.take i⟩]) (b.take i) t b₂) :
    Restores start earlier b
      (⟨e, b.take i⟩ :: t ++ [⟨.dropped i b, (b₂.unlock i).1⟩]) (b₂.unlock i).1 := by
  have hopened : e.guarded (guarded earlier) = guarded earlier ++ [i] := by
    rcases he with rfl | rfl <;> rfl
  have hclosed : (guarded earlier ++ [i]).erase i = guarded earlier := by
    rw [List.erase_append_right _ hi, List.erase_cons_head, List.append_nil]
  have hsame := Bank.same_unlock ((h.guards.not_mem_iff i).mp hi) ht.same
  have hin : Agrees start (earlier ++ ⟨e, b.take i⟩ :: t) b₂ := by
    rw [List.append_cons]
    exact ht.agrees
  have hlive : guarded (earlier ++ ⟨e, b.take i⟩ :: t) = guarded earlier ++ [i] := by
    rw [List.append_cons, ht.live, guarded_concat, hopened]
  refine .bracket (c := ⟨.dropped i b, (b₂.unlock i).1⟩) (sound_taken h hi he) ht ?_ ?_ hsame
  · refine ⟨hin.next ?_ (Bank.value_unlock b₂ i), nofun, nofun, fun opened hm => ?_⟩
    · rw [guarded_concat, hlive]
      change Bank.Guards ((guarded earlier ++ [i]).erase i) _
      rw [hclosed]
      exact h.guards.same hsame.guard
    · cases hm
      exact hsame.flag
  · rw [hopened]
    exact hclosed

theorem Restores.masked (h : Agrees start earlier b)
    (ht : Restores start (earlier ++ [⟨.entered, b.clearFlag⟩]) b.clearFlag t b₂) :
    Restores start earlier b
      (⟨.entered, b.clearFlag⟩ :: t ++ [⟨.left b, if b.flag then b₂.setFlag else b₂⟩])
      (if b.flag then b₂.setFlag else b₂) := by
  have hsame := Bank.same_masked ht.same
  have hin : Agrees start (earlier ++ ⟨.entered, b.clearFlag⟩ :: t) b₂ := by
    rw [List.append_cons]
    exact ht.agrees
  refine .bracket (c := ⟨.left b, _⟩) (sound_entered h) ht ?_ rfl hsame
  refine .of_quiet hin rfl (fun j => ?_) (fun j => ?_) nofun nofun (fun opened hm => ?_)
  · exact (hsame.guard j).trans (ht.same.guard j).symm
  · cases b.flag <;> rfl
  · cases hm
    exact hsame.flag

end Step

/-- Code under live guards runs to its end, and closes whatever it opens. The induction is on the
code: what is under a section has one guard more, or interrupts off. -/
theorem Code.restores {live : List Nat} {ρ : Type} (p : Code α live ρ) {start b : Bank α}
    {earlier : List (Moment α)} (h : Agrees start earlier b) (hl : guarded earlier = live) :
    ∃ t b' r, p.run? b = some (t, b', r) ∧ Restores start earlier b t b' := by
  induction p generalizing earlier b with
  | done r => exact ⟨[], b, r, rfl, .nil h⟩
  | @put live ρ i hi v next ih =>
    subst hl
    have hone := Restores.single (sound_wrote (i := i) h v) rfl (Bank.same_put i v)
    obtain ⟨t, b', r, hrun, hrest⟩ := ih hone.agrees hone.live
    refine ⟨_, b', r, ?_, hone.append hrest⟩
    rw [run?, Bank.put_of_held ((h.guards.held i).mpr hi)]
    simp [hrun]
  | @get live ρ i hi next ih =>
    subst hl
    have hone := Restores.single (sound_read (i := i) h) rfl (.refl b)
    obtain ⟨t, b', r, hrun, hrest⟩ := ih (b.mutexes i).value hone.agrees hone.live
    refine ⟨_, b', r, ?_, hone.append hrest⟩
    rw [run?, Bank.get_of_held ((h.guards.held i).mpr hi)]
    simp [hrun]
  | @lock live ρ σ i hi body next ihBody ihNext =>
    subst hl
    have ho := sound_taken h hi (.inl rfl)
    obtain ⟨inside, b₂, x, hbody, hin⟩ := ihBody ho.agrees (guarded_concat _ _)
    have hclosed := Restores.section h hi (.inl rfl) hin
    obtain ⟨t, b', r, hrun, hrest⟩ := ihNext x hclosed.agrees hclosed.live
    refine ⟨_, b', r, ?_, hclosed.append hrest⟩
    rw [run?, Bank.lock?_of_free ((h.guards.not_mem_iff i).mp hi)]
    simp [hbody, hrun]
  | @tryLock live ρ σ i body next ihBody ihNext =>
    subst hl
    by_cases hi : i ∈ guarded earlier
    · -- The mutex is held, so there is no section.
      have hone := Restores.single (sound_tried_false h hi) rfl (.refl b)
      obtain ⟨t, b', r, hrun, hrest⟩ := ihNext none hone.agrees hone.live
      refine ⟨_, b', r, ?_, hone.append hrest⟩
      rw [run?, Bank.tryLock_of_held ((h.guards.held i).mpr hi)]
      simp [hrun]
    · have ho := sound_taken h hi (.inr rfl)
      obtain ⟨inside, b₂, x, hbody, hin⟩ := ihBody ho.agrees (guarded_concat _ _)
      have hclosed := Restores.section h hi (.inr rfl) hin
      obtain ⟨t, b', r, hrun, hrest⟩ := ihNext (some x) hclosed.agrees hclosed.live
      refine ⟨_, b', r, ?_, hclosed.append hrest⟩
      rw [run?, Bank.tryLock_of_free ((h.guards.not_mem_iff i).mp hi)]
      simp [hbody, hrun]
  | @masked live ρ σ body next ihBody ihNext =>
    subst hl
    have ho := sound_entered h
    obtain ⟨inside, b₂, x, hbody, hin⟩ := ihBody ho.agrees (guarded_concat _ _)
    have hclosed := Restores.masked h hin
    obtain ⟨t, b', r, hrun, hrest⟩ := ihNext x hclosed.agrees hclosed.live
    refine ⟨_, b', r, ?_, hclosed.append hrest⟩
    rw [run?, Bank.withoutInterrupts_eq]
    simp [hbody, hrun]

theorem agrees_fresh (flag : Bool) (values : Nat → α) :
    Agrees (.fresh flag values) [] (.fresh flag values) where
  guards := ⟨.nil, fun _ => iff_of_false nofun nofun⟩
  value _ := rfl
  bank := rfl

/-- Code over new mutexes runs to its end, with the flag as it was and no guard alive. At each
moment of the run the locks are those of the guards that are alive, no more than one for each
mutex, and every mutex has what was written to it last; attempts succeed just on free mutexes,
reads give what was written last, and the end of a section puts the flag back. -/
theorem brackets_restore_everything {ρ : Type} (flag : Bool) (values : Nat → α)
    (p : Code α [] ρ) :
    ∃ trail stop r, p.run? (.fresh flag values) = some (trail, stop, r) ∧
      stop.flag = flag ∧ (∀ i, stop.held i = false) ∧
      ∀ earlier m later, trail = earlier ++ m :: later →
        m.Sound (.fresh flag values) earlier := by
  obtain ⟨trail, stop, r, hrun, hrestores⟩ := p.restores (agrees_fresh flag values) rfl
  refine ⟨trail, stop, r, hrun, hrestores.same.flag, fun i => ?_, ?_⟩
  · exact Bank.held_congr (hrestores.same.guard i)
  · rintro earlier m later rfl
    exact hrestores.follows.sound

example :
    let p : Code UInt64 [] (Bool × UInt64) :=
      .lock 0 (by decide)
        (.put 0 (by decide) 7 <|
          .masked (.tryLock 0 (.put 0 (by decide) 8 (.done ())) fun x => .done x.isSome) fun got =>
            .get 0 (by decide) fun v => .done (got, v))
        .done
    (p.run? { flag := true }).map (fun x => (x.2.1.flag, x.2.2)) = some (true, false, 7) := rfl

end InterruptCore.MaskingLock

import InterruptCore.Proofs.Kernel.Deadlock

/-! Code that runs with interrupts closed. Nothing comes between its requests, so that what it
does is a computation on a scene, which is as much of the machine as the kernel can tell. A
program is followed on scenes request by request; the machine then does the same, whatever
interrupts are to come. -/
namespace InterruptCore

open Machine Program

variable {α β : Type}

namespace Machine

/-- As much of a machine as closed code can tell, and what happened, the latest first. -/
structure Scene where
  flag : Bool
  kernel : Kernel
  divisor : Bool
  past : List Event

def scene (m : Machine) : Scene := ⟨m.flag, m.kernel, divisorAccess m.latches, m.past⟩

def Request.table : Request → Option TablePointer → Option TablePointer
  | .loadGateTable p, _ => some p
  | _, t => t

namespace Scene

def record (s : Scene) (e : Event) : Scene := { s with past := e :: s.past }

def mapLocks (s : Scene) (f : Kernel.Locks → Kernel.Locks) : Scene :=
  { s with kernel := { s.kernel with locks := f s.kernel.locks } }

def write (s : Scene) (p : Port) (v : UInt8) : Scene :=
  { s with
    divisor := if p = lineControl then v.toNat.testBit 7 else s.divisor
    past := (if p = Port.com1 && !s.divisor then .character v else .out p v) :: s.past }

/-- Carries out a request, unless it waits or asks for what a scene does not tell. -/
def perform : (r : Request) → Scene → Option (r.Answer × Scene)
  | .out p v, s => some ((), s.write p v)
  | .poll _, s => some ((), s)
  | .interruptFlag, s => some (s.flag, s)
  | .clearFlag, s => some ((), { s with flag := false })
  | .setFlag, s => some ((), { s with flag := true })
  | .loadSegmentTable p, s =>
    some ((), s.record (.segmentTable p.limit (s.kernel.segments.take (tableWords p.limit))))
  | .loadGateTable p, s => some ((), s.record (.gateTable p.limit s.kernel.gates))
  | .loadSegment r x, s => some ((), s.record (.segment r x))
  | .memory change, s => some (s.kernel, { s with kernel := change s.kernel })
  | .acquire l, s => if s.kernel.locks.free l then some ((), s.mapLocks (·.take l)) else none
  | .tryAcquire l, s =>
    if s.kernel.locks.free l then some (true, s.mapLocks (·.take l)) else some (false, s)
  | .release l, s => some ((), s.mapLocks (·.drop l))
  | .note n, s => some ((), s.record (.note n))
  | .capture b text, s => some ((), s.record (.captured b text))
  | .input _, _ | .control _, _ | .stackPointer, _ => none
  | .halt, _ | .haltWhile _, _ | .haltForever, _ => none

/-- Runs closed code; `inv` holds before each request. -/
def follow (inv : Scene → Prop) [DecidablePred inv] : Program α → Scene → Option (α × Scene)
  | .done a, s => some (a, s)
  | .ask r next, s =>
    if s.flag = false ∧ inv s then
      (s.perform r).bind fun answered => follow inv (next answered.1) answered.2
    else none

end Scene

theorem divisorAccess_write (l : Latches) (p : Port) (v : UInt8) :
    divisorAccess (l.write p v) =
      if p = lineControl then v.toNat.testBit 7 else divisorAccess l := by
  unfold divisorAccess
  split
  · rename_i hp
    rw [hp, Latches.read_write_self]
  · rename_i hp
    rw [Latches.read_write_of_ne l v fun h => hp h.symm]

theorem scene_writePort (m : Machine) (p : Port) (v : UInt8) :
    scene (m.writePort p v) = (scene m).write p v := by
  simp only [scene, writePort, Scene.write, divisorAccess_write]
  rfl

theorem perform_of_scene {r : Request} {m : Machine} {a : r.Answer} {s : Scene}
    (h : (scene m).perform r = some (a, s)) :
    ∃ m', perform r m = .answered a m' ∧ scene m' = s ∧ m'.idtr = r.table m.idtr := by
  cases r with
  | out p v =>
    cases h
    exact ⟨m.writePort p v, rfl, scene_writePort m p v, rfl⟩
  | acquire l =>
    simp only [Scene.perform] at h
    split at h
    · rename_i hfree
      cases h
      exact ⟨m.mapLocks (·.take l), if_pos hfree, rfl, rfl⟩
    · cases h
  | tryAcquire l =>
    simp only [Scene.perform] at h
    split at h
    · rename_i hfree
      cases h
      exact ⟨m.mapLocks (·.take l), if_pos hfree, rfl, rfl⟩
    · rename_i hfree
      cases h
      exact ⟨m, if_neg hfree, rfl, rfl⟩
  | poll w =>
    cases h
    exact ⟨_, perform_poll m w, rfl, rfl⟩
  | input p => cases h
  | control register => cases h
  | stackPointer => cases h
  | halt => cases h
  | haltWhile waiting => cases h
  | haltForever => cases h
  | _ =>
    cases h
    exact ⟨_, rfl, rfl, rfl⟩

end Machine

namespace Kernel

structure Closed (inv : Scene → Prop) (s : Scene) : Prop where
  flag : s.flag = false
  inv : inv s

/-- Closed code keeps the flag clear up to its last request, and `inv` holds at all of them. -/
def closedTerms (inv : Scene → Prop) : Terms (Option TablePointer × Scene) where
  view m := (m.idtr, scene m)
  ok v _ := Closed inv v.2
  stop _ _ := False
  expects := Incoming.IsIrq
  view_tick _ := rfl
  view_arrivals _ _ := rfl
  view_wake _ _ := rfl

theorem closedTerms_bear (inv : Scene → Prop) (take : Taking) (visit : Visiting) :
    (closedTerms inv).Bears take visit := by
  rintro t m hirq - ⟨r, hclosed⟩ haccepts
  rw [accepts, Bool.or_eq_true, decide_eq_true_eq] at haccepts
  have hflag : m.flag = true := haccepts.resolve_right (Nat.not_lt.mpr hirq.1)
  exact absurd (hclosed.flag.symm.trans hflag) Bool.false_ne_true

/-- Run on this scene, closed code answers with `Q` and leaves the loaded table alone. -/
def Runs (inv : Scene → Prop) (p : Program α) (Q : α → Scene → Prop) (s : Scene) : Prop :=
  ∀ t, (closedTerms inv).Meets p (fun a v => Q a v.2 ∧ v.1 = t) (t, s)

variable {inv : Scene → Prop} {s s' : Scene} {Q : α → Scene → Prop} {R : β → Scene → Prop}

theorem meets_ask {r : Request} {a : r.Answer} {next : r.Answer → Program α}
    {K : α → Option TablePointer × Scene → Prop} {t : Option TablePointer}
    (hs : Closed inv s) (h : s.perform r = some (a, s'))
    (hnext : (closedTerms inv).Meets (next a) K (r.table t, s')) :
    (closedTerms inv).Meets (.ask r next) K (t, s) := by
  have hanswer : ∀ m, (closedTerms inv).view m = (t, s) → ∃ m',
      Machine.perform r m = .answered a m' ∧ (closedTerms inv).view m' = (r.table t, s') := by
    intro m hm
    cases hm
    obtain ⟨m', hperform, hscene, htable⟩ := perform_of_scene h
    exact ⟨m', hperform, Prod.ext htable hscene⟩
  refine ⟨hs, ?_⟩
  by_cases hlasts : r.Lasts
  · cases r with
    | poll w =>
      cases h
      rintro m hm
      obtain ⟨reads, hread⟩ := readPort_poll m w
      rw [hread]
      exact ⟨hm, hnext⟩
    | halt => cases h
    | haltWhile waiting => cases h
    | haltForever => cases h
    | _ => exact hlasts.elim
  · apply Terms.follows_of_answered hlasts
    intro m hm
    obtain ⟨m', hperform, hview⟩ := hanswer m hm
    rw [← hview] at hnext
    exact ⟨a, m', hperform, hnext⟩

theorem meets_of_follow [DecidablePred inv] {p : Program α} {a : α}
    (h : Scene.follow inv p s = some (a, s')) (t : Option TablePointer) :
    (closedTerms inv).Meets p (fun b v => b = a ∧ v.2 = s') (t, s) := by
  induction p generalizing s t with
  | done b =>
    cases h
    exact ⟨rfl, rfl⟩
  | ask r next ih =>
    simp only [Scene.follow] at h
    split at h
    · rename_i hkeeps
      obtain ⟨⟨b, x⟩, hperform, hfollow⟩ := Option.bind_eq_some_iff.mp h
      exact meets_ask ⟨hkeeps.1, hkeeps.2⟩ hperform (ih b hfollow _)
    · cases h

namespace Runs

theorem pure {a : α} (h : Q a s) : Runs inv (Pure.pure a) Q s := fun _ => ⟨h, rfl⟩

theorem mono {Q' : α → Scene → Prop} {p : Program α} (h : Runs inv p Q s)
    (hQ : ∀ a s, Q a s → Q' a s) : Runs inv p Q' s :=
  fun t => (h t).mono fun a v hv => ⟨hQ a v.2 hv.1, hv.2⟩

theorem bind {p : Program α} {f : α → Program β} (h : Runs inv p Q s)
    (hf : ∀ a s, Q a s → Runs inv (f a) R s) : Runs inv (p >>= f) R s := by
  intro t
  apply Terms.Meets.bind
  apply (h t).mono
  rintro a ⟨t', s'⟩ ⟨ha, rfl⟩
  exact hf a s' ha t'

theorem ask {r : Request} {a : r.Answer} {next : r.Answer → Program α} (hs : Closed inv s)
    (h : s.perform r = some (a, s')) (htable : ∀ t, r.table t = t)
    (hnext : Runs inv (next a) Q s') : Runs inv (.ask r next) Q s := by
  intro t
  apply meets_ask hs h
  rw [htable]
  exact hnext t

theorem forM {ι : Type} {xs : List ι} {f : ι → Program Unit} {I : Scene → Prop}
    (h : ∀ x ∈ xs, ∀ s, I s → Runs inv (f x) (fun _ => I) s) (hs : I s) :
    Runs inv (xs.forM f) (fun _ => I) s := by
  induction xs generalizing s with
  | nil => exact pure hs
  | cons x xs ih =>
    apply (h x List.mem_cons_self s hs).bind
    intro _ s hs
    exact ih (fun y hy => h y (List.mem_cons_of_mem x hy)) hs

theorem mapM {ι : Type} {xs : List ι} {f : ι → Program β} {I : Scene → Prop}
    (h : ∀ x ∈ xs, ∀ s, I s → Runs inv (f x) (fun _ => I) s) (hs : I s) :
    Runs inv (xs.mapM f) (fun _ => I) s := by
  induction xs generalizing s with
  | nil => exact pure hs
  | cons x xs ih =>
    rw [List.mapM_cons]
    apply (h x List.mem_cons_self s hs).bind
    intro _ s hs
    apply (ih (fun y hy => h y (List.mem_cons_of_mem x hy)) hs).bind
    exact fun _ _ hs => pure hs

end Runs

end Kernel

end InterruptCore

import InterruptCore.Proofs.Machine.Terms

/-! Runs under a guard: the interrupt flag, the locks, and a part of the machine that is watched
besides. The flag may be set only where the locks are calm, so that every request is checked
against the flag and the locks before it is carried out. -/
namespace InterruptCore.Machine

open Kernel

variable {α β ρ : Type}

structure Guard (ρ : Type) where
  flag : Bool
  locks : Locks
  rest : ρ

/-- What is watched: a part of the machine that the flag, the locks and the console do not touch,
what holds of it at all times, the locks with which interrupts may come, and which may. -/
structure Watch (ρ : Type) where
  part : Machine → ρ
  calm : Locks → Prop
  inv : ρ → Prop
  stop : Stop → Prop
  expects : Incoming → Prop
  part_flag : ∀ m b, part { m with flag := b } = part m
  part_locks : ∀ m f, part (m.mapLocks f) = part m
  part_console : ∀ m d v, d < 8 → part (m.writePort (Console.register d) v) = part m
  part_busyReads : ∀ m reads, part { m with busyReads := reads } = part m
  part_captured : ∀ m b text, part (m.record (.captured b text)) = part m
  part_tick : ∀ m, part m.tick = part m
  part_arrivals : ∀ m as, part { m with arrivals := as } = part m
  part_wake : ∀ m ts, part { m with wake := ts } = part m

namespace Watch

variable (W : Watch ρ)

def view (m : Machine) : Guard ρ := ⟨m.flag, m.kernel.locks, W.part m⟩

def Safe (g : Guard ρ) : Prop := (g.flag = true → W.calm g.locks) ∧ W.inv g.rest

def terms : Terms (Guard ρ) where
  view := W.view
  ok g r := W.Safe g ∧ (∀ l, r = .acquire l → g.locks.free l = true) ∧
    (r = .setFlag → W.calm g.locks)
  stop why _ := W.stop why
  expects := W.expects
  view_tick m := by rw [view, W.part_tick]; rfl
  view_arrivals m as := by rw [view, W.part_arrivals]; rfl
  view_wake m ts := by rw [view, W.part_wake]; rfl

variable {W} {g : Guard ρ} {Q : α → Guard ρ → Prop}

theorem view_eq {m : Machine} : W.view m = g ↔
    m.flag = g.flag ∧ m.kernel.locks = g.locks ∧ W.part m = g.rest := by
  cases g
  simp [view]

theorem Safe.masked (hs : W.Safe g) (locks : Locks) :
    W.Safe { g with flag := false, locks := locks } :=
  ⟨nofun, hs.2⟩

theorem Safe.of_closed (hflag : g.flag = false) (hinv : W.inv g.rest) : W.Safe g :=
  ⟨fun hset => absurd (hflag.symm.trans hset) Bool.false_ne_true, hinv⟩

section Requests

theorem ask_answered (hs : W.Safe g) {r : Request} (f : Machine → Machine) (hr : ¬ r.Lasts)
    (hok : (∀ l, r = .acquire l → g.locks.free l = true) ∧ (r = .setFlag → W.calm g.locks))
    {next : r.Answer → Program α} {a : r.Answer} {g' : Guard ρ}
    (hanswer : ∀ m, W.view m = g → perform r m = .answered a (f m) ∧ W.view (f m) = g')
    (h : W.terms.Meets (next a) Q g') : W.terms.Meets (.ask r next) Q g := by
  refine ⟨⟨hs, hok⟩, ?_⟩
  apply Terms.follows_of_answered hr
  intro m hm
  obtain ⟨hperform, hview⟩ := hanswer m hm
  refine ⟨a, f m, hperform, ?_⟩
  change W.terms.Meets (next a) Q (W.view (f m))
  rwa [hview]

theorem view_flag (m : Machine) (b : Bool) :
    W.view { m with flag := b } = { W.view m with flag := b } := by
  simp only [view, W.part_flag]

theorem view_locks (m : Machine) (f : Locks → Locks) :
    W.view (m.mapLocks f) = { W.view m with locks := f (W.view m).locks } := by
  simp only [view, W.part_locks]
  rfl

variable (hs : W.Safe g)
include hs

theorem ask_interruptFlag {next : Bool → Program α} (h : W.terms.Meets (next g.flag) Q g) :
    W.terms.Meets (.ask .interruptFlag next) Q g := by
  refine ask_answered (r := .interruptFlag) hs id id ⟨nofun, nofun⟩ ?_ h
  rintro m rfl
  exact ⟨rfl, rfl⟩

theorem ask_clearFlag {next : Unit → Program α}
    (h : W.terms.Meets (next ()) Q { g with flag := false }) :
    W.terms.Meets (.ask .clearFlag next) Q g := by
  refine ask_answered (r := .clearFlag) hs (fun m => { m with flag := false }) id
    ⟨nofun, nofun⟩ ?_ h
  rintro m rfl
  exact ⟨rfl, view_flag m false⟩

theorem ask_setFlag (hcalm : W.calm g.locks) {next : Unit → Program α}
    (h : W.terms.Meets (next ()) Q { g with flag := true }) :
    W.terms.Meets (.ask .setFlag next) Q g := by
  refine ask_answered (r := .setFlag) hs (fun m => { m with flag := true }) id ?_ ?_ h
  · exact ⟨nofun, fun _ => hcalm⟩
  rintro m rfl
  exact ⟨rfl, view_flag m true⟩

theorem ask_acquire {l : Lock} {next : Unit → Program α} (hfree : g.locks.free l = true)
    (h : W.terms.Meets (next ()) Q { g with locks := g.locks.take l }) :
    W.terms.Meets (.ask (.acquire l) next) Q g := by
  refine ask_answered (r := .acquire l) hs (·.mapLocks (·.take l)) id ?_ ?_ h
  · exact ⟨fun l' hl => by cases hl; exact hfree, nofun⟩
  · rintro m rfl
    exact ⟨if_pos hfree, view_locks m _⟩

theorem ask_tryAcquire {l : Lock} {next : Bool → Program α}
    (h : if g.locks.free l = true then
        W.terms.Meets (next true) Q { g with locks := g.locks.take l }
      else W.terms.Meets (next false) Q g) :
    W.terms.Meets (.ask (.tryAcquire l) next) Q g := by
  split at h
  · rename_i hfree
    refine ask_answered (r := .tryAcquire l) hs (·.mapLocks (·.take l)) id ⟨nofun, nofun⟩ ?_ h
    rintro m rfl
    exact ⟨if_pos hfree, view_locks m _⟩
  · rename_i hfree
    refine ask_answered (r := .tryAcquire l) hs id id ⟨nofun, nofun⟩ ?_ h
    rintro m rfl
    exact ⟨if_neg hfree, rfl⟩

theorem ask_release {l : Lock} {next : Unit → Program α}
    (h : W.terms.Meets (next ()) Q { g with locks := g.locks.drop l }) :
    W.terms.Meets (.ask (.release l) next) Q g := by
  refine ask_answered (r := .release l) hs (·.mapLocks (·.drop l)) id ⟨nofun, nofun⟩ ?_ h
  rintro m rfl
  exact ⟨rfl, view_locks m _⟩

theorem ask_poll {w : Poll} {next : Unit → Program α} (h : W.terms.Meets (next ()) Q g) :
    W.terms.Meets (.ask (.poll w) next) Q g := by
  refine ⟨⟨hs, nofun, nofun⟩, ?_⟩
  rintro m rfl
  obtain ⟨reads, hread⟩ := readPort_poll m w
  have hview : W.view { m with busyReads := reads } = W.view m := by
    simp only [view, W.part_busyReads]
  exact ⟨(congrArg W.view hread).trans hview, h⟩

theorem ask_out {p : Port} {v : UInt8} (hp : ∀ m, W.part (m.writePort p v) = W.part m)
    {next : Unit → Program α} (h : W.terms.Meets (next ()) Q g) :
    W.terms.Meets (.ask (.out p v) next) Q g := by
  refine ask_answered (r := .out p v) hs (·.writePort p v) id ⟨nofun, nofun⟩ ?_ h
  rintro m rfl
  exact ⟨rfl, view_eq.mpr ⟨rfl, rfl, hp m⟩⟩

theorem ask_console {d : UInt16} (hd : d < 8) {v : UInt8} {next : Unit → Program α}
    (h : W.terms.Meets (next ()) Q g) :
    W.terms.Meets (.ask (.out (Console.register d) v) next) Q g :=
  ask_out hs (fun m => W.part_console m d v hd) h

theorem ask_capture {b : Nat} {text : String} {next : Unit → Program α}
    (h : W.terms.Meets (next ()) Q g) : W.terms.Meets (.ask (.capture b text) next) Q g := by
  refine ask_answered (r := .capture b text) hs (·.record (.captured b text)) id ⟨nofun, nofun⟩ ?_ h
  rintro m rfl
  refine ⟨rfl, ?_⟩
  simp only [view, W.part_captured]
  rfl

theorem ask_memory {f : Kernel → Kernel} {next : Kernel → Program α}
    (h : ∀ m, W.view m = g → W.terms.Meets (next m.kernel) Q
      (W.view { m with kernel := f m.kernel })) :
    W.terms.Meets (.ask (.memory f) next) Q g :=
  ⟨⟨hs, nofun, nofun⟩, h⟩

theorem ask_look {next : Kernel → Program α}
    (h : ∀ m, W.view m = g → W.terms.Meets (next m.kernel) Q g) :
    W.terms.Meets (.ask (.memory id) next) Q g := by
  apply ask_memory hs
  intro m hm
  have hsame : W.view { m with kernel := id m.kernel } = g := hm
  rw [hsame]
  exact h m hm

end Requests

end Watch

end InterruptCore.Machine

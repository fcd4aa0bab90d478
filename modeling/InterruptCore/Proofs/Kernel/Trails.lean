import InterruptCore.Kernel.Boot
import InterruptCore.Proofs.Kernel.Sections

/-! What the kernel's start-up code leaves behind. Of what happens on the way only the landmarks
are kept: loads of the tables and of segment registers, and writes to the controllers. Programs
are followed from trail to trail, each request under the conditions of a watch. -/
namespace InterruptCore

open Machine Program

variable {α β : Type}

theorem Kernel.Console.le_number_register {d : UInt16} (hd : d < 8) :
    0x3f8 ≤ (Kernel.Console.register d).number.toNat := by
  have hd : d.toNat < 8 := hd
  have hnumber : (0x3f8 + d).toNat = 0x3f8 + d.toNat := by
    have h3f8 : (0x3f8 : UInt16).toNat = 0x3f8 := rfl
    rw [UInt16.toNat_add, h3f8]
    omega
  exact hnumber ▸ Nat.le_add_right 0x3f8 d.toNat

/-- Of the events of a kind, where the serial port is not of it: a byte for its data port makes
none, whether it is sent or not. -/
theorem Machine.filter_writePort {kind : Event → Bool}
    (hserial : ∀ b, kind (.character b) = false ∧ kind (.out Port.com1 b) = false) (m : Machine)
    (p : Port) (v : UInt8) :
    (m.writePort p v).past.filter kind = (Event.out p v :: m.past).filter kind := by
  have hpast : (m.writePort p v).past = outEvent m.latches p v :: m.past := rfl
  obtain ⟨hcharacter, hout⟩ := hserial v
  rw [hpast]
  unfold outEvent
  split
  · rename_i hsent
    have hp : p = Port.com1 := by
      rw [Bool.and_eq_true, decide_eq_true_eq] at hsent
      exact hsent.1
    rw [hp, List.filter_cons_of_neg (Bool.eq_false_iff.mp hcharacter),
      List.filter_cons_of_neg (Bool.eq_false_iff.mp hout)]
  · rfl

def Kernel.withLocks (k : Kernel) (ls : Kernel.Locks) : Kernel := { k with locks := ls }

namespace Kernel.Boot

def controllerPorts : List Port :=
  [Port.pic1Command, Port.pic1Data, Port.pic2Command, Port.pic2Data]

def isLandmark : Event → Bool
  | .segmentTable _ _ | .segment _ _ | .gateTable _ _ => true
  | .out p _ => p ∈ controllerPorts
  | _ => false

/-- What start-up leaves behind: memory but for the locks, the table registers, and the landmarks
that were passed, the latest first. -/
structure Trail where
  kernel : Kernel
  gdtr : Option TablePointer
  idtr : Option TablePointer
  past : List Event

def trail (m : Machine) : Trail where
  kernel := m.kernel.withLocks {}
  gdtr := m.gdtr
  idtr := m.idtr
  past := m.past.filter isLandmark

def Trail.see (ρ : Trail) (e : Event) : Trail :=
  { ρ with past := if isLandmark e then e :: ρ.past else ρ.past }

def Trail.modify (ρ : Trail) (f : Kernel → Kernel) : Trail := { ρ with kernel := f ρ.kernel }

theorem trail_record (m : Machine) (e : Event) : trail (m.record e) = (trail m).see e := by
  simp only [trail, Trail.see, record, List.filter_cons]

theorem trail_writePort (m : Machine) (p : Port) (v : UInt8) :
    trail (m.writePort p v) = (trail m).see (.out p v) := by
  have hserial : ∀ b, isLandmark (.character b) = false ∧ isLandmark (.out Port.com1 b) = false :=
    fun _ => ⟨rfl, rfl⟩
  have hpast := filter_writePort hserial m p v
  rw [List.filter_cons] at hpast
  simp only [trail, Trail.see, hpast]
  rfl

theorem not_landmark_console {d : UInt16} (hd : d < 8) (v : UInt8) :
    isLandmark (.out (Console.register d) v) = false := by
  have hports : ∀ p ∈ controllerPorts, p.number.toNat < 0x3f8 := by decide
  apply decide_eq_false
  intro hmem
  exact absurd (hports _ hmem) (Nat.not_lt.mpr (Console.le_number_register hd))

/-- Conditions on a program whose trail is followed: whether interrupts may be open, which of them
may come, and what holds of the trail before every request. -/
structure Lookout where
  calm : Prop
  inv : Trail → Prop
  expects : Incoming → Prop

namespace Lookout

def watch (V : Lookout) : Watch Trail where
  part := trail
  calm _ := V.calm
  inv := V.inv
  stop _ := False
  expects := V.expects
  part_flag _ _ := rfl
  part_locks _ _ := rfl
  part_console m d v hd := by
    rw [trail_writePort, Trail.see, not_landmark_console hd]
    rfl
  part_busyReads _ _ := rfl
  part_captured m b text := trail_record m (.captured b text)
  part_tick _ := rfl
  part_arrivals _ _ := rfl
  part_wake _ _ := rfl

variable {V : Lookout} {flag : Bool} {locks : Locks} {ρ ρ' ρ'' : Trail} {Q : α → Prop}
  {R : β → Prop} {l : Lock}

def Safe (V : Lookout) (flag : Bool) (ρ : Trail) : Prop := (flag = true → V.calm) ∧ V.inv ρ

theorem Safe.guard (h : V.Safe flag ρ) (locks : Locks) : V.watch.Safe ⟨flag, locks, ρ⟩ := h

theorem Safe.masked (h : V.Safe flag ρ) : V.Safe false ρ := ⟨nofun, h.2⟩

/-- The program answers with `Q`, gives flag and locks back, and takes the trail from `ρ` to
`ρ'`. -/
def Moves (V : Lookout) (p : Program α) (Q : α → Prop) (flag : Bool) (locks : Locks)
    (ρ ρ' : Trail) : Prop :=
  V.watch.terms.Meets p (fun a g => Q a ∧ g = ⟨flag, locks, ρ'⟩) ⟨flag, locks, ρ⟩

namespace Moves

theorem of_keeps {p : Program α} (h : V.watch.Keeps p ⟨flag, locks, ρ⟩) :
    V.Moves p (fun _ => True) flag locks ρ ρ :=
  h.mono fun _ _ hg => ⟨trivial, hg⟩

theorem keeps {p : Program α} (h : V.Moves p Q flag locks ρ ρ) :
    V.watch.Keeps p ⟨flag, locks, ρ⟩ :=
  h.mono fun _ _ hg => hg.2

theorem weaken {p : Program α} (h : V.Moves p Q flag locks ρ ρ') :
    V.Moves p (fun _ => True) flag locks ρ ρ' :=
  h.mono fun _ _ hg => ⟨trivial, hg.2⟩

theorem pure {a : α} (h : Q a) : V.Moves (Pure.pure a) Q flag locks ρ ρ := ⟨h, rfl⟩

theorem bind {p : Program α} {f : α → Program β} (h : V.Moves p Q flag locks ρ ρ')
    (hf : ∀ a, Q a → V.Moves (f a) R flag locks ρ' ρ'') :
    V.Moves (p >>= f) R flag locks ρ ρ'' := by
  apply Watch.meets_bind
  apply h.mono
  rintro a _ ⟨ha, rfl⟩
  exact hf a ha

theorem discard {p : Program α} (h : V.Moves p Q flag locks ρ ρ') :
    V.Moves (Functor.discard p) (fun _ => True) flag locks ρ ρ' :=
  h.bind fun _ _ => pure trivial

theorem forM {ι : Type} {xs : List ι} {f : ι → Program Unit} {g : Trail → ι → Trail}
    (h : ∀ before x, before ++ [x] <+: xs →
      V.Moves (f x) (fun _ => True) flag locks (before.foldl g ρ) (g (before.foldl g ρ) x)) :
    V.Moves (xs.forM f) (fun _ => True) flag locks ρ (xs.foldl g ρ) := by
  induction xs generalizing ρ with
  | nil => exact pure trivial
  | cons x xs ih =>
    apply (h [] x (List.prefix_append [x] xs)).bind
    intro _ _
    exact ih fun before y hy => h (x :: before) y (List.prefix_cons_inj x |>.mpr hy)

theorem mapM {ι : Type} {xs : List ι} {f : ι → Program β} {g : Trail → ι → Trail}
    (h : ∀ before x, before ++ [x] <+: xs →
      V.Moves (f x) (fun _ => True) flag locks (before.foldl g ρ) (g (before.foldl g ρ) x)) :
    V.Moves (xs.mapM f) (fun _ => True) flag locks ρ (xs.foldl g ρ) := by
  induction xs generalizing ρ with
  | nil => exact pure trivial
  | cons x xs ih =>
    rw [List.mapM_cons]
    apply (h [] x (List.prefix_append [x] xs)).bind
    intro _ _
    apply (ih fun before y hy => h (x :: before) y (List.prefix_cons_inj x |>.mpr hy)).bind
    exact fun _ _ => pure trivial

section Requests

variable (hs : V.Safe flag ρ)
include hs

theorem withoutInterrupts (hs' : V.Safe flag ρ') {p : Program α}
    (h : V.Moves p Q false locks ρ ρ') :
    V.Moves (withoutInterrupts p) Q flag locks ρ ρ' := by
  apply Watch.meets_withoutInterrupts (hs.guard locks)
  apply h.mono
  rintro a _ ⟨ha, rfl⟩
  exact ⟨rfl, hs'.guard locks, ha, rfl⟩

theorem holding (hs' : V.Safe flag ρ') (hfree : locks.free l = true) {p : Program α}
    (h : V.Moves p Q flag (locks.take l) ρ ρ') : V.Moves (holding l p) Q flag locks ρ ρ' := by
  apply Watch.meets_holding (hs.guard locks) hfree
  apply h.mono
  rintro a _ ⟨ha, rfl⟩
  refine ⟨hs'.guard _, ha, ?_⟩
  rw [Locks.drop_take hfree]

theorem request {r : Request} {Q : r.Answer → Prop} (hr : ¬ r.Lasts)
    (hlock : ∀ l, r ≠ .acquire l) (hflag : r ≠ .setFlag)
    (h : ∀ m, m.kernel.locks = locks → trail m = ρ → ∃ a m', perform r m = .answered a m' ∧ Q a ∧
      m'.flag = m.flag ∧ m'.kernel.locks = locks ∧ trail m' = ρ') :
    V.Moves (Program.request r) Q flag locks ρ ρ' := by
  refine ⟨⟨hs.guard locks, fun l hl => absurd hl (hlock l), fun hl => absurd hl hflag⟩, ?_⟩
  apply Terms.follows_of_answered hr
  intro m hm
  obtain ⟨hfound, hlocks, htrail⟩ := Watch.view_eq.mp hm
  obtain ⟨a, m', hperform, ha, hflag', hlocks', htrail'⟩ := h m hlocks htrail
  exact ⟨a, m', hperform, ha, Watch.view_eq.mpr ⟨hflag'.trans hfound, hlocks', htrail'⟩⟩

theorem out (p : Port) (v : UInt8) :
    V.Moves (Program.out p v) (fun _ => True) flag locks ρ (ρ.see (.out p v)) := by
  apply request hs (r := .out p v) id nofun nofun
  rintro m hlocks rfl
  exact ⟨(), m.writePort p v, rfl, trivial, rfl, hlocks, trail_writePort m p v⟩

theorem input (p : Port) : V.Moves (Program.input p) (fun _ => True) flag locks ρ ρ := by
  apply request hs (r := .input p) id nofun nofun
  rintro m hlocks rfl
  refine ⟨(m.readPort p).1, (m.readPort p).2, rfl, trivial, ?_⟩
  unfold readPort
  split
  · rcases m.busyReads with _ | ⟨_ | n, rest⟩ <;> exact ⟨rfl, hlocks, rfl⟩
  · exact ⟨rfl, hlocks, trail_record m _⟩

theorem loadSegment (r : SegmentRegister) (s : Selector) :
    V.Moves (Program.request (.loadSegment r s)) (fun _ => True) flag locks ρ
      (ρ.see (.segment r s)) := by
  apply request hs (r := .loadSegment r s) id nofun nofun
  rintro m hlocks rfl
  exact ⟨(), m.record (.segment r s), rfl, trivial, rfl, hlocks, trail_record m _⟩

theorem loadSegmentTable (p : TablePointer) :
    V.Moves (Program.request (.loadSegmentTable p)) (fun _ => True) flag locks ρ
      ({ ρ with gdtr := some p }.see
        (.segmentTable p.limit (ρ.kernel.segments.take (tableWords p.limit)))) := by
  apply request hs (r := .loadSegmentTable p) id nofun nofun
  rintro m hlocks rfl
  exact ⟨(), _, rfl, trivial, rfl, hlocks, trail_record { m with gdtr := some p } _⟩

theorem loadGateTable (p : TablePointer) :
    V.Moves (Program.request (.loadGateTable p)) (fun _ => True) flag locks ρ
      ({ ρ with idtr := some p }.see (.gateTable p.limit ρ.kernel.gates)) := by
  apply request hs (r := .loadGateTable p) id nofun nofun
  rintro m hlocks rfl
  exact ⟨(), _, rfl, trivial, rfl, hlocks, trail_record { m with idtr := some p } _⟩

theorem exchange {f : Kernel → Kernel} (hf : ∀ k ls, f (k.withLocks ls) = (f k).withLocks ls) :
    V.Moves (Program.exchange f) (fun k => k = ρ.kernel.withLocks locks) flag locks ρ
      (ρ.modify f) := by
  apply request hs (r := .memory f) id nofun nofun
  rintro m rfl rfl
  have hlocks := congrArg Kernel.locks (hf m.kernel m.kernel.locks)
  refine ⟨m.kernel, { m with kernel := f m.kernel }, rfl, rfl, rfl, hlocks, ?_⟩
  simp only [trail, Trail.modify, hf]

theorem change {f : Kernel → Kernel} (hf : ∀ k ls, f (k.withLocks ls) = (f k).withLocks ls) :
    V.Moves (Program.change f) (fun _ => True) flag locks ρ (ρ.modify f) :=
  (exchange hs hf).discard

theorem memory : V.Moves Program.memory (fun k => k = ρ.kernel.withLocks locks) flag locks ρ ρ :=
  exchange hs fun _ _ => rfl

theorem writeLog (line : Log.Line) :
    V.Moves (Kernel.writeLog line) (fun _ => True) flag locks ρ ρ :=
  of_keeps (Watch.keeps_writeLog (hs.guard locks) line)

end Requests

end Moves

end Lookout

def Trail.transfer (ρ : Trail) : Pic.Transfer → Trail
  | .write p v => ρ.see (.out p v)
  | .read _ | .delay => ρ

def Trail.command (ρ : Trail) (c : Pic.Command) : Trail :=
  ((ρ.kernel.pic.transfers c).foldl Trail.transfer ρ).modify fun k =>
    { k with pic := k.pic.next c }

namespace Lookout.Moves

variable {V : Lookout} {flag : Bool} {locks : Locks} {ρ : Trail}

theorem transfer (hs : V.Safe flag ρ) (t : Pic.Transfer) :
    V.Moves (Controllers.transfer t) (fun _ => True) flag locks ρ (ρ.transfer t) := by
  cases t with
  | write p v => exact (out hs p v).bind fun _ _ => pure trivial
  | read p => exact (input hs p).bind fun _ _ => pure trivial
  | delay => exact (out hs Port.postDelay 0).bind fun _ _ => pure trivial

/-- A command is safe if it is so after any number of its transfers. -/
theorem command {c : Pic.Command} (hc : Pic.Driver.check c = .ok ())
    (hs : ∀ before, before <+: ρ.kernel.pic.transfers c →
      V.Safe flag (before.foldl Trail.transfer ρ)) :
    V.Moves (Controllers.command c) (∃ vs, · = .ok vs) flag locks ρ (ρ.command c) := by
  unfold Controllers.command
  rw [hc]
  apply (memory (hs [] List.nil_prefix)).bind
  rintro _ rfl
  apply (mapM fun before t hbefore => transfer (hs before ?_) t).bind
  · intro values _
    apply (change (hs _ (List.prefix_refl _)) fun _ _ => rfl).bind
    exact fun _ _ => pure ⟨values.flatten, rfl⟩
  · exact (List.prefix_append before [t]).trans hbefore

end Lookout.Moves

end Kernel.Boot

end InterruptCore

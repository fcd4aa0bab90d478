import InterruptCore.Pic.Chip
import InterruptCore.Proofs.Board.Effects

/-! The driver of the interrupt controllers and the two chips, over whole runs. The chips are fed
with what reaches the bus; they start in any state, only not half way through an initialisation.
Each command sends a chip either a whole initialisation or none of it, so a byte on a data port is
a mask for the chip exactly when the driver means it to be one. -/
namespace InterruptCore

open Irq

namespace Pic

/-- Commands that give masks to both chips; a line that does not exist is refused. -/
def Command.SetsMasks : Command → Prop
  | .remap _ | .setMasks _ | .disable => True
  | .maskLine l | .unmaskLine l => l.toNat < irqLines
  | .endOfInterrupt _ | .readMasks => False

def Command.Remaps : Command → Prop
  | .remap _ => True
  | _ => False

theorem Command.Remaps.setsMasks {c : Command} (h : c.Remaps) : c.SetsMasks := by
  cases c with
  | remap _ => trivial
  | _ => exact h.elim

/-- What a read gives on a bus with these values at its ports. -/
def Transfer.answer (bus : Port → UInt8) : Transfer → Option UInt8
  | .read p => some (bus p)
  | .write _ _ | .delay => none

theorem Chip.data_of_mask {c : Chip} (h : c.expected = .mask) (v : UInt8) :
    c.data v = { c with mask := v } := by
  cases c
  subst h
  rfl

namespace Chips

/-- Vectors 32 to 47, with the second chip on line 2 of the first. -/
structure Remapped (cs : Chips) : Prop where
  masterBase : cs.master.vectorBase = 32
  slaveBase : cs.slave.vectorBase = 40
  masterCascade : cs.master.cascade = 0x04
  slaveCascade : cs.slave.cascade = 0x02

def Answer (cs : Chips) (bus : Port → UInt8) : Prop := ∀ p v, cs.read p = some v → bus p = v

def hear (cs : Chips) : Transferred → Chips
  | .wrote p v => cs.write p v
  | .readBack _ _ | .paused => cs

def afterBus (cs : Chips) (done : List Transferred) : Chips := done.foldl hear cs

theorem afterBus_append (cs : Chips) (done more : List Transferred) :
    cs.afterBus (done ++ more) = (cs.afterBus done).afterBus more := List.foldl_append

/-- The chips hear what the driver asked for, whatever the bus remembers. -/
theorem afterBus_transferAll (cs : Chips) (l : Latches) (ts : List Transfer) :
    cs.afterBus (transferAll l ts).2 = cs.after ts := by
  induction ts generalizing cs l with
  | nil => rfl
  | cons t ts ih =>
    have hear_transfer : cs.hear (Pic.transfer l t).2 = cs.transfer t := by cases t <;> rfl
    change (cs.hear (Pic.transfer l t).2).afterBus (transferAll (Pic.transfer l t).1 ts).2 = _
    rw [hear_transfer, ih]
    rfl

variable {cs : Chips}

theorem settled_initialise (cs : Chips) : (cs.after initialise).Settled := ⟨rfl, rfl⟩

/-- Four words bring each chip from any state to the end of its initialisation. -/
theorem remapped_initialise (cs : Chips) : (cs.after initialise).Remapped := ⟨rfl, rfl, rfl, rfl⟩

theorem after_writeMasks (h : cs.Settled) (m : Masks) :
    cs.after (writeMasks m) =
      ⟨{ cs.master with mask := m.master }, { cs.slave with mask := m.slave }⟩ := by
  have hdata : cs.after (writeMasks m) =
      ⟨cs.master.data m.master, cs.slave.data m.slave⟩ := rfl
  rw [hdata, Chip.data_of_mask h.1, Chip.data_of_mask h.2]

theorem after_acknowledge (cs : Chips) (line : UInt8) : cs.after (acknowledge line) = cs := by
  unfold acknowledge
  split <;> rfl

end Chips

theorem transferAll_append (l : Latches) (ts us : List Transfer) :
    (transferAll l (ts ++ us)).1 = (transferAll (transferAll l ts).1 us).1 := by
  induction ts generalizing l with
  | nil => rfl
  | cons t ts ih => exact ih (transfer l t).1

def Latched (l : Latches) (m : Masks) : Prop :=
  l.read Port.pic1Data = m.master ∧ l.read Port.pic2Data = m.slave

theorem latched_writeMasks (l : Latches) (m : Masks) :
    Latched (transferAll l (writeMasks m)).1 m := by
  have hwrites : (transferAll l (writeMasks m)).1 =
      (l.write Port.pic1Data m.master).write Port.pic2Data m.slave := rfl
  rw [hwrites]
  constructor
  · rw [Latches.read_write_of_ne _ _ (by decide), Latches.read_write_self]
  · exact Latches.read_write_self _ _ _

theorem Latched.write {l : Latches} {m : Masks} (h : Latched l m) {p : Port}
    (hmaster : Port.pic1Data ≠ p) (hslave : Port.pic2Data ≠ p) (v : UInt8) :
    Latched (l.write p v) m := by
  constructor
  · rw [Latches.read_write_of_ne _ _ hmaster]
    exact h.1
  · rw [Latches.read_write_of_ne _ _ hslave]
    exact h.2

theorem Latched.acknowledge {l : Latches} {m : Masks} (h : Latched l m) (line : UInt8) :
    Latched (transferAll l (acknowledge line)).1 m := by
  by_cases hline : line < linesPerChip
  · rw [Pic.acknowledge, if_pos hline]
    exact h.write (by decide) (by decide) endWord
  · rw [Pic.acknowledge, if_neg hline]
    have hslave := h.write (p := Port.pic2Command) (by decide) (by decide) endWord
    exact hslave.write (p := Port.pic1Command) (by decide) (by decide) endWord

/-- The driver, the ports and the chips after commands. -/
structure Agreement (cmds : List Command) (d : Driver) (l : Latches) (cs : Chips) : Prop where
  settled : cs.Settled
  masks : (∃ c ∈ cmds, c.SetsMasks) → cs.masks = d.masks
  latched : (∃ c ∈ cmds, c.SetsMasks) → Latched l d.masks
  words : (∃ c ∈ cmds, c.Remaps) → cs.Remapped
  remapped : d.remapped = true ↔ ∃ c ∈ cmds, c.Remaps

section Step

variable {cmds : List Command} {c : Command} {d : Driver} {l : Latches} {cs : Chips}

theorem exists_concat {P : Command → Prop} (hc : ¬ P c) :
    (∃ x ∈ cmds ++ [c], P x) ↔ ∃ x ∈ cmds, P x := by
  simp [hc]

theorem agreement_fresh (l : Latches) (h : cs.Settled) : Agreement [] {} l cs where
  settled := h
  masks := by simp
  latched := by simp
  words := by simp
  remapped := by simp

theorem Agreement.concat (h : Agreement cmds d l cs) (hc : ¬ c.SetsMasks) :
    Agreement (cmds ++ [c]) d l cs where
  settled := h.settled
  masks := by rw [exists_concat hc]; exact h.masks
  latched := by rw [exists_concat hc]; exact h.latched
  words := by rw [exists_concat (mt Command.Remaps.setsMasks hc)]; exact h.words
  remapped := by rw [exists_concat (mt Command.Remaps.setsMasks hc)]; exact h.remapped

theorem agreement_writeMasks (hs : cs.Settled) (l : Latches) {m : Masks}
    (hm : d.newMasks c = some m) (hwords : (∃ x ∈ cmds ++ [c], x.Remaps) → cs.Remapped)
    (hremapped : (d.next c).remapped = true ↔ ∃ x ∈ cmds ++ [c], x.Remaps) :
    Agreement (cmds ++ [c]) (d.next c) (transferAll l (writeMasks m)).1
      (cs.after (writeMasks m)) := by
  have hnext : (d.next c).masks = m := congrArg (·.getD d.masks) hm
  rw [Chips.after_writeMasks hs]
  constructor
  · exact hs
  · intro _
    rw [hnext]
    rfl
  · intro _
    rw [hnext]
    exact latched_writeMasks l m
  · intro hx
    obtain ⟨hmaster, hslave, hcascade, hidentity⟩ := hwords hx
    exact ⟨hmaster, hslave, hcascade, hidentity⟩
  · exact hremapped

theorem Agreement.writeMasks (h : Agreement cmds d l cs) {m : Masks}
    (hm : d.newMasks c = some m) (hc : ¬ c.Remaps) (hd : (d.next c).remapped = d.remapped) :
    Agreement (cmds ++ [c]) (d.next c) (transferAll l (Pic.writeMasks m)).1
      (cs.after (Pic.writeMasks m)) := by
  apply agreement_writeMasks h.settled l hm
  · rw [exists_concat hc]; exact h.words
  · rw [exists_concat hc, hd]; exact h.remapped

theorem Agreement.next (h : Agreement cmds d l cs) (c : Command) :
    Agreement (cmds ++ [c]) (d.next c) (transferAll l (d.transfers c)).1
      (cs.after (d.transfers c)) := by
  cases c with
  | remap m =>
    change Agreement _ _ (transferAll l (initialise ++ Pic.writeMasks m)).1
      (cs.after (initialise ++ Pic.writeMasks m))
    rw [transferAll_append, Chips.after_append]
    apply agreement_writeMasks (Chips.settled_initialise cs) _ rfl
    · intro _
      exact Chips.remapped_initialise cs
    · exact iff_of_true rfl ⟨.remap m, by simp, trivial⟩
  | setMasks m => exact h.writeMasks rfl id rfl
  | maskLine line => exact h.writeMasks rfl id rfl
  | unmaskLine line => exact h.writeMasks rfl id rfl
  | disable => exact h.writeMasks rfl id rfl
  | readMasks => exact h.concat id
  | endOfInterrupt line =>
    change Agreement _ d (transferAll l (acknowledge line)).1 (cs.after (acknowledge line))
    rw [Chips.after_acknowledge]
    have hlatched : Agreement cmds d (transferAll l (acknowledge line)).1 cs :=
      { h with latched := fun hset => (h.latched hset).acknowledge line }
    exact hlatched.concat id

theorem not_setsMasks_of_refused {e : LineError} (hc : Driver.check c = .error e) :
    ¬ c.SetsMasks := by
  have hline {line : UInt8} (hcheck : checkLine line = .error e) : ¬ line.toNat < irqLines := by
    intro hlt
    rw [checkLine, if_pos hlt] at hcheck
    cases hcheck
  cases c with
  | maskLine line => exact hline hc
  | unmaskLine line => exact hline hc
  | _ => cases hc

end Step

end Pic

namespace Board

open Pic

variable {b : Board} {cs : Chips} {cmds earlier : List Command}

theorem agreement_command (drivers : Drivers) (h : Agreement cmds b.pic b.latches cs)
    (c : Command) :
    ∃ done, (next drivers b (.command c)).events = b.events ++ done.map .bus ∧
      Agreement (cmds ++ [c]) (next drivers b (.command c)).pic
        (next drivers b (.command c)).latches (cs.afterBus done) := by
  have hnext : next drivers b (.command c) = ((command c).run b).2 := rfl
  rw [hnext]
  cases hc : Driver.check c with
  | error e =>
    rw [run_command_refused hc]
    exact ⟨[], by simp, h.concat (not_setsMasks_of_refused hc)⟩
  | ok _ =>
    rw [run_command hc]
    refine ⟨_, rfl, ?_⟩
    rw [Chips.afterBus_transferAll]
    exact h.next c

theorem agreement_run (drivers : Drivers) (h : Agreement earlier b.pic b.latches cs)
    (cmds : List Command) :
    ∃ done, (run drivers b (cmds.map .command)).events = b.events ++ done.map .bus ∧
      Agreement (earlier ++ cmds) (run drivers b (cmds.map .command)).pic
        (run drivers b (cmds.map .command)).latches (cs.afterBus done) := by
  induction cmds generalizing b cs earlier with
  | nil =>
    rw [List.append_nil]
    exact ⟨[], by simp [run], h⟩
  | cons c cmds ih =>
    obtain ⟨first, hfirst, hagree⟩ := agreement_command drivers h c
    obtain ⟨rest, hrest, hrun⟩ := ih hagree
    refine ⟨first ++ rest, ?_, ?_⟩
    · rw [List.map_append, ← List.append_assoc, ← hfirst]
      exact hrest
    · rw [Chips.afterBus_append]
      rw [List.append_assoc] at hrun
      exact hrun

theorem reply_readMasks (h : Latched b.latches b.pic.masks) :
    ((command .readMasks).run b).1 = .ok [b.pic.masks.master, b.pic.masks.slave] := by
  have hread : ((command .readMasks).run b).1 =
      .ok [b.latches.read Port.pic1Data, b.latches.read Port.pic2Data] := by
    rw [run_command rfl]
    rfl
  rw [hread, h.1, h.2]

theorem answers_readMasks {d : Driver} (h : cs.masks = d.masks) {bus : Port → UInt8}
    (hbus : cs.Answer bus) :
    (d.transfers .readMasks).filterMap (·.answer bus) = [d.masks.master, d.masks.slave] := by
  have hreads : (d.transfers .readMasks).filterMap (·.answer bus) =
      [bus Port.pic1Data, bus Port.pic2Data] := rfl
  have hmaster : bus Port.pic1Data = cs.masks.master := hbus _ _ rfl
  have hslave : bus Port.pic2Data = cs.masks.slave := hbus _ _ rfl
  rw [hreads, hmaster, hslave, h]

/-- After any commands to a fresh driver neither chip is being initialised. Once one of them gave
masks, the chips have the masks of the driver, and a read gives them back; once the controllers
were remapped, they stay so, and the driver knows. -/
theorem run_agrees_with_chips (drivers : Drivers) (b : Board) (hb : b.pic = {}) (cs : Chips)
    (hs : cs.Settled) (cmds : List Command) :
    let t := run drivers b (cmds.map .command)
    ∃ done, t.events = b.events ++ done.map .bus ∧
      (cs.afterBus done).Settled ∧
      ((∃ c ∈ cmds, c.SetsMasks) →
        (cs.afterBus done).masks = t.pic.masks ∧
        (∀ bus, (cs.afterBus done).Answer bus →
          (t.pic.transfers .readMasks).filterMap (·.answer bus) =
            [t.pic.masks.master, t.pic.masks.slave]) ∧
        ((command .readMasks).run t).1 = .ok [t.pic.masks.master, t.pic.masks.slave]) ∧
      ((∃ c ∈ cmds, c.Remaps) → (cs.afterBus done).Remapped) ∧
      (t.pic.remapped = true ↔ ∃ c ∈ cmds, c.Remaps) := by
  intro t
  have hstart : Agreement [] b.pic b.latches cs := hb ▸ agreement_fresh b.latches hs
  obtain ⟨done, hevents, h⟩ := agreement_run drivers hstart cmds
  rw [List.nil_append] at h
  refine ⟨done, hevents, h.settled, ?_, h.words, h.remapped⟩
  intro hset
  exact ⟨h.masks hset, fun _ hbus => answers_readMasks (h.masks hset) hbus,
    reply_readMasks (h.latched hset)⟩

/-- Chips with other vectors and masks, unmasked, remapped, and asked for a line that there is
not: line 12 is open in the end, and so are its cascade, the timer and the keyboard. -/
theorem run_agrees_with_chips_remapped :
    let cs : Chips := ⟨{ mask := 0xb8, vectorBase := 8 }, { mask := 0x8f, vectorBase := 0x70 }⟩
    let cmds : List Command := [.endOfInterrupt 9, .unmaskLine 3, .readMasks,
      .remap Masks.standard, .maskLine 16, .unmaskLine 12, .endOfInterrupt 12]
    let t := run notingDrivers {} (cmds.map .command)
    ({} : Board).pic = {} ∧ cs.Settled ∧ t.pic.remapped = true ∧
      ((command .readMasks).run t).1 = .ok [0xf8, 0xef] ∧
      ∃ done, t.events = done.map .bus ∧ (cs.afterBus done).masks = ⟨0xf8, 0xef⟩ ∧
        (cs.afterBus done).Remapped := by
  intro cs cmds t
  have hset : ∃ c ∈ cmds, c.SetsMasks := ⟨.remap Masks.standard, by simp [cmds], trivial⟩
  have hremap : ∃ c ∈ cmds, c.Remaps := ⟨.remap Masks.standard, by simp [cmds], trivial⟩
  have hsettled : cs.Settled := ⟨rfl, rfl⟩
  have hmasks : t.pic.masks = ⟨0xf8, 0xef⟩ := by decide
  obtain ⟨done, hevents, _, hagree, hwords, hknown⟩ :=
    run_agrees_with_chips notingDrivers {} rfl cs hsettled cmds
  have hchips : (cs.afterBus done).masks = t.pic.masks := (hagree hset).1
  have hreply : ((command .readMasks).run t).1 =
      .ok [t.pic.masks.master, t.pic.masks.slave] := (hagree hset).2.2
  rw [hmasks] at hchips hreply
  exact ⟨rfl, hsettled, hknown.mpr hremap, hreply, done, hevents, hchips, hwords hremap⟩

end Board

end InterruptCore

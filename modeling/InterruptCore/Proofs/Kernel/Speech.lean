import InterruptCore.Proofs.Kernel.Scenes
import InterruptCore.Proofs.Machine.Undisturbed
import InterruptCore.Proofs.Trap.Reports

/-! What the console and the log do to the machine, as equations. A text that is sent changes the
ports and what happened, and no more than that: the flag and the lock are back in the end,
whichever way it went. -/
namespace InterruptCore

open Kernel Machine Program Console

namespace Machine

/-- A machine apart from its ports, what happened, and the traps to come. -/
def core (m : Machine) : Machine := { m.still with latches := {}, busyReads := [], past := [] }

theorem flag_of_core {m m' : Machine} (h : m.core = m'.core) : m.flag = m'.flag :=
  (congrArg Machine.flag h :)

theorem kernel_of_core {m m' : Machine} (h : m.core = m'.core) : m.kernel = m'.kernel :=
  (congrArg Machine.kernel h :)

/-- Sends a byte to the serial port, after the reads that find it busy and one that does not. -/
def sayByte (m : Machine) (b : UInt8) : Machine :=
  ({ m with busyReads := m.busyReads.tail } : Machine).writePort (register 0) b

def spoken (m : Machine) (bytes : List UInt8) : Machine := bytes.foldl sayByte m

def wrote (m : Machine) : Sink → String → Machine
  | .serial, s => m.spoken (wire s)
  | .buffer n, s => m.record (.captured n s)

def logged (m : Machine) (line : Log.Line) : Machine :=
  match m.kernel.log.writes line with
  | some (sink, pieces) => pieces.foldl (wrote · sink ·) m
  | none => m

def heard (l : Latches) : Sink → String → List Event
  | .serial, s => (wire s).map (outEvent l Port.com1)
  | .buffer n, s => [.captured n s]

def logEvents (m : Machine) (line : Log.Line) : List Event :=
  match m.kernel.log.writes line with
  | some (sink, pieces) => pieces.flatMap (heard m.latches sink)
  | none => []

def written (m : Machine) (ws : List (Port × UInt8)) : Machine :=
  ws.foldl (fun m w => m.writePort w.1 w.2) m

variable {m m' : Machine}

theorem outEvent_congr {l l' : Latches} (h : divisorAccess l = divisorAccess l') (p : Port) :
    outEvent l p = outEvent l' p := by
  funext v
  rw [outEvent, h, outEvent]

theorem outEvent_other (l : Latches) {p : Port} (hp : p ≠ Port.com1) : outEvent l p = .out p := by
  funext v
  simp [outEvent, hp]

theorem outEvent_data {l : Latches} (h : divisorAccess l = false) :
    outEvent l Port.com1 = .character := by
  funext v
  simp [outEvent, h]

section Spoken

theorem divisorAccess_sayByte (m : Machine) (b : UInt8) :
    divisorAccess (m.sayByte b).latches = divisorAccess m.latches :=
  (divisorAccess_write m.latches (register 0) b).trans (if_neg (by decide))

theorem spoken_core (m : Machine) (bytes : List UInt8) : (m.spoken bytes).core = m.core := by
  induction bytes generalizing m with
  | nil => rfl
  | cons b bytes ih => exact ih (m.sayByte b)

theorem divisorAccess_spoken (m : Machine) (bytes : List UInt8) :
    divisorAccess (m.spoken bytes).latches = divisorAccess m.latches := by
  induction bytes generalizing m with
  | nil => rfl
  | cons b bytes ih => exact (ih (m.sayByte b)).trans (divisorAccess_sayByte m b)

theorem spoken_events (m : Machine) (bytes : List UInt8) :
    (m.spoken bytes).events = m.events ++ bytes.map (outEvent m.latches Port.com1) := by
  induction bytes generalizing m with
  | nil => exact (List.append_nil m.events).symm
  | cons b bytes ih =>
    have hbyte : (m.sayByte b).events = m.events ++ [outEvent m.latches Port.com1 b] :=
      List.reverse_cons
    have hspoken := ih (m.sayByte b)
    rw [hbyte, outEvent_congr (divisorAccess_sayByte m b), List.append_assoc] at hspoken
    exact hspoken

theorem spoken_read (m : Machine) (bytes : List UInt8) {p : Port} (hp : p ≠ Port.com1) :
    (m.spoken bytes).latches.read p = m.latches.read p := by
  induction bytes generalizing m with
  | nil => rfl
  | cons b bytes ih =>
    exact (ih (m.sayByte b)).trans (Latches.read_write_of_ne _ _ hp)

theorem spoken_reads (m : Machine) (bytes : List UInt8) :
    (m.spoken bytes).busyReads = m.busyReads.drop bytes.length := by
  induction bytes generalizing m with
  | nil => rfl
  | cons b bytes ih => exact (ih (m.sayByte b)).trans List.drop_tail

theorem spoken_append (m : Machine) (bytes more : List UInt8) :
    m.spoken (bytes ++ more) = (m.spoken bytes).spoken more := List.foldl_append

theorem spoken_with (m : Machine) (bytes : List UInt8) (flag : Bool) (k : Kernel) :
    ({ m with flag := flag, kernel := k } : Machine).spoken bytes =
      { m.spoken bytes with flag := flag, kernel := k } := by
  induction bytes generalizing m with
  | nil => rfl
  | cons b bytes ih => exact ih (m.sayByte b)

end Spoken

section Logged

theorem wrote_core (m : Machine) (sink : Sink) (s : String) : (m.wrote sink s).core = m.core := by
  cases sink with
  | serial => exact spoken_core m (wire s)
  | buffer n => rfl

theorem divisorAccess_wrote (m : Machine) (sink : Sink) (s : String) :
    divisorAccess (m.wrote sink s).latches = divisorAccess m.latches := by
  cases sink with
  | serial => exact divisorAccess_spoken m (wire s)
  | buffer n => rfl

theorem wrote_events (m : Machine) (sink : Sink) (s : String) :
    (m.wrote sink s).events = m.events ++ heard m.latches sink s := by
  cases sink with
  | serial => exact spoken_events m (wire s)
  | buffer n => exact List.reverse_cons

theorem wrote_read (m : Machine) (sink : Sink) (s : String) {p : Port} (hp : p ≠ Port.com1) :
    (m.wrote sink s).latches.read p = m.latches.read p := by
  cases sink with
  | serial => exact spoken_read m (wire s) hp
  | buffer n => rfl

theorem foldl_wrote {ρ : Type} (part : Machine → ρ) (sink : Sink)
    (h : ∀ m s, part (m.wrote sink s) = part m) (m : Machine) (pieces : List String) :
    part (pieces.foldl (wrote · sink ·) m) = part m := by
  induction pieces generalizing m with
  | nil => rfl
  | cons s pieces ih => exact (ih (m.wrote sink s)).trans (h m s)

theorem logged_part {ρ : Type} (part : Machine → ρ)
    (h : ∀ m sink s, part (m.wrote sink s) = part m) (m : Machine) (line : Log.Line) :
    part (m.logged line) = part m := by
  unfold logged
  split
  · exact foldl_wrote part _ (fun m => h m _) m _
  · rfl

theorem logged_core (m : Machine) (line : Log.Line) : (m.logged line).core = m.core :=
  logged_part core wrote_core m line

theorem logged_read (m : Machine) (line : Log.Line) {p : Port} (hp : p ≠ Port.com1) :
    (m.logged line).latches.read p = m.latches.read p :=
  logged_part (·.latches.read p) (fun m sink s => wrote_read m sink s hp) m line

theorem logged_events (m : Machine) (line : Log.Line) :
    (m.logged line).events = m.events ++ m.logEvents line := by
  -- Where a byte goes hangs on the bit for the divisor, which no byte changes.
  have hpieces : ∀ (sink : Sink) (pieces : List String) (m : Machine),
      (pieces.foldl (wrote · sink ·) m).events =
        m.events ++ pieces.flatMap (heard m.latches sink) := by
    intro sink pieces
    induction pieces with
    | nil => exact fun m => (List.append_nil m.events).symm
    | cons s pieces ih =>
      intro m
      have hheard : heard (m.wrote sink s).latches sink = heard m.latches sink := by
        cases sink with
        | serial =>
          funext s'
          rw [heard, outEvent_congr (divisorAccess_wrote m .serial s), heard]
        | buffer n => rfl
      rw [List.foldl_cons, ih, wrote_events, hheard, List.append_assoc, List.flatMap_cons]
  unfold logged logEvents
  split
  · exact hpieces _ _ m
  · exact (List.append_nil m.events).symm

theorem mem_logEvents {line : Log.Line} {e : Event} (he : e ∈ m.logEvents line) :
    (∃ b, e = outEvent m.latches Port.com1 b) ∨ ∃ n s, e = .captured n s := by
  unfold logEvents at he
  split at he
  · rename_i sink pieces _
    obtain ⟨s, -, hs⟩ := List.mem_flatMap.mp he
    cases sink with
    | serial =>
      obtain ⟨b, -, rfl⟩ := List.mem_map.mp hs
      exact .inl ⟨b, rfl⟩
    | buffer n => exact .inr ⟨n, s, List.mem_singleton.mp hs⟩
  · exact absurd he List.not_mem_nil

end Logged

section Written

variable {ws : List (Port × UInt8)}

theorem written_core (m : Machine) (ws : List (Port × UInt8)) : (m.written ws).core = m.core := by
  induction ws generalizing m with
  | nil => rfl
  | cons w ws ih => exact ih (m.writePort w.1 w.2)

theorem written_with (m : Machine) (ws : List (Port × UInt8)) (flag : Bool) (k : Kernel) :
    ({ m with flag := flag, kernel := k } : Machine).written ws =
      { m.written ws with flag := flag, kernel := k } := by
  induction ws generalizing m with
  | nil => rfl
  | cons w ws ih => exact ih (m.writePort w.1 w.2)

/-- While the divisor is set, the data port takes no text. -/
theorem written_setup_events (m : Machine) :
    (m.written setup).events = m.events ++ setup.map fun w => .out w.1 w.2 := by
  have hdivisor : ∀ (l : Latches), outEvent ((l.write (register 1) 0x00).write (register 3) 0x80)
      (register 0) 0x01 = .out (register 0) 0x01 := by
    intro l
    have haccess : divisorAccess ((l.write (register 1) 0x00).write (register 3) 0x80) = true :=
      (divisorAccess_write _ (register 3) 0x80).trans (if_pos rfl)
    simp [outEvent, haccess]
  simp only [written, setup, List.foldl_cons, List.foldl_nil, writePort, events,
    List.reverse_cons, List.map_cons, List.map_nil, hdivisor,
    outEvent_other _ (show register 1 ≠ Port.com1 by decide),
    outEvent_other _ (show register 2 ≠ Port.com1 by decide),
    outEvent_other _ (show register 3 ≠ Port.com1 by decide),
    outEvent_other _ (show register 4 ≠ Port.com1 by decide), List.append_assoc,
    List.cons_append, List.nil_append]

theorem written_setup_read (m : Machine) :
    (m.written setup).latches.read lineControl = 0x03 := by
  have hcontrol : lineControl = register 3 := rfl
  simp only [written, setup, List.foldl_cons, List.foldl_nil, writePort, hcontrol]
  rw [Latches.read_write_of_ne _ _ (by decide), Latches.read_write_of_ne _ _ (by decide),
    Latches.read_write_self]

end Written

end Machine

namespace Kernel

/-- What the console asks for when it does not wait for its lock. -/
def Talks : Request → Prop
  | .poll _ | .interruptFlag | .clearFlag | .setFlag | .tryAcquire .serial
  | .release .serial | .capture _ _ => True
  | .memory f => f = id
  | .out p _ => p = register 0
  | _ => False

def tables (k : Kernel) : Irq.Table Handler × List UInt64 × GateTable × Pic.Driver :=
  (k.irqs, k.segments, k.gates, k.pic)

def OnConsole (p : Port) : Prop := 0x3f8 ≤ p.number.toNat ∧ p.number.toNat < 0x400

/-- Reaches the ports of the console and no others, loads nothing, and leaves the tables alone. -/
def StaysOnConsole : Request → Prop
  | .out p _ => OnConsole p
  | .poll w => OnConsole w.port
  | .memory f => ∀ k, (f k).tables = k.tables
  | .input _ | .loadSegmentTable _ | .loadGateTable _ | .loadSegment _ _ => False
  | _ => True

/-- A step of code that talks: the flag is set only where it was set at its start. -/
structure Talking (flag : Bool) (x : Request × Machine) : Prop where
  request : Talks x.1
  flag : x.2.flag = true → flag = true

structure Calm (flag : Bool) (x : Request × Machine) : Prop where
  request : ¬ x.1.IsWait
  console : StaysOnConsole x.1
  flag : x.2.flag = true → flag = true

theorem Talking.calm {flag : Bool} {x : Request × Machine} (h : Talking flag x) : Calm flag x := by
  have htalks := h.request
  obtain ⟨r, x⟩ := x
  refine ⟨?_, ?_, h.flag⟩
  · cases r with
    | halt => exact fun _ => htalks
    | haltWhile waiting => exact fun _ => htalks
    | haltForever => exact fun _ => htalks
    | _ => exact nofun
  · cases r with
    | out p v =>
      have hp : p = register 0 := htalks
      rw [hp]
      exact ⟨by decide, by decide⟩
    | poll w =>
      change OnConsole w.port
      rw [w.comes.1]
      exact ⟨by decide, by decide⟩
    | memory f =>
      have hf : f = id := htalks
      rw [hf]
      exact fun _ => rfl
    | input p => exact htalks
    | loadSegmentTable p => exact htalks
    | loadGateTable p => exact htalks
    | loadSegment r s => exact htalks
    | _ => trivial

structure Sending (m : Machine) (x : Request × Machine) : Prop where
  request : x.1 = .poll transmitter ∨ ∃ b, x.1 = .out (register 0) b
  core : x.2.core = m.core

theorem Sending.talking {m : Machine} {x : Request × Machine} (h : Sending m x) :
    Talking m.flag x := by
  have hflag : x.2.flag = m.flag := flag_of_core h.core
  refine ⟨?_, fun hx => hflag ▸ hx⟩
  rcases h.request with hr | ⟨b, hr⟩
  · rw [hr]
    trivial
  · rw [hr]
    rfl

variable {m : Machine}

theorem walks_bytes (m : Machine) (bytes : List UInt8) :
    Walks (Sending m) (bytes.forM sendByte) m (.answered () (m.spoken bytes)) := by
  refine Walks.forM (I := fun x => x.core = m.core) ?_ rfl
  intro b _ x hx
  refine ⟨?_, hx⟩
  apply Walks.ask (r := .poll transmitter) nofun ⟨.inl rfl, hx⟩ (perform_poll x transmitter)
  exact Walks.ask (r := .out (register 0) b) nofun ⟨.inr ⟨b, rfl⟩, hx⟩ rfl (.done () _)

theorem walks_sendAll (m : Machine) (pieces : List String) :
    Walks (Sending m) (sendAll pieces) m (.answered () (m.spoken (pieces.flatMap wire))) := by
  rw [sendAll_eq]
  exact walks_bytes m _

theorem walks_restoreFlag {flag : Bool} (hm : m.flag = false) (found : Bool) :
    Walks (Talking flag) (restoreFlag found) m (.answered () { m with flag := found }) := by
  have hoff : m.flag = true → flag = true := fun h => absurd (hm.symm.trans h) Bool.false_ne_true
  cases found with
  | false =>
    have hsame : ({ m with flag := false } : Machine) = m := by rw [← hm]
    rw [hsame]
    exact .done () m
  | true => exact .ask (r := .setFlag) nofun ⟨trivial, hoff⟩ rfl (.done () _)

abbrev holder (m : Machine) : Machine := mapLocks { m with flag := false } (·.take .serial)

theorem walks_release {flag : Bool} {t : Machine} (hfree : m.kernel.locks.free .serial = true)
    (hflag : t.flag = m.flag) (hkernel : t.kernel = m.kernel) :
    Walks (Talking flag) (release .serial >>= fun _ => restoreFlag m.flag)
      { t with flag := false, kernel := (holder m).kernel } (.answered () t) := by
  have hrelease : perform (.release .serial) { t with
      flag := false, kernel := (holder m).kernel } =
        .answered () { t with flag := false, kernel := t.kernel } := by
    change Outcome.answered () { t with
      flag := false
      kernel := { m.kernel with locks := (m.kernel.locks.take .serial).drop .serial } } = _
    rw [Locks.drop_take hfree, hkernel]
  rw [← hflag]
  apply Walks.ask (r := .release .serial) nofun ⟨trivial, nofun⟩ hrelease
  exact walks_restoreFlag (m := { t with flag := false }) rfl t.flag

theorem walks_held {flag : Bool} (hfree : m.kernel.locks.free .serial = true)
    (pieces : List String) :
    Walks (Talking flag)
      (sendAll pieces >>= fun _ => release .serial >>= fun _ => restoreFlag m.flag)
      (holder m) (.answered () (m.spoken (pieces.flatMap wire))) := by
  have hcore := spoken_core m (pieces.flatMap wire)
  have hsent : (holder m).spoken (pieces.flatMap wire) =
      { m.spoken (pieces.flatMap wire) with flag := false, kernel := (holder m).kernel } :=
    spoken_with m _ _ _
  refine ((walks_sendAll _ pieces).mono fun x hx => ?_).bind ?_
  · exact ⟨hx.talking.request, fun h => absurd (hx.talking.flag h) Bool.false_ne_true⟩
  · rw [hsent]
    exact walks_release hfree (flag_of_core hcore) (kernel_of_core hcore)

/-- With the port free its lock is taken and given back; with the port held the body runs
without it. Either way there are the same bytes, and nothing else has changed. -/
theorem walks_emergency (m : Machine) (pieces : List String) :
    Walks (Talking m.flag) (emergency pieces) m
      (.answered () (m.spoken (pieces.flatMap wire))) := by
  have hform : emergency pieces =
      .ask .interruptFlag fun found => .ask .clearFlag fun _ => .ask (.tryAcquire .serial)
        fun taken => if taken then sendAll pieces >>= fun _ => release .serial >>= fun _ =>
            restoreFlag found
          else restoreFlag found >>= fun _ => sendAll pieces := rfl
  rw [hform]
  apply Walks.ask (r := .interruptFlag) nofun ⟨trivial, id⟩ rfl
  apply Walks.ask (r := .clearFlag) nofun ⟨trivial, id⟩ rfl
  cases hfree : m.kernel.locks.free .serial with
  | true =>
    have htaken : perform (.tryAcquire .serial) { m with flag := false } =
        .answered true (holder m) := if_pos hfree
    apply Walks.ask (r := .tryAcquire .serial) nofun ⟨trivial, nofun⟩ htaken
    rw [if_pos rfl]
    exact walks_held hfree pieces
  | false =>
    have htaken : perform (.tryAcquire .serial) { m with flag := false } =
        .answered false { m with flag := false } := if_neg (Bool.eq_false_iff.mp hfree)
    apply Walks.ask (r := .tryAcquire .serial) nofun ⟨trivial, nofun⟩ htaken
    rw [if_neg Bool.false_ne_true]
    apply (walks_restoreFlag (m := { m with flag := false }) rfl m.flag).bind
    exact (walks_sendAll m pieces).mono fun x hx => hx.talking

theorem walks_sink (m : Machine) (sink : Sink) (s : String) :
    Walks (Talking m.flag) (sink.write s) m (.answered () (m.wrote sink s)) := by
  cases sink with
  | serial =>
    have hspoken := walks_emergency m [s]
    rwa [List.flatMap_singleton] at hspoken
  | buffer n => exact .ask (r := .capture n s) nofun ⟨trivial, id⟩ rfl (.done () _)

theorem walks_writeLog (m : Machine) (line : Log.Line) :
    Walks (Talking m.flag) (writeLog line) m (.answered () (m.logged line)) := by
  have hform : writeLog line = .ask (.memory id) fun k =>
      match k.log.writes line with
      | some (sink, pieces) => pieces.forM sink.write
      | none => .done () := rfl
  rw [hform]
  apply Walks.memory ⟨rfl, id⟩
  unfold logged
  cases m.kernel.log.writes line with
  | none => exact .done () m
  | some w =>
    refine Walks.forM (I := fun x => x.core = m.core) ?_ rfl
    intro s _ x hx
    have hflag : x.flag = m.flag := flag_of_core hx
    exact ⟨hflag ▸ walks_sink x w.1 s, (wrote_core x w.1 s).trans hx⟩

theorem walks_logs (m : Machine) (lines : List Log.Line) :
    Walks (Talking m.flag) (lines.forM writeLog) m (.answered () (lines.foldl logged m)) := by
  refine Walks.forM (I := fun x => x.core = m.core) ?_ rfl
  intro line _ x hx
  have hflag : x.flag = m.flag := flag_of_core hx
  exact ⟨hflag ▸ walks_writeLog x line, (logged_core x line).trans hx⟩

theorem walks_locked (hfree : m.kernel.locks.free .serial = true) {body : Program Unit}
    {o : Outcome Unit}
    (h : Walks (Calm m.flag)
      (body >>= fun _ => release .serial >>= fun _ => restoreFlag m.flag) (holder m) o) :
    Walks (Calm m.flag) (locked body) m o := by
  have hform : locked body =
      .ask .interruptFlag fun found => .ask .clearFlag fun _ => .ask (.acquire .serial)
        fun _ => body >>= fun _ => release .serial >>= fun _ => restoreFlag found := rfl
  have hacquire : perform (.acquire .serial) { m with flag := false } =
      .answered () (holder m) := if_pos hfree
  rw [hform]
  apply Walks.ask (r := .interruptFlag) nofun ⟨nofun, trivial, id⟩ rfl
  apply Walks.ask (r := .clearFlag) nofun ⟨nofun, trivial, id⟩ rfl
  exact Walks.ask (r := .acquire .serial) nofun ⟨nofun, trivial, nofun⟩ hacquire h

theorem walks_print (hfree : m.kernel.locks.free .serial = true) (pieces : List String) :
    Walks (Calm m.flag) (print pieces) m (.answered () (m.spoken (pieces.flatMap wire))) := by
  apply walks_locked hfree
  exact (walks_held hfree pieces).mono fun x hx => hx.calm

theorem walks_writes (m : Machine) {ws : List (Port × UInt8)}
    (hws : ∀ w ∈ ws, StaysOnConsole (.out w.1 w.2)) :
    Walks (Calm m.flag) (ws.forM fun w => out w.1 w.2) m (.answered () (m.written ws)) := by
  refine Walks.forM (I := fun x => x.core = m.core) ?_ rfl
  intro w hw x hx
  have hflag : x.flag = m.flag := flag_of_core hx
  refine ⟨?_, hx⟩
  exact Walks.ask (r := .out w.1 w.2) nofun ⟨nofun, hws w hw, fun h => hflag ▸ h⟩ rfl (.done () _)

def markReady (k : Kernel) : Kernel := { k with serialReady := k.serialReady.mark }

def attachSerial (k : Kernel) : Kernel := { k with log := k.log.attach .serial }

/-- The port is set up and is the sink of the log, if there was none. -/
def initialised (m : Machine) : Machine :=
  { m.written setup with kernel := attachSerial (markReady m.kernel) }

theorem initialised_latches (m : Machine) : (initialised m).latches = (m.written setup).latches :=
  rfl

theorem initialised_read (m : Machine) : (initialised m).latches.read lineControl = 0x03 := by
  rw [initialised_latches, written_setup_read]

theorem initialised_events (m : Machine) :
    (initialised m).events = m.events ++ setup.map fun w => .out w.1 w.2 := by
  rw [← written_setup_events]
  unfold initialised events
  rfl

theorem initialised_kernel (m : Machine) :
    (initialised m).kernel = attachSerial (markReady m.kernel) := rfl

theorem initialised_flag (m : Machine) : (initialised m).flag = m.flag := by
  have hwritten : (m.written setup).flag = m.flag := flag_of_core (written_core m setup)
  exact hwritten

theorem walks_lockedWrites (hfree : m.kernel.locks.free .serial = true)
    {ws : List (Port × UInt8)} (hws : ∀ w ∈ ws, StaysOnConsole (.out w.1 w.2)) :
    Walks (Calm m.flag) (locked (ws.forM fun w => out w.1 w.2)) m
      (.answered () (m.written ws)) := by
  have hcore := written_core m ws
  have hwritten : (holder m).written ws =
      { m.written ws with flag := false, kernel := (holder m).kernel } := written_with m _ _ _
  apply walks_locked hfree
  refine ((walks_writes _ hws).mono fun x hx => ?_).bind ?_
  · exact ⟨hx.request, hx.console, fun h => absurd (hx.flag h) Bool.false_ne_true⟩
  · rw [hwritten]
    exact (walks_release hfree (flag_of_core hcore)
      (kernel_of_core hcore)).mono fun x hx => hx.calm

theorem initialised_eq (m : Machine) :
    initialised m =
      { ({ m with kernel := markReady m.kernel } : Machine).written setup with
        kernel := attachSerial (markReady m.kernel) } := by
  have hwith := written_with m setup m.flag (markReady m.kernel)
  rw [initialised, hwith, ← flag_of_core (written_core m setup)]

theorem walks_init (hready : m.kernel.serialReady.isSet = false)
    (hfree : m.kernel.locks.free .serial = true) :
    Walks (Calm m.flag) Console.init m (.answered () (initialised m)) := by
  have hform : Console.init =
      .ask (.memory markReady) fun before =>
        if before.serialReady.isSet then .done () else
          locked (setup.forM fun w => out w.1 w.2) >>= fun _ => change attachSerial := rfl
  have hcore := written_core { m with kernel := markReady m.kernel } setup
  rw [hform, initialised_eq]
  apply Walks.memory ⟨nofun, fun _ => rfl, id⟩
  rw [if_neg (Bool.eq_false_iff.mp hready)]
  have hsetup : ∀ w ∈ setup, StaysOnConsole (.out w.1 w.2) := by
    intro w hw
    have hports : ∀ w ∈ setup, 0x3f8 ≤ w.1.number.toNat ∧ w.1.number.toNat < 0x400 := by decide
    exact hports w hw
  apply (walks_lockedWrites (m := { m with kernel := markReady m.kernel }) hfree hsetup).bind
  have hflag : (({ m with kernel := markReady m.kernel } : Machine).written setup).flag = m.flag :=
    (flag_of_core hcore :)
  have hkernel : (({ m with kernel := markReady m.kernel } : Machine).written setup).kernel =
      markReady m.kernel := (kernel_of_core hcore :)
  rw [← hkernel]
  exact .memory ⟨nofun, fun _ => rfl, fun h => hflag ▸ h⟩ (.done () _)

section Print

variable (hfree : m.kernel.locks.free .serial = true) (pieces : List String)
include hfree

theorem steps_print_eq :
    (print pieces).steps m =
      [(.interruptFlag, m), (.clearFlag, m), (.acquire .serial, { m with flag := false })] ++
        (sendAll pieces >>= fun _ => release .serial >>= fun _ => restoreFlag m.flag).steps
          (holder m) := by
  have hacquire : perform (.acquire .serial) { m with flag := false } =
      .answered () (holder m) := if_pos hfree
  have hform : (print pieces).steps m =
      (.interruptFlag, m) :: (.clearFlag, m) :: (.acquire .serial, { m with flag := false }) ::
        (perform (.acquire .serial) { m with flag := false }).afterwards fun _ x =>
          (sendAll pieces >>= fun _ => release .serial >>= fun _ => restoreFlag m.flag).steps x :=
    rfl
  rw [hform, hacquire]
  rfl

/-- Under the lock the flag is clear; before and after, nothing is written to a port. -/
theorem steps_print :
    ∃ before line after, (print pieces).steps m = before ++ line ++ after ∧
      (∀ x ∈ before ++ after, ∀ p v, x.1 ≠ .out p v) ∧ ∀ x ∈ line, x.2.flag = false := by
  have hsend := walks_sendAll (holder m) pieces
  rw [steps_print_eq hfree, steps_bind, hsend.walk, ← List.append_assoc]
  refine ⟨_, _, _, rfl, ?_, fun x hx => (flag_of_core (hsend.steps x hx).core :)⟩
  intro x hx p v
  rcases List.mem_append.mp hx with hx | hx
  · simp only [List.mem_cons, List.not_mem_nil, or_false] at hx
    rcases hx with rfl | rfl | rfl <;> exact nofun
  · cases hfound : m.flag <;> rw [hfound] at hx
    · rw [List.mem_singleton.mp hx]
      exact nofun
    · rcases List.mem_cons.mp hx with rfl | hx
      · exact nofun
      · rw [List.mem_singleton.mp hx]
        exact nofun

end Print

end Kernel

end InterruptCore

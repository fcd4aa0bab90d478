import InterruptCore.Proofs.Kernel.Speech

/-! What the serial port sends is the text, whatever the path: the bytes of its encoding, with a
carriage return before each line feed. Lines and formatted text go under the lock of the port; the
log and emergencies go past it where it is held, and leave it as it is. -/
namespace InterruptCore

open Kernel Machine Program Console

namespace Text

/-- The bytes of a text on the wire: those of its encoding, each line feed after a carriage
return. -/
def stream (s : String) : List UInt8 :=
  s.toUTF8.data.toList.flatMap fun b => if b = 10 then [13, 10] else [b]

theorem utf8_eq_toUTF8 (s : String) : utf8 s = s.toUTF8.data.toList := by
  have hbytes : s.toUTF8 = s.toList.utf8Encode := String.utf8Encode_toList.symm
  rw [hbytes, List.utf8Encode, List.data_toByteArray, List.toList_toArray]
  rfl

theorem wire_eq_stream (s : String) : wire s = stream s := by
  rw [wire, utf8_eq_toUTF8, stream]
  congr 1
  funext b
  by_cases hb : b = 10
  · rw [if_pos hb, if_pos hb, hb]
  · rw [if_neg hb, if_neg hb]

theorem wire_append (s t : String) : wire (s ++ t) = wire s ++ wire t := by
  rw [wire, utf8, String.toList_append, List.flatMap_append, List.flatMap_append]
  rfl

theorem stream_append (s t : String) : stream (s ++ t) = stream s ++ stream t := by
  rw [← wire_eq_stream, ← wire_eq_stream, ← wire_eq_stream, wire_append]

theorem stream_join (pieces : List String) : stream (String.join pieces) = pieces.flatMap wire := by
  induction pieces with
  | nil => rfl
  | cons p pieces ih => rw [String.join_cons, stream_append, ih, List.flatMap_cons, wire_eq_stream]

end Text

open Text

namespace Machine

/-- A byte that goes to the data port, with the busy reads that are left to come after it. -/
def sent : Request × Machine → Option (UInt8 × List Nat)
  | (.out p v, m) => if p = Port.com1 then some (v, m.busyReads) else none
  | _ => none

theorem sent_still (x : Request × Machine) : sent (Prod.map id still x) = sent x := by
  obtain ⟨r, m⟩ := x
  cases r <;> rfl

/-- Bytes that go out one after the other, each when the busy reads before it are over. -/
def timed : List UInt8 → List Nat → List (UInt8 × List Nat)
  | [], _ => []
  | b :: bytes, reads => (b, reads.tail) :: timed bytes reads.tail

theorem timed_append (bytes more : List UInt8) (reads : List Nat) :
    timed (bytes ++ more) reads = timed bytes reads ++ timed more (reads.drop bytes.length) := by
  induction bytes generalizing reads with
  | nil => rfl
  | cons b bytes ih =>
    rw [List.cons_append, timed, timed, ih, List.cons_append, List.drop_tail, List.length_cons]

/-- A program that sends these bytes and changes nothing else. -/
structure Sends (p : Program Unit) (m : Machine) (bytes : List UInt8) : Prop where
  sent : (p.steps m).filterMap sent = timed bytes m.busyReads
  walk : p.walk m = .answered () (m.spoken bytes)

namespace Sends

variable {m : Machine} {p : Program Unit} {bytes more : List UInt8}

theorem bind {f : Unit → Program Unit} (h : Sends p m bytes)
    (hf : Sends (f ()) (m.spoken bytes) more) : Sends (p >>= f) m (bytes ++ more) := by
  constructor
  · rw [steps_bind, h.walk, List.filterMap_append, h.sent, Outcome.afterwards, hf.sent,
      spoken_reads, timed_append]
  · rw [walk_bind, h.walk, spoken_append]
    exact hf.walk

theorem forM {ι : Type} {xs : List ι} {f : ι → Program Unit} {g : ι → List UInt8}
    (h : ∀ x ∈ xs, ∀ m' : Machine, m'.core = m.core → Sends (f x) m' (g x)) :
    Sends (xs.forM f) m (xs.flatMap g) := by
  induction xs generalizing m with
  | nil => exact ⟨rfl, rfl⟩
  | cons x xs ih =>
    have hcore := spoken_core m (g x)
    rw [List.flatMap_cons]
    apply (h x List.mem_cons_self m rfl).bind
    exact ih fun y hy m' hm' => h y (List.mem_cons_of_mem x hy) m' (hm'.trans hcore)

end Sends

end Machine

namespace Kernel

/-- Calls that send text, with the pieces in which they send it. -/
inductive Output where
  | line (s : String)
  | print (pieces : List String)
  | emergency (pieces : List String)
  | sink (s : String)
  | report (pieces : List String)
  deriving DecidableEq, Repr

namespace Output

def run : Output → Program Unit
  | line s => writeLine s
  | print pieces => Console.print pieces
  | emergency pieces => Console.emergency pieces
  | sink s => Sink.serial.write s
  | report pieces => Console.report pieces

def text : Output → String
  | line s => s ++ "\n"
  | print pieces | emergency pieces | report pieces => String.join pieces
  | sink s => s

def Waits : Output → Prop
  | line _ | print _ => True
  | _ => False

end Output

variable {m : Machine} {o : Output} {outputs : List Output}

theorem foldl_spoken (m : Machine) (pieces : List String) :
    pieces.foldl (fun m p => m.spoken (wire p)) m = m.spoken (pieces.flatMap wire) := by
  induction pieces generalizing m with
  | nil => rfl
  | cons p pieces ih => rw [List.foldl_cons, ih, List.flatMap_cons, spoken_append]

theorem sends_byte (m : Machine) (b : UInt8) : Sends (sendByte b) m [b] := by
  constructor
  · have hsteps : (sendByte b).steps m = (.poll transmitter, m) ::
        (perform (.poll transmitter) m).afterwards fun _ m => [(.out (register 0) b, m)] := rfl
    rw [hsteps, perform_poll]
    rfl
  · have hwalk : (sendByte b).walk m =
        (perform (.poll transmitter) m).bind fun _ m => perform (.out (register 0) b) m := rfl
    rw [hwalk, perform_poll]
    rfl

theorem sends_all (m : Machine) (pieces : List String) :
    Sends (sendAll pieces) m (pieces.flatMap wire) := by
  refine .forM fun p _ m' _ => ?_
  have hpiece : Sends (send p) m' ((wire p).flatMap ([·])) := .forM fun b _ m' _ => sends_byte m' b
  rwa [List.flatMap_singleton'] at hpiece

theorem sent_release (found : Bool) (m : Machine) :
    ((release .serial >>= fun _ => restoreFlag found).steps m).filterMap sent = [] := by
  cases found <;> rfl

theorem sent_restoreFlag (found : Bool) (m : Machine) :
    ((restoreFlag found).steps m).filterMap sent = [] := by
  cases found <;> rfl

theorem sent_held (m : Machine) (pieces : List String) :
    ((sendAll pieces >>= fun _ => release .serial >>= fun _ => restoreFlag m.flag).steps
      (holder m)).filterMap sent = timed (pieces.flatMap wire) m.busyReads := by
  have hsends := sends_all (holder m) pieces
  rw [steps_bind, hsends.walk, List.filterMap_append, hsends.sent, Outcome.afterwards,
    sent_release, List.append_nil]
  rfl

theorem sends_emergency (m : Machine) (pieces : List String) :
    Sends (emergency pieces) m (pieces.flatMap wire) := by
  refine ⟨?_, (walks_emergency m pieces).walk⟩
  have hsteps : (emergency pieces).steps m =
      (.interruptFlag, m) :: (.clearFlag, m) :: (.tryAcquire .serial, { m with flag := false }) ::
        (perform (.tryAcquire .serial) { m with flag := false }).afterwards fun taken x =>
          (if taken then sendAll pieces >>= fun _ => release .serial >>= fun _ =>
              restoreFlag m.flag
            else restoreFlag m.flag >>= fun _ => sendAll pieces).steps x := rfl
  rw [hsteps]
  cases hfree : m.kernel.locks.free .serial with
  | true =>
    have htaken : perform (.tryAcquire .serial) { m with flag := false } =
        .answered true (holder m) := if_pos hfree
    rw [htaken]
    exact sent_held m pieces
  | false =>
    have htaken : perform (.tryAcquire .serial) { m with flag := false } =
        .answered false { m with flag := false } := if_neg (Bool.eq_false_iff.mp hfree)
    have hrestored : Walks (Talking m.flag) (restoreFlag m.flag) { m with flag := false }
        (.answered () m) := walks_restoreFlag rfl m.flag
    rw [htaken]
    change ((restoreFlag m.flag >>= fun _ => sendAll pieces).steps
      { m with flag := false }).filterMap sent = _
    rw [steps_bind, hrestored.walk, List.filterMap_append, sent_restoreFlag, List.nil_append]
    exact (sends_all m pieces).sent

theorem sends_print (hfree : m.kernel.locks.free .serial = true) (pieces : List String) :
    Sends (print pieces) m (pieces.flatMap wire) := by
  refine ⟨?_, (walks_print hfree pieces).walk⟩
  rw [steps_print_eq hfree, List.filterMap_append]
  exact sent_held m pieces

theorem walks_report (m : Machine) (pieces : List String) :
    Walks (Talking m.flag) (report pieces) m (.answered () (m.spoken (pieces.flatMap wire))) := by
  rw [← foldl_spoken]
  refine Walks.forM (I := fun x => x.core = m.core) ?_ rfl
  intro p _ x hx
  have hpiece := walks_emergency x [p]
  rw [List.flatMap_singleton, flag_of_core hx] at hpiece
  exact ⟨hpiece, (spoken_core x (wire p)).trans hx⟩

/-- A call that does not wait sends its text whether the port is free or held. -/
theorem walks_passing (m : Machine) (ho : ¬ o.Waits) :
    Walks (Talking m.flag) o.run m (.answered () (m.spoken (stream o.text))) := by
  cases o with
  | line s => exact absurd trivial ho
  | print pieces => exact absurd trivial ho
  | emergency pieces =>
    rw [Output.text, stream_join]
    exact walks_emergency m pieces
  | sink s =>
    rw [Output.text, ← wire_eq_stream]
    exact walks_sink m .serial s
  | report pieces =>
    rw [Output.text, stream_join]
    exact walks_report m pieces

theorem sends_output (m : Machine) (hfree : o.Waits → m.kernel.locks.free .serial = true) :
    Sends o.run m (stream o.text) := by
  cases o with
  | line s =>
    have hpieces : [s, "\n"].flatMap wire = stream (s ++ "\n") := by
      rw [← stream_join]
      rfl
    rw [Output.text, ← hpieces]
    exact sends_print (hfree trivial) [s, "\n"]
  | print pieces =>
    rw [Output.text, stream_join]
    exact sends_print (hfree trivial) pieces
  | emergency pieces =>
    rw [Output.text, stream_join]
    exact sends_emergency m pieces
  | sink s =>
    rw [Output.text, ← wire_eq_stream, ← List.flatMap_singleton (f := wire)]
    exact sends_emergency m [s]
  | report pieces =>
    rw [Output.text, stream_join]
    refine .forM fun p _ m' _ => ?_
    rw [← List.flatMap_singleton (f := wire)]
    exact sends_emergency m' [p]

theorem sends_outputs (m : Machine)
    (hfree : ∀ o ∈ outputs, o.Waits → m.kernel.locks.free .serial = true) :
    Sends (outputs.forM Output.run) m (stream (String.join (outputs.map Output.text))) := by
  have hall : Sends (outputs.forM Output.run) m (outputs.flatMap fun o => stream o.text) := by
    refine .forM fun o ho m' hm' => sends_output m' fun hwaits => ?_
    rw [kernel_of_core hm']
    exact hfree o ho hwaits
  have hstream : ∀ texts : List String, stream (String.join texts) = texts.flatMap stream := by
    intro texts
    rw [stream_join]
    exact congrArg (texts.flatMap ·) (funext wire_eq_stream)
  rwa [hstream, List.flatMap_map]

theorem walks_passings (hpass : ∀ o ∈ outputs, ¬ o.Waits) (m : Machine) :
    ∃ after, Walks (Talking m.flag) (outputs.forM Output.run) m (.answered () after) := by
  refine ⟨_, Walks.forM (I := fun x => x.core = m.core)
    (g := fun m o => m.spoken (stream o.text)) ?_ rfl⟩
  intro o ho x hx
  refine ⟨?_, (spoken_core x _).trans hx⟩
  rw [← flag_of_core hx]
  exact walks_passing x (hpass o ho)

theorem divisorAccess_of_read {l : Latches} (h : l.read lineControl = 0x03) :
    divisorAccess l = false := by
  rw [divisorAccess, h]
  rfl

/-- A call that waits has one stretch with the flag clear, outside of which nothing is sent. -/
theorem steps_waiting (ho : o.Waits) (hfree : m.kernel.locks.free .serial = true) :
    ∃ before line after, o.run.steps m = before ++ line ++ after ∧
      (∀ x ∈ before ++ after, ∀ p v, x.1 ≠ .out p v) ∧ ∀ x ∈ line, x.2.flag = false := by
  cases o with
  | line s => exact steps_print hfree [s, "\n"]
  | print pieces => exact steps_print hfree pieces
  | emergency pieces => exact ho.elim
  | sink s => exact ho.elim
  | report pieces => exact ho.elim

/-- A wait for the transmitter ends, and does so with a read that finds it empty. -/
theorem run_transmitter (drivers : Drivers) {m after : Machine}
    (h : Machine.run drivers (request (.poll transmitter)) m = .answered () after) :
    ∃ before : Machine, (before.readPort ⟨0x3fd⟩).1 &&& 0x20 ≠ 0 ∧
      after = (before.readPort ⟨0x3fd⟩).2 := by
  obtain ⟨_, now, -, hanswer⟩ := Outcome.bind_eq_answered h
  obtain ⟨_, later, hpoll, hdone⟩ := Outcome.bind_eq_answered hanswer
  cases hdone
  obtain ⟨before, hfinds, hlater⟩ := pollWhile_ends hpoll
  rw [lacks, decide_eq_false_iff_not] at hfinds
  exact ⟨before, hfinds, hlater⟩

/-- After the port was set up, what is sent is the text and nothing else, however it is split and
however often the transmitter is busy before each byte; the lock and the flag are as they were
found. A byte goes out once its own wait is over, which ends with a read of the line status that
finds the transmitter empty. Calls that do not wait for the lock send past one that is held; calls
that wait for it keep the flag clear from the first byte to the last. No trap is taken meanwhile. -/
theorem output_is_exact (drivers : Drivers) {fresh m : Machine} {outputs : List Output}
    (hready : fresh.kernel.serialReady.isSet = false) (hport : fresh.kernel.locks.serial = false)
    (hfresh : Console.init.Undisturbed fresh)
    (hsince : m.latches.read lineControl =
      (Machine.run drivers Console.init fresh).machine.latches.read lineControl)
    (hfree : ∀ o ∈ outputs, o.Waits → m.kernel.locks.serial = false)
    (hm : (outputs.forM Output.run).Undisturbed m) :
    (∃ ready, Machine.run drivers Console.init fresh = .answered () ready ∧
      ready.flag = fresh.flag ∧ ready.kernel.locks = fresh.kernel.locks) ∧
    (∃ after, Machine.run drivers (outputs.forM Output.run) m = .answered () after ∧
      after.events =
        m.events ++ (stream (String.join (outputs.map Output.text))).map .character ∧
      after.kernel = m.kernel ∧ after.flag = m.flag ∧
      after.latches.read lineControl = m.latches.read lineControl ∧
      after.busyReads =
        m.busyReads.drop (stream (String.join (outputs.map Output.text))).length) ∧
    (instants drivers (outputs.forM Output.run) m).filterMap (sent ·.bare) =
      timed (stream (String.join (outputs.map Output.text))) m.busyReads ∧
    (∀ x after, Machine.run drivers (request (.poll transmitter)) x = .answered () after →
      ∃ before : Machine, (before.readPort ⟨0x3fd⟩).1 &&& 0x20 ≠ 0 ∧
        after = (before.readPort ⟨0x3fd⟩).2) ∧
    ((∀ o ∈ outputs, ¬ o.Waits) →
      ∀ i ∈ instants drivers (outputs.forM Output.run) m, ∀ l, i.request ≠ .acquire l) ∧
    (∀ o : Output, o.Waits → m.kernel.locks.serial = false → o.run.Undisturbed m →
      ∃ before line after, instants drivers o.run m = before ++ line ++ after ∧
        (∀ i ∈ before ++ after, ∀ p v, i.request ≠ .out p v) ∧
        ∀ i ∈ line, i.machine.flag = false) ∧
    ∀ s t, stream (s ++ t) = stream s ++ stream t := by
  have hunheld : ∀ k : Kernel, k.locks.serial = false → k.locks.free .serial = true := by
    intro k hk
    rw [Locks.free, hk]
    rfl
  obtain ⟨ready, hrun, hafter⟩ :=
    run_answered drivers hfresh (walks_init hready (hunheld _ hport)).walk
  have hdivisor : divisorAccess m.latches = false := by
    apply divisorAccess_of_read
    rw [hsince, hrun]
    change ready.latches.read lineControl = _
    rw [latches_of_still hafter, initialised_read]
  have hsends := sends_outputs m fun o ho hwaits => hunheld _ (hfree o ho hwaits)
  refine ⟨⟨ready, hrun, ?_, ?_⟩, ?_, ?_, fun _ _ => run_transmitter drivers, ?_, ?_,
    stream_append⟩
  · rw [flag_of_still hafter, initialised_flag]
  · rw [kernel_of_still hafter, initialised_kernel]
    rfl
  · obtain ⟨after, hrun, hafter⟩ := run_answered drivers hm hsends.walk
    have hcore := spoken_core m (stream (String.join (outputs.map Output.text)))
    refine ⟨after, hrun, ?_, ?_, ?_, ?_, ?_⟩
    · rw [events_of_still hafter, spoken_events, outEvent_data hdivisor]
    · exact (kernel_of_still hafter).trans (kernel_of_core hcore)
    · exact (flag_of_still hafter).trans (flag_of_core hcore)
    · rw [latches_of_still hafter]
      exact spoken_read m _ (by decide)
    · rw [busyReads_of_still hafter, spoken_reads]
  · have hseen := congrArg (List.filterMap sent) (instants_seen drivers hm)
    rw [List.filterMap_map, List.filterMap_map] at hseen
    have hbare : sent ∘ Instant.seen = (sent ·.bare) := funext fun i => sent_still i.bare
    have hsteps : sent ∘ Prod.map id still = sent := funext sent_still
    rw [hbare, hsteps] at hseen
    exact hseen.trans hsends.sent
  · intro hpass i hi l hacquire
    obtain ⟨_, hwalks⟩ := walks_passings hpass m
    obtain ⟨x, hx, hrequest, -⟩ := exists_step drivers hm hi
    have htalks := (hwalks.steps x hx).request
    rw [hrequest, hacquire] at htalks
    exact htalks
  · intro o ho hlock ho'
    obtain ⟨before, line, after, hsteps, houtside, hline⟩ := steps_waiting ho (hunheld _ hlock)
    obtain ⟨is, js, ks, hall, his, hjs, hks⟩ := instants_split drivers ho' hsteps
    refine ⟨is, js, ks, hall, ?_, ?_⟩
    · intro i hi
      have hboth : (is ++ ks).map Instant.seen =
          (before ++ after).map (Prod.map id still) := by
        rw [List.map_append, his, hks, List.map_append]
      obtain ⟨x, hx, hrequest, -⟩ := exists_of_seen hboth hi
      rw [← hrequest]
      exact houtside x hx
    · intro i hi
      obtain ⟨x, hx, -, hmachine⟩ := exists_of_seen hjs hi
      rw [← flag_of_still hmachine]
      exact hline x hx

/-- The port is held by the code that was interrupted, with interrupts open, and the transmitter is
busy before the first byte and the third. -/
theorem output_is_exact_held :
    let fresh : Machine := { busyReads := [3] }
    let m : Machine :=
      { flag := true
        latches := (Machine.run notingDrivers Console.init fresh).machine.latches
        busyReads := [2, 0, 5]
        kernel := { locks := { serial := true } } }
    let outputs : List Output := [.emergency ["é", "\n"], .sink "ok"]
    fresh.kernel.serialReady.isSet = false ∧ fresh.kernel.locks.serial = false ∧
    Console.init.Undisturbed fresh ∧
    m.latches.read lineControl =
      (Machine.run notingDrivers Console.init fresh).machine.latches.read lineControl ∧
    (∀ o ∈ outputs, o.Waits → m.kernel.locks.serial = false) ∧
    (outputs.forM Output.run).Undisturbed m ∧
    ∃ after, Machine.run notingDrivers (outputs.forM Output.run) m = .answered () after ∧
      after.events = [195, 169, 13, 10, 111, 107].map .character ∧
      after.kernel.locks.serial = true ∧ after.flag = true ∧
      (instants notingDrivers (outputs.forM Output.run) m).filterMap (sent ·.bare) =
        [(195, [0, 5]), (169, [5]), (13, []), (10, []), (111, []), (107, [])] := by
  intro fresh m outputs
  have hready : fresh.kernel.serialReady.isSet = false := rfl
  have hport : fresh.kernel.locks.serial = false := rfl
  have hfresh : Console.init.Undisturbed fresh := undisturbed_of_none rfl rfl
  have hsince : m.latches.read lineControl =
      (Machine.run notingDrivers Console.init fresh).machine.latches.read lineControl := rfl
  have hpass : ∀ o ∈ outputs, ¬ o.Waits := by
    simp [outputs, Output.Waits]
  have hfree : ∀ o ∈ outputs, o.Waits → m.kernel.locks.serial = false :=
    fun o ho hwaits => absurd hwaits (hpass o ho)
  have hm : (outputs.forM Output.run).Undisturbed m := undisturbed_of_none rfl rfl
  obtain ⟨-, ⟨after, hrun, hevents, hkernel, hflag, -⟩, hsent, -⟩ :=
    output_is_exact notingDrivers hready hport hfresh hsince hfree hm
  have hbytes : stream (String.join (outputs.map Output.text)) = [195, 169, 13, 10, 111, 107] := by
    rw [← wire_eq_stream]
    decide
  rw [hbytes] at hevents hsent
  refine ⟨hready, hport, hfresh, hsince, hfree, hm, after, hrun, hevents, ?_, hflag, hsent⟩
  rw [hkernel]

end Kernel

end InterruptCore

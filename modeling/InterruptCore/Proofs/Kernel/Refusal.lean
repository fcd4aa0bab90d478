import InterruptCore.Proofs.Kernel.Idling
import InterruptCore.Proofs.Kernel.Output

/-! Start-up under a boot loader that does not support the requested revision. The console is set
up, the panic is reported on it, and the CPU halts; none of the tables, the controllers and the
timer was reached by then. -/
namespace InterruptCore

open Machine Program

namespace Kernel

open Console

/-- A step of code that keeps to the console and waits with interrupts closed only. -/
structure Retreating (flag : Bool) (x : Request × Machine) : Prop where
  console : StaysOnConsole x.1
  flag : x.2.flag = true → flag = true
  waits : x.1.IsWait → x.2.flag = false

theorem Calm.retreating {flag : Bool} {x : Request × Machine} (h : Calm flag x) :
    Retreating flag x := ⟨h.console, h.flag, fun hwait => absurd hwait h.request⟩

theorem Retreating.mono {flag flag' : Bool} {x : Request × Machine} (h : Retreating flag x)
    (hflag : flag = true → flag' = true) : Retreating flag' x :=
  ⟨h.console, fun hx => hflag (h.flag hx), h.waits⟩

variable {flag : Bool} {m : Machine} {level : Log.Level}

theorem walks_ask {α : Type} {r : Request} {a : r.Answer} {next : r.Answer → Program α}
    {m' : Machine} {o : Outcome α} (hr : ¬ r.IsWait) (hconsole : StaysOnConsole r)
    (hm : m.flag = true → flag = true) (h : perform r m = .answered a m')
    (hnext : Walks (Retreating flag) (next a) m' o) : Walks (Retreating flag) (.ask r next) m o :=
  .ask hr ⟨hconsole, hm, fun hwait => absurd hwait hr⟩ h hnext

theorem walks_haltLoop (hm : m.flag = false) :
    Walks (Retreating flag) haltLoop m (.stopped .halted m) := by
  have hoff : m.flag = true → flag = true := fun h => absurd (hm.symm.trans h) Bool.false_ne_true
  have hclear : perform .clearFlag m = .answered () m := by
    change Outcome.answered () { m with flag := false } = _
    rw [← hm]
  apply walks_ask (r := .clearFlag) nofun trivial hoff hclear
  exact Walks.haltForever hm ⟨trivial, hoff, fun _ => hm⟩ ⟨trivial, hoff, fun _ => hm⟩

theorem walks_say (hm : m.flag = false) (pieces : List String) :
    Walks (Retreating flag) (emergency pieces) m
      (.answered () (m.spoken (pieces.flatMap wire))) := by
  refine (walks_emergency m pieces).mono fun x hx => hx.calm.retreating.mono ?_
  exact fun h => absurd (hm.symm.trans h) Bool.false_ne_true

def panicBanner (message : List String) : List String :=
  ["\n\n=== KERNEL PANIC ===\nPANIC: "] ++ message ++ ["\n"]

def panicSnapshot (m : Machine) : List String := Panic.snapshot m.rsp m.cr0 m.cr2 m.cr3 m.cr4

def panicText (m : Machine) (message : List String) : List String :=
  panicBanner message ++ panicSnapshot m ++ [panicTrailer]

theorem panicSnapshot_of_core {m m' : Machine} (h : m.core = m'.core) :
    panicSnapshot m = panicSnapshot m' := (congrArg panicSnapshot h :)

theorem panicSnapshot_initialised (m : Machine) :
    panicSnapshot (initialised m) = panicSnapshot m := by
  rw [← panicSnapshot_of_core (written_core m setup)]
  unfold panicSnapshot initialised
  rfl

def panicReport (message : List String) : Program Empty := do
  Panic.banner message
  let rsp ← request .stackPointer
  let cr0 ← request (.control .cr0)
  let cr2 ← request (.control .cr2)
  let cr3 ← request (.control .cr3)
  let cr4 ← request (.control .cr4)
  emergency (Panic.snapshot rsp cr0 cr2 cr3 cr4)
  Panic.trailer
  haltLoop

theorem walks_panicReport (hm : m.flag = false) (message : List String) :
    Walks (Retreating flag) (panicReport message) m
      (.stopped .halted (m.spoken ((panicText m message).flatMap wire))) := by
  have hclosed : ∀ bytes, (m.spoken bytes).flag = false := fun bytes =>
    (flag_of_core (spoken_core m bytes)).trans hm
  have hoff : ∀ bytes, (m.spoken bytes).flag = true → flag = true := fun bytes h =>
    absurd ((hclosed bytes).symm.trans h) Bool.false_ne_true
  have hsay : ∀ (bytes : List UInt8) (pieces : List String),
      Walks (Retreating flag) (emergency pieces) (m.spoken bytes)
        (.answered () (m.spoken (bytes ++ pieces.flatMap wire))) := by
    intro bytes pieces
    rw [spoken_append]
    exact walks_say (hclosed bytes) pieces
  obtain ⟨bytes, hbytes⟩ : ∃ bytes, bytes = (panicBanner message).flatMap wire := ⟨_, rfl⟩
  have hrest : Walks (Retreating flag) (emergency (panicSnapshot m) >>= fun _ =>
      emergency [panicTrailer] >>= fun _ => haltLoop) (m.spoken bytes)
      (.stopped .halted (m.spoken ((panicText m message).flatMap wire))) := by
    have htext : (panicText m message).flatMap wire =
        bytes ++ (panicSnapshot m).flatMap wire ++ [panicTrailer].flatMap wire := by
      rw [hbytes, panicText, List.flatMap_append, List.flatMap_append]
    rw [htext]
    exact (hsay _ _).bind ((hsay _ _).bind (walks_haltLoop (hclosed _)))
  have hform : panicReport message = emergency (panicBanner message) >>= fun _ =>
      .ask .stackPointer fun rsp => .ask (.control .cr0) fun cr0 => .ask (.control .cr2) fun cr2 =>
        .ask (.control .cr3) fun cr3 => .ask (.control .cr4) fun cr4 =>
          emergency (Panic.snapshot rsp cr0 cr2 cr3 cr4) >>= fun _ =>
            emergency [panicTrailer] >>= fun _ => haltLoop := rfl
  rw [hform]
  apply (walks_say hm (panicBanner message)).bind
  rw [← hbytes]
  -- The registers are read behind the banner, and sending it has not changed them.
  rw [← panicSnapshot_of_core (spoken_core m bytes)] at hrest
  apply walks_ask (r := .stackPointer) nofun trivial (hoff bytes) rfl
  apply walks_ask (r := .control .cr0) nofun trivial (hoff bytes) rfl
  apply walks_ask (r := .control .cr2) nofun trivial (hoff bytes) rfl
  apply walks_ask (r := .control .cr3) nofun trivial (hoff bytes) rfl
  exact walks_ask (r := .control .cr4) nofun trivial (hoff bytes) rfl hrest

def markPanicking (k : Kernel) : Kernel := { k with panicking := k.panicking.mark }

def panicked (m : Machine) (message : List String) : Machine :=
  ({ m with flag := false, kernel := markPanicking m.kernel } : Machine).spoken
    ((panicText m message).flatMap wire)

/-- The first panic reports and halts, whatever lock the code holds that it interrupts. -/
theorem walks_panic (hm : m.kernel.panicking.isSet = false) (message : List String) :
    Walks (Retreating m.flag) (Panic.panic message) m (.stopped .halted (panicked m message)) := by
  obtain ⟨never, hform⟩ : ∃ never : Empty → Program Unit, Panic.panic message =
      .ask .clearFlag fun _ => .ask (.memory markPanicking) fun before =>
        (if before.panicking.isSet then haltLoop >>= never else .done ()) >>= fun _ =>
          panicReport message := ⟨_, rfl⟩
  rw [hform]
  apply walks_ask (r := .clearFlag) nofun trivial id rfl
  apply walks_ask (r := .memory markPanicking) nofun (fun _ => rfl)
    (fun h => absurd h Bool.false_ne_true) rfl
  rw [if_neg (Bool.eq_false_iff.mp hm)]
  exact walks_panicReport (m := { m with flag := false, kernel := markPanicking m.kernel }) rfl
    message

namespace Boot

section Steps

variable {s : Step} {m' : Machine}

def starting (s : Step) : Log.Line := Log.debug ["BOOT: step '", s.name, "'"]

theorem walks_starting (hflag : m.flag = true → flag = true) :
    Walks (Retreating flag) (writeLog (starting s)) m (.answered () (m.logged (starting s))) :=
  (walks_writeLog m (starting s)).mono fun _ hx => hx.calm.retreating.mono hflag

theorem walks_step (hflag : m.flag = true → flag = true)
    (hrun : Walks (Retreating flag) s.run (m.logged (starting s)) (.answered (.ok ()) m')) :
    Walks (Retreating flag) (runStep s) m (.answered () m') :=
  (walks_starting hflag).bind (hrun.bind (.done () m'))

def failure (s : Step) (e : BootError) : List String :=
  ["boot step '", s.name, "' failed: ", e.message]

theorem walks_step_failed {e : BootError} {why : Stop} {after : Machine}
    (hflag : m.flag = true → flag = true)
    (hrun : Walks (Retreating flag) s.run (m.logged (starting s)) (.answered (.error e) m'))
    (hpanic : Walks (Retreating flag) (Panic.panic (failure s e)) m' (.stopped why after)) :
    Walks (Retreating flag) (runStep s) m (.stopped why after) :=
  (walks_starting hflag).bind (hrun.bind hpanic.bind_stopped)

end Steps

def markBooted (k : Kernel) : Kernel := { k with booted := k.booted.mark }

def opened (m : Machine) : Machine := initialised { m with kernel := markBooted m.kernel }

def checking (m : Machine) : Machine := (opened m).logged (starting .protocol)

def unsupported : BootError := .precondition "Limine base revision not supported"

theorem opened_flag (m : Machine) : (opened m).flag = m.flag := initialised_flag _

theorem checking_core (m : Machine) : (checking m).core = (opened m).core := logged_core _ _

theorem checking_flag (m : Machine) : (checking m).flag = m.flag :=
  (flag_of_core (checking_core m)).trans (opened_flag m)

theorem logged_unheard (hm : m.kernel.log.sink = none) (line : Log.Line) : m.logged line = m := by
  have hwrites : m.kernel.log.writes line = none := by
    rw [Log.writes, hm]
    exact ite_self none
  rw [logged, hwrites]

def announced (level : Log.Level) : List UInt8 :=
  if Log.Level.debug.rank ≤ level.rank then wire "BOOT: step 'limine'\n" else []

def refusalBanner : String :=
  "\n\n=== KERNEL PANIC ===\nPANIC: boot step 'limine' failed: precondition: " ++
    "Limine base revision not supported\n"

/-- The registers that a panic shows. Of cr3 it shows the page root and the bits below it. -/
def refusalSnapshot (m : Machine) : String :=
  "Register snapshot:\nRSP: 0x" ++ Text.base16 m.rsp.toNat ++ "\nCR0: 0x" ++
    Text.base16 m.cr0.toNat ++ "\nCR2: 0x" ++ Text.base16 m.cr2.toNat ++ "\nCR3: 0x" ++
    Text.base16 (m.cr3.toNat % 2 ^ 52) ++ "\nCR4: 0x" ++ Text.base16 m.cr4.toNat ++ "\n"

theorem pageRoot_toNat (cr3 : UInt64) : (Panic.pageRoot cr3).toNat = cr3.toNat % 2 ^ 52 := by
  have hmask : (0x000fffffffffffff : UInt64).toNat = 2 ^ 52 - 1 := by decide
  rw [Panic.pageRoot, UInt64.toNat_and, hmask, Nat.and_two_pow_sub_one_eq_mod]

theorem wire_panicSnapshot (m : Machine) :
    (panicSnapshot m).flatMap wire = wire (refusalSnapshot m) := by
  have hjoin : String.join (panicSnapshot m) = refusalSnapshot m := by
    unfold panicSnapshot Panic.snapshot refusalSnapshot
    rw [← pageRoot_toNat]
    simp only [← Text.hex_eq_base16, String.join_cons, String.join_nil, String.append_empty,
      String.append_assoc]
  rw [← Text.stream_join, hjoin, Text.wire_eq_stream]

def refusal (level : Log.Level) (m : Machine) : List UInt8 :=
  announced level ++ wire refusalBanner ++ wire (refusalSnapshot m) ++ wire panicTrailer

/-- What sets up the port: its divisor, its line, its queues and its modem lines. -/
def portSetup : List (UInt16 × UInt8) :=
  [(0x3f9, 0x00), (0x3fb, 0x80), (0x3f8, 0x01), (0x3f9, 0x00), (0x3fb, 0x03), (0x3fa, 0xc7),
    (0x3fc, 0x0b)]

structure Refused (level : Log.Level) (m : Machine) : Prop where
  kernel : m.kernel = { log := { level := level }, revisionAccepted := false }
  past : m.past = []

section Refused

variable (hm : Refused level m)
include hm

theorem checking_kernel : (checking m).kernel =
    { log := { level := level, sink := some .serial }
      serialReady := ⟨true⟩
      booted := ⟨true⟩ } := by
  rw [kernel_of_core (checking_core m), opened, initialised_kernel, hm.kernel]
  rfl

theorem walks_serial :
    Walks (Retreating m.flag) (runStep .serial) { m with kernel := markBooted m.kernel }
      (.answered () (opened m)) := by
  have hform : Step.serial.run = Console.init >>= fun _ => .done (.ok ()) := rfl
  have hinit := walks_init (m := { m with kernel := markBooted m.kernel })
    (by rw [hm.kernel]; rfl) (by rw [hm.kernel]; rfl)
  refine walks_step ?_ ?_
  · exact id
  rw [logged_unheard (by rw [hm.kernel]; rfl), hform]
  exact (hinit.mono fun _ hx => hx.retreating).bind (.done (Except.ok ()) (opened m))

theorem walks_protocol :
    Walks (Retreating m.flag) (runStep .protocol) (opened m)
      (.stopped .halted (panicked (checking m) (failure .protocol unsupported))) := by
  have hform : Step.protocol.run = .ask (.memory id) fun k =>
      if k.revisionAccepted then .done (.ok ()) else .done (.error unsupported) := rfl
  have hkernel := checking_kernel hm
  have hflag := checking_flag m
  apply walks_step_failed (fun h => opened_flag m ▸ h)
  · rw [hform]
    apply walks_ask (r := .memory id) nofun (fun _ => rfl) (fun h => hflag ▸ h) rfl
    rw [if_neg]
    · exact .done _ _
    · change ¬ (checking m).kernel.revisionAccepted = true
      rw [hkernel]
      exact Bool.false_ne_true
  · have hpanicking : (checking m).kernel.panicking.isSet = false := by rw [hkernel]
    rw [← hflag]
    exact walks_panic hpanicking _

theorem walks_runAll :
    Walks (Retreating m.flag) runAll m
      (.stopped .halted (panicked (checking m) (failure .protocol unsupported))) := by
  have hform : runAll = .ask (.memory markBooted) fun before =>
      if before.booted.isSet then .done () else order.forM runStep >>= fun _ =>
        writeLog (Log.info ["BOOT: early init complete, interrupts enabled"]) := rfl
  have horder : order.forM runStep = runStep .serial >>= fun _ => runStep .protocol >>= fun _ =>
      [Step.segments, .controllers, .gates, .timer, .interrupts].forM runStep := rfl
  rw [hform]
  apply walks_ask (r := .memory markBooted) nofun (fun _ => rfl) id rfl
  rw [if_neg (by rw [hm.kernel]; exact Bool.false_ne_true)]
  apply Walks.bind_stopped
  rw [horder]
  exact (walks_serial hm).bind (walks_protocol hm).bind_stopped

theorem checking_eq : checking m = (opened m).spoken (announced level) := by
  have hlog : (opened m).kernel.log = { level := level, sink := some .serial } := by
    rw [opened, initialised_kernel, hm.kernel]
    rfl
  by_cases hdebug : Log.Level.debug.rank ≤ level.rank
  · have henabled : (opened m).kernel.log.enabled (starting .protocol).level = true := by
      rw [hlog]
      exact decide_eq_true hdebug
    have hbytes : ["BOOT: step '", "limine", "'", "\n"].flatMap wire =
        wire "BOOT: step 'limine'\n" := by decide
    rw [checking, logged, Log.writes, if_pos henabled, hlog, announced, if_pos hdebug, ← hbytes]
    exact foldl_spoken _ _
  · have hsilent : ¬ (opened m).kernel.log.enabled (starting .protocol).level = true := by
      rw [hlog]
      exact fun h => hdebug (of_decide_eq_true h)
    rw [checking, logged, Log.writes, if_neg hsilent, announced, if_neg hdebug]
    rfl

theorem opened_events : (opened m).events = setup.map fun w => .out w.1 w.2 := by
  have hbefore : ({ m with kernel := markBooted m.kernel } : Machine).events = [] :=
    congrArg List.reverse hm.past
  rw [opened, initialised_events, hbefore, List.nil_append]

omit hm in
theorem divisorAccess_opened (m : Machine) : divisorAccess (opened m).latches = false :=
  divisorAccess_of_read (initialised_read _)

theorem panicked_events :
    (panicked (checking m) (failure .protocol unsupported)).events =
      (setup.map fun w => .out w.1 w.2) ++ (refusal level m).map .character := by
  have hsnapshot : panicSnapshot (checking m) = panicSnapshot m := by
    rw [panicSnapshot_of_core (checking_core m), opened, panicSnapshot_initialised]
    rfl
  have hbanner : (panicBanner (failure .protocol unsupported)).flatMap wire =
      wire refusalBanner := by
    have hjoin : String.join (panicBanner (failure .protocol unsupported)) = refusalBanner := by
      decide +kernel
    rw [← Text.stream_join, hjoin, Text.wire_eq_stream]
  have htext : (panicText (checking m) (failure .protocol unsupported)).flatMap wire =
      wire refusalBanner ++ wire (refusalSnapshot m) ++ wire panicTrailer := by
    rw [panicText, List.flatMap_append, List.flatMap_append, hbanner, hsnapshot,
      wire_panicSnapshot, List.flatMap_singleton]
  have hdivisor : divisorAccess (checking m).latches = false := by
    rw [checking_eq hm, divisorAccess_spoken, divisorAccess_opened]
  have hchecking : (checking m).events =
      (setup.map fun w => .out w.1 w.2) ++ (announced level).map .character := by
    rw [checking_eq hm, spoken_events, opened_events hm, outEvent_data (divisorAccess_opened m)]
  have hpanic := spoken_events { checking m with
    flag := false
    kernel := markPanicking (checking m).kernel }
    ((panicText (checking m) (failure .protocol unsupported)).flatMap wire)
  have hbefore : ({ checking m with
      flag := false
      kernel := markPanicking (checking m).kernel } : Machine).events = (checking m).events := rfl
  rw [outEvent_data hdivisor, htext, hbefore, hchecking] at hpanic
  rw [panicked, htext, hpanic, refusal]
  simp only [List.map_append, List.append_assoc]

/-- No trap is taken if none that is to come is accepted: an exception is not to come, and an IRQ
before the CPU halts only where interrupts are closed at power-on. -/
theorem undisturbed_runAll (harrivals : ∀ a ∈ m.arrivals, m.accepts a.trap = false)
    (hwake : ∀ t ∈ m.wake, exceptionVectors ≤ t.vector.toNat) : runAll.Undisturbed m := by
  apply undisturbed_of_refusing
  intro x hx
  have hstep := (walks_runAll hm).steps x hx
  have hrefused : ∀ t : Incoming, exceptionVectors ≤ t.vector.toNat → x.2.flag = false →
      x.2.accepts t = false := by
    intro t ht hflag
    rw [accepts, hflag, Bool.false_or, decide_eq_false_iff_not]
    exact Nat.not_lt.mpr ht
  constructor
  · intro a ha
    have hnone := harrivals a ha
    rw [accepts, Bool.or_eq_false_iff, decide_eq_false_iff_not, Nat.not_lt] at hnone
    apply hrefused a.trap hnone.2
    exact Bool.eq_false_iff.mpr fun h => absurd (hnone.1.symm.trans (hstep.flag h))
      Bool.false_ne_true
  · exact fun hwait t ht => hrefused t (hwake t ht) (hstep.waits hwait)

end Refused

/-- Has to do with the tables of the CPU, with those in memory, the controllers or the timer. -/
def Touches : Request → Prop
  | .loadSegmentTable _ | .loadGateTable _ | .loadSegment _ _ => True
  | .out p _ | .input p => p ∈ controllerPorts ++ [Port.pitCommand, Port.pitChannel0]
  | .poll w => w.port ∈ controllerPorts ++ [Port.pitCommand, Port.pitChannel0]
  | .memory f => ∃ k, (f k).tables ≠ k.tables
  | _ => False

theorem not_touches_of_staysOnConsole {r : Request} (h : StaysOnConsole r) : ¬ Touches r := by
  cases r with
  | out p v =>
    have hports : ∀ p ∈ controllerPorts ++ [Port.pitCommand, Port.pitChannel0],
        p.number.toNat < 0x3f8 := by decide
    have hlow : 0x3f8 ≤ p.number.toNat := h.1
    exact fun hp => absurd (hports p hp) (Nat.not_lt.mpr hlow)
  | memory f =>
    rintro ⟨k, hk⟩
    exact hk (h k)
  | input p => exact h.elim
  | poll w =>
    rw [Touches, w.comes.1]
    decide
  | loadSegmentTable p => exact h.elim
  | loadGateTable p => exact h.elim
  | loadSegment r s => exact h.elim
  | _ => exact id

section Once

theorem not_mem_snapshot {b : UInt8} (hlow : b.toNat < 128) (hreturn : b ≠ 13)
    (hdigit : ∀ d < 16, (Text.digit d).toNat ≠ b.toNat)
    (hfixed : ∀ s ∈ ["\nCR0: 0x", "\nCR2: 0x", "\nCR3: 0x", "\nCR4: 0x", "\n"],
      Text.Every (fun c => c.toNat ≠ b.toNat) s) (m : Machine) :
    b ∉ (panicSnapshot m).tail.flatMap wire := by
  have hpieces : ∀ s ∈ (panicSnapshot m).tail, (∃ n, s = Text.hex n) ∨
      s ∈ ["\nCR0: 0x", "\nCR2: 0x", "\nCR3: 0x", "\nCR4: 0x", "\n"] := by
    simp [panicSnapshot, Panic.snapshot]
  intro h
  obtain ⟨s, hs, hb⟩ := List.mem_flatMap.mp h
  refine Text.not_mem_wire hlow hreturn ?_ hb
  rcases hpieces s hs with ⟨n, rfl⟩ | hs
  · exact Text.every_hex hdigit n
  · exact hfixed s hs

theorem snapshot_eq (m : Machine) : (panicSnapshot m).flatMap wire =
    wire "Register snapshot:\nRSP: 0x" ++ (panicSnapshot m).tail.flatMap wire := rfl

theorem occurrences_refusalBanner (level : Log.Level) (m : Machine) :
    occurrences (wire refusalBanner) (refusal level m) = 1 := by
  -- The mark is the capital K of the banner: no other piece has one.
  obtain ⟨rest, hrest⟩ : ∃ rest, rest =
      "ERNEL PANIC ===\nPANIC: boot step 'limine' failed: precondition: " ++
        "Limine base revision not supported\n" := ⟨_, rfl⟩
  have hmark : wire refusalBanner = wire "\n\n=== " ++ 75 :: wire rest := by
    have hsplit : refusalBanner = "\n\n=== " ++ ("K" ++ rest) := by
      rw [hrest]
      decide +kernel
    have hletter : wire "K" = [75] := by decide
    rw [hsplit, Text.wire_append, Text.wire_append, hletter, List.singleton_append]
  have hannounced : 75 ∉ announced level := by
    unfold announced
    split <;> decide
  have hsnapshot : 75 ∉ (panicSnapshot m).flatMap wire := by
    rw [snapshot_eq, List.mem_append, not_or]
    exact ⟨by decide, not_mem_snapshot (by decide) (by decide) (by decide) (by decide) m⟩
  have hafter : 75 ∉ wire (refusalSnapshot m) ++ wire panicTrailer := by
    rw [← wire_panicSnapshot, List.mem_append, not_or]
    exact ⟨hsnapshot, by decide⟩
  have hnone : 75 ∉ wire rest := by
    rw [hrest]
    exact Text.not_mem_wire (by decide) (by decide) (by decide)
  rw [refusal, List.append_assoc, hmark]
  exact Text.occurrences_once (by decide) hnone hannounced hafter

theorem occurrences_snapshot (level : Log.Level) (m : Machine) :
    occurrences (wire (refusalSnapshot m)) (refusal level m) = 1 := by
  -- The mark is the letter g of "Register"; a hexadecimal numeral goes no further than f.
  have hmark : wire (refusalSnapshot m) = wire "Re" ++ 103 ::
      (wire "ister snapshot:\nRSP: 0x" ++ (panicSnapshot m).tail.flatMap wire) := by
    have hfirst : wire "Register snapshot:\nRSP: 0x" =
        wire "Re" ++ 103 :: wire "ister snapshot:\nRSP: 0x" := by decide
    rw [← wire_panicSnapshot, snapshot_eq, hfirst, List.append_assoc, List.cons_append]
  have hbefore : 103 ∉ announced level ++ wire refusalBanner := by
    rw [List.mem_append, not_or]
    refine ⟨?_, Text.not_mem_wire (by decide) (by decide) (by decide)⟩
    unfold announced
    split <;> decide
  have hrest : 103 ∉ wire "ister snapshot:\nRSP: 0x" ++ (panicSnapshot m).tail.flatMap wire := by
    rw [List.mem_append, not_or]
    exact ⟨by decide, not_mem_snapshot (by decide) (by decide) (by decide) (by decide) m⟩
  rw [refusal, hmark]
  exact Text.occurrences_once (by decide) hrest hbefore (by decide)

end Once

/-- A boot protocol that is refused stops the machine, whatever interrupts, control registers,
ports and log it starts with, and with no trap on the way. The console is set up, the panic names
the step and shows the registers, each once, and the CPU waits with interrupts closed. Nothing else
was sent, and no instant reached a table, a controller or the timer. -/
theorem refused_protocol_halts (drivers : Drivers) {level : Log.Level} {m : Machine}
    (hm : Refused level m) (hcalm : runAll.Undisturbed m) :
    (∃ after, Machine.run drivers runAll m = .stopped .halted after ∧ after.flag = false ∧
      after.events =
        (portSetup.map fun w => .out ⟨w.1⟩ w.2) ++ (refusal level m).map .character ∧
      occurrences (wire refusalBanner) (transmitted after.events) = 1 ∧
      occurrences (wire (refusalSnapshot m)) (transmitted after.events) = 1 ∧
      after.kernel = { log := { level := level, sink := some .serial }
                       serialReady := ⟨true⟩
                       panicking := ⟨true⟩
                       booted := ⟨true⟩ }) ∧
    ∀ i ∈ instants drivers runAll m,
      ¬ Touches i.request ∧ (i.request.IsWait → i.machine.flag = false) := by
  have hwalks := walks_runAll hm
  obtain ⟨after, hrun, hafter⟩ := run_stopped drivers hcalm hwalks.walk
  have hevents := (events_of_still hafter).trans (panicked_events hm)
  have hsent : transmitted after.events = refusal level m := by
    rw [hevents, transmitted_append, transmitted_characters]
    rfl
  refine ⟨⟨after, hrun, ?_, hevents, ?_, ?_, ?_⟩, ?_⟩
  · rw [flag_of_still hafter, panicked, flag_of_core (spoken_core _ _)]
  · rw [hsent]
    exact occurrences_refusalBanner level m
  · rw [hsent]
    exact occurrences_snapshot level m
  · rw [kernel_of_still hafter, panicked, kernel_of_core (spoken_core _ _), markPanicking,
      checking_kernel hm]
    rfl
  · intro i hi
    obtain ⟨x, hx, hrequest, hmachine⟩ := exists_step drivers hcalm hi
    have hstep := hwalks.steps x hx
    rw [← hrequest, ← flag_of_still hmachine]
    exact ⟨not_touches_of_staysOnConsole hstep.console, hstep.waits⟩

/-- Interrupts are open at first, the data port holds its divisor, and a tick comes to the CPU that
has halted. -/
theorem refused_protocol_halts_verbose :
    let m : Machine :=
      { flag := true
        cr3 := 0xfff0000000001000
        latches := ({} : Latches).write lineControl 0x80
        busyReads := [7, 0, 1]
        kernel := { log := { level := .trace }, revisionAccepted := false }
        wake := [{ vector := 32 }] }
    Refused .trace m ∧ runAll.Undisturbed m ∧
    (∃ after, Machine.run notingDrivers runAll m = .stopped .halted after ∧ after.flag = false ∧
      occurrences (wire refusalBanner) (transmitted after.events) = 1 ∧
      occurrences (wire "BOOT: step 'limine'\n") (transmitted after.events) = 1 ∧
      after.kernel.irqs = Irq.Table.empty) ∧
    ∀ i ∈ instants notingDrivers runAll m, ¬ Touches i.request := by
  intro m
  have hm : Refused .trace m := ⟨rfl, rfl⟩
  have hwake : ∀ t ∈ m.wake, exceptionVectors ≤ t.vector.toNat := by decide
  have hcalm : runAll.Undisturbed m :=
    undisturbed_runAll hm (fun _ ha => absurd ha List.not_mem_nil) hwake
  obtain ⟨⟨after, hrun, hflag, hevents, hbanner, -, hkernel⟩, hspared⟩ :=
    refused_protocol_halts notingDrivers hm hcalm
  refine ⟨hm, hcalm, ⟨after, hrun, hflag, hbanner, ?_, ?_⟩, fun i hi => (hspared i hi).1⟩
  · rw [hevents]
    decide +kernel
  · rw [hkernel]

end Boot

end Kernel

end InterruptCore

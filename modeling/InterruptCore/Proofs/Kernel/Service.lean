import InterruptCore.Proofs.Kernel.Scenes
import InterruptCore.Proofs.Trap.Reports

/-! How an interrupt is served, as a computation on scenes. The console sends its bytes in one
run, the log adds bytes without a mark, and an interrupt adds no more than that to what happened;
the timer's one ticks. -/
namespace InterruptCore

open Machine Program

variable {α β : Type}

namespace Machine

/-- The upper-case S. It stands in the name of the system and in no line of the log. -/
def mark : UInt8 := 83

def Event.Muted (e : Event) : Prop := e ≠ .character mark ∧ e.isReturn = false

instance (e : Event) : Decidable e.Muted := inferInstanceAs (Decidable (_ ∧ _))

def Silent (pieces : List String) : Prop := ∀ p ∈ pieces, mark ∉ Kernel.Console.wire p

instance (pieces : List String) : Decidable (Silent pieces) :=
  inferInstanceAs (Decidable (∀ p ∈ pieces, _))

theorem silent_writes {log : Log Kernel.Sink} {line : Log.Line} (h : Silent line.pieces)
    {w : Kernel.Sink × List String} (hw : log.writes line = some w) : Silent w.2 := by
  simp only [Log.writes] at hw
  split at hw
  · obtain ⟨sink, -, rfl⟩ := Option.map_eq_some_iff.mp hw
    intro p hp
    rcases List.mem_append.mp hp with hp | hp
    · exact h p hp
    · rw [List.mem_singleton.mp hp]
      decide
  · cases hw

/-- Bytes that are sent, as they come to what happened before. -/
def sending (bytes : List UInt8) (past : List Event) : List Event :=
  (bytes.map .character).reverse ++ past

namespace Scene

def say (s : Scene) (bytes : List UInt8) : Scene := { s with past := sending bytes s.past }

theorem say_cons (s : Scene) (b : UInt8) (bytes : List UInt8) :
    (s.record (.character b)).say bytes = s.say (b :: bytes) := by
  simp [say, sending, record]

def serve (s : Scene) (irqs : Irq.Table Kernel.Handler) (ticks : UInt64) : Scene :=
  { s with kernel := { s.kernel with irqs := irqs, ticks := ticks } }

def Adds (s t : Scene) : Prop := ∃ new, t = { s with past := new ++ s.past } ∧ ∀ e ∈ new, e.Muted

variable {s t u : Scene}

theorem Adds.refl (s : Scene) : s.Adds s := ⟨[], rfl, fun _ he => absurd he List.not_mem_nil⟩

theorem Adds.trans (h : s.Adds t) (k : t.Adds u) : s.Adds u := by
  obtain ⟨new, rfl, hnew⟩ := h
  obtain ⟨more, rfl, hmore⟩ := k
  refine ⟨more ++ new, by rw [List.append_assoc], ?_⟩
  intro e he
  exact (List.mem_append.mp he).elim (hmore e) (hnew e)

theorem adds_record {e : Event} (he : e.Muted) : s.Adds (s.record e) := by
  refine ⟨[e], rfl, ?_⟩
  intro x hx
  rwa [List.mem_singleton.mp hx]

theorem adds_say {bytes : List UInt8} (h : mark ∉ bytes) : s.Adds (s.say bytes) := by
  refine ⟨_, rfl, ?_⟩
  intro e he
  obtain ⟨b, hb, rfl⟩ := List.mem_map.mp (List.mem_reverse.mp he)
  refine ⟨?_, rfl⟩
  rintro ⟨⟩
  exact h hb

theorem write_console (hdivisor : s.divisor = false) (b : UInt8) :
    s.write (Kernel.Console.register 0) b = s.record (.character b) := by
  have hplain : Kernel.Console.register 0 ≠ lineControl := by decide
  have hdata : Kernel.Console.register 0 = Port.com1 := rfl
  simp only [write, if_neg hplain]
  simp [hdata, hdivisor, record]

theorem write_other {p : Port} (hdata : p ≠ Port.com1) (hcontrol : p ≠ lineControl) (v : UInt8) :
    s.write p v = s.record (.out p v) := by
  simp [write, hdata, hcontrol, record]

end Scene

end Machine

namespace Kernel

open Console

/-- Has to do with neither the locks nor with what happened, but for the returns. -/
structure Steady (inv : Scene → Prop) : Prop where
  locks : ∀ s f, inv s → inv (s.mapLocks f)
  record : ∀ s e, inv s → e.isReturn = false → inv (s.record e)

variable {inv : Scene → Prop} {s t : Scene} {Q : α → Scene → Prop}

section Requests

variable (hs : Closed inv s)
include hs

theorem runs_memory {f : Kernel → Kernel} {next : Kernel → Program α}
    (hnext : Runs inv (next s.kernel) Q { s with kernel := f s.kernel }) :
    Runs inv (.ask (.memory f) next) Q s :=
  .ask (r := .memory f) hs rfl (fun _ => rfl) hnext

theorem runs_acquire {l : Lock} (hfree : s.kernel.locks.free l = true) {next : Unit → Program α}
    (hnext : Runs inv (next ()) Q (s.mapLocks (·.take l))) :
    Runs inv (.ask (.acquire l) next) Q s :=
  .ask (r := .acquire l) hs (if_pos hfree) (fun _ => rfl) hnext

theorem runs_release {l : Lock} {next : Unit → Program α}
    (hnext : Runs inv (next ()) Q (s.mapLocks (·.drop l))) :
    Runs inv (.ask (.release l) next) Q s :=
  .ask (r := .release l) hs rfl (fun _ => rfl) hnext

theorem runs_interruptFlag {next : Bool → Program α} (hnext : Runs inv (next false) Q s) :
    Runs inv (.ask .interruptFlag next) Q s :=
  .ask (r := .interruptFlag) hs (by rw [← hs.flag]; rfl) (fun _ => rfl) hnext

theorem runs_clearFlag {next : Unit → Program α} (hnext : Runs inv (next ()) Q s) :
    Runs inv (.ask .clearFlag next) Q s :=
  .ask (r := .clearFlag) hs (by rw [Scene.perform, ← hs.flag]) (fun _ => rfl) hnext

theorem runs_restoreFlag (found : Bool) :
    Runs inv (restoreFlag found) (fun _ t => t = { s with flag := found }) s := by
  cases found with
  | false =>
    apply Runs.pure
    rw [← hs.flag]
  | true => exact .ask (r := .setFlag) hs rfl (fun _ => rfl) (.pure rfl)

/-- Writes to a port that has nothing to do with the console. -/
theorem runs_out {p : Port} (hdata : p ≠ Port.com1) (hcontrol : p ≠ lineControl) (v : UInt8) :
    Runs inv (out p v) (fun _ t => s.Adds t) s := by
  refine .ask (r := .out p v) hs rfl (fun _ => rfl) (.pure ?_)
  rw [Scene.write_other hdata hcontrol]
  exact Scene.adds_record ⟨nofun, rfl⟩

theorem runs_sendByte (hdivisor : s.divisor = false) (b : UInt8) :
    Runs inv (sendByte b) (fun _ t => t = s.record (.character b)) s := by
  apply Runs.ask (r := .poll transmitter) hs rfl fun _ => rfl
  refine .ask (r := .out (register 0) b) hs rfl (fun _ => rfl) (.pure ?_)
  exact Scene.write_console hdivisor b

end Requests

namespace Closed

variable (h : Steady inv) (hs : Closed inv s)
include h hs

theorem locks (f : Locks → Locks) : Closed inv (s.mapLocks f) := ⟨hs.flag, h.locks s f hs.inv⟩

theorem record {e : Event} (he : e.isReturn = false) : Closed inv (s.record e) :=
  ⟨hs.flag, h.record s e hs.inv he⟩

theorem say (bytes : List UInt8) : Closed inv (s.say bytes) := by
  induction bytes generalizing s with
  | nil => exact hs
  | cons b bytes ih =>
    rw [← Scene.say_cons]
    exact ih (hs.record h rfl)

theorem adds (hst : s.Adds t) : Closed inv t := by
  obtain ⟨new, rfl, hnew⟩ := hst
  induction new with
  | nil => exact hs
  | cons e new ih =>
    have hrest := ih fun x hx => hnew x (List.mem_cons_of_mem e hx)
    exact hrest.record h (hnew e List.mem_cons_self).2

end Closed

section Sending

variable (h : Steady inv) (hs : Closed inv s) (hdivisor : s.divisor = false)
include h hs hdivisor

theorem runs_sendAll (pieces : List String) :
    Runs inv (sendAll pieces) (fun _ t => t = s.say (pieces.flatMap wire)) s := by
  rw [sendAll_eq]
  induction pieces.flatMap wire generalizing s with
  | nil => exact .pure rfl
  | cons b bytes ih =>
    apply (runs_sendByte hs hdivisor b).bind
    rintro _ _ rfl
    apply (ih (hs.record h rfl) hdivisor).mono
    rintro _ _ rfl
    exact Scene.say_cons s b bytes

theorem runs_taken (hfree : s.kernel.locks.free .serial = true) (pieces : List String)
    (found : Bool) :
    Runs inv (do sendAll pieces; release .serial; restoreFlag found)
      (fun _ t => t = { s.say (pieces.flatMap wire) with flag := found })
      (s.mapLocks (·.take .serial)) := by
  have htaken := hs.locks h (·.take .serial)
  have hlocks : ((s.mapLocks (·.take .serial)).say (pieces.flatMap wire)).mapLocks
      (·.drop .serial) = s.say (pieces.flatMap wire) := by
    simp only [Scene.mapLocks, Scene.say, Locks.drop_take hfree]
  apply (runs_sendAll h htaken hdivisor pieces).bind
  rintro _ _ rfl
  apply runs_release (htaken.say h _)
  rw [hlocks]
  exact runs_restoreFlag (hs.say h _) found

theorem runs_emergency (pieces : List String) :
    Runs inv (emergency pieces) (fun _ t => t = s.say (pieces.flatMap wire)) s := by
  apply runs_interruptFlag hs
  apply runs_clearFlag hs
  by_cases hfree : s.kernel.locks.free .serial = true
  · apply Runs.ask (r := .tryAcquire .serial) hs (if_pos hfree) fun _ => rfl
    apply (runs_taken h hs hdivisor hfree pieces false).mono
    rintro _ _ rfl
    rw [← hs.flag]
    rfl
  · apply Runs.ask (r := .tryAcquire .serial) hs (if_neg hfree) fun _ => rfl
    exact runs_sendAll h hs hdivisor pieces

theorem runs_write (sink : Sink) {p : String} (hp : mark ∉ wire p) :
    Runs inv (sink.write p) (fun _ t => s.Adds t) s := by
  cases sink with
  | serial =>
    apply (runs_emergency h hs hdivisor [p]).mono
    rintro _ _ rfl
    apply Scene.adds_say
    rwa [List.flatMap_singleton]
  | buffer n =>
    refine .ask (r := .capture n p) hs rfl (fun _ => rfl) (.pure ?_)
    exact Scene.adds_record ⟨nofun, rfl⟩

theorem runs_writeLog {line : Log.Line} (hline : Silent line.pieces) :
    Runs inv (writeLog line) (fun _ t => s.Adds t) s := by
  apply runs_memory hs
  dsimp only [Program.bind]
  cases hw : s.kernel.log.writes line with
  | none => exact .pure (Scene.Adds.refl s)
  | some w =>
    refine Runs.forM (I := fun t => s.Adds t) ?_ (Scene.Adds.refl s)
    intro p hp t ht
    have hdivisor' : t.divisor = false := by
      obtain ⟨new, rfl, -⟩ := ht
      exact hdivisor
    apply (runs_write h (hs.adds h ht) hdivisor' w.1 (silent_writes hline hw p hp)).mono
    exact fun _ u hu => ht.trans hu

end Sending

section Acknowledging

variable (h : Steady inv) (hs : Closed inv s)
include h hs

theorem runs_end (line : UInt8) :
    Runs inv (Controllers.command (.endOfInterrupt line)) (fun _ t => s.Adds t) s := by
  have hwrites : ∀ x ∈ Pic.acknowledge line, ∃ p v, x = .write p v ∧ p ≠ Port.com1 ∧
      p ≠ lineControl := by
    have hends : ∀ p ∈ [Port.pic2Command, Port.pic1Command], p ≠ Port.com1 ∧ p ≠ lineControl := by
      decide
    intro x hx
    have hmem : x ∈ [Port.pic2Command, Port.pic1Command].map (.write · Pic.endWord) := by
      unfold Pic.acknowledge at hx
      split at hx
      · exact List.mem_cons_of_mem _ hx
      · exact hx
    obtain ⟨p, hp, rfl⟩ := List.mem_map.mp hmem
    exact ⟨p, _, rfl, hends p hp⟩
  apply runs_memory hs
  refine Runs.bind (p := (Pic.acknowledge line).mapM Controllers.transfer)
    (Runs.mapM (I := fun t => s.Adds t) ?_ (Scene.Adds.refl s)) ?_
  · intro x hx t ht
    obtain ⟨p, v, rfl, hdata, hcontrol⟩ := hwrites x hx
    apply (runs_out (hs.adds h ht) hdata hcontrol v).bind
    exact fun _ _ hu => .pure (ht.trans hu)
  · -- The driver is what it was, so that memory is.
    intro _ t ht
    exact .ask (r := .memory fun k => { k with pic := k.pic.next (.endOfInterrupt line) })
      (hs.adds h ht) rfl (fun _ => rfl) (.pure ht)

theorem runs_acknowledge (hfree : s.kernel.locks.free .controllers = true) (drivers : Drivers)
    (c : Context) (line : UInt8) :
    Runs inv (Interrupts.perform drivers c (.acknowledge line)) (fun _ t => s.Adds t) s := by
  have htaken := hs.locks h (·.take .controllers)
  apply runs_acquire hs hfree
  have hend : Runs inv (discard (Controllers.command (.endOfInterrupt line)))
      (fun _ t => (s.mapLocks (·.take .controllers)).Adds t) (s.mapLocks (·.take .controllers)) :=
    (runs_end h htaken line).bind fun _ _ ht => .pure ht
  apply hend.bind
  intro _ t ht
  apply runs_release (htaken.adds h ht)
  obtain ⟨new, rfl, hnew⟩ := ht
  refine .pure ⟨new, ?_, hnew⟩
  simp only [Scene.mapLocks, Locks.drop_take hfree]

end Acknowledging

def unwatched (_ : Scene) : Prop := True

theorem steady_unwatched : Steady unwatched := ⟨fun _ _ _ => trivial, fun _ _ _ _ => trivial⟩

section Serving

variable (drivers : Drivers) {c : Context} {line : UInt8} {e : Irq.Entry Handler}
variable (hs : Closed unwatched s) (hlocks : s.kernel.locks = {})
include hs

theorem closed_serve (irqs : Irq.Table Handler) (ticks : UInt64) (f : Locks → Locks) :
    Closed unwatched ((s.serve irqs ticks).mapLocks f) := ⟨hs.flag, trivial⟩

theorem runs_tick : Runs unwatched (Interrupts.perform drivers c (.run .timer))
    (fun _ t => t = s.serve s.kernel.irqs (s.kernel.ticks + 1)) s :=
  runs_memory hs (.pure rfl)

include hlocks

theorem runs_dispatch {irqs : Irq.Table Handler} {ticks : UInt64}
    {actions : List (Irq.Action Handler)} (hd : s.kernel.irqs.dispatch c = (irqs, actions))
    (hactions : Runs unwatched (actions.forM (Interrupts.perform drivers c))
      (fun _ t => ((s.serve irqs ticks).mapLocks (·.take .tableRead)).Adds t)
      ((s.serve irqs s.kernel.ticks).mapLocks (·.take .tableRead))) :
    Runs unwatched (Interrupts.dispatch drivers c) (fun _ t => (s.serve irqs ticks).Adds t) s := by
  have hfree : s.kernel.locks.free .tableRead = true := by
    rw [hlocks]
    rfl
  have hbefore : (s.mapLocks (·.take .tableRead)).kernel.irqs.dispatch c = (irqs, actions) := hd
  apply runs_acquire hs hfree
  apply runs_memory (hs.locks steady_unwatched (·.take .tableRead))
  dsimp only [Program.bind]
  rw [hbefore]
  apply hactions.bind
  intro _ t ht
  apply runs_release ((closed_serve hs irqs ticks _).adds steady_unwatched ht)
  obtain ⟨new, rfl, hnew⟩ := ht
  refine .pure ⟨new, ?_, hnew⟩
  simp only [Scene.mapLocks, Scene.serve, Locks.drop_take hfree]

theorem runs_last (irqs : Irq.Table Handler) (ticks : UInt64) :
    Runs unwatched ([Irq.Action.acknowledge line].forM (Interrupts.perform drivers c))
      (fun _ t => ((s.serve irqs ticks).mapLocks (·.take .tableRead)).Adds t)
      ((s.serve irqs ticks).mapLocks (·.take .tableRead)) := by
  have hfree : ((s.serve irqs ticks).mapLocks (·.take .tableRead)).kernel.locks.free .controllers
      = true := by
    simp only [Scene.serve, Scene.mapLocks, hlocks]
    rfl
  exact (runs_acknowledge steady_unwatched (closed_serve hs irqs ticks _) hfree drivers c line).bind
    fun _ _ ht => .pure ht

/-- The timer's interrupt counts twice: in the table, and as a tick. -/
theorem runs_timer (hc : c.irqLine = some line) (he : s.kernel.irqs.lookup line = some e)
    (hh : e.handler = some .timer) :
    Runs unwatched (Interrupts.dispatch drivers c)
      (fun _ t => (s.serve (s.kernel.irqs.set line { e with count := e.count + 1 })
        (s.kernel.ticks + 1)).Adds t) s := by
  apply runs_dispatch drivers hs hlocks (Irq.Table.dispatch_handled hc he hh)
  refine Runs.bind (p := Interrupts.perform drivers c (.run .timer))
    (runs_tick drivers (closed_serve hs _ _ _)) ?_
  rintro _ _ rfl
  exact runs_last drivers hs hlocks _ (s.kernel.ticks + 1)

/-- An interrupt that nobody handles is logged at most, and counts nothing. -/
theorem runs_unhandled (hdivisor : s.divisor = false) (hc : c.irqLine = some line)
    (he : s.kernel.irqs.lookup line = some e) (hh : e.handler = none) :
    Runs unwatched (Interrupts.dispatch drivers c)
      (fun _ t => (s.serve (if e.reported then s.kernel.irqs
        else s.kernel.irqs.set line { e with reported := true }) s.kernel.ticks).Adds t) s := by
  apply runs_dispatch drivers hs hlocks (Irq.Table.dispatch_unhandled hc he hh)
  generalize (if e.reported = true then s.kernel.irqs
    else s.kernel.irqs.set line { e with reported := true }) = irqs
  cases e.reported with
  | true => exact runs_last drivers hs hlocks irqs _
  | false =>
    have hsilent : ∀ l < irqLines, Silent ["IRQ: unhandled line ", Text.decimal l] := by decide
    have hline : Silent (Irq.Table.unhandled line).pieces := hsilent _ (Irq.Table.lt_of_lookup he)
    refine Runs.bind (p := writeLog (Irq.Table.unhandled line))
      (runs_writeLog steady_unwatched (closed_serve hs irqs _ _) hdivisor hline) ?_
    intro _ t ht
    obtain ⟨new, rfl, -⟩ := id ht
    apply (runs_last (s := { s with past := new ++ s.past }) drivers ⟨hs.flag, trivial⟩ hlocks
      irqs _).mono
    exact fun _ _ hu => ht.trans hu

end Serving

end Kernel

end InterruptCore

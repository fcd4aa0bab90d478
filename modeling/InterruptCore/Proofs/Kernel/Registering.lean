import InterruptCore.Proofs.Kernel.AnyOrder
import InterruptCore.Proofs.Kernel.Deadlock
import InterruptCore.Proofs.Kernel.Speech
import InterruptCore.Proofs.Pic.Agreement
import InterruptCore.Proofs.Pic.Decisions

/-! The registration of a handler is atomic. Either there is no such line, and nothing but a
warning comes of it, or the handler is in the table before the controllers hear of its line. -/
namespace InterruptCore

open Kernel Machine Program

variable {α β : Type}

namespace Machine

def masked (m : Machine) (ls : Locks) : Machine :=
  { m with flag := false, kernel := { m.kernel with locks := ls } }

variable {m : Machine} {ls : Locks}

theorem wrote_with (m : Machine) (sink : Sink) (s : String) (flag : Bool) (k : Kernel) :
    ({ m with flag := flag, kernel := k } : Machine).wrote sink s =
      { m.wrote sink s with flag := flag, kernel := k } := by
  cases sink with
  | serial => exact spoken_with m (Console.wire s) flag k
  | buffer n => rfl

theorem logged_with (m : Machine) (line : Log.Line) (flag : Bool) {k : Kernel}
    (hlog : k.log = m.kernel.log) :
    ({ m with flag := flag, kernel := k } : Machine).logged line =
      { m.logged line with flag := flag, kernel := k } := by
  have hpieces : ∀ (sink : Sink) (pieces : List String) (m : Machine),
      pieces.foldl (wrote · sink ·) { m with flag := flag, kernel := k } =
        { pieces.foldl (wrote · sink ·) m with flag := flag, kernel := k } := by
    intro sink pieces
    induction pieces with
    | nil => exact fun m => rfl
    | cons s pieces ih =>
      intro m
      rw [List.foldl_cons, List.foldl_cons, wrote_with, ih]
  unfold logged
  simp only [hlog]
  cases m.kernel.log.writes line with
  | none => rfl
  | some w => exact hpieces w.1 w.2 m

theorem masked_logged (m : Machine) (ls : Locks) (line : Log.Line) :
    (m.masked ls).logged line = (m.logged line).masked ls := by
  have hwith : (m.masked ls).logged line =
      { m.logged line with flag := false, kernel := { m.kernel with locks := ls } } :=
    logged_with m line false rfl
  rw [hwith, masked, kernel_of_core (logged_core m line)]

theorem masked_logs (m : Machine) (ls : Locks) (lines : List Log.Line) :
    lines.foldl logged (m.masked ls) = (lines.foldl logged m).masked ls := by
  induction lines generalizing m with
  | nil => rfl
  | cons line lines ih => rw [List.foldl_cons, List.foldl_cons, masked_logged, ih]

end Machine

namespace Kernel

open Boot

def Accesses (p : Port) : Request → Prop
  | .out q _ | .input q => q = p
  | _ => False

/-- At each access to the controllers the machine has `P`. -/
def Guarded (P : Machine → Prop) (x : Request × Machine) : Prop :=
  ∀ p ∈ controllerPorts, Accesses p x.1 → P x.2

variable {P : Machine → Prop} {m t : Machine} {flag : Bool}

theorem Talking.guarded {x : Request × Machine} (h : Talking flag x) : Guarded P x := by
  intro p hp haccess
  have htalks := h.request
  obtain ⟨r, x⟩ := x
  cases r with
  | out q v =>
    have hdata : Console.register 0 ∉ controllerPorts := by decide
    have hq : q = Console.register 0 := htalks
    have hqp : q = p := haccess
    exact absurd (hq ▸ hqp ▸ hp) hdata
  | input q => exact htalks.elim
  | _ => exact haccess.elim

theorem walks_memory {f : Kernel → Kernel} {next : Kernel → Program α} {o : Outcome α}
    (h : Walks (Guarded P) (next m.kernel) { m with kernel := f m.kernel } o) :
    Walks (Guarded P) (.ask (.memory f) next) m o :=
  .memory (fun _ _ haccess => haccess.elim) h

theorem walks_section {l : Lock} {p : Program α} {a : α} (hfree : m.kernel.locks.free l = true)
    (h : Walks (Guarded P) p (m.masked (m.kernel.locks.take l))
      (.answered a (t.masked (m.kernel.locks.take l))))
    (hflag : t.flag = m.flag) (hlocks : t.kernel.locks = m.kernel.locks) :
    Walks (Guarded P) (withoutInterrupts (holding l p)) m (.answered a t) := by
  have hform : withoutInterrupts (holding l p) =
      .ask .interruptFlag fun found =>
        if found then .ask .clearFlag fun _ =>
          holding l p >>= fun a => .ask .setFlag fun _ => .done a
        else holding l p := rfl
  have hacquire : perform (.acquire l) { m with flag := false } =
      .answered () (m.masked (m.kernel.locks.take l)) := if_pos hfree
  have hrelease : perform (.release l) (t.masked (m.kernel.locks.take l)) =
      .answered () { t with flag := false } := by
    change Outcome.answered () { t with
      flag := false
      kernel := { t.kernel with locks := (m.kernel.locks.take l).drop l } } = _
    rw [Locks.drop_take hfree, ← hlocks]
  have hheld : Walks (Guarded P) (holding l p) { m with flag := false }
      (.answered a { t with flag := false }) := by
    apply Walks.ask (r := .acquire l) nofun (fun _ _ h => h.elim) hacquire
    apply h.bind
    exact Walks.ask (r := .release l) nofun (fun _ _ h => h.elim) hrelease (.done a _)
  rw [hform]
  apply Walks.ask (r := .interruptFlag) nofun (fun _ _ h => h.elim) rfl
  cases hfound : m.flag with
  | true =>
    have hset : perform .setFlag { t with flag := false } = .answered () t := by
      change Outcome.answered () { t with flag := true } = _
      rw [← hfound, ← hflag]
    rw [if_pos rfl]
    apply Walks.ask (r := .clearFlag) nofun (fun _ _ h => h.elim) rfl
    apply hheld.bind
    exact Walks.ask (r := .setFlag) nofun (fun _ _ h => h.elim) hset (.done a _)
  | false =>
    -- There is nothing to put back: the flag was clear, and the section leaves it so.
    have hm : ({ m with flag := false } : Machine) = m := by rw [← hfound]
    have ht : ({ t with flag := false } : Machine) = t := by rw [← hfound, ← hflag]
    rw [if_neg Bool.false_ne_true]
    rwa [hm, ht] at hheld

section Lines

variable {line : UInt8} {name : String} {h : Handler} {e : Irq.Entry Handler}

def liveWarning (line : UInt8) : Log.Line :=
  Log.warn ["IRQ: line ", Text.decimal line.toNat, " changed with interrupts enabled"]

def registered (name : String) (line : UInt8) : Log.Line :=
  Log.debug ["IRQ: registered '", name, "' on line ", Text.decimal line.toNat]

def warned (m : Machine) (line : UInt8) : Machine :=
  if m.flag then m.logged (liveWarning line) else m

def stored (m : Machine) (line : UInt8) (e : Irq.Entry Handler) : Machine :=
  { (m.kernel.irqs.registerLog line).foldl logged m with
    kernel := { m.kernel with irqs := m.kernel.irqs.set line e } }

def unmasked (m : Machine) (line : UInt8) : Machine :=
  { m.written [(Port.pic1Data, (m.kernel.pic.masks.unmask line).master),
      (Port.pic2Data, (m.kernel.pic.masks.unmask line).slave)] with
    kernel := { m.kernel with pic := m.kernel.pic.next (.unmaskLine line) } }

theorem foldl_logged_core (m : Machine) (lines : List Log.Line) :
    (lines.foldl logged m).core = m.core := by
  induction lines generalizing m with
  | nil => rfl
  | cons line lines ih => exact (ih (m.logged line)).trans (logged_core m line)

theorem stored_flag (m : Machine) (line : UInt8) (e : Irq.Entry Handler) :
    (stored m line e).flag = m.flag :=
  (flag_of_core (foldl_logged_core m (m.kernel.irqs.registerLog line)) :)

theorem unmasked_flag (m : Machine) (line : UInt8) : (unmasked m line).flag = m.flag :=
  (flag_of_core (written_core m _) :)

theorem store_eq (line : UInt8) (name : String) (h : Handler) :
    Interrupts.store line name h = .ask (.memory id) fun k =>
      match k.irqs.register line name h with
      | .error e => .done (.error e)
      | .ok irqs => (k.irqs.registerLog line).forM writeLog >>= fun _ =>
          change (fun k => { k with irqs := irqs }) >>= fun _ => .done (.ok ()) := rfl

theorem walks_store (hfree : m.kernel.locks.free .tableWrite = true)
    (he : m.kernel.irqs.lookup line = some e) :
    Walks (Guarded P) (withoutInterrupts (holding .tableWrite (Interrupts.store line name h))) m
      (.answered (.ok ()) (stored m line ⟨some h, name, e.count, false⟩)) := by
  have hcore := foldl_logged_core m (m.kernel.irqs.registerLog line)
  refine walks_section hfree ?_ (flag_of_core hcore :) rfl
  have hregister : (m.masked (m.kernel.locks.take .tableWrite)).kernel.irqs.register line name h =
      .ok (m.kernel.irqs.set line ⟨some h, name, e.count, false⟩) :=
    Irq.Table.register_of_lookup he name h
  have hlogs := walks_logs (m.masked (m.kernel.locks.take .tableWrite))
    (m.kernel.irqs.registerLog line)
  have hset : (stored m line ⟨some h, name, e.count, false⟩).masked
        (m.kernel.locks.take .tableWrite) =
      { ((m.kernel.irqs.registerLog line).foldl logged m).masked
          (m.kernel.locks.take .tableWrite) with
        kernel :=
          { m.kernel with
            locks := m.kernel.locks.take .tableWrite
            irqs := m.kernel.irqs.set line ⟨some h, name, e.count, false⟩ } } := rfl
  rw [masked_logs] at hlogs
  rw [store_eq]
  apply walks_memory
  rw [hregister]
  apply (hlogs.mono fun x hx => hx.guarded).bind
  apply walks_memory
  rw [hset]
  simp only [masked, kernel_of_core hcore]
  exact .done _ _

theorem walks_store_refused (hfree : m.kernel.locks.free .tableWrite = true)
    (he : m.kernel.irqs.lookup line = none) :
    Walks (Guarded P) (withoutInterrupts (holding .tableWrite (Interrupts.store line name h))) m
      (.answered (.error (.outOfRange line)) m) := by
  refine walks_section hfree ?_ rfl rfl
  have hregister : (m.masked (m.kernel.locks.take .tableWrite)).kernel.irqs.register line name h =
      .error (.outOfRange line) := Irq.Table.register_of_none he name h
  rw [store_eq]
  apply walks_memory
  rw [hregister]
  exact .done _ _

theorem walks_unmask (hfree : m.kernel.locks.free .controllers = true) (hline : line.toNat < 16)
    (hP : ∀ x : Machine, x.kernel.irqs = m.kernel.irqs → P x) :
    Walks (Guarded P) (Controllers.unmaskLine line) m (.answered (.ok ()) (unmasked m line)) := by
  have hcheck : Pic.Driver.check (.unmaskLine line) = .ok () := if_pos hline
  have hcommand : Controllers.command (.unmaskLine line) =
      .ask (.memory id) fun k =>
        .ask (.out Port.pic1Data (k.pic.masks.unmask line).master) fun _ =>
          .ask (.out Port.pic2Data (k.pic.masks.unmask line).slave) fun _ =>
            .ask (.memory fun k => { k with pic := k.pic.next (.unmaskLine line) }) fun _ =>
              .done (.ok []) := by
    unfold Controllers.command
    rw [hcheck]
    rfl
  have hform : Controllers.unmaskLine line =
      withoutInterrupts (holding .controllers (Controllers.command (.unmaskLine line)))
        >>= fun r => .done (r.map fun _ => ()) := rfl
  have hsection : Walks (Guarded P)
      (withoutInterrupts (holding .controllers (Controllers.command (.unmaskLine line)))) m
      (.answered (.ok []) (unmasked m line)) := by
    refine walks_section hfree ?_ rfl rfl
    rw [hcommand]
    apply walks_memory
    refine Walks.ask (r := .out Port.pic1Data (m.kernel.pic.masks.unmask line).master) nofun
      ?_ rfl ?_
    · exact fun _ _ _ => hP _ rfl
    refine Walks.ask (r := .out Port.pic2Data (m.kernel.pic.masks.unmask line).slave) nofun
      ?_ rfl ?_
    · exact fun _ _ _ => hP _ rfl
    exact walks_memory (.done _ _)
  rw [hform]
  exact hsection.bind (.done _ _)

def install (line : UInt8) (name : String) (h : Handler) : Program (Except Irq.LineError Unit) := do
  match ← withoutInterrupts (holding .tableWrite (Interrupts.store line name h)) with
  | .error e => return .error e
  | .ok () =>
    match ← Controllers.unmaskLine line with
    | .error e => return .error e
    | .ok () =>
      writeLog (registered name line)
      return .ok ()

theorem register_eq (line : UInt8) (name : String) (h : Handler) :
    Interrupts.register line name h = .ask .interruptFlag fun found =>
      if found then writeLog (liveWarning line) >>= fun _ => install line name h
      else install line name h := rfl

theorem warned_core (m : Machine) (line : UInt8) : (warned m line).core = m.core := by
  unfold warned
  split
  · exact logged_core m _
  · rfl

theorem walks_warned {o : Outcome (Except Irq.LineError Unit)}
    (hinstall : Walks (Guarded P) (install line name h) (warned m line) o) :
    Walks (Guarded P) (Interrupts.register line name h) m o := by
  rw [register_eq]
  apply Walks.ask (r := .interruptFlag) nofun (fun _ _ h => h.elim) rfl
  unfold warned at hinstall
  cases hfound : m.flag with
  | true =>
    rw [hfound, if_pos rfl] at hinstall
    rw [if_pos rfl]
    exact ((walks_writeLog m (liveWarning line)).mono fun x hx => hx.guarded).bind hinstall
  | false =>
    rw [hfound, if_neg Bool.false_ne_true] at hinstall
    rwa [if_neg Bool.false_ne_true]

theorem walks_register_refused (name : String) (h : Handler)
    (hfree : m.kernel.locks.free .tableWrite = true) (he : m.kernel.irqs.lookup line = none) :
    Walks (Guarded P) (Interrupts.register line name h) m
      (.answered (.error (.outOfRange line)) (warned m line)) := by
  have hkernel := kernel_of_core (warned_core m line)
  apply walks_warned
  apply (walks_store_refused (hkernel ▸ hfree) (hkernel ▸ he)).bind
  exact .done _ _

theorem walks_register (name : String) (h : Handler)
    (hfree : m.kernel.locks.free .tableWrite = true)
    (hcontrollers : m.kernel.locks.free .controllers = true)
    (he : m.kernel.irqs.lookup line = some e)
    (hP : ∀ x : Machine,
      x.kernel.irqs = m.kernel.irqs.set line ⟨some h, name, e.count, false⟩ → P x) :
    Walks (Guarded P) (Interrupts.register line name h) m
      (.answered (.ok ()) ((unmasked (stored (warned m line) line ⟨some h, name, e.count, false⟩)
        line).logged (registered name line))) := by
  have hkernel := kernel_of_core (warned_core m line)
  have hline : line.toNat < 16 := Irq.Table.lt_of_lookup he
  apply walks_warned
  apply (walks_store (hkernel ▸ hfree) (hkernel ▸ he)).bind
  refine Walks.bind (walks_unmask ?_ hline ?_) ?_
  · have hlocks : (stored (warned m line) line ⟨some h, name, e.count, false⟩).kernel.locks =
        (warned m line).kernel.locks := rfl
    rwa [hlocks, hkernel]
  · intro x hx
    apply hP
    rw [hx, ← hkernel]
    rfl
  · apply ((walks_writeLog _ (registered name line)).mono fun x hx => hx.guarded).bind
    exact .done _ _

def maskWrites (ms : Pic.Masks) : List Event :=
  [.out Port.pic1Data ms.master, .out Port.pic2Data ms.slave]

/-- More has happened, and these are the writes to the controllers among it. -/
def Adds (m : Machine) (ws : List Event) (t : Machine) : Prop :=
  ∃ es, t.events = m.events ++ es ∧ es.filter isControllerWrite = ws

theorem Adds.trans {ws ws' : List Event} {t u : Machine} (h : Adds m ws t) (h' : Adds t ws' u) :
    Adds m (ws ++ ws') u := by
  obtain ⟨es, hes, rfl⟩ := h
  obtain ⟨es', hes', rfl⟩ := h'
  refine ⟨es ++ es', ?_, List.filter_append ..⟩
  rw [hes', hes, List.append_assoc]

theorem adds_logged (m : Machine) (l : Log.Line) : Adds m [] (m.logged l) := by
  refine ⟨m.logEvents l, logged_events m l, ?_⟩
  apply List.filter_eq_nil_iff.mpr
  intro e he
  rcases mem_logEvents he with ⟨b, rfl⟩ | ⟨n, s, rfl⟩
  · unfold outEvent
    split
    · exact nofun
    · exact Bool.eq_false_iff.mp rfl
  · exact nofun

theorem adds_logs (m : Machine) (ls : List Log.Line) : Adds m [] (ls.foldl logged m) := by
  induction ls generalizing m with
  | nil => exact ⟨[], (List.append_nil _).symm, rfl⟩
  | cons l ls ih => exact (adds_logged m l).trans (ih (m.logged l))

theorem adds_unmasked (m : Machine) (line : UInt8) :
    Adds m (maskWrites (m.kernel.pic.masks.unmask line)) (unmasked m line) := by
  refine ⟨maskWrites (m.kernel.pic.masks.unmask line), ?_, rfl⟩
  change (outEvent _ Port.pic2Data _ :: outEvent _ Port.pic1Data _ :: m.past).reverse = _
  rw [outEvent_other _ (by decide), outEvent_other _ (by decide), List.reverse_cons,
    List.reverse_cons, List.append_assoc]
  rfl

theorem latched_unmasked (m : Machine) (line : UInt8) :
    Pic.Latched (unmasked m line).latches (m.kernel.pic.masks.unmask line) :=
  Pic.latched_writeMasks m.latches _

theorem latched_logged {ms : Pic.Masks} (hlatched : Pic.Latched m.latches ms) (l : Log.Line) :
    Pic.Latched (m.logged l).latches ms := by
  constructor
  · rw [logged_read m l (by decide)]
    exact hlatched.1
  · rw [logged_read m l (by decide)]
    exact hlatched.2

structure Declined (line : UInt8) (m after : Machine) : Prop where
  kernel : after.kernel = m.kernel
  flag : after.flag = m.flag
  events : after.events = m.events ++ if m.flag then m.logEvents (liveWarning line) else []

structure Installed (line : UInt8) (name : String) (h : Handler) (m after : Machine) : Prop where
  entry : after.kernel.irqs.lookup line =
    some ⟨some h, name, m.kernel.irqs.count line, false⟩
  others : ∀ other, other ≠ line →
    after.kernel.irqs.lookup other = m.kernel.irqs.lookup other
  counts : ∀ other, after.kernel.irqs.count other = m.kernel.irqs.count other
  masks : ∀ other : UInt8, other.toNat < 16 → after.kernel.pic.masks.isMasked other =
    if other = line ∨ other = 2 ∧ 8 ≤ line.toNat then .ok false
    else m.kernel.pic.masks.isMasked other
  kernel : after.kernel = { m.kernel with
    irqs := after.kernel.irqs
    pic := { m.kernel.pic with masks := after.kernel.pic.masks } }
  flag : after.flag = m.flag
  latched : Pic.Latched after.latches after.kernel.pic.masks
  writes : Adds m (maskWrites after.kernel.pic.masks) after

theorem declined_warned (m : Machine) (line : UInt8) : Declined line m (warned m line) := by
  have hcore := warned_core m line
  refine ⟨kernel_of_core hcore, flag_of_core hcore, ?_⟩
  unfold warned
  split
  · exact logged_events m _
  · exact (List.append_nil _).symm

theorem Installed.of_kernel {after : Machine} (he : m.kernel.irqs.lookup line = some e)
    (hkernel : after.kernel = { m.kernel with
      irqs := m.kernel.irqs.set line ⟨some h, name, e.count, false⟩
      pic := m.kernel.pic.next (.unmaskLine line) })
    (hflag : after.flag = m.flag)
    (hlatched : Pic.Latched after.latches (m.kernel.pic.masks.unmask line))
    (hwrites : Adds m (maskWrites (m.kernel.pic.masks.unmask line)) after) :
    Installed line name h m after := by
  have hline : line.toNat < 16 := Irq.Table.lt_of_lookup he
  have hcount : m.kernel.irqs.count line = e.count := Irq.Table.count_of_lookup he
  have hset : ∀ other, after.kernel.irqs.lookup other =
      if other = line then some ⟨some h, name, e.count, false⟩
      else m.kernel.irqs.lookup other := by
    intro other
    rw [hkernel]
    exact Irq.Table.lookup_set _ hline _ other
  have hmasks : after.kernel.pic.masks = m.kernel.pic.masks.unmask line := by
    rw [hkernel]
    rfl
  constructor
  · rw [hset, if_pos rfl, hcount]
  · exact fun other hne => (hset other).trans (if_neg hne)
  · intro other
    unfold Irq.Table.count
    rw [hset]
    by_cases hsame : other = line
    · rw [if_pos hsame, hsame, he]
    · rw [if_neg hsame]
  · intro other hother
    have hopens : (line = other ∨ other = 2 ∧ 8 ≤ line.toNat) ↔
        (other = line ∨ other = 2 ∧ 8 ≤ line.toNat) := by rw [eq_comm]
    rw [hmasks, Pic.Masks.isMasked_eq hother, Pic.Masks.isMasked_eq hother,
      Pic.Masks.covers_unmask hline hother]
    by_cases hopen : other = line ∨ other = 2 ∧ 8 ≤ line.toNat
    · rw [if_pos hopen]
      simp [hopens.mpr hopen]
    · rw [if_neg hopen]
      simp [mt hopens.mp hopen]
  · rw [hkernel]
    rfl
  · exact hflag
  · rwa [hmasks]
  · rwa [hmasks]

theorem adds_warned (m : Machine) (line : UInt8) : Adds m [] (warned m line) := by
  unfold warned
  split
  · exact adds_logged m _
  · exact ⟨[], (List.append_nil _).symm, rfl⟩

theorem installed_of_still {s after : Machine} (he : m.kernel.irqs.lookup line = some e)
    (hs : s = stored (warned m line) line ⟨some h, name, e.count, false⟩)
    (hafter : after.still = ((unmasked s line).logged (registered name line)).still) :
    Installed line name h m after := by
  have hwarned := warned_core m line
  have hlogged := logged_core (unmasked s line) (registered name line)
  have hkernel : s.kernel = { m.kernel with
      irqs := m.kernel.irqs.set line ⟨some h, name, e.count, false⟩ } := by
    rw [hs, ← kernel_of_core hwarned]
    rfl
  have hflag : s.flag = m.flag := by
    rw [hs, stored_flag, flag_of_core hwarned]
  have hpic : s.kernel.pic = m.kernel.pic := (congrArg Kernel.pic hkernel :)
  apply Installed.of_kernel he
  · rw [kernel_of_still hafter, kernel_of_core hlogged, unmasked, hkernel]
  · rw [flag_of_still hafter, flag_of_core hlogged, unmasked_flag, hflag]
  · rw [latches_of_still hafter, ← hpic]
    exact latched_logged (latched_unmasked s line) _
  · have hstored : Adds (warned m line) [] s := hs ▸ adds_logs _ _
    have hwrites := ((adds_warned m line).trans hstored).trans
      ((adds_unmasked s line).trans (adds_logged _ (registered name line)))
    rw [List.append_nil, hpic] at hwrites
    obtain ⟨es, hes, hfilter⟩ := hwrites
    exact ⟨es, (events_of_still hafter).trans hes, hfilter⟩

/-- Between calls no lock is held, also where IRQs came meanwhile: the next call finds the table
and the controllers free. -/
theorem calls_give_locks_back {drivers : Drivers} (hd : ∀ d c, Calls true (drivers d c))
    {p : Program α} (hp : Calls false p) (hlocks : m.kernel.locks = {})
    (hg : Gated supportedVectors m.idtr m.kernel.gates)
    (harrivals : ∀ a ∈ m.arrivals, a.trap.IsIrq) (hwake : ∀ t ∈ m.wake, t.IsIrq) {a : α}
    {after : Machine} (hrun : Machine.run drivers p m = .answered a after) :
    after.kernel.locks = {} := by
  have hopen : m.kernel.locks.Open := by
    rw [hlocks]
    exact ⟨rfl, rfl, rfl⟩
  have hreaders : m.kernel.locks.tableReaders = 0 := by rw [hlocks]
  have hmeets := hp.meets (g := lockWatch.view m) hg hopen (fun _ => hreaders) nofun
  have hends := (hmeets.holds (interrupts_bear hd m.pending) ⟨harrivals, hwake⟩).ends
  rw [show runWith (take drivers m.pending) p m = _ from hrun] at hends
  have hsame : after.kernel.locks = m.kernel.locks := hends.1.1
  rw [hsame, hlocks]

/-- A registration with no trap meanwhile, by code that holds neither the table nor the
controllers. For a line that there is not it fails without a word to the controllers, and nothing
has changed. For any other it succeeds: the handler was in the table before the controllers heard
anything, and of the lines this one and its cascade were opened. -/
theorem register_is_atomic (drivers : Drivers) (m : Machine) (line : UInt8) (name : String)
    (h : Handler) (htable : m.kernel.locks.free .tableWrite = true)
    (hcontrollers : m.kernel.locks.free .controllers = true)
    (hm : (Interrupts.register line name h).Undisturbed m) :
    (16 ≤ line.toNat →
      ∃ after, Machine.run drivers (Interrupts.register line name h) m =
          .answered (.error (.outOfRange line)) after ∧
        Declined line m after ∧
        ∀ i ∈ instants drivers (Interrupts.register line name h) m,
          ∀ p ∈ controllerPorts, ¬ Accesses p i.request) ∧
    (line.toNat < 16 →
      ∃ after, Machine.run drivers (Interrupts.register line name h) m =
          .answered (.ok ()) after ∧
        Installed line name h m after ∧
        ∀ i ∈ instants drivers (Interrupts.register line name h) m,
          ∀ p ∈ controllerPorts, Accesses p i.request →
            i.machine.kernel.irqs.lookup line =
              some ⟨some h, name, m.kernel.irqs.count line, false⟩) := by
  constructor
  · intro hline
    have hwalks := walks_register_refused (P := fun _ => False) name h htable
      (Irq.Table.lookup_eq_none_iff.mpr hline)
    obtain ⟨after, hrun, hafter⟩ := run_answered drivers hm hwalks.walk
    have hrefused := declined_warned m line
    refine ⟨after, hrun, ⟨?_, ?_, ?_⟩, ?_⟩
    · rw [kernel_of_still hafter, hrefused.kernel]
    · rw [flag_of_still hafter, hrefused.flag]
    · rw [events_of_still hafter, hrefused.events]
    · intro i hi p hp haccess
      obtain ⟨x, hx, hrequest, -⟩ := exists_step drivers hm hi
      exact hwalks.steps x hx p hp (hrequest ▸ haccess)
  · intro hline
    obtain ⟨e, he⟩ := m.kernel.irqs.exists_lookup hline
    have hwalks := walks_register name h htable hcontrollers he
      (P := fun x => x.kernel.irqs = m.kernel.irqs.set line ⟨some h, name, e.count, false⟩)
      fun _ => id
    obtain ⟨after, hrun, hafter⟩ := run_answered drivers hm hwalks.walk
    refine ⟨after, hrun, installed_of_still he rfl hafter, ?_⟩
    intro i hi p hp haccess
    obtain ⟨x, hx, hrequest, hmachine⟩ := exists_step drivers hm hi
    have hirqs := hwalks.steps x hx p hp (hrequest ▸ haccess)
    rw [← kernel_of_still hmachine, hirqs, Irq.Table.lookup_set _ hline, if_pos rfl,
      Irq.Table.count_of_lookup he]

/-- The controllers were remapped, and interrupts are open. The line is one of the second chip. -/
theorem register_is_atomic_second_chip :
    let calls : Program Unit := do
      Console.init
      Controllers.remap
      setFlag
    let m := (Machine.run notingDrivers calls {}).machine
    let mouse : Handler := .device (.recorder "mouse")
    m.kernel.locks.free .tableWrite = true ∧ m.kernel.locks.free .controllers = true ∧
    (Interrupts.register 12 "mouse" mouse).Undisturbed m ∧ m.flag = true ∧
    ∃ after, Machine.run notingDrivers (Interrupts.register 12 "mouse" mouse) m =
        .answered (.ok ()) after ∧
      after.kernel.irqs.lookup 12 = some ⟨some mouse, "mouse", 0, false⟩ ∧
      after.kernel.irqs.lookup 2 = some {} ∧
      after.kernel.pic.masks.isMasked 2 = .ok false ∧
      after.kernel.pic.masks.isMasked 5 = .ok true ∧
      after.kernel.pic.masks.isMasked 12 = .ok false ∧ after.flag = true := by
  intro calls m mouse
  have htable : m.kernel.locks.free .tableWrite = true := by decide +kernel
  have hcontrollers : m.kernel.locks.free .controllers = true := by decide +kernel
  have hflag : m.flag = true := by decide +kernel
  have hm : (Interrupts.register 12 "mouse" mouse).Undisturbed m := by
    apply undisturbed_of_none
    · rfl
    · rfl
  obtain ⟨-, hdone⟩ :=
    register_is_atomic notingDrivers m 12 "mouse" mouse htable hcontrollers hm
  obtain ⟨after, hrun, hafter, -⟩ := hdone (by decide)
  have hcount : m.kernel.irqs.count 12 = 0 := by decide +kernel
  refine ⟨htable, hcontrollers, hm, hflag, after, hrun, ?_, ?_, ?_, ?_, ?_, ?_⟩
  · rw [hafter.entry, hcount]
  · rw [hafter.others 2 (by decide)]
    decide +kernel
  · rw [hafter.masks 2 (by decide), if_pos (by decide)]
  · rw [hafter.masks 5 (by decide), if_neg (by decide)]
    decide +kernel
  · rw [hafter.masks 12 (by decide), if_pos (by decide)]
  · rw [hafter.flag, hflag]

end Lines

end Kernel

end InterruptCore

import InterruptCore.Proofs.Kernel.Passages
import InterruptCore.Proofs.Machine.Undisturbed

/-! Interrupts as steps. An interrupt is served with interrupts closed: it takes no trap itself
and comes to its end. What it leaves behind is what the table of lines says of its line, whatever
the handlers of the devices do besides. -/
namespace InterruptCore

open Machine Program

variable {α ρ : Type}

namespace Machine

theorem Terms.Follows.waits {T : Terms ρ} {s : ρ} {r : Request} {K : r.Answer → ρ → Prop}
    (h : T.Follows s r K) (hr : r.IsWait) : T.Waits s := by
  cases r with
  | halt => exact h.1
  | haltWhile waiting => exact h.1
  | haltForever => exact h
  | _ => exact hr.elim

theorem Terms.Follows.ends_reading {T : Terms ρ} {w : Poll} {K : Unit → ρ → Prop} {s : ρ}
    (h : T.Follows s (.poll w) K) {n : Nat} {m : Machine} (hm : T.view m = s)
    (hrests : RestsReading w n m) :
    (pollWhile ignoring w n m).Ends (fun a m => K a (T.view m))
      (fun why m => T.stop why (T.view m)) := by
  induction n generalizing m with
  | zero =>
    change K () (T.view (readUntil w _ m))
    rw [view_readUntil h _ hm]
    exact (h m hm).2
  | succ n ih =>
    obtain ⟨hread, hdone⟩ := h m hm
    rw [pollWhile]
    split
    · rename_i hlacks
      obtain ⟨hrefuses, hrests⟩ := hrests hlacks
      obtain ⟨hsettle, -⟩ := settle_of_refuses ignoring (fun _ _ => []) hrefuses
      rw [hsettle]
      exact ih ((T.view_tick _).trans ((T.view_arrivals _ _).trans hread)) hrests
    · change K () (T.view _)
      rwa [hread]

theorem Terms.Follows.ends {T : Terms ρ} {m : Machine} {r : Request} {K : r.Answer → ρ → Prop}
    (h : T.Follows (T.view m) r K) (hr : ¬ r.IsWait) (hrests : m.Rests r) :
    (answer ignoring r m).Ends (fun a m => K a (T.view m))
      (fun why m => T.stop why (T.view m)) := by
  cases r with
  | poll w => exact h.ends_reading rfl hrests
  | _ => first | exact h m rfl | exact absurd trivial hr

namespace Watch

variable {W : Watch ρ} {g : Guard ρ}

/-- Code under the watch runs with interrupts closed, and comes to no stop. -/
structure Secluded (W : Watch ρ) : Prop where
  calm : ∀ ls, ¬ W.calm ls
  stop : ∀ why, ¬ W.stop why
  expects : ∀ t, W.expects t → t.IsIrq

namespace Secluded

variable (hW : W.Secluded)
include hW

theorem flag (hs : W.Safe g) : g.flag = false :=
  Bool.eq_false_iff.mpr fun hset => hW.calm g.locks (hs.1 hset)

theorem refuses_all {m : Machine} (hs : W.Safe (W.view m))
    (harrivals : ∀ a ∈ m.arrivals, W.expects a.trap) :
    ∀ a ∈ m.arrivals, m.accepts a.trap = false := by
  have hflag : m.flag = false := hW.flag hs
  intro a ha
  have hirq := hW.expects a.trap (harrivals a ha)
  rw [accepts, hflag, Bool.false_or, decide_eq_false_iff_not, Nat.not_lt]
  exact hirq.1

theorem answers (take : Taking) {p : Program α} {Q : α → Guard ρ → Prop} {m : Machine}
    (h : W.terms.Meets p Q (W.view m)) (harrivals : ∀ a ∈ m.arrivals, W.expects a.trap) :
    ∃ a after, runWith take p m = .answered a after ∧ Q a (W.view after) ∧
      after.wake = m.wake ∧ after.arrivals <:+ m.arrivals := by
  -- The arrivals get fewer from request to request, and those that are left are still refused.
  induction p generalizing m with
  | done a => exact ⟨a, m, rfl, h, rfl, List.suffix_refl _⟩
  | ask r next ih =>
    obtain ⟨hok, hfollows⟩ := h
    have hrefuses : m.Refuses r := fun a ha =>
      hW.refuses_all hok.1 harrivals a (List.takeWhile_subset _ ha)
    obtain ⟨hsettle, -⟩ := settle_of_refuses take unvisited hrefuses
    have hr : ¬ r.IsWait := fun hr => hW.stop _ ((hfollows.waits hr).2 m rfl)
    have hrests : (m.pass r).tick.Rests r := by
      cases r with
      | poll w =>
        refine restsReading_of_refusing _ fun a ha => hW.refuses_all hok.1 harrivals a ?_
        exact (List.dropWhile_suffix _).subset ha
      | _ => first | trivial | exact absurd trivial hr
    obtain ⟨-, hanswer, -, hpending⟩ := rested_of_rests take unvisited hrests
    have hview : W.terms.view m = W.terms.view (m.pass r).tick := by
      rw [W.terms.view_tick]
      exact (W.terms.view_arrivals m _).symm
    change W.terms.Follows (W.terms.view m) r _ at hfollows
    rw [hview] at hfollows
    have hends := hfollows.ends hr hrests
    simp only [runWith, hsettle, Outcome.bind, hanswer]
    cases ho : answer ignoring r (m.pass r).tick with
    | stopped why later =>
      rw [ho] at hends
      exact absurd hends (hW.stop why)
    | answered a later =>
      rw [ho] at hends hpending
      obtain ⟨harrive, hwake⟩ := hpending
      have hsuffix : later.arrivals <:+ m.arrivals := harrive.trans (List.dropWhile_suffix _)
      obtain ⟨b, after, hrun, hQ, hwakes, hrest⟩ :=
        ih a hends fun x hx => harrivals x (hsuffix.subset hx)
      exact ⟨b, after, hrun, hQ, hwakes.trans hwake, hrest.trans hsuffix⟩

end Secluded

end Watch

def Incoming.isTick (t : Incoming) : Bool := t.vector = Irq.Known.timer.vector

end Machine

namespace Kernel

/-- What the service of an interrupt goes by, and what it counts. -/
structure Service where
  idtr : Option TablePointer
  gates : GateTable
  irqs : Irq.Table Handler
  ticks : UInt64
  timers : Nat

namespace Service

def count (s : Service) : Irq.Action Handler → Service
  | .run .timer => { s with ticks := s.ticks + 1 }
  | _ => s

def dispatch (s : Service) (c : Context) : Service :=
  (s.irqs.dispatch c).2.foldl count { s with irqs := (s.irqs.dispatch c).1 }

def serve (s : Service) (t : Incoming) : Service :=
  { s.dispatch t.context with timers := s.timers + t.isTick.toNat }

def of (m : Machine) : Service :=
  ⟨m.idtr, m.kernel.gates, m.kernel.irqs, m.kernel.ticks, served m.past⟩

theorem foldl_count (s : Service) (actions : List (Irq.Action Handler)) :
    actions.foldl count s = { s with ticks := (actions.foldl count s).ticks } := by
  induction actions generalizing s with
  | nil => rfl
  | cons a actions ih =>
    rw [List.foldl_cons, ih]
    unfold count
    split <;> rfl

theorem serve_tables (s : Service) (t : Incoming) :
    (s.serve t).idtr = s.idtr ∧ (s.serve t).gates = s.gates := by
  rw [serve, dispatch, foldl_count]
  exact ⟨rfl, rfl⟩

end Service

theorem served_filter (past : List Event) : served past = served (past.filter Event.isReturn) := by
  induction past with
  | nil => rfl
  | cons e past ih =>
    rw [List.filter_cons]
    cases e with
    | returned v loaded same =>
      simp only [Event.isReturn, if_true, served, List.countP_cons] at ih ⊢
      rw [ih]
    | _ => simpa [served, Event.isReturn, Event.isTick, List.countP_cons] using ih

theorem served_writePort (m : Machine) (p : Port) (v : UInt8) :
    served (m.writePort p v).past = served m.past := by
  obtain ⟨_, later, hperform, halike⟩ := perform_quiet (r := .out p v) trivial m
  cases hperform
  rw [served_filter, halike.returns, ← served_filter]

/-- Code that serves an interrupt is watched for what the service goes by. -/
def serviceWatch : Watch Service where
  part := Service.of
  calm _ := False
  inv _ := True
  stop _ := False
  expects := Incoming.IsIrq
  part_flag _ _ := rfl
  part_locks _ _ := rfl
  part_console m d v _ := by
    simp only [Service.of, served_writePort]
    rfl
  part_busyReads _ _ := rfl
  part_captured m b text := by
    have hserved : served (m.record (.captured b text)).past = served m.past :=
      List.countP_cons_of_neg Bool.false_ne_true
    simp only [Service.of, hserved]
    rfl
  part_tick _ := rfl
  part_arrivals _ _ := rfl
  part_wake _ _ := rfl

theorem secluded_serviceWatch : serviceWatch.Secluded := ⟨fun _ => id, fun _ => id, fun _ => id⟩

theorem aloof_serviceWatch : serviceWatch.Aloof where
  quiet m m' h := by
    have hserved : served m'.past = served m.past := by
      rw [served_filter, h.returns, ← served_filter]
    change Service.of m' = Service.of m
    simp only [Service.of, h.idtr, h.kernel, hserved]
  pic _ _ := rfl

/-- Handlers of devices as they are called to serve an interrupt, where nothing that they wait
for is held: they come to their end with interrupts still closed, and leave locks and gates, the
table of lines and the ticks as they found them. -/
def Mannered (drivers : Drivers) : Prop :=
  ∀ d c (g : Guard Service), g.flag = false → g.locks.Open → serviceWatch.Keeps (drivers d c) g

open Watch

theorem safe_of_closed {g : Guard Service} (hflag : g.flag = false) : serviceWatch.Safe g :=
  .of_closed hflag trivial

theorem mannered_notingDrivers : Mannered notingDrivers := by
  intro d c g hflag _
  have hs := safe_of_closed hflag
  cases d with
  | recorder name => exact ask_quiet aloof_serviceWatch hs (r := .note _) trivial fun _ => rfl
  | logger name => exact keeps_writeLog hs _
  | plain => exact ask_quiet aloof_serviceWatch hs (r := .note _) trivial fun _ => rfl

section Serving

variable {drivers : Drivers} (hd : Mannered drivers)
include hd

section Dispatch

variable {g : Guard Service} (hflag : g.flag = false) (hopen : g.locks.Open)
include hflag hopen

theorem meets_perform (c : Context) (a : Irq.Action Handler) :
    serviceWatch.terms.Meets (Interrupts.perform drivers c a)
      (fun _ g' => g' = { g with rest := g.rest.count a }) g := by
  have hs := safe_of_closed hflag
  cases a with
  | log line => exact keeps_writeLog hs line
  | run h =>
    cases h with
    | timer =>
      apply ask_memory hs
      rintro m rfl
      rfl
    | device d => exact hd d c g hflag hopen
  | acknowledge line =>
    have hfree : g.locks.free .controllers = true := by rw [Locks.free, hopen.controllers]; rfl
    have hs' : serviceWatch.Safe { g with locks := g.locks.take .controllers } :=
      safe_of_closed hflag
    apply keeps_holding hs hfree hs'
    exact (keeps_command aloof_serviceWatch hs' _).bind fun _ => keeps_pure ()

theorem meets_actions (c : Context) (actions : List (Irq.Action Handler)) :
    serviceWatch.terms.Meets (actions.forM (Interrupts.perform drivers c))
      (fun _ g' => g' = { g with rest := actions.foldl Service.count g.rest }) g := by
  refine Terms.Meets.forM_prefix
    (I := fun before g' => g' = { g with rest := before.foldl Service.count g.rest }) ?_ [] rfl
  rintro before a _ rfl
  apply (meets_perform (g := { g with rest := before.foldl Service.count g.rest })
    hd hflag hopen c a).mono
  rintro _ _ rfl
  rw [List.foldl_append]
  rfl

theorem meets_dispatch (c : Context) :
    serviceWatch.terms.Meets (Interrupts.dispatch drivers c)
      (fun _ g' => g' = { g with rest := g.rest.dispatch c }) g := by
  have hfree : g.locks.free .tableRead = true := by rw [Locks.free, hopen.writer]; rfl
  have hs := safe_of_closed hflag
  apply meets_holding hs hfree
  apply ask_memory (g := { g with locks := g.locks.take .tableRead }) (safe_of_closed hflag)
  intro m hm
  obtain ⟨hclear, hlocks, hpart⟩ := view_eq.mp hm
  have hirqs : m.kernel.irqs = g.rest.irqs := congrArg Service.irqs hpart
  have htaken : serviceWatch.view { m with
      kernel := { m.kernel with irqs := (m.kernel.irqs.dispatch c).1 } } =
      ⟨g.flag, g.locks.take .tableRead, { g.rest with irqs := (g.rest.irqs.dispatch c).1 }⟩ := by
    rw [hirqs, ← hpart]
    exact view_eq.mpr ⟨hclear, hlocks, rfl⟩
  dsimp only [Program.bind]
  rw [htaken, hirqs]
  apply (meets_actions (g := ⟨g.flag, g.locks.take .tableRead, _⟩) hd hflag
    hopen.take_tableRead c _).mono
  rintro _ _ rfl
  refine ⟨safe_of_closed hflag, ?_⟩
  simp only [Locks.drop_take hfree]
  rfl

end Dispatch

/-- An interrupt that comes where interrupts are open is served: the code it interrupted goes on
with its own flag and with the locks as they were. -/
theorem take_serves {m : Machine} {t : Incoming} (hg : Gated supportedVectors m.idtr m.kernel.gates)
    (hopen : m.kernel.locks.Open) (harrivals : ∀ a ∈ m.arrivals, a.trap.IsIrq) (hirq : t.IsIrq)
    (k : Nat) :
    ∃ after, take drivers (k + 1) t m = .answered () after ∧ after.flag = m.flag ∧
      after.kernel.locks = m.kernel.locks ∧ Service.of after = (Service.of m).serve t ∧
      after.wake = m.wake ∧ after.arrivals <:+ m.arrivals := by
  have hc : 32 ≤ t.context.vectorWord.toNat % 256 := t.vectorWord_context.symm ▸ hirq.1
  have hmeets := meets_dispatch (g := serviceWatch.view (m.behindGate t)) hd rfl hopen t.context
  obtain ⟨_, inner, hrun, hview, hwake, hrest⟩ :=
    secluded_serviceWatch.answers (take drivers k) hmeets harrivals
  obtain ⟨-, hlocks, hpart⟩ := view_eq.mp hview
  rw [take_gated hg (Nat.le_refl _) hirq.2, entry_eq_dispatch drivers hc, hrun]
  refine ⟨inner.leaveGate m.flag t t.registers, rfl, rfl, hlocks, ?_, hwake, hrest⟩
  have hservice : Service.of inner = (Service.of m).dispatch t.context := hpart
  have hserved : served inner.past = served m.past := by
    rw [show served inner.past = (Service.of inner).timers from rfl, hservice, Service.dispatch,
      Service.foldl_count]
    rfl
  have hreturn : served (inner.leaveGate m.flag t t.registers).past =
      served m.past + t.isTick.toNat := by
    rw [← hserved]
    change served (.returned t.vector t.registers _ :: inner.past) = _
    by_cases htick : t.vector = Irq.Known.timer.vector
    · simp [served, Event.isTick, Incoming.isTick, htick]
    · simp [served, Event.isTick, Incoming.isTick, htick]
  rw [Service.serve, ← hservice]
  simp only [Service.of, hreturn]
  rfl

end Serving

end Kernel

end InterruptCore

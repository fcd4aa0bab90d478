import InterruptCore.Proofs.Kernel.Opening
import InterruptCore.Proofs.Kernel.Passages

/-! From power-on to open interrupts. The preparations run closed, on one scene for each level of
the log, and send no mark; what they leave behind is what an interrupt needs. -/
namespace InterruptCore

open Machine Program

variable {α β : Type}

namespace Kernel

theorem follow_bind (inv : Scene → Prop) [DecidablePred inv] (p : Program α) (f : α → Program β)
    (s : Scene) : Scene.follow inv (p >>= f) s =
      (Scene.follow inv p s).bind fun x => Scene.follow inv (f x.1) x.2 := by
  induction p generalizing s with
  | done a => rfl
  | ask r next ih =>
    change (if s.flag = false ∧ inv s then (s.perform r).bind fun x =>
      Scene.follow inv (next x.1 >>= f) x.2 else none) = _
    rw [Scene.follow]
    split
    · rw [Option.bind_assoc]
      exact congrArg _ (funext fun x => ih x.1 x.2)
    · rfl

namespace Boot

def firstScene (level : Log.Level) (divisor : Bool) : Scene where
  flag := false
  kernel := { log := { level := level }, revisionAccepted := true, booted := ⟨true⟩ }
  divisor := divisor
  past := []

/-- The console is set up whatever the data port holds. -/
theorem follow_serial (level : Log.Level) (divisor : Bool) :
    Scene.follow Scene.tallied (runStep .serial) (firstScene level divisor) =
      Scene.follow Scene.tallied (runStep .serial) (firstScene level false) := by
  cases level <;> cases divisor <;> rfl

theorem follow_preparations (level : Log.Level) (divisor : Bool) : ∃ s,
    Scene.follow Scene.tallied (preparations.forM runStep) (firstScene level divisor) =
      some ((), s) ∧ s.divisor = false ∧ ∀ e ∈ s.past, e.Muted := by
  have hall : ∀ level ∈ Log.Level.all,
      ((Scene.follow Scene.tallied (preparations.forM runStep) (firstScene level false)).any
        fun x => x.2.divisor = false ∧ ∀ e ∈ x.2.past, e.Muted) = true := by
    decide +kernel
  have hlevel : level ∈ Log.Level.all := by cases level <;> decide
  have hfirst : preparations.forM runStep =
      runStep .serial >>= fun _ => preparations.tail.forM runStep := rfl
  have hsame : Scene.follow Scene.tallied (preparations.forM runStep) (firstScene level divisor) =
      Scene.follow Scene.tallied (preparations.forM runStep) (firstScene level false) := by
    rw [hfirst, follow_bind, follow_bind, follow_serial]
  have h := hall level hlevel
  rw [hsame]
  cases hs : Scene.follow Scene.tallied (preparations.forM runStep) (firstScene level false) with
  | none =>
    rw [hs] at h
    exact absurd h Bool.false_ne_true
  | some x =>
    rw [hs] at h
    exact ⟨x.2, rfl, of_decide_eq_true h⟩

structure Poised (m : Machine) : Prop where
  flag : m.flag = false
  loaded : m.idtr = some ⟨4095, GateTable.address⟩
  segments : m.kernel.segmentsLoaded.isSet = true
  gates : m.kernel.gatesLoaded.isSet = true
  armed : (scene m).Armed
  later : Later [] m.past
  awaits : AwaitsIrqs m

section Trails

variable {level : Log.Level} {gdtr idtr : Option TablePointer} {m : Machine}
  (hview : bootWatch.view m = closed {} (prepared (entered level gdtr idtr)))
  (hdivisor : (scene m).divisor = false) (hmuted : ∀ e ∈ m.past, e.Muted)
include hview hdivisor hmuted

theorem armed_of_trail : (scene m).Armed := by
  obtain ⟨-, hlocks, htrail⟩ := Watch.view_eq.mp hview
  have hgates : m.kernel.gates = armedGates := kernel_of_trail htrail Kernel.gates
  have hrate : Timer.rate m.kernel = 100 := kernel_of_trail htrail Timer.rate
  have hticks : m.kernel.ticks = 0 := kernel_of_trail htrail Kernel.ticks
  have hirqs : m.kernel.irqs =
      Irq.Table.empty.set Irq.Known.timer.line ⟨some .timer, "pit", 0, false⟩ :=
    kernel_of_trail htrail Kernel.irqs
  have hlookup : ∀ line, m.kernel.irqs.lookup line = if line = Irq.Known.timer.line
      then some ⟨some .timer, "pit", 0, false⟩ else Irq.Table.empty.lookup line := by
    rw [hirqs]
    exact Irq.Table.lookup_set Irq.Table.empty (by decide) _
  have htimer := (hlookup Irq.Known.timer.line).trans (if_pos rfl)
  have hserved : served m.past = 0 := by
    have h := served_muted (fun e he => (hmuted e he).2) []
    rwa [List.append_nil] at h
  refine ⟨hlocks, hgates, hdivisor, hrate, ⟨_, htimer, rfl⟩, ?_, ?_, ?_⟩
  · intro line e hline hlook
    have hempty := (hlookup line).symm.trans hlook
    rw [if_neg hline, Irq.Table.lookup_empty (Irq.Table.lt_of_lookup hlook)] at hempty
    cases hempty
    rfl
  · change m.kernel.ticks = UInt64.ofNat (served m.past)
    rw [hticks, hserved]
    rfl
  · exact (Irq.Table.count_of_lookup htimer).trans hticks.symm

theorem poised_of_trail (he : AwaitsIrqs m) : Poised m := by
  obtain ⟨hflag, -, htrail⟩ := Watch.view_eq.mp hview
  have hidtr : m.idtr = some ⟨4095, GateTable.address⟩ := congrArg Trail.idtr htrail
  have hsegments : m.kernel.segmentsLoaded = ⟨true⟩ :=
    kernel_of_trail htrail Kernel.segmentsLoaded
  have hgates : m.kernel.gatesLoaded = ⟨true⟩ := kernel_of_trail htrail Kernel.gatesLoaded
  refine ⟨hflag, hidtr, by rw [hsegments], by rw [hgates],
    armed_of_trail hview hdivisor hmuted, ?_, he⟩
  exact ⟨m.past, (List.append_nil _).symm, fun h => (hmuted _ h).1 rfl⟩

end Trails

section Start

variable {take : Taking} {S : Machine → Prop} {level : Log.Level} {divisor : Bool} {m : Machine}

theorem passes_preparations (hm : scene m = firstScene level divisor) (he : AwaitsIrqs m) :
    Passes take (preparations.forM runStep) (fun _ now => Poised now) S m := by
  obtain ⟨s, hfollow, hdivisor, hmuted⟩ := follow_preparations level divisor
  have hmeets := meets_of_follow hfollow m.idtr
  rw [← hm] at hmeets
  have hscene : Passes take (preparations.forM runStep)
      (fun _ now => scene now = s ∧ AwaitsIrqs now) S m :=
    .of_meets hmeets he fun _ _ h he => ⟨h.2, he⟩
  have hkernel : m.kernel = (firstScene level divisor).kernel := congrArg Scene.kernel hm
  have hpast : m.past = [] := congrArg Scene.past hm
  have htrail : trail m = entered level m.gdtr m.idtr := by
    rw [trail, hkernel, hpast]
    rfl
  have hview : bootWatch.view m = closed {} (entered level m.gdtr m.idtr) :=
    Watch.view_eq.mpr ⟨congrArg Scene.flag hm, congrArg Kernel.locks hkernel, htrail⟩
  have hleaves : bootWatch.terms.Meets (preparations.forM runStep)
      (fun _ g => True ∧ g = closed {} (prepared (entered level m.gdtr m.idtr)))
      (bootWatch.view m) := by
    rw [hview]
    exact leaves_preparations ⟨rfl, rfl, rfl, rfl, rfl⟩
  have hholds := hleaves.holds (closed_bear take unvisited)
    ⟨fun a ha => (he.arrivals a ha).1, fun t ht => (he.wake t ht).1⟩
  have hends : (runWith take (preparations.forM runStep) m).Ends
      (fun _ now => bootWatch.view now = closed {} (prepared (entered level m.gdtr m.idtr)))
      fun _ _ => True := hholds.ends.mono (fun _ _ h => h.1.2) fun _ _ _ => trivial
  apply (hscene.also hends).mono _ fun _ => id
  rintro _ now ⟨⟨rfl, he⟩, hnow⟩
  exact poised_of_trail hnow hdivisor hmuted he

theorem passes_interrupts (hm : Poised m) :
    Passes take (runStep .interrupts) (fun _ => Onward []) S m := by
  have hs : Closed Scene.tallied (scene m) := ⟨hm.flag, hm.armed.tallied⟩
  have hruns : Runs Scene.tallied (runStep .interrupts)
      (fun _ t => ∃ u, (scene m).Adds u ∧ t = { u with flag := true }) (scene m) := by
    have hsilent : Silent (Log.debug ["BOOT: step '", Step.name .interrupts, "'"]).pieces := by
      decide
    apply (runs_writeLog steady_tallied hs hm.armed.divisor hsilent).bind
    intro _ u hu
    have hs' := hs.adds steady_tallied hu
    have hset : u.kernel.segmentsLoaded.isSet = true ∧ u.kernel.gatesLoaded.isSet = true := by
      obtain ⟨new, rfl, -⟩ := id hu
      exact ⟨hm.segments, hm.gates⟩
    simp only [Step.run, LawfulMonad.bind_assoc]
    apply runs_memory hs'
    dsimp only [Program.bind]
    rw [hset.1, hset.2]
    exact .ask (r := .setFlag) hs' rfl (fun _ => rfl) (.pure ⟨u, hu, rfl⟩)
  apply Passes.closed hruns hm.awaits
  rintro _ after ⟨u, hu, hafter⟩ htable he
  refine ⟨⟨?_, htable.trans hm.loaded, ?_, ?_⟩, he⟩
  · rw [hafter]
  · rw [hafter]
    exact (hm.armed.adds hu).of_served rfl rfl rfl
  · rw [hafter]
    exact hm.later.trans hu.later

variable (hb : ∀ rests since, (openTerms rests since).Bears take unvisited)
include hb

theorem passes_runAll (hm : PowerOn level m) (he : AwaitsIrqs m) :
    Passes take runAll (fun _ => Onward []) S m := by
  have htallied : (scene m).tallied := by
    change Tallied m.kernel m.past
    rw [hm.kernel, hm.past]
    exact ⟨rfl, rfl⟩
  have hmark : Passes take (exchange fun k => { k with booted := k.booted.mark })
      (fun before now => before.booted.isSet = false ∧
        scene now = firstScene level (divisorAccess m.latches) ∧ AwaitsIrqs now) S m := by
    have hruns : Runs Scene.tallied (exchange fun k => { k with booted := k.booted.mark })
        (fun before t => before = m.kernel ∧
          t = { scene m with kernel := { m.kernel with booted := m.kernel.booted.mark } })
        (scene m) := runs_memory ⟨hm.flag, htallied⟩ (.pure ⟨rfl, rfl⟩)
    apply Passes.closed hruns he
    rintro _ after ⟨rfl, hafter⟩ - he
    rw [hafter, scene, hm.flag, hm.kernel, hm.past]
    exact ⟨rfl, rfl, he⟩
  apply hmark.bind
  rintro before now ⟨hbefore, hnow, he⟩
  rw [hbefore]
  change Passes take (order.forM runStep >>= fun _ => closing) _ S now
  rw [order_forM]
  apply (passes_preparations hnow he).bind
  intro _ now hnow
  apply (passes_interrupts hnow).bind
  intro _ last hlast
  have hsilent : Silent (Log.info ["BOOT: early init complete, interrupts enabled"]).pieces := by
    decide
  exact Passes.writeLog hb hlast hsilent

end Start

end Boot

end Kernel

end InterruptCore

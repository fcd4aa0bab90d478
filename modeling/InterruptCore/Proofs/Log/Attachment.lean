import InterruptCore.Log
import Mathlib.Data.List.Induction

/-! The log over whole runs. Which sink is heard and which level is in force are read off the
calls alone: the first attachment decides the one, the last setting the other. The log agrees
with that after every run, so the first sink gets the lines that were let through, each with a
line end, and nobody else gets anything. -/
namespace InterruptCore.Log

variable {Sink : Type}

inductive Call (Sink : Type) where
  | attach (s : Sink)
  | setLevel (level : Level)
  | line (l : Line)
  deriving DecidableEq, Repr

namespace Call

def sink? : Call Sink → Option Sink
  | attach s => some s
  | _ => none

def level? : Call Sink → Option Level
  | setLevel level => some level
  | _ => none

def line? : Call Sink → Option Line
  | line l => some l
  | _ => none

end Call

def firstSink (calls : List (Call Sink)) : Option Sink := calls.findSome? Call.sink?

def lastLevel (calls : List (Call Sink)) : Level :=
  (calls.filterMap Call.level?).getLast?.getD .info

def admits (calls : List (Call Sink)) (l : Line) : Bool :=
  (firstSink calls).isSome && l.level.rank ≤ (lastLevel calls).rank

def passed (earlier : List (Call Sink)) (call : Call Sink) : Option Line :=
  call.line?.filter (admits earlier)

def heardAfter (earlier : List (Call Sink)) : List (Call Sink) → List Line
  | [] => []
  | call :: calls => (passed earlier call).toList ++ heardAfter (earlier ++ [call]) calls

def heard (calls : List (Call Sink)) : List Line := heardAfter [] calls

/-- A log in use, and all that its sinks were sent, the latest last. -/
structure Session (Sink : Type) where
  log : Log Sink := {}
  sent : List (Sink × String) := []

namespace Session

def next (r : Session Sink) : Call Sink → Session Sink
  | .attach s => { r with log := r.log.attach s }
  | .setLevel level => { r with log := r.log.setLevel level }
  | .line l =>
    match r.log.writes l with
    | some (s, pieces) => { r with sent := r.sent ++ pieces.map (s, ·) }
    | none => r

def run (r : Session Sink) (calls : List (Call Sink)) : Session Sink := calls.foldl next r

def received [DecidableEq Sink] (r : Session Sink) (s : Sink) : String :=
  String.join ((r.sent.filter (·.1 = s)).map (·.2))

end Session

section History

variable (calls : List (Call Sink)) (call : Call Sink)

theorem firstSink_concat : firstSink (calls ++ [call]) = (firstSink calls).or call.sink? := by
  rw [firstSink, List.findSome?_append, List.findSome?_singleton, firstSink]

theorem lastLevel_concat : lastLevel (calls ++ [call]) = call.level?.getD (lastLevel calls) := by
  unfold lastLevel
  cases h : call.level? <;> simp [h]

theorem heardAfter_concat (earlier : List (Call Sink)) :
    heardAfter earlier (calls ++ [call]) =
      heardAfter earlier calls ++ (passed (earlier ++ calls) call).toList := by
  induction calls generalizing earlier with
  | nil => simp [heardAfter]
  | cons first calls ih => simp [heardAfter, ih]

theorem heard_concat : heard (calls ++ [call]) = heard calls ++ (passed calls call).toList := by
  rw [heard, heardAfter_concat, List.nil_append, heard]

end History

theorem heard_of_unattached {calls : List (Call Sink)} (h : firstSink calls = none) :
    heard calls = [] := by
  induction calls using List.reverseRecOn with
  | nil => rfl
  | append_singleton calls call ih =>
    rw [firstSink_concat, Option.or_eq_none_iff] at h
    have hpassed : passed calls call = none := by
      simp [passed, admits, h.1]
    rw [heard_concat, ih h.1, hpassed]
    rfl

/-- A line as a sink is sent it: its pieces, then a line end. -/
def Line.sent (l : Line) : List String := l.pieces ++ ["\n"]

structure Agrees (calls : List (Call Sink)) (r : Session Sink) : Prop where
  rank : r.log.rank = (lastLevel calls).rank
  sink : r.log.sink = firstSink calls
  sent : ∀ s, firstSink calls = some s → r.sent = ((heard calls).flatMap Line.sent).map (s, ·)
  silent : firstSink calls = none → r.sent = []

theorem agrees_fresh : Agrees [] ({} : Session Sink) := ⟨rfl, rfl, nofun, fun _ => rfl⟩

section Step

variable {calls : List (Call Sink)} {r : Session Sink}

theorem Agrees.writes (h : Agrees calls r) (l : Line) :
    r.log.writes l =
      if admits calls l then (firstSink calls).map fun s => (s, l.sent) else none := by
  rw [Log.writes, enabled, h.rank, h.sink, admits]
  cases hs : firstSink calls <;> simp [Line.sent]

theorem Agrees.next_refused (h : Agrees calls r) {l : Line} (hl : admits calls l = false) :
    r.next (.line l) = r := by
  rw [Session.next, h.writes, hl]
  rfl

theorem Agrees.next_attached (h : Agrees calls r) {s : Sink} (hs : firstSink calls = some s)
    (s' : Sink) : r.next (.attach s') = r := by
  rw [Session.next, Log.attach, h.sink, hs]

theorem Agrees.attach (h : Agrees calls r) (s : Sink) :
    Agrees (calls ++ [.attach s]) (r.next (.attach s)) := by
  have hheard : heard (calls ++ [.attach s]) = heard calls := by
    rw [heard_concat]
    exact List.append_nil _
  cases hs : firstSink calls with
  | some first =>
    have hfirst : firstSink (calls ++ [.attach s]) = some first := by
      rw [firstSink_concat, hs, Option.some_or]
    rw [h.next_attached hs]
    refine ⟨?_, by rw [h.sink, hs, hfirst], fun t ht => ?_, fun hnone => ?_⟩
    · rw [lastLevel_concat]
      exact h.rank
    · rw [hheard]
      exact h.sent t (hs.trans (hfirst.symm.trans ht))
    · rw [hfirst] at hnone
      nomatch hnone
  | none =>
    have hfirst : firstSink (calls ++ [.attach s]) = some s := by
      rw [firstSink_concat, hs, Option.none_or]
      rfl
    have hnext : r.next (.attach s) = { r with log := { r.log with sink := some s } } := by
      rw [Session.next, Log.attach, h.sink, hs]
    rw [hnext]
    refine ⟨?_, hfirst.symm, fun t _ => ?_, fun hnone => ?_⟩
    · rw [lastLevel_concat]
      exact h.rank
    · rw [hheard, heard_of_unattached hs]
      exact h.silent hs
    · rw [hfirst] at hnone
      nomatch hnone

theorem Agrees.setLevel (h : Agrees calls r) (level : Level) :
    Agrees (calls ++ [.setLevel level]) (r.next (.setLevel level)) := by
  have hfirst : firstSink (calls ++ [.setLevel level]) = firstSink calls := by
    rw [firstSink_concat]
    exact Option.or_none
  have hheard : heard (calls ++ [.setLevel level]) = heard calls := by
    rw [heard_concat]
    exact List.append_nil _
  refine ⟨?_, ?_, ?_, ?_⟩
  · rw [lastLevel_concat]
    rfl
  · rw [hfirst]
    exact h.sink
  · rw [hfirst, hheard]
    exact h.sent
  · rw [hfirst]
    exact h.silent

theorem Agrees.line (h : Agrees calls r) (l : Line) :
    Agrees (calls ++ [.line l]) (r.next (.line l)) := by
  have hfirst : firstSink (calls ++ [.line l]) = firstSink calls := by
    rw [firstSink_concat]
    exact Option.or_none
  have hlevel : lastLevel (calls ++ [.line l]) = lastLevel calls := by
    rw [lastLevel_concat]
    rfl
  cases hl : admits calls l with
  | false =>
    have hheard : heard (calls ++ [.line l]) = heard calls := by
      simp [heard_concat, passed, Call.line?, hl]
    rw [h.next_refused hl]
    exact ⟨by rw [hlevel, h.rank], by rw [hfirst, h.sink], by rw [hfirst, hheard]; exact h.sent,
      by rw [hfirst]; exact h.silent⟩
  | true =>
    have hheard : heard (calls ++ [.line l]) = heard calls ++ [l] := by
      simp [heard_concat, passed, Call.line?, hl]
    obtain ⟨s, hs⟩ : ∃ s, firstSink calls = some s := by
      rw [admits, Bool.and_eq_true, Option.isSome_iff_exists] at hl
      exact hl.1
    have hnext : r.next (.line l) = { r with sent := r.sent ++ l.sent.map (s, ·) } := by
      rw [Session.next, h.writes, hl, hs]
      rfl
    rw [hnext]
    refine ⟨by rw [hlevel, h.rank], by rw [hfirst, h.sink], fun t ht => ?_, fun hnone => ?_⟩
    · obtain rfl : s = t := Option.some.inj (hs.symm.trans (hfirst.symm.trans ht))
      rw [hheard, List.flatMap_append, List.map_append, ← h.sent s hs, List.flatMap_singleton]
    · rw [hfirst, hs] at hnone
      nomatch hnone

theorem Agrees.next (h : Agrees calls r) (call : Call Sink) :
    Agrees (calls ++ [call]) (r.next call) := by
  cases call with
  | attach s => exact h.attach s
  | setLevel level => exact h.setLevel level
  | line l => exact h.line l

end Step

theorem Agrees.run {earlier : List (Call Sink)} {r : Session Sink} (h : Agrees earlier r)
    (calls : List (Call Sink)) : Agrees (earlier ++ calls) (r.run calls) := by
  induction calls generalizing earlier r with
  | nil =>
    rw [List.append_nil]
    exact h
  | cons call calls ih =>
    rw [List.append_cons]
    exact ih (h.next call)

theorem join_sent (lines : List Line) :
    String.join (lines.flatMap Line.sent) = String.join (lines.map fun l => l.text ++ "\n") := by
  induction lines with
  | nil => rfl
  | cons l lines ih =>
    rw [List.flatMap_cons, String.join_append, ih, List.map_cons, String.join_cons, Line.sent,
      String.join_append, Line.text]
    rfl

/-- What a session has come to, as the calls alone tell it. -/
structure Reports [DecidableEq Sink] (calls : List (Call Sink)) (r : Session Sink) : Prop where
  received : ∀ s, r.received s =
    if firstSink calls = some s then String.join ((heard calls).map fun l => l.text ++ "\n")
    else ""
  only : ∀ p ∈ r.sent, firstSink calls = some p.1
  level : r.log.current = lastLevel calls
  refused : ∀ l, admits calls l = false → r.next (.line l) = r
  attached : ∀ s, (firstSink calls).isSome = true → r.next (.attach s) = r

theorem Agrees.received [DecidableEq Sink] {calls : List (Call Sink)} {r : Session Sink}
    (h : Agrees calls r) (s : Sink) : r.received s =
      if firstSink calls = some s then String.join ((heard calls).map fun l => l.text ++ "\n")
      else "" := by
  unfold Session.received
  cases hs : firstSink calls with
  | none =>
    rw [h.silent hs]
    rfl
  | some first =>
    rw [h.sent first hs, ← join_sent]
    generalize (heard calls).flatMap Line.sent = pieces
    by_cases heq : first = s
    · have hall : (pieces.map (first, ·)).filter (·.1 = s) = pieces.map (first, ·) :=
        List.filter_eq_self.mpr (by simp [heq])
      rw [if_pos (congrArg some heq), hall, List.map_map]
      exact congrArg String.join (List.map_id _)
    · have hnothing : (pieces.map (first, ·)).filter (·.1 = s) = [] :=
        List.filter_eq_nil_iff.mpr (by simp [heq])
      rw [if_neg fun h => heq (Option.some.inj h), hnothing]
      rfl

/-- From a fresh log, whatever is attached, set and logged in whatever order. -/
theorem run_reports_to_first_sink [DecidableEq Sink] (calls : List (Call Sink)) :
    Reports calls (Session.run {} calls) := by
  have h : Agrees calls (Session.run {} calls) := agrees_fresh.run calls
  refine ⟨h.received, fun p hp => ?_, ?_, fun l hl => h.next_refused hl, fun s hs => ?_⟩
  · cases hs : firstSink calls with
    | none =>
      rw [h.silent hs] at hp
      nomatch hp
    | some first =>
      rw [h.sent first hs] at hp
      obtain ⟨piece, -, rfl⟩ := List.mem_map.mp hp
      rfl
  · rw [current, h.rank, Level.ofRank_rank]
  · obtain ⟨first, hfirst⟩ := Option.isSome_iff_exists.mp hs
    exact h.next_attached hfirst s

example :
    let calls : List (Call Nat) := [.line (info ["lost"]), .attach 1, .attach 0,
      .line (info ["a", "b"]), .line (debug ["hidden"]), .setLevel .trace, .line (trace ["c"])]
    let r := Session.run {} calls
    r.received 1 = "ab\nc\n" ∧ r.received 0 = "" ∧ r.log.current = .trace := by decide

end InterruptCore.Log

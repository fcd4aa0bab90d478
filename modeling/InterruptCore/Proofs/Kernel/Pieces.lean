import InterruptCore.Proofs.Kernel.Idling
import InterruptCore.Proofs.Kernel.Output
import InterruptCore.Proofs.Kernel.Servicing

/-! Lines of the log as they come to the serial port. The sink takes the port for one piece of a
line after the other, and gives it back in between. Main statement: interrupts stay closed over
each piece, and over a whole line just if all but its end is empty. -/
namespace InterruptCore

open Machine Program

namespace Machine

/-- What is seen of an instant at the data port: the byte about to be written, and the flag. -/
structure Beat where
  byte : Option UInt8
  flag : Bool
  deriving DecidableEq, Repr

def Request.byte : Request → Option UInt8
  | .out p v => if p = Port.com1 then some v else none
  | _ => none

def Instant.beat (i : Instant) : Beat := ⟨i.request.byte, i.machine.flag⟩

def bytesOf (beats : List Beat) : List UInt8 := beats.filterMap Beat.byte

theorem bytesOf_append (xs ys : List Beat) : bytesOf (xs ++ ys) = bytesOf xs ++ bytesOf ys :=
  List.filterMap_append

/-- Interrupts are closed from the first byte to the last. -/
structure Unbroken (beats : List Beat) : Prop where
  bytes : ∀ x ∈ beats, x.byte.isSome = true → x.flag = false
  between : ∀ x y z, [x, y, z].Sublist beats → x.byte.isSome = true → z.byte.isSome = true →
    y.flag = false

theorem unbroken_of_body {front body back : List Beat} (hfront : bytesOf front = [])
    (hbody : ∀ x ∈ body, x.flag = false) (hback : bytesOf back = []) :
    Unbroken (front ++ (body ++ back)) := by
  have hsilent : ∀ {xs : List Beat} {x : Beat}, bytesOf xs = [] → x ∈ xs →
      x.byte.isSome = true → False := by
    intro xs x hxs hx hsome
    have hnone := List.filterMap_eq_nil_iff.mp hxs x hx
    rw [hnone] at hsome
    cases hsome
  constructor
  · intro x hx hbyte
    rcases List.mem_append.mp hx with hx | hx
    · exact (hsilent hfront hx hbyte).elim
    rcases List.mem_append.mp hx with hx | hx
    · exact hbody x hx
    · exact (hsilent hback hx hbyte).elim
  · -- The outer two bring a byte, so that they stand in the body with what is between them.
    intro x y z hsub hx hz
    obtain ⟨early, late, heq, hearly, hlate⟩ := List.sublist_append_iff.mp hsub
    obtain ⟨mid, last, rfl, hmid, hlast⟩ := List.sublist_append_iff.mp hlate
    cases early with
    | cons a early =>
      obtain ⟨rfl, -⟩ := List.cons.inj heq
      exact (hsilent hfront (hearly.subset List.mem_cons_self) hx).elim
    | nil =>
      rcases List.eq_nil_or_concat last with rfl | ⟨init, a, rfl⟩
      · rw [List.nil_append, List.append_nil] at heq
        exact hbody y (hmid.subset (heq ▸ by simp))
      · have hend : z = a := by
          have hends := congrArg List.getLast? heq
          simpa using hends
        exact (hsilent hback (hlast.subset (by simp [hend])) hz).elim

theorem not_unbroken {front back : List Beat} {y : Beat} (hfront : bytesOf front ≠ [])
    (hy : y.flag = true) (hback : bytesOf back ≠ []) : ¬ Unbroken (front ++ y :: back) := by
  have hbyte : ∀ {xs : List Beat}, bytesOf xs ≠ [] → ∃ x ∈ xs, x.byte.isSome = true := by
    intro xs hxs
    obtain ⟨b, hb⟩ := List.exists_mem_of_ne_nil _ hxs
    obtain ⟨x, hx, hxb⟩ := List.mem_filterMap.mp hb
    exact ⟨x, hx, by rw [hxb]; rfl⟩
  intro h
  obtain ⟨x, hx, hxb⟩ := hbyte hfront
  obtain ⟨z, hz, hzb⟩ := hbyte hback
  have hsub : [x, y, z].Sublist (front ++ y :: back) :=
    (List.singleton_sublist.mpr hx).append ((List.singleton_sublist.mpr hz).cons_cons y)
  exact absurd (h.between x y z hsub hxb hzb) (by rw [hy]; decide)

theorem settling_unvisited (take : Taking) (r : Request) (m : Machine) :
    settling take unvisited r m = [] := by
  have harriving : ∀ n m, arriving take unvisited n r m = [] := by
    intro n
    induction n with
    | zero => exact fun _ => rfl
    | succ n ih =>
      intro m
      unfold arriving
      split
      · rfl
      · dsimp only
        split
        · split
          · cases take _ _ <;> simp [Outcome.afterwards, ih]
          · exact ih _
        · rfl
  exact harriving _ m

theorem polling_unvisited (take : Taking) (w : Poll) (n : Nat) (m : Machine) :
    polling take unvisited w n m = [] := by
  induction n generalizing m with
  | zero => rfl
  | succ n ih =>
    rw [polling, settling_unvisited]
    split
    · cases settle take (.poll w) (m.readPort w.port).2 <;> simp [Outcome.afterwards, ih]
    · rfl

end Machine

namespace Kernel

open Watch Console

def openWatch : Watch (Option TablePointer × GateTable) := { lockWatch with stop := fun _ => False }

theorem openWatch_alike {m m' : Machine} (h : Alike m m') : openWatch.view m' = openWatch.view m :=
  view_eq.mpr ⟨h.flag, congrArg Kernel.locks h.kernel, aloof_lockWatch.quiet m m' h⟩

theorem openWatch_bears {drivers : Drivers} (hd : Mannered drivers) (k : Nat) :
    openWatch.terms.Bears (take drivers k) unvisited := by
  cases k with
  | zero => exact fun t m _ he _ _ => .answered rfl he
  | succ k =>
    rintro t m hirq he ⟨r, hs, -⟩ haccepts
    obtain ⟨after, htake, hflag, hlocks, hservice, hwake, hrest⟩ :=
      take_serves hd hs.2 (hs.1 (Incoming.IsIrq.flag_of_accepts hirq haccepts)) he.arrivals hirq k
    obtain ⟨hidtr, hgates⟩ : (Service.of after).idtr = m.idtr ∧
        (Service.of after).gates = m.kernel.gates :=
      hservice ▸ Service.serve_tables (Service.of m) t
    rw [htake]
    refine .answered ?_ ⟨fun a ha => he.arrivals a (hrest.subset ha), ?_⟩
    · exact view_eq.mpr ⟨hflag, hlocks, Prod.ext hidtr hgates⟩
    · rw [hwake]
      exact he.wake

/-- A run of code among interrupts: its own instants give these beats, it comes to its end, and
takes the guard from `g` to `g'`. -/
def Plays (take : Taking) (p : Program Unit) (beats : List Beat)
    (g g' : Guard (Option TablePointer × GateTable)) : Prop :=
  ∀ m, openWatch.view m = g → AwaitsIrqs m →
    (instantsWith take unvisited p m).map Instant.beat = beats ∧
    ∃ after, runWith take p m = .answered () after ∧ openWatch.view after = g' ∧
      AwaitsIrqs after

section Rules

variable {take : Taking} {g k l : Guard (Option TablePointer × GateTable)} {xs ys : List Beat}

theorem Plays.done : Plays take (.done ()) [] g g := fun m hm he => ⟨rfl, m, rfl, hm, he⟩

theorem Plays.bind {p : Program Unit} {f : Unit → Program Unit} (h : Plays take p xs g k)
    (hf : Plays take (f ()) ys k l) : Plays take (p >>= f) (xs ++ ys) g l := by
  intro m hm he
  obtain ⟨hbeats, now, hrun, hnow, he'⟩ := h m hm he
  obtain ⟨hrest, after, hrun', hafter, he''⟩ := hf now hnow he'
  have hbare := instantsWith_bind take unvisited p f m
  rw [hrun, Outcome.afterwards] at hbare
  have hmap := congrArg (List.map fun x : Request × Machine => Beat.mk x.1.byte x.2.flag) hbare
  simp only [List.map_append, List.map_map] at hmap
  refine ⟨?_, after, ?_, hafter, he''⟩
  · rw [← hbeats, ← hrest]
    exact hmap
  · change runWith take (p.bind f) m = _
    rw [runWith_bind, hrun]
    exact hrun'

theorem Plays.forM {ι : Type} {items : List ι} {f : ι → Program Unit} {beats : ι → List Beat}
    (h : ∀ x ∈ items, Plays take (f x) (beats x) g g) :
    Plays take (items.forM f) (items.flatMap beats) g g := by
  induction items with
  | nil => exact .done
  | cons x items ih =>
    apply (h x List.mem_cons_self).bind
    exact ih fun y hy => h y (List.mem_cons_of_mem x hy)

variable (hb : openWatch.terms.Bears take unvisited)
include hb

theorem settle_open {r : Request} {m : Machine} (hok : ∃ r, openWatch.terms.ok (openWatch.view m) r)
    (he : AwaitsIrqs m) :
    ∃ now, settle take r m = .answered () now ∧ openWatch.view now = openWatch.view m ∧
      AwaitsIrqs now := by
  have hends := (Terms.holds_settle hb (r := r) hok ⟨he.arrivals, he.wake⟩).ends
  cases hs : settle take r m with
  | stopped why now =>
    rw [hs] at hends
    exact hends.elim
  | answered _ now =>
    rw [hs] at hends
    exact ⟨now, rfl, hends.1, hends.2.arrivals, hends.2.wake⟩

theorem Plays.answered {r : Request} {next : r.Answer → Program Unit} {a : r.Answer}
    (hs : openWatch.Safe g) (hnothing : ∀ m, answering take unvisited r m = [])
    (hanswer : ∀ m, openWatch.view m = g → AwaitsIrqs m →
      ∃ m', answer take r m = .answered a m' ∧ openWatch.view m' = k ∧ AwaitsIrqs m')
    (h : Plays take (next a) xs k l) :
    Plays take (.ask r next) (⟨r.byte, g.flag⟩ :: xs) g l := by
  intro m hm he
  obtain ⟨now, hsettle, hnow, he'⟩ :=
    settle_open (r := r) hb ⟨.halt, hm.symm ▸ hs, nofun, nofun⟩ he
  have hflag : now.flag = g.flag := congrArg Guard.flag (hnow.trans hm)
  have hview : openWatch.view now.tick = g := hnow.trans hm
  obtain ⟨later, hanswered, hlater, helater⟩ := hanswer now.tick hview ⟨he'.arrivals, he'.wake⟩
  obtain ⟨hbeats, after, hrun, hafter, he''⟩ := h later hlater helater
  refine ⟨?_, after, ?_, hafter, he''⟩
  · simp only [instantsWith, settling_unvisited, hsettle, Outcome.afterwards, hanswered, hnothing,
      List.nil_append, List.cons_append, List.map_cons, hbeats]
    rw [Instant.beat, hflag]
  · simp only [runWith, hsettle, hanswered, Outcome.bind, hrun]

theorem Plays.ask {r : Request} {next : r.Answer → Program Unit} {a : r.Answer}
    (hr : ¬ r.Lasts) (hs : openWatch.Safe g)
    (hanswer : ∀ m, openWatch.view m = g →
      ∃ m', perform r m = .answered a m' ∧ openWatch.view m' = k)
    (h : Plays take (next a) xs k l) :
    Plays take (.ask r next) (⟨r.byte, g.flag⟩ :: xs) g l := by
  have hprompt := fun m => answer_of_not_lasts take unvisited hr m
  refine .answered hb hs (fun m => (hprompt m).2) (fun m hm he => ?_) h
  obtain ⟨later, hperform, hlater⟩ := hanswer m hm
  have hpending := Terms.perform_pending r m
  rw [hperform] at hpending
  refine ⟨later, (hprompt m).1.trans hperform, hlater, ?_⟩
  exact ⟨hpending.1 ▸ he.arrivals, hpending.2 ▸ he.wake⟩

theorem Plays.poll {w : Poll} {next : Unit → Program Unit} (hs : openWatch.Safe g)
    (h : Plays take (next ()) xs g l) :
    Plays take (.ask (.poll w) next) (⟨none, g.flag⟩ :: xs) g l := by
  refine .answered (r := .poll w) (a := ()) hb hs (fun m => polling_unvisited take w _ m)
    (fun m hm he => ?_) h
  have hfollows : openWatch.terms.Follows g (.poll w) fun _ s => s = g :=
    Terms.follows_quiet (r := .poll w) trivial (fun _ _ halike => openWatch_alike halike)
      fun _ => rfl
  have hends := (Terms.holds_pollWhile hb ⟨.halt, hs, nofun, nofun⟩ hfollows
    (n := m.busyLeft) hm ⟨he.arrivals, he.wake⟩).ends
  change ∃ m', pollWhile take w m.busyLeft m = .answered () m' ∧ _
  cases ho : pollWhile take w m.busyLeft m with
  | stopped why later =>
    rw [ho] at hends
    exact hends.elim
  | answered _ later =>
    rw [ho] at hends
    exact ⟨later, rfl, hends.1, hends.2.arrivals, hends.2.wake⟩

end Rules

def sendingBeats (bytes : List UInt8) : List Beat :=
  bytes.flatMap fun b => [⟨none, false⟩, ⟨some b, false⟩]

def pieceBeats (p : String) : List Beat :=
  [⟨none, true⟩, ⟨none, true⟩] ++
    (⟨none, false⟩ :: sendingBeats (wire p) ++ [⟨none, false⟩, ⟨none, false⟩])

section Pieces

variable {take : Taking} (hb : openWatch.terms.Bears take unvisited)
  {g : Guard (Option TablePointer × GateTable)} (hg : Gated supportedVectors g.rest.1 g.rest.2)
include hb hg

theorem plays_send (hflag : g.flag = false) (p : String) :
    Plays take (sendAll [p]) (sendingBeats (wire p)) g g := by
  have hs : openWatch.Safe g := .of_closed hflag hg
  have hbyte : ∀ b, Plays take (sendByte b) [⟨none, false⟩, ⟨some b, false⟩] g g := by
    intro b
    have hdata : (Request.out (register 0) b).byte = some b := rfl
    rw [← hflag, ← hdata]
    refine .poll hb hs ?_
    refine .ask (r := .out (register 0) b) (a := ()) (k := g) hb id hs ?_ .done
    rintro m rfl
    exact ⟨m.writePort (register 0) b, rfl, rfl⟩
  have hsend : Plays take (send p) (sendingBeats (wire p)) g g := .forM fun b _ => hbyte b
  have hall : Plays take ([p].forM send) ([p].flatMap fun p => sendingBeats (wire p)) g g :=
    .forM fun x hx => List.mem_singleton.mp hx ▸ hsend
  rwa [List.flatMap_singleton] at hall

theorem plays_piece (hflag : g.flag = true) (hopen : g.locks.Open) (p : String) :
    Plays take (emergency [p]) (pieceBeats p) g g := by
  obtain ⟨_, locks, rest⟩ := g
  cases hflag
  have hs : openWatch.Safe ⟨true, locks, rest⟩ := ⟨fun _ => hopen, hg⟩
  have hfree : locks.free .serial = true := by rw [Locks.free, hopen.serial]; rfl
  have hclosed : ∀ locks, openWatch.Safe ⟨false, locks, rest⟩ :=
    fun _ => ⟨fun hset => absurd hset Bool.false_ne_true, hg⟩
  refine .ask (r := .interruptFlag) (a := true) (k := ⟨true, locks, rest⟩) hb id hs ?_ ?_
  · exact fun m hm => ⟨m, by rw [← show m.flag = true from congrArg Guard.flag hm]; rfl, hm⟩
  refine .ask (r := .clearFlag) (a := ()) (k := ⟨false, locks, rest⟩) hb id hs ?_ ?_
  · rintro m hm
    exact ⟨{ m with flag := false }, rfl, by rw [view_flag, hm]⟩
  -- The flag is clear until the port is given back.
  refine .ask (r := .tryAcquire .serial) (a := true) (k := ⟨false, locks.take .serial, rest⟩) hb
    id (hclosed _) ?_ ?_
  · rintro m hm
    have hlocks : m.kernel.locks = locks := congrArg Guard.locks hm
    exact ⟨m.mapLocks (·.take .serial), if_pos (hlocks ▸ hfree), by rw [view_locks, hm]⟩
  refine Plays.bind (p := sendAll [p])
    (plays_send (g := ⟨false, locks.take .serial, rest⟩) hb hg rfl p) ?_
  refine .ask (r := .release .serial) (a := ()) (k := ⟨false, locks, rest⟩) hb id (hclosed _) ?_ ?_
  · rintro m hm
    refine ⟨m.mapLocks (·.drop .serial), rfl, ?_⟩
    rw [view_locks, hm]
    simp only [Locks.drop_take hfree]
  refine .ask (r := .setFlag) (a := ()) (k := ⟨true, locks, rest⟩) hb id (hclosed _) ?_ .done
  rintro m hm
  exact ⟨{ m with flag := true }, rfl, by rw [view_flag, hm]⟩

end Pieces

theorem bytesOf_sendingBeats (bytes : List UInt8) : bytesOf (sendingBeats bytes) = bytes := by
  induction bytes with
  | nil => rfl
  | cons b bytes ih => exact congrArg (b :: ·) ih

theorem bytesOf_pieceBeats (p : String) : bytesOf (pieceBeats p) = wire p := by
  have hbytes : bytesOf (pieceBeats p) = bytesOf (sendingBeats (wire p)) ++ [] :=
    bytesOf_append (sendingBeats (wire p)) [⟨none, false⟩, ⟨none, false⟩]
  rw [hbytes, List.append_nil, bytesOf_sendingBeats]

theorem bytesOf_flatMap (pieces : List String) :
    bytesOf (pieces.flatMap pieceBeats) = pieces.flatMap wire := by
  induction pieces with
  | nil => rfl
  | cons p pieces ih =>
    rw [List.flatMap_cons, bytesOf_append, bytesOf_pieceBeats, ih, List.flatMap_cons]

theorem flag_of_sending {x : Beat} {bytes : List UInt8} (hx : x ∈ sendingBeats bytes) :
    x.flag = false := by
  obtain ⟨b, -, hxb⟩ := List.mem_flatMap.mp hx
  rcases List.mem_pair.mp hxb with rfl | rfl <;> rfl

theorem unbroken_piece {front : List Beat} (hfront : bytesOf front = []) (p : String) :
    Unbroken (front ++ pieceBeats p) := by
  have hbody : ∀ x ∈ (⟨none, false⟩ :: sendingBeats (wire p) ++ [⟨none, false⟩, ⟨none, false⟩] :
      List Beat), x.flag = false := by
    intro x hx
    rcases List.mem_append.mp hx with hx | hx
    · rcases List.mem_cons.mp hx with rfl | hx
      · rfl
      · exact flag_of_sending hx
    · rcases List.mem_pair.mp hx with rfl | rfl <;> rfl
  have hlooks : bytesOf (front ++ [⟨none, true⟩, ⟨none, true⟩]) = [] := by
    rw [bytesOf_append, hfront]
    rfl
  have hunbroken := unbroken_of_body hlooks hbody (show bytesOf [] = [] from rfl)
  rwa [List.append_nil, List.append_assoc] at hunbroken

/-- A line is whole just if there is nothing before its end. -/
theorem unbroken_line_iff (pieces : List String) :
    Unbroken ((pieces ++ ["\n"]).flatMap pieceBeats) ↔ pieces.flatMap wire = [] := by
  rw [List.flatMap_append, List.flatMap_singleton, ← bytesOf_flatMap]
  constructor
  · intro h
    by_contra hbytes
    -- Before the end is sent the flag is looked at, and it is set.
    exact not_unbroken hbytes rfl (by decide) h
  · exact fun h => unbroken_piece h "\n"

theorem wire_eq_nil_iff (s : String) : wire s = [] ↔ s = "" := by
  constructor
  · intro h
    by_contra hs
    obtain ⟨c, hc⟩ := List.exists_mem_of_ne_nil s.toList (by simpa using hs)
    obtain ⟨b, hb⟩ := List.exists_mem_of_ne_nil _ (String.utf8EncodeChar_ne_nil (c := c))
    have hutf : b ∈ Text.utf8 s := List.mem_flatMap.mpr ⟨c, hc, hb⟩
    have hnone := List.flatMap_eq_nil_iff.mp h b hutf
    split at hnone <;> cases hnone
  · rintro rfl
    rfl

theorem flatMap_wire (line : Log.Line) : line.pieces.flatMap wire = wire line.text := by
  rw [Text.wire_eq_stream, Log.Line.text, Text.stream_join]

def writeFound (line : Log.Line) (k : Kernel) : Program Unit :=
  match k.log.writes line with
  | some (sink, pieces) => pieces.forM sink.write
  | none => return ()

theorem writeFound_serial {line : Log.Line} {k : Kernel} (hsink : k.log.sink = some .serial)
    (henabled : k.log.enabled line.level = true) :
    writeFound line k = (line.pieces ++ ["\n"]).forM (Sink.write .serial) := by
  rw [writeFound, Log.writes, if_pos henabled, hsink]
  rfl

theorem writeLog_course {take : Taking} {m now : Machine} (line : Log.Line)
    (hsettle : settle take (.memory id) m = .answered () now) :
    instantsWith take unvisited (writeLog line) m = ⟨.memory id, now, writeFound line⟩ ::
      instantsWith take unvisited (writeFound line now.kernel) now.tick ∧
    runWith take (writeLog line) m = runWith take (writeFound line now.kernel) now.tick := by
  have hlog : writeLog line = .ask (.memory id) (writeFound line) := rfl
  rw [hlog, instantsWith, runWith, settling_unvisited, hsettle]
  exact ⟨rfl, rfl⟩

/-- A line of the log, written to the serial port with interrupts open and the port free, among
any IRQs. It is written in full, and interrupts are closed over each of its pieces; but over the
line they are closed, from its first byte to its last, if and only if it has no text. -/
theorem log_line_unbroken_iff {drivers : Drivers} (hd : Mannered drivers) {m : Machine}
    (hflag : m.flag = true) (hg : Gated supportedVectors m.idtr m.kernel.gates)
    (hopen : m.kernel.locks.Open) (he : AwaitsIrqs m) (line : Log.Line) :
    ∃ (now : Machine) (rest : List Instant),
      instantsWith (take drivers m.pending) unvisited (writeLog line) m =
        ⟨.memory id, now, writeFound line⟩ :: rest ∧
      (now.kernel.log.sink = some .serial → now.kernel.log.enabled line.level = true →
        (∃ after, run drivers (writeLog line) m = .answered () after ∧ after.flag = true) ∧
        rest.map Instant.beat = (line.pieces ++ ["\n"]).flatMap pieceBeats ∧
        (∀ p, Unbroken (pieceBeats p) ∧ bytesOf (pieceBeats p) = wire p) ∧
        bytesOf (rest.map Instant.beat) = wire (line.text ++ "\n") ∧
        (Unbroken (rest.map Instant.beat) ↔ line.text = "")) := by
  have hb := openWatch_bears hd m.pending
  have hs : openWatch.Safe (openWatch.view m) := ⟨fun _ => hopen, hg⟩
  obtain ⟨now, hsettle, hnow, he'⟩ :=
    settle_open (r := .memory id) hb ⟨.halt, hs, nofun, nofun⟩ he
  obtain ⟨hinstants, hrun⟩ := writeLog_course line hsettle
  refine ⟨now, _, hinstants, fun hsink henabled => ?_⟩
  have hplays : Plays (take drivers m.pending) (writeFound line now.kernel)
      ((line.pieces ++ ["\n"]).flatMap pieceBeats) (openWatch.view m) (openWatch.view m) := by
    rw [writeFound_serial hsink henabled]
    exact .forM fun p _ => plays_piece hb hg hflag hopen p
  obtain ⟨hbeats, after, hends, hafter, -⟩ :=
    hplays now.tick hnow ⟨he'.arrivals, he'.wake⟩
  refine ⟨⟨after, hrun.trans hends, ?_⟩, hbeats, fun p => ⟨?_, bytesOf_pieceBeats p⟩, ?_, ?_⟩
  · exact (congrArg Guard.flag hafter).trans hflag
  · exact unbroken_piece (show bytesOf [] = [] from rfl) p
  · rw [hbeats, bytesOf_flatMap, List.flatMap_append, flatMap_wire, List.flatMap_singleton,
      ← Text.wire_append]
  · rw [hbeats, unbroken_line_iff, flatMap_wire, wire_eq_nil_iff]

/-- Interrupts are open, the log goes to the serial port, and a key is to come once the flag is
looked at after five bytes were sent. Its handler logs a line of its own. -/
def keyAmidLine : Machine where
  flag := true
  idtr := some ⟨4095, GateTable.address⟩
  kernel :=
    { gates := GateTable.armed Trap.Adapter.addresses supportedVectors
      irqs := Irq.Table.empty.set 1
        { handler := some (.device (.logger "keyboard")), name := "keyboard" }
      log := { sink := some .serial } }
  arrivals := [⟨fun r so => r matches .interruptFlag && 5 ≤ so.outs,
    { vector := 33, registers := { frame := { rflags := 0x202 } } }⟩]

theorem line_with_text_is_broken :
    Mannered notingDrivers ∧ keyAmidLine.flag = true ∧
    Gated supportedVectors keyAmidLine.idtr keyAmidLine.kernel.gates ∧
    keyAmidLine.kernel.locks.Open ∧ AwaitsIrqs keyAmidLine ∧
    ∃ (now : Machine) (rest : List Instant),
      instantsWith (take notingDrivers keyAmidLine.pending) unvisited
        (writeLog (Log.info ["ready"])) keyAmidLine =
          ⟨.memory id, now, writeFound (Log.info ["ready"])⟩ :: rest ∧
      now.kernel.log = { level := .info, sink := some .serial } ∧
      bytesOf (rest.map Instant.beat) = wire "ready\n" ∧ ¬ Unbroken (rest.map Instant.beat) := by
  have hg : Gated supportedVectors keyAmidLine.idtr keyAmidLine.kernel.gates := ⟨rfl, rfl⟩
  have hopen : keyAmidLine.kernel.locks.Open := ⟨rfl, rfl, rfl⟩
  have he : AwaitsIrqs keyAmidLine := by
    refine ⟨fun a ha => ?_, fun t ht => absurd ht List.not_mem_nil⟩
    rw [List.mem_singleton.mp ha]
    decide
  obtain ⟨now, rest, hinstants, hline⟩ :=
    log_line_unbroken_iff mannered_notingDrivers rfl hg hopen he (Log.info ["ready"])
  have hlog : now.kernel.log = { level := .info, sink := some .serial } := by
    have hfirst : ((instantsWith (take notingDrivers keyAmidLine.pending) unvisited
        (writeLog (Log.info ["ready"])) keyAmidLine).head?.map (·.machine.kernel.log)) =
        some { level := .info, sink := some .serial } := by decide +kernel
    rw [hinstants] at hfirst
    exact Option.some.inj hfirst
  obtain ⟨-, -, -, hbytes, hwhole⟩ := hline (by rw [hlog]) (by rw [hlog]; decide)
  refine ⟨mannered_notingDrivers, rfl, hg, hopen, he, now, rest, hinstants, hlog, hbytes, ?_⟩
  rw [hwhole]
  decide

/-- The line of the key's handler comes between the text of the interrupted line and its end. -/
theorem key_lands_in_line :
    let line := writeLog (Log.info ["ready"])
    keyAmidLine.flag = true ∧ keyAmidLine.kernel.locks.free .serial = true ∧
    keyAmidLine.kernel.log.sink = some .serial ∧
    (run notingDrivers line keyAmidLine).isAnswered = true ∧
    transmitted (run notingDrivers line keyAmidLine).machine.events =
      wire "ready" ++ wire "handler keyboard vector 33\n" ++ wire "\n" ∧
    ¬ Unbroken ((instantsWith (take notingDrivers keyAmidLine.pending) unvisited line
      keyAmidLine).map Instant.beat) := by
  refine ⟨rfl, rfl, rfl, ?_, ?_, fun h => ?_⟩
  · decide +kernel
  · decide +kernel
  · have hopen := h.between ⟨some 114, false⟩ ⟨none, true⟩ ⟨some 10, false⟩ (by decide +kernel)
    exact absurd (hopen rfl rfl) (by decide)

end Kernel

end InterruptCore

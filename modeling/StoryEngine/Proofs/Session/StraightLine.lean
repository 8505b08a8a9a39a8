import StoryEngine.Proofs.Session.Moves
import StoryEngine.Proofs.Session.Telling

/-! # Straight scripts in a session

A run may wait for the clock or for the player as often as it likes: if its script is straight, then
from its start to its end it does what its tale tells, and passes every line once.
-/

namespace StoryEngine

set_option autoImplicit false

/-- A text or a change of the mode of the game. -/
def Output.isShown : Output → Bool
  | .text _ _ _ | .transition _ _ => true
  | _ => false

def Entry.passed? : Entry → Option (ScriptLine × Bool)
  | .passed line held => some (line, held)
  | _ => none

/-- A gate at which the player's answer decides how to go on. -/
def Gate.asks : Gate → Bool
  | .input (some _) => true
  | _ => false

namespace Session

def passed (s : Session) : List (ScriptLine × Bool) := s.journal.filterMap Entry.passed?

theorem apply_plain {s : Session} {run : Run} (hrun : s.active = some run)
    (hgate : run.gate.asks = false) {directive : Directive} (h : directive.Plain) :
    ∃ gate, gate.asks = false ∧
      s.apply directive = ({ s with
        active := some { run with gate },
        output := s.output ++ (directive.shown? run.script).toList }, none) := by
  obtain ⟨active, deferred, output, lastRun, journal⟩ := s
  cases hrun
  cases h with
  | proceed => exact ⟨run.gate, hgate, by simp [apply, Directive.shown?]⟩
  | «show» line => exact ⟨run.gate, hgate, rfl⟩
  | prompt line => exact ⟨.input none, rfl, rfl⟩
  | pause timer => exact ⟨.pause timer, rfl, by simp [apply, setGate, Directive.shown?]⟩
  | transition target => exact ⟨run.gate, hgate, rfl⟩

/-- A line of straight actions shows what its actions show and leaves the session as it is but for
the gate. -/
theorem performAll_straight (place : Place) (scope : Scope) {play : Play} {run : Run}
    (hrun : play.session.active = some run) (hgate : run.gate.asks = false) {actions : List Action}
    (hstraight : ∀ action ∈ actions, action.steers = false) :
    let done := Dispatch.performAll place scope play.stage actions
    ∃ gate, gate.asks = false ∧
      performAll place scope play actions =
        (⟨{ play.session with
            active := some { run with gate },
            output := play.session.output ++ done.2.1.filterMap (Directive.shown? run.script) },
          done.1⟩,
        match done.2.2 with
        | some error => .error error
        | none => .ok []) := by
  induction actions generalizing play run with
  | nil =>
    refine ⟨run.gate, hgate, ?_⟩
    simp only [performAll, Dispatch.performAll, List.filterMap_nil, List.append_nil, ← hrun]
  | cons action rest ih =>
    have hplain (directive : Directive)
        (h : (Dispatch.perform place scope play.stage action).2 = .ok directive) :
        directive.Plain :=
      Dispatch.perform_plain (hstraight action List.mem_cons_self) h
    rw [performAll, Dispatch.performAll]
    generalize Dispatch.perform place scope play.stage action = acted at *
    obtain ⟨stage, result⟩ := acted
    cases result with
    | error e =>
      refine ⟨run.gate, hgate, ?_⟩
      simp only [List.filterMap_nil, List.append_nil, ← hrun]
    | ok directive =>
      obtain ⟨gate, hgate', happly⟩ := apply_plain hrun hgate (hplain directive rfl)
      simp only [happly]
      obtain ⟨gate', hgate'', hrest⟩ := @ih
        ⟨{ play.session with
          active := some { run with gate },
          output := play.session.output ++ (directive.shown? run.script).toList }, stage⟩ _ rfl
        hgate' fun other ho => hstraight other (List.mem_cons_of_mem _ ho)
      refine ⟨gate', hgate'', ?_⟩
      rw [hrest]
      generalize Dispatch.performAll place scope stage rest = done
      obtain ⟨last, directives, failure⟩ := done
      have hshown : (directive.shown? run.script).toList ++
            directives.filterMap (Directive.shown? run.script) =
          (directive :: directives).filterMap (Directive.shown? run.script) := by
        rw [List.filterMap_cons]
        cases directive.shown? run.script <;> rfl
      simp only [List.append_assoc, hshown]
      cases failure <;> rfl

/-- With nothing waiting, the end of a run is all that happens. -/
theorem finish_of_nil (library : ScriptLibrary) {play : Play} {run : Run} (reason : EndReason)
    (hrun : play.session.active = some run) (hqueue : play.session.deferred = []) :
    (finish library play reason).1 = teardown play reason := by
  have hsession := teardown_session reason hrun
  have hwaiting : (teardown play reason).session.deferred = [] := by
    rw [hsession]
    exact hqueue
  rw [finish, startDeferred, hwaiting]
  split <;> rfl

theorem startAsked_nil (library : ScriptLibrary) (play : Play) :
    startAsked library play [] = (play, .ok ()) := by
  unfold startAsked
  cases play.session.active <;> rfl

theorem endIfAsked_of_ending_eq_none (library : ScriptLibrary) {play : Play} {run : Run}
    (id : Nat) (hrun : play.session.active = some run) (hending : run.ending = none) :
    endIfAsked library play id = (play, .ok ()) := by
  rw [endIfAsked, hrun]
  simp only [hending]

theorem removeMaster_eq_leave {run : Run} {script : Script} (h : run.destroy = script.destroy)
    (w : World) : removeMaster run w = script.leave run.master w := by
  obtain ⟨_, _, _, _, master, _, destroy, _, _⟩ := run
  obtain ⟨_, _, _⟩ := script
  cases h
  rcases destroy with _ | _ | _ <;> cases master <;> rfl

section Telling

variable (map : GridMap) (script : Script) (first : Play) (opening : Run)

/-- The tale of the first lines of a script. -/
def taleAt (lines : Nat) : Tale :=
  .tell map opening.script opening.master first.stage.world (script.lines.take lines)

def wholeTale : Tale :=
  .tell map opening.script opening.master first.stage.world script.lines

/-- Beginning from the first play a tale has been told, though part of it has been handed out. -/
structure Carries (tale : Tale) (out : List Output) (s : Session) : Prop where
  deferred : s.deferred = []
  shown : (out ++ s.output).filter Output.isShown =
    first.session.output.filter Output.isShown ++ tale.shown
  passed : s.passed = first.session.passed ++ tale.passed

/-- The run is at a line, and a tale has been told so far. -/
structure AtLine (tale : Tale) (k : Nat) (gate : Gate) (out : List Output) (play : Play) :
    Prop where
  active : play.session.active = some { opening with pointer := k, gate }
  plain : gate.asks = false
  failure : tale.failure = none
  world : play.stage.world = tale.world
  carries : Carries first tale out play.session

/-- A session tells a script: either it is at a line of it and has told all before, or it has told
the whole. -/
inductive Telling (out : List Output) (play : Play) : Prop where
  | midway (k : Nat) (gate : Gate)
      (h : AtLine first opening (taleAt map script first opening k) k gate out play)
  | told (hidle : play.session.active = none)
      (hworld : play.stage.world =
        script.leave opening.master (wholeTale map script first opening).world)
      (h : Carries first (wholeTale map script first opening) out play.session)

/-- A run of a straight script of the library, as it begins. -/
structure Opens (library : ScriptLibrary) : Prop where
  found : library.get? opening.script = some script
  destroy : opening.destroy = script.destroy
  ending : opening.ending = none
  straight : script.IsStraight

variable {map script first opening}

theorem taleAt_succ {k : Nat} {line : ScriptLine} (h : script.lines[k]? = some line) :
    taleAt map script first opening (k + 1) =
      Tale.tellLine map opening.script opening.master (taleAt map script first opening k) line := by
  rw [taleAt, List.take_add_one, h, Option.toList_some, Tale.tell_snoc, taleAt]

theorem taleAt_of_end {k : Nat} (h : script.lines[k]? = none) :
    taleAt map script first opening k = wholeTale map script first opening := by
  rw [taleAt, List.take_of_length_le (List.getElem?_eq_none_iff.mp h), wholeTale]

/-- A tale that has failed is told to its end. -/
theorem taleAt_of_failure {k : Nat} (h : (taleAt map script first opening k).failure ≠ none) :
    taleAt map script first opening k = wholeTale map script first opening := by
  have hrest := Tale.tell_append_of_failure map opening.script opening.master first.stage.world
    (script.lines.take k) (script.lines.drop k) h
  rw [List.take_append_drop] at hrest
  exact hrest.symm

section Carries

variable {tale : Tale} {out : List Output} {s : Session} (h : Carries first tale out s)

include h

theorem Carries.set_active (active : Option Run) : Carries first tale out { s with active } :=
  ⟨h.deferred, h.shown, h.passed⟩

theorem Carries.pass (run : Run) (line : ScriptLine) (held : Bool) :
    Carries first (tale.pass line held) out (s.pass run line held) where
  deferred := h.deferred
  shown := h.shown
  passed := by
    rw [Tale.pass, ← List.append_assoc, ← h.passed]
    exact List.filterMap_append

theorem Carries.end_run (run : Run) (reason : EndReason) :
    Carries first tale out (s.endRun run reason) where
  deferred := h.deferred
  shown := by
    change (out ++ (s.output ++ [_])).filter _ = _
    rw [← List.append_assoc, List.filter_append, h.shown]
    exact List.append_nil _
  passed := by
    rw [Session.passed, endRun_journal, List.filterMap_append, ← h.passed]
    exact List.append_nil _

/-- What directives show is put out as it is told. -/
theorem Carries.go_on (script : String) (r : Stage × List Directive × Option ScriptError)
    (active : Option Run) :
    Carries first (tale.goOn script r) out
      { s with active, output := s.output ++ r.2.1.filterMap (Directive.shown? script) } where
  deferred := h.deferred
  shown := by
    have hshown : ∀ o ∈ r.2.1.filterMap (Directive.shown? script), o.isShown = true := by
      intro o ho
      obtain ⟨directive, _, ho⟩ := List.mem_filterMap.mp ho
      unfold Directive.shown? at ho
      split at ho <;> cases ho <;> rfl
    rw [← List.append_assoc, List.filter_append, h.shown, List.filter_eq_self.mpr hshown,
      List.append_assoc, Tale.goOn]
  passed := h.passed

end Carries

/-- The end of a run ends the telling, if nothing would come of the lines left. -/
theorem telling_finish {library : ScriptLibrary} (ho : Opens script opening library)
    {out : List Output} {play : Play} {k : Nat} {gate : Gate} (reason : EndReason)
    (hactive : play.session.active = some { opening with pointer := k, gate })
    (hall : taleAt map script first opening k = wholeTale map script first opening)
    (hworld : play.stage.world = (taleAt map script first opening k).world)
    (h : Carries first (taleAt map script first opening k) out play.session) :
    Telling map script first opening out (finish library play reason).1 := by
  rw [finish_of_nil library reason hactive h.deferred, teardown]
  simp only [hactive]
  refine .told rfl ?_ (hall ▸ h.end_run _ reason)
  rw [← hall, ← hworld]
  exact @removeMaster_eq_leave { opening with pointer := k, gate } script ho.destroy _

/-- Straight actions of a line are carried out as they are told. -/
theorem AtLine.takeLine {library : ScriptLibrary} (ho : Opens script opening library) (now : Tick)
    {out : List Output} {play : Play} {k : Nat} {gate : Gate} {line : ScriptLine}
    (hline : script.lines[k]? = some line)
    (hheld : Condition.allHold line.conditions play.stage.world opening.master = true)
    (h : AtLine first opening ((taleAt map script first opening k).pass line true) (k + 1) gate
      out play) :
    Telling map script first opening out
      (Session.takeLine library ⟨map, now⟩ play { opening with pointer := k, gate } line).1 := by
  obtain ⟨next, hnext, hdone⟩ := performAll_straight ⟨map, now⟩ opening.scope h.active h.plain
    (ho.straight line (List.mem_of_getElem? hline))
  -- the tale does without clock and timers, and that makes no difference
  have hworld : play.stage.world = (taleAt map script first opening k).world := h.world
  have hfailure : (taleAt map script first opening k).failure = none := h.failure
  have hclock := Dispatch.performAll_clock map opening.script opening.master 0 now
    "" opening.timerScope play.stage.world ∅ play.stage.timers line.actions
  have htale := @taleAt_succ map script first opening k line hline
  rw [Tale.tellLine_of_held hfailure (hworld ▸ hheld), ← hworld,
    Tale.goOn_eq_of_seenAll_eq hclock] at htale
  change _ = Tale.goOn _ _ (Dispatch.performAll ⟨map, now⟩ opening.scope play.stage _) at htale
  generalize Dispatch.performAll ⟨map, now⟩ opening.scope play.stage line.actions = done at *
  have hcarries := h.carries.go_on opening.script done
    (some { opening with pointer := k + 1, gate := next })
  have hafter : done.1.world = (taleAt map script first opening (k + 1)).world := by
    rw [htale, Tale.goOn]
  have hlast : (taleAt map script first opening (k + 1)).failure = done.2.2 := by
    rw [htale, Tale.goOn]
  rw [← htale] at hcarries
  have hscope : Run.scope { opening with pointer := k, gate } = opening.scope := rfl
  rw [Session.takeLine, hscope, hdone]
  cases hfailed : done.2.2 with
  | some e =>
    have hfailed' : (taleAt map script first opening (k + 1)).failure ≠ none := by
      rw [hlast, hfailed]
      exact Option.some_ne_none e
    simp only [halt, if_true]
    exact telling_finish ho .failed rfl (taleAt_of_failure hfailed') hafter hcarries
  | none =>
    simp only [startAsked_nil]
    rw [@endIfAsked_of_ending_eq_none library _ { opening with pointer := k + 1, gate := next } _
      rfl ho.ending]
    exact .midway (k + 1) next ⟨rfl, hnext, hlast.trans hfailed, hafter, hcarries⟩

/-- At an open gate the next line is told, or the telling is over. -/
theorem AtLine.proceed {library : ScriptLibrary} (ho : Opens script opening library) (now : Tick)
    {out : List Output} {play : Play} {k : Nat} {gate : Gate}
    (h : AtLine first opening (taleAt map script first opening k) k gate out play) :
    Telling map script first opening out
      (Session.proceed library ⟨map, now⟩ play { opening with pointer := k, gate }).1 := by
  cases hline : script.lines[k]? with
  | none =>
    rw [@proceed_of_end library _ play { opening with pointer := k, gate } script ho.ending ho.found
      hline]
    exact telling_finish ho .completed h.active (taleAt_of_end hline) h.world h.carries
  | some line =>
    have hpass (held : Bool) : AtLine first opening
        ((taleAt map script first opening k).pass line held) (k + 1) gate out
        ⟨play.session.pass { opening with pointer := k, gate } line held, play.stage⟩ :=
      ⟨rfl, h.plain, h.failure, h.world, h.carries.pass _ line held⟩
    rw [@proceed_of_line library _ play { opening with pointer := k, gate } script line ho.ending
      ho.found hline]
    cases hheld : Condition.allHold line.conditions play.stage.world opening.master with
    | true => exact (hpass true).takeLine ho now hline hheld
    | false =>
      refine .midway (k + 1) gate ?_
      rw [taleAt_succ hline, Tale.tellLine_of_not_held h.failure (h.world ▸ hheld)]
      exact hpass false

theorem pollGate_of_not_asks (place : Place) {play : Play} {run : Run}
    (hrun : play.session.active = some run) (hgate : run.gate.asks = false) :
    ∃ gate timers, gate.asks = false ∧ pollGate place play run =
      (⟨{ play.session with active := some { run with gate } }, ⟨play.stage.world, timers⟩⟩,
        { run with gate }) := by
  have hsame : (play, run) =
      (⟨{ play.session with active := some { run with gate := run.gate } },
        ⟨play.stage.world, play.stage.timers⟩⟩, { run with gate := run.gate }) := by
    rw [← hrun]
  unfold pollGate
  split
  · exact ⟨run.gate, play.stage.timers, hgate, hsame⟩
  · exact ⟨run.gate, play.stage.timers, hgate, hsame⟩
  · split
    · exact ⟨.opened, _, rfl, rfl⟩
    · exact ⟨run.gate, play.stage.timers, hgate, hsame⟩
  · refine ⟨_, _, ?_, rfl⟩
    split <;> rfl

theorem Telling.advance {library : ScriptLibrary} (ho : Opens script opening library)
    {place : Place} (hplace : place.map = map) {out : List Output} {play : Play}
    (h : Telling map script first opening out play) :
    Telling map script first opening out (Session.advance library place play).1 := by
  obtain ⟨gridMap, now⟩ := place
  obtain rfl : gridMap = map := hplace
  cases h with
  | told hidle hworld h =>
    simp only [Session.advance, hidle]
    exact .told hidle hworld h
  | midway k gate h =>
    obtain ⟨gate', timers, hgate', hpoll⟩ := pollGate_of_not_asks ⟨gridMap, now⟩ h.active h.plain
    have hpolled : AtLine first opening (taleAt gridMap script first opening k) k gate' out
        ⟨{ play.session with active := some { opening with pointer := k, gate := gate' } },
          ⟨play.stage.world, timers⟩⟩ :=
      ⟨rfl, hgate', h.failure, h.world, h.carries.set_active _⟩
    simp only [Session.advance, h.active, hpoll]
    split
    · exact hpolled.proceed ho now
    · exact .midway k gate' hpolled

theorem Telling.submit {out : List Output} {play : Play} (input : PlayerInput)
    (h : Telling map script first opening out play) :
    Telling map script first opening out ⟨(play.session.submit input).2, play.stage⟩ := by
  cases h with
  | told hidle hworld h =>
    have hsame : (play.session.submit input).2 = play.session := by rw [Session.submit, hidle]
    rw [hsame]
    exact .told hidle hworld h
  | midway k gate h =>
    have hactive := h.active
    cases gate with
    | input skip =>
      cases skip with
      | some lines => cases h.plain
      | none =>
        have htaken : play.session.submit input = (true, { play.session with
            active := some { opening with pointer := k, gate := .opened } }) := by
          simp only [Session.submit, hactive]
          cases input <;> rfl
        rw [htaken]
        exact .midway k .opened ⟨rfl, rfl, h.failure, h.world, h.carries.set_active _⟩
    | _ =>
      have hsame : (play.session.submit input).2 = play.session := by
        simp only [Session.submit, hactive]
      rw [hsame]
      exact .midway k _ h

theorem Carries.drain {tale : Tale} {out : List Output} {s : Session}
    (h : Carries first tale out s) :
    Carries first tale (out ++ s.output) { s with output := [] } :=
  ⟨h.deferred, by rw [List.append_nil]; exact h.shown, h.passed⟩

theorem Telling.drain {out : List Output} {play : Play}
    (h : Telling map script first opening out play) :
    Telling map script first opening (out ++ play.session.output)
      ⟨{ play.session with output := [] }, play.stage⟩ := by
  cases h with
  | midway k gate h =>
    exact .midway k gate ⟨h.active, h.plain, h.failure, h.world, h.carries.drain⟩
  | told hidle hworld h => exact .told hidle hworld h.drain

/-- The requests that move a run on and hand out what it shows, all on one map. -/
def Op.Drives (map : GridMap) : Op → Prop
  | .advance place => place.map = map
  | .submit _ | .drain => True
  | .start _ | .abort => False

instance (map : GridMap) : (op : Op) → Decidable (op.Drives map)
  | .advance place => inferInstanceAs (Decidable (place.map = map))
  | .submit _ | .drain => .isTrue trivial
  | .start _ | .abort => .isFalse id

theorem Telling.run {library : ScriptLibrary} (ho : Opens script opening library) {ops : List Op}
    (hops : ∀ op ∈ ops, op.Drives map) {out : List Output} {play : Play}
    (h : Telling map script first opening out play) :
    ∃ handed, Telling map script first opening handed (Session.run library play ops) ∧
      handed ++ (Session.run library play ops).session.output =
        out ++ emitted library play ops := by
  induction ops generalizing play out with
  | nil => exact ⟨out, h, by rw [emitted, replies, List.flatMap_nil, List.nil_append]⟩
  | cons op rest ih =>
    have hrest : ∀ op ∈ rest, op.Drives map := fun op ho => hops op (List.mem_cons_of_mem _ ho)
    have hop := hops op List.mem_cons_self
    cases op with
    | start => cases hop
    | abort => cases hop
    | advance place => exact ih hrest (h.advance ho hop)
    | submit input => exact ih hrest (h.submit input)
    | drain =>
      obtain ⟨handed, htelling, hout⟩ := ih hrest h.drain
      refine ⟨handed, htelling, hout.trans ?_⟩
      rw [emitted_cons, List.append_assoc]
      rfl

end Telling

/-- A start that succeeds leaves a new run of the script. -/
theorem active_of_started {library : ScriptLibrary} {script : Script} {request : PendingStart}
    {play first : Play} (hscript : library.get? request.script = some script)
    (hstart : start library play request = (first, .ok .started)) :
    ∃ id, first.session.active = some (newRun request script id first.stage.world) := by
  have hbegin {play : Play} (h : begin library play request false = (first, .ok .started)) :
      ∃ id, first.session.active = some (newRun request script id first.stage.world) := by
    simp only [begin, hscript] at h
    split at h
    · cases h
      exact ⟨_, rfl⟩
    · cases h
  unfold start at hstart
  split at hstart
  · split at hstart
    · exact hbegin hstart
    · split at hstart
      · cases hstart
      · exact hbegin hstart
  · cases hstart

/-- Whatever happens between its start and its end, a straight script does what its tale tells: the
world is the one the tale ends with, what is shown is what the tale shows, and the lines that are
passed are those of the tale, in order. -/
theorem straight_run_eq_tale {library : ScriptLibrary} {script : Script} {request : PendingStart}
    {map : GridMap} {play first : Play} {ops : List Op}
    (hstart : start library play request = (first, .ok .started))
    (hqueue : first.session.deferred = [])
    (hscript : library.get? request.script = some script) (hstraight : script.IsStraight)
    (hops : ∀ op ∈ ops, op.Drives map)
    (hidle : (run library first ops).session.state = .idle) :
    let master := request.master.filter first.stage.world.actors.contains
    let tale := Tale.tell map request.script master first.stage.world script.lines
    let last := run library first ops
    last.stage.world = script.leave master tale.world ∧
      (emitted library first ops).filter Output.isShown =
        first.session.output.filter Output.isShown ++ tale.shown ∧
      last.session.passed = first.session.passed ++ tale.passed ∧
      tale.passed.map Prod.fst <+: script.lines ∧
      (tale.failure = none → tale.passed.map Prod.fst = script.lines) := by
  intro master tale last
  obtain ⟨id, hactive⟩ := active_of_started hscript hstart
  have ho : Opens script (newRun request script id first.stage.world) library :=
    ⟨hscript, rfl, rfl, hstraight⟩
  have hbegin : Telling map script first (newRun request script id first.stage.world) [] first :=
    .midway 0 .opened ⟨hactive, rfl, rfl, rfl, hqueue, (List.append_nil _).symm,
      (List.append_nil _).symm⟩
  obtain ⟨handed, htelling, hout⟩ := hbegin.run ho hops
  cases htelling with
  | midway k gate h =>
    have hactive := h.active
    rw [(state_eq_idle_iff _).mp hidle] at hactive
    cases hactive
  | told _ hworld h =>
    rw [List.nil_append] at hout
    refine ⟨hworld, ?_, h.passed, Tale.tell_passed map request.script master _ _⟩
    rw [← hout]
    exact h.shown

/-- A guard calls out, waits for the player and for the clock, and is gone when the script ends. -/
theorem guard_scene_eq_tale :
    let script : Script := .ofSource [] (some .afterTrigger)
      ["text=Guard__Halt", "never++give_gold=9", "wait=5", "set_flag=met"]
    let library : ScriptLibrary := .ofList [("guard", script)]
    let map : GridMap := .blank "gate" 16 16
    let world := ((World.blank ∅).spawn (.arriving "Guard" "guard" ⟨3, 4⟩)).2
    let request : PendingStart := ⟨"guard", some ⟨0, 0⟩, .map⟩
    let first := (start library ⟨.fresh, ⟨world, ∅⟩⟩ request).1
    let ops : List Op := [.advance ⟨map, 0⟩, .drain, .submit .no, .advance ⟨map, 1⟩,
      .advance ⟨map, 2⟩, .advance ⟨map, 3⟩, .advance ⟨map, 7⟩, .advance ⟨map, 8⟩]
    let last := run library first ops
    let master := request.master.filter first.stage.world.actors.contains
    let tale := Tale.tell map request.script master first.stage.world script.lines
    last.session.state = .idle ∧ last.stage.world = script.leave master tale.world ∧
      last.session.passed = first.session.passed ++ tale.passed ∧
      tale.passed.map Prod.snd = [true, false, true, true] := by
  intro script library map world request first ops
  have htale := @straight_run_eq_tale library script request map ⟨.fresh, ⟨world, ∅⟩⟩ first ops
    (by decide +kernel) (by decide +kernel) (by decide +kernel) (by decide +kernel)
    (by decide +kernel) (by decide +kernel)
  exact ⟨by decide +kernel, htale.1, htale.2.2.1, by decide +kernel⟩

end Session

end StoryEngine

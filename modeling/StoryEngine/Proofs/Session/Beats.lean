import StoryEngine.Proofs.Dialog.Conversation
import StoryEngine.Proofs.Dispatch.Directive
import StoryEngine.Proofs.Session.Waiting

/-! # A session beat by beat

A beat is what a session does at one go, with everything that it rests on: a run ends for a cause,
and a line is passed only by a run that is at it. A request is a chain of beats, and an advance
carries out one line at most. Between requests the rest of the game may change the stage as it
likes, and so may conversations.
-/

namespace StoryEngine.Session

set_option autoImplicit false

open Relation (ReflTransGen)

inductive Beat (library : ScriptLibrary) : Play → Play → Prop where
  | poll {play : Play} {run : Run} (place : Place) (hrun : play.session.active = some run) :
      Beat library play (pollGate place play run).1
  | skip {play : Play} {run : Run} {line : ScriptLine} (hrun : play.session.active = some run)
      (hfaces : Faces library run line) :
      Beat library play ⟨play.session.pass run line false, play.stage⟩
  | answer {play : Play} (input : PlayerInput) :
      Beat library play ⟨(play.session.submit input).2, play.stage⟩
  | defer {play : Play} {run : Run} {request : PendingStart}
      (hknown : library.contains request.script = true)
      (hrun : play.session.active = some run) (hleft : run.hasLinesLeft = true) :
      Beat library play ⟨play.session.defer request, play.stage⟩
  | finish {play : Play} {run : Run} {reason : EndReason}
      (hrun : play.session.active = some run) (hcause : Cause library run reason) :
      Beat library play (teardown play reason)
  | resume {play : Play} {request : PendingStart} {rest : List PendingStart}
      (hidle : play.session.active = none) (hnext : play.session.deferred = request :: rest) :
      Beat library play
        (begin library ⟨{ play.session with deferred := rest }, play.stage⟩ request true).1
  | tryNow {play : Play} {request : PendingStart}
      (hknown : library.contains request.script = true) (hidle : play.session.active = none) :
      Beat library play (begin library play request false).1

abbrev Beats (library : ScriptLibrary) : Play → Play → Prop := ReflTransGen (Beat library)

theorem Beats.keeps {library : ScriptLibrary} {P : Play → Prop} {play next : Play}
    (h : Beats library play next)
    (hbeat : ∀ {play next : Play}, Beat library play next → P play → P next) (hp : P play) :
    P next := by
  induction h with
  | refl => exact hp
  | tail _ h ih => exact hbeat h ih

theorem pollGate_session (place : Place) {play : Play} {run : Run}
    (hrun : play.session.active = some run) :
    ∃ gate, (pollGate place play run).1.session =
      { play.session with active := some { run with gate } } := by
  have hsame : play.session =
      { play.session with active := some { run with gate := run.gate } } := by
    rw [← hrun]
  unfold pollGate
  split
  · exact ⟨run.gate, hsame⟩
  · exact ⟨run.gate, hsame⟩
  · split
    · exact ⟨.opened, rfl⟩
    · exact ⟨run.gate, hsame⟩
  · exact ⟨_, rfl⟩

/-- What is kept by carrying out any of some actions on the stage, and by any directive that comes
of one of them, is kept by carrying them out in turn. -/
theorem performAll_keeps {P : Play → Prop} {place : Place} {scope : Scope} {play : Play}
    {actions : List Action}
    (hact : ∀ play, ∀ action ∈ actions, P play →
      P ⟨play.session, (Dispatch.perform place scope play.stage action).1⟩)
    (happly : ∀ {play : Play} {directive : Directive}, ∀ action ∈ actions,
      Dispatch.Asks scope action directive → P play →
        P ⟨(play.session.apply directive).1, play.stage⟩)
    (hp : P play) : P (performAll place scope play actions).1 := by
  induction actions generalizing play with
  | nil => exact hp
  | cons action rest ih =>
    have hfirst := hact play action List.mem_cons_self hp
    rw [performAll]
    rcases hdone : Dispatch.perform place scope play.stage action with ⟨stage, result⟩
    rw [hdone] at hfirst
    cases result with
    | error e => exact hfirst
    | ok directive =>
      have hasks := Dispatch.perform_asks (congrArg Prod.snd hdone)
      refine ih (fun play other ho => hact play other (List.mem_cons_of_mem _ ho))
        (fun other ho => happly other (List.mem_cons_of_mem _ ho)) ?_
      exact happly action List.mem_cons_self hasks hfirst

theorem begin_deferred (library : ScriptLibrary) (play : Play) (request : PendingStart)
    (waited : Bool) :
    (begin library play request waited).1.session.deferred = play.session.deferred := by
  unfold begin
  split
  · rfl
  · simp only
    split <;> rfl

theorem beginWaiting_beats {library : ScriptLibrary} {play : Play} {waiting : List PendingStart}
    (hidle : play.session.active = none) (hw : play.session.deferred = waiting) :
    Beats library play (beginWaiting library play waiting).1 := by
  induction waiting generalizing play with
  | nil => exact .refl
  | cons request rest ih =>
    have hbeat : Beat library play _ := .resume hidle hw
    have hrest := begin_deferred library ⟨{ play.session with deferred := rest }, play.stage⟩
      request true
    rw [beginWaiting]
    generalize begin library ⟨{ play.session with deferred := rest }, play.stage⟩ request true =
      tried at *
    obtain ⟨next, result⟩ := tried
    cases result with
    | error e => exact .single hbeat
    | ok outcome =>
      simp only [Option.isNone_iff_eq_none]
      split
      · next hnext => exact .head hbeat (ih hnext hrest)
      · exact .single hbeat

theorem finish_beats {library : ScriptLibrary} {play : Play} {run : Run} {reason : EndReason}
    (hrun : play.session.active = some run) (hcause : Cause library run reason) :
    Beats library play (finish library play reason).1 := by
  have hidle := teardown_active play reason
  simp only [finish, startDeferred, hidle, Option.isNone_none, if_true]
  exact .head (.finish hrun hcause) (beginWaiting_beats hidle rfl)

theorem halt_beats (library : ScriptLibrary) (play : Play) (id : Nat) :
    Beats library play (halt library play id) := by
  unfold halt
  split
  · next run hrun =>
    split
    · exact finish_beats hrun .failed
    · exact .refl
  · exact .refl

theorem endIfAsked_beats (library : ScriptLibrary) (play : Play) (id : Nat) :
    Beats library play (endIfAsked library play id).1 := by
  rcases endIfAsked_cases library play id with h | ⟨run, reason, hrun, hending, h⟩
  · rw [h]
  · rw [h]
    exact finish_beats hrun (.asked hending)

theorem cause_of_no_lines_left (library : ScriptLibrary) {run : Run}
    (h : run.hasLinesLeft = false) : Cause library run (run.ending.getD .completed) := by
  cases hending : run.ending with
  | none => exact .replaced hending h
  | some reason => exact .asked hending

theorem start_beats (library : ScriptLibrary) (play : Play) (request : PendingStart) :
    Beats library play (start library play request).1 := by
  unfold start
  split
  · next hknown =>
    split
    · next hidle => exact .single (.tryNow hknown hidle)
    · next run hrun =>
      split
      · next hleft => exact .single (.defer hknown hrun hleft)
      · next hleft =>
        have hcause := cause_of_no_lines_left library (Bool.eq_false_iff.mpr hleft)
        exact .head (.finish hrun hcause) (.single (.tryNow hknown (teardown_active play _)))
  · exact .refl

theorem startAll_beats (library : ScriptLibrary) (play : Play) (master : Option Handle)
    (owner : Owner) (scripts : List String) :
    Beats library play (startAll library play master owner scripts).1 := by
  induction scripts generalizing play with
  | nil => exact .refl
  | cons script rest ih =>
    have hstart := start_beats library play ⟨script, master, owner⟩
    rw [startAll]
    generalize start library play ⟨script, master, owner⟩ = started at *
    obtain ⟨next, result⟩ := started
    cases result with
    | error e => exact hstart
    | ok outcome => exact hstart.trans (ih next)

theorem startAsked_beats (library : ScriptLibrary) (play : Play) (scripts : List String) :
    Beats library play (startAsked library play scripts).1 := by
  unfold startAsked
  split
  · exact .refl
  · split
    · exact startAll_beats library play _ _ scripts
    · exact startAll_beats library play _ _ scripts

/-- What follows once the actions of a line have been carried out. -/
theorem takeLine_beats (library : ScriptLibrary) (place : Place) (play : Play) (run : Run)
    (line : ScriptLine) :
    Beats library (performAll place run.scope play line.actions).1
      (takeLine library place play run line).1 := by
  unfold takeLine
  generalize performAll place run.scope play line.actions = done
  obtain ⟨after, result⟩ := done
  cases result with
  | error e => exact halt_beats library after run.id
  | ok scripts =>
    have hasked := startAsked_beats library after scripts
    simp only
    generalize startAsked library after scripts = asked at *
    obtain ⟨last, result⟩ := asked
    cases result with
    | error e => exact hasked.trans (halt_beats library last run.id)
    | ok _ => exact hasked.trans (endIfAsked_beats library last run.id)

theorem Idles.beats {library : ScriptLibrary} {play : Play}
    {result : Play × Except ScriptError RunState} (h : Idles library play result) :
    Beats library play result.1 := by
  cases h with
  | idle | waits => exact .refl
  | ends hrun hcause => exact finish_beats hrun hcause
  | lost => exact halt_beats library play _
  | skips hrun hfaces => exact .single (.skip hrun hfaces)

theorem Polled.beats {place : Place} {play polled : Play} (h : Polled place play polled)
    (library : ScriptLibrary) : Beats library play polled := by
  cases h with
  | idle => exact .refl
  | active hrun => exact .single (.poll place hrun)

theorem Polled.goesOn {place : Place} {play polled : Play} {run : Run}
    (h : Polled place play polled) (hpolled : polled.session.active = some run) :
    GoesOn play.session polled.session [] [] := by
  cases h with
  | idle => exact .refl hpolled
  | active hrun =>
    obtain ⟨gate, hgate⟩ := pollGate_session place hrun
    rw [hgate]
    exact .of_active hrun _ gate _

theorem advance_beats {library : ScriptLibrary} {place : Place} {play : Play}
    (h : lineTaken? library place play = none) :
    Beats library play (advance library place play).1 := by
  obtain ⟨polled, hpoll, hidles⟩ := advance_idles h
  exact (hpoll.beats library).trans hidles.beats

/-- What is kept by every beat and by carrying out a line is kept by an advance. -/
theorem advance_keeps {library : ScriptLibrary} {P : Play → Prop} {play : Play} (place : Place)
    (hbeat : ∀ {play next : Play}, Beat library play next → P play → P next)
    (hline : ∀ {play : Play} {run : Run} {line : ScriptLine}, play.session.active = some run →
      Faces library run line → P play →
        P (performAll place run.scope ⟨play.session.pass run line true, play.stage⟩
          line.actions).1)
    (hp : P play) : P (advance library place play).1 := by
  cases h : lineTaken? library place play with
  | none => exact (advance_beats h).keeps hbeat hp
  | some taken =>
    obtain ⟨next, run, line⟩ := taken
    obtain ⟨polled, hpoll, hrun, hfaces, rfl, hadvance⟩ := advance_takes h
    rw [hadvance]
    exact (takeLine_beats library place _ run line).keeps hbeat
      (hline hrun hfaces ((hpoll.beats library).keeps hbeat hp))

/-- What happens in a game: requests to the session, and in between them keywords typed in dialogs
and whatever else changes the world or the timers. -/
inductive Turn where
  | request (op : Op)
  | remark (parlance : Parlance) (remark : Dialog.Remark)
  | world (w : World)
  | timers (timers : Timers)

def take (library : ScriptLibrary) (play : Play) : Turn → Play
  | .request op => (perform library play op).1
  | .remark parlance remark => { play with stage := (Dialog.answer parlance play.stage remark).1 }
  | .world world => { play with stage := { play.stage with world } }
  | .timers timers => { play with stage := { play.stage with timers } }

def playOut (library : ScriptLibrary) (play : Play) (turns : List Turn) : Play :=
  turns.foldl (take library) play

theorem playOut_append (library : ScriptLibrary) (play : Play) (turns more : List Turn) :
    playOut library play (turns ++ more) = playOut library (playOut library play turns) more :=
  List.foldl_append

theorem playOut_requests (library : ScriptLibrary) (play : Play) (ops : List Op) :
    playOut library play (ops.map .request) = run library play ops :=
  List.foldl_map

/-- What holds of a play and is kept by every small step, by handing out the output and by any
change of the stage holds after every sequence of turns. -/
theorem playOut_keeps {library : ScriptLibrary} {P : Play → Prop} {play : Play}
    (hk : Known library play) (hstart : P play)
    (hstep : ∀ {play next : Play}, Step library play next → P play → P next)
    (hdrain : ∀ {play : Play}, P play → P ⟨{ play.session with output := [] }, play.stage⟩)
    (hstage : ∀ {play : Play} (stage : Stage), P play → P ⟨play.session, stage⟩)
    (turns : List Turn) : Known library (playOut library play turns) ∧
      P (playOut library play turns) := by
  induction turns generalizing play with
  | nil => exact ⟨hk, hstart⟩
  | cons turn rest ih =>
    cases turn with
    | request op =>
      have hrun := run_induction hk hstart hstep hdrain [op]
      exact ih hrun.1 hrun.2
    | remark parlance remark => exact ih hk (hstage _ hstart)
    | world w => exact ih hk (hstage _ hstart)
    | timers timers => exact ih hk (hstage _ hstart)

/-- The same for what only beats and carrying out a line keep. -/
theorem playOut_induction {library : ScriptLibrary} {P : Play → Prop} {play : Play}
    {turns : List Turn} (hstart : P play)
    (hbeat : ∀ {play next : Play}, Beat library play next → P play → P next)
    (hline : ∀ {play : Play} {run : Run} {line : ScriptLine} (place : Place),
      play.session.active = some run → Faces library run line → P play →
        P (performAll place run.scope ⟨play.session.pass run line true, play.stage⟩
          line.actions).1)
    (hdrop : ∀ {play : Play}, P play → P ⟨play.session.dropWaiting, play.stage⟩)
    (hdrain : ∀ {play : Play}, P play → P ⟨{ play.session with output := [] }, play.stage⟩)
    (hworld : ∀ {play : Play} (w : World), P play → P ⟨play.session, ⟨w, play.stage.timers⟩⟩)
    (htimers : ∀ {play : Play} (timers : Timers), .timers timers ∈ turns → P play →
      P ⟨play.session, ⟨play.stage.world, timers⟩⟩) :
    P (playOut library play turns) := by
  induction turns generalizing play with
  | nil => exact hstart
  | cons turn rest ih =>
    refine ih ?_ fun timers ht => htimers timers (List.mem_cons_of_mem turn ht)
    cases turn with
    | request op =>
      cases op with
      | start request => exact (start_beats library play request).keeps hbeat hstart
      | advance place => exact advance_keeps place hbeat (hline place) hstart
      | submit input => exact hbeat (.answer input) hstart
      | abort =>
        have hdown : P (teardown play .aborted) := by
          cases hrun : play.session.active with
          | none => rwa [teardown_of_idle .aborted hrun]
          | some run => exact hbeat (.finish hrun .aborted) hstart
        exact hdrop hdown
      | drain => exact hdrain hstart
    | remark parlance remark =>
      -- Events of a dialog do not wait, so that to the timers a remark is a change of the world.
      have hkept := Dialog.respond_timers parlance remark.table remark.typed remark.place remark.npc
        play.stage
      have hnext := hworld (Dialog.answer parlance play.stage remark).1.world hstart
      rw [← hkept] at hnext
      exact hnext
    | world w => exact hworld w hstart
    | timers timers => exact htimers timers List.mem_cons_self hstart

end StoryEngine.Session

import StoryEngine.Proofs.Session.Gates
import StoryEngine.Proofs.Session.Tickets
import StoryEngine.Proofs.Time.Progress

/-! # How long a pause holds

A run that waits is held until its timer counts as finished, and the timer is read in single
precision. A pause holds for the whole of its time exactly if its last millisecond is told from the
whole in that reading.
-/

namespace StoryEngine.Session

set_option autoImplicit false

variable {library : ScriptLibrary} {play : Play} {run : Run} {timer : Timer}

theorem Grows.length_le {P : Entry → Prop} {s t : Session} (h : Grows P s t) :
    s.journal.length ≤ t.journal.length := by
  obtain ⟨entries, hjournal, _⟩ := h
  rw [hjournal, List.length_append]
  exact Nat.le_add_right _ _

theorem finish_reports (hrun : play.session.active = some run) (reason : EndReason) :
    play.session.journal.length < (finish library play reason).1.session.journal.length := by
  have hidle := teardown_active play reason
  have hbeats : Beats library _ _ := beginWaiting_beats hidle rfl
  have hgrown := hbeats.grows.length_le
  have hended := congrArg journal (teardown_session reason hrun)
  rw [hended, endRun_journal, List.length_append] at hgrown
  simp only [finish, startDeferred, hidle, Option.isNone_none, if_true]
  exact hgrown

theorem takeLine_grows (place : Place) (play : Play) {run now : Run}
    (hrun : play.session.active = some now) (line : ScriptLine) :
    play.session.journal.length ≤
      (takeLine library place play run line).1.session.journal.length :=
  (performAll_grows place run.scope hrun line.actions).length_le.trans
    (takeLine_beats library place play run line).grows.length_le

/-- A run that goes on passes a line or ends, unless its script is lost. -/
theorem proceed_reports (library : ScriptLibrary) (place : Place) (play : Play) {state : RunState}
    (hrun : play.session.active = some run) (hending : run.ending = none)
    (hok : (proceed library place play run).2 = .ok state) :
    play.session.journal.length <
      (proceed library place play run).1.session.journal.length := by
  unfold proceed at hok ⊢
  rw [hending] at hok ⊢
  simp only at hok ⊢
  split
  · next hlost =>
    rw [hlost] at hok
    cases hok
  · split
    · exact finish_reports hrun .completed
    · next line _ =>
      have hpassed (held : Bool) : play.session.journal.length <
          (play.session.pass run line held).journal.length := by
        rw [pass, note, List.length_append]
        exact Nat.lt_succ_self _
      split
      · exact Nat.lt_of_lt_of_le (hpassed _)
          (takeLine_grows place ⟨play.session.pass run line _, play.stage⟩ rfl line)
      · exact hpassed _

/-- The run waits for a timer of its own. -/
structure Paused (play : Play) (run : Run) (timer : Timer) : Prop where
  active : play.session.active = some run
  ending : run.ending = none
  gate : run.gate = .pause run.scope.waitTimer
  timer : play.stage.timers.get? run.scope.waitTimer = some timer

/-- The turn does not end a pause: no advance comes after its time, nobody aborts the run, and the
timer is left alone. -/
def Turn.Spares (name : String) (timer : Timer) : Turn → Prop
  | .request (.advance place) => place.now < timer.start + timer.millis
  | .request .abort => False
  | .request (.start _) | .request (.submit _) | .request .drain => True
  | .remark _ _ | .world _ => True
  | .timers others => others.get? name = some timer

theorem spares_advance {name : String} {place : Place} :
    (Turn.request (.advance place)).Spares name timer ↔
      place.now < timer.start + timer.millis :=
  Iff.rfl

theorem Paused.shut_iff (h : Paused play run timer) (place : Place) :
    run.gate.Shut place play.stage ↔ ¬Binary.one.le (timer.progress place.now) = true := by
  rw [h.gate, Gate.Shut, Timers.isFinished, Timers.progress, h.timer, Bool.not_eq_true]

theorem Paused.setGate (h : Paused play run timer) :
    play.session.setGate run (.pause run.scope.waitTimer) = play.session := by
  rw [← h.gate]
  exact setGate_self h.active

/-- As long as the timer does not count as finished, an advance leaves the pause as it is. -/
theorem Paused.advance_of_lt (h : Paused play run timer) (library : ScriptLibrary) {place : Place}
    (hleft : ¬Binary.one.le (timer.progress place.now) = true) :
    advance library place play = (play, .ok .awaitingPause) := by
  rw [advance_of_shut h.active ((h.shut_iff place).mpr hleft), Run.state, h.gate]
  exact Prod.ext (congrArg (Play.mk · play.stage) h.setGate) rfl

/-- From then on it opens the gate, drops the timer and goes on. -/
theorem Paused.advance_of_le (h : Paused play run timer) (library : ScriptLibrary) {place : Place}
    (hover : Binary.one.le (timer.progress place.now) = true) :
    advance library place play =
      proceed library place (play.openGate run) { run with gate := .opened } :=
  advance_of_over h.active fun hshut => (h.shut_iff place).mp hshut hover

/-- So it does not find the run paused still. -/
theorem Paused.advance_ne (h : Paused play run timer) (library : ScriptLibrary) {place : Place}
    (hover : Binary.one.le (timer.progress place.now) = true) :
    advance library place play ≠ (play, .ok .awaitingPause) := by
  intro hstays
  rw [h.advance_of_le library hover] at hstays
  have hreports := proceed_reports library place (play.openGate run) rfl h.ending
    (congrArg Prod.snd hstays)
  rw [hstays] at hreports
  exact Nat.lt_irrefl _ hreports

theorem hasLinesLeft_of_pause {name : String} (hending : run.ending = none)
    (hgate : run.gate = .pause name) : run.hasLinesLeft = true := by
  simp [Run.hasLinesLeft, hending, hgate]

theorem Paused.take (h : Paused play run timer) (library : ScriptLibrary)
    (hpos : 0 < timer.millis) (hshort : timer.millis ≤ Timer.longestExact) {turn : Turn}
    (hspares : turn.Spares run.scope.waitTimer timer) :
    Paused (Session.take library play turn) run timer := by
  cases turn with
  | request op =>
    cases op with
    | start request =>
      have hleft := hasLinesLeft_of_pause h.ending h.gate
      simp only [Session.take, perform, start, h.active, hleft, if_true]
      split
      · exact ⟨h.active, h.ending, h.gate, h.timer⟩
      · exact h
    | advance place =>
      have hleft : timer.remaining place.now ≠ 0 := by
        rw [Ne, Timer.remaining_eq_zero_iff_le hpos]
        exact Nat.not_le_of_lt (spares_advance.mp hspares)
      have hstays := h.advance_of_lt library
        (Timer.not_one_le_progress_of_remaining hpos hshort hleft)
      simp only [Session.take, perform, hstays]
      exact h
    | submit input =>
      simp only [Session.take, perform, submit, h.active, h.gate]
      exact h
    | abort => exact hspares.elim
    | drain => exact ⟨h.active, h.ending, h.gate, h.timer⟩
  | remark parlance remark =>
    refine ⟨h.active, h.ending, h.gate, ?_⟩
    have hkept := Dialog.respond_timers parlance remark.table remark.typed remark.place remark.npc
      play.stage
    exact (congrArg (StringMap.get? · run.scope.waitTimer) hkept).trans h.timer
  | world w => exact ⟨h.active, h.ending, h.gate, h.timer⟩
  | timers timers => exact ⟨h.active, h.ending, h.gate, hspares⟩

theorem Paused.playOut (h : Paused play run timer) (library : ScriptLibrary)
    (hpos : 0 < timer.millis) (hshort : timer.millis ≤ Timer.longestExact) {turns : List Turn}
    (hspare : ∀ turn ∈ turns, turn.Spares run.scope.waitTimer timer) :
    Paused (Session.playOut library play turns) run timer := by
  induction turns generalizing play with
  | nil => exact h
  | cons turn rest ih =>
    exact ih (h.take library hpos hshort (hspare turn List.mem_cons_self)) fun other ho =>
      hspare other (List.mem_cons_of_mem turn ho)

/-- A line that makes its run wait starts the timer of the run and does nothing else. -/
theorem advance_of_wait (hread : library.IsRead) {place : Place} {next : Play}
    {line : ScriptLine} {millis : Nat}
    (htaken : lineTaken? library place play = some (next, run, line))
    (hwait : .wait millis ∈ line.actions) :
    (advance library place play).2 = .ok .awaitingPause ∧
      Paused (advance library place play).1
        { run with pointer := run.pointer + 1, gate := .pause run.scope.waitTimer }
        ⟨place.now, millis⟩ := by
  obtain ⟨polled, _, _, hfaces, rfl, hadvance⟩ := advance_takes htaken
  have hactions : line.actions = [.wait millis] :=
    hfaces.actions_eq_singleton hread .wait hwait rfl rfl rfl
  have hending := hfaces.ending
  simp only [hadvance, takeLine, hactions, performAll, Dispatch.perform, Dispatch.startWait,
    Session.apply, Session.setGate, Session.pass, note, startAsked, startAll, endIfAsked, answer,
    List.find?_nil, Except.map, Option.toList_none, List.append_nil, hending]
  refine ⟨rfl, rfl, rfl, rfl, ?_⟩
  exact (StringMap.get?_insert _ _ _ _).trans (if_pos rfl)

/-- A run that waits for some time is held at every advance before that time is over and goes on at
the first one after it, whatever else happens, and the two readings of its timer agree: both exactly
if the time is not too long for its last millisecond to count. -/
theorem pause_holds_iff (hread : library.IsRead) {place : Place} {next : Play}
    {line : ScriptLine} {millis : Nat}
    (htaken : lineTaken? library place play = some (next, run, line))
    (hwait : .wait millis ∈ line.actions) (hpos : 0 < millis) :
    let paused := (advance library place play).1
    let timer : Timer := ⟨place.now, millis⟩
    let held := { run with pointer := run.pointer + 1, gate := .pause run.scope.waitTimer }
    ((∀ turns, (∀ turn ∈ turns, turn.Spares run.scope.waitTimer timer) →
        let now := playOut library paused turns
        now.session.active = some held ∧ ∀ later : Place,
          (later.now < place.now + millis →
            advance library later now = (now, .ok .awaitingPause)) ∧
          (place.now + millis ≤ later.now →
            advance library later now =
              proceed library later (now.openGate held) { held with gate := .opened })) ↔
      millis ≤ Timer.longestExact) ∧
    ((∀ tick, Binary.one.le (timer.progress tick) = true ↔ timer.remaining tick = 0) ↔
      millis ≤ Timer.longestExact) := by
  intro paused timer held
  have hpaused : Paused paused held timer := (advance_of_wait hread htaken hwait).2
  refine ⟨⟨fun hholds => ?_, fun hshort turns hspare => ?_⟩, Timer.agree_iff hpos⟩
  · by_contra hlong
    let early : Place := ⟨place.map, place.now + millis - 1⟩
    have hover : Binary.one.le (timer.progress early.now) = true :=
      Timer.one_le_progress_before_end (Nat.lt_of_not_le hlong)
    have hbefore : early.now < place.now + millis :=
      Nat.sub_one_lt (Nat.add_pos_right _ hpos).ne'
    exact hpaused.advance_ne library hover (((hholds [] nofun).2 early).1 hbefore)
  · have hstill := hpaused.playOut library hpos hshort hspare
    refine ⟨hstill.active, fun later => ⟨fun hbefore => ?_, fun hover => ?_⟩⟩
    · refine hstill.advance_of_lt library (Timer.not_one_le_progress_of_remaining hpos hshort ?_)
      rw [Ne, Timer.remaining_eq_zero_iff_le hpos]
      exact Nat.not_le_of_lt hbefore
    · refine hstill.advance_of_le library (Timer.one_le_progress_of_remaining hpos ?_)
      exact (Timer.remaining_eq_zero_iff_le hpos).mpr hover

/-- A watch of an hour is kept to the end, however often the watchman looks up. -/
theorem hour_is_watched_through :
    let library : ScriptLibrary :=
      .ofList [("watch", .ofSource [] none ["wait=3600000", "set_flag=relieved"])]
    let place : Nat → Place := fun now => ⟨.blank "wall" 8 8, now⟩
    let begun := playOut library ⟨.fresh, ⟨.blank ∅, ∅⟩⟩ [.request (.start ⟨"watch", none, .map⟩)]
    let paused := (advance library (place 7) begun).1
    let now := playOut library paused
      [.request (.advance (place 9)), .request (.advance (place 3600006))]
    advance library (place 3600006) now = (now, .ok .awaitingPause) ∧
      ∃ held, advance library (place 3600007) now =
        proceed library (place 3600007) (now.openGate held) { held with gate := .opened } := by
  intro library place begun paused now
  have hread : ScriptLibrary.IsRead library :=
    ScriptLibrary.isRead_ofList fun e he => List.mem_singleton.mp he ▸ ⟨_, _, _, rfl⟩
  have hline : ∃ taken ∈ lineTaken? library (place 7) begun,
      .wait 3600000 ∈ taken.2.2.actions := by
    decide +kernel
  obtain ⟨⟨next, run, line⟩, htaken, hwait⟩ := hline
  have hspare : ∀ turn ∈ [Turn.request (.advance (place 9)), .request (.advance (place 3600006))],
      turn.Spares run.scope.waitTimer ⟨7, 3600000⟩ := by
    simp only [List.forall_mem_cons, spares_advance]
    exact ⟨by decide, by decide, nofun⟩
  have hholds := ((pause_holds_iff hread htaken hwait (by decide)).1.mpr (by decide) _ hspare).2
  exact ⟨(hholds (place 3600006)).1 (by decide), _, (hholds (place 3600007)).2 (by decide)⟩

/-- A watch that is a little longer than nine hours ends a millisecond early. -/
theorem night_watch_ends_early :
    let library : ScriptLibrary :=
      .ofList [("watch", .ofSource [] none ["wait=33554433", "set_flag=relieved"])]
    let place : Nat → Place := fun now => ⟨.blank "wall" 8 8, now⟩
    let paused := playOut library ⟨.fresh, ⟨.blank ∅, ∅⟩⟩
      [.request (.start ⟨"watch", none, .map⟩), .request (.advance (place 0))]
    let early := advance library (place 33554432) paused
    paused.stage.timers.remaining "watch#1_wait" 33554432 = 1 ∧
      paused.session.state = .awaitingPause ∧ early.2 = .ok .running ∧
        early.1.stage.world.hasFlag "relieved" = true := by
  decide +kernel

end StoryEngine.Session

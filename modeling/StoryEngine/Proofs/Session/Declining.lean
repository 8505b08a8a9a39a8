import Mathlib.Data.List.Induction
import StoryEngine.Proofs.Session.Gates
import StoryEngine.Proofs.Session.Halting

/-! # Advances that do nothing

An advance that finds the gate of the active run shut changes nothing. One that meets a line whose
conditions fail moves past that line, and the run does not come to the line again unless a later
line of the run jumps back.
-/

namespace StoryEngine.Session

set_option autoImplicit false

variable {library : ScriptLibrary} {number index : Nat}

/-- A run of that number is past a line that it had, or will not be active again. -/
structure Past (number index : Nat) (s : Session) : Prop where
  given : number ≤ s.lastRun
  past : ∀ run, s.active = some run → run.id = number → index < run.pointer ∧ index < run.lineCount

theorem past_of_idle {s : Session} (hgiven : number ≤ s.lastRun) (hidle : s.active = none) :
    Past number index s :=
  ⟨hgiven, fun _ hrun => nomatch hidle.symm.trans hrun⟩

/-- The run as it is later, if it has not gone back. -/
structure Onward (run now : Run) : Prop where
  id : now.id = run.id
  lineCount : now.lineCount = run.lineCount
  pointer : run.pointer ≤ now.pointer ∨ run.lineCount ≤ now.pointer

theorem Onward.still (run : Run) (gate : Gate) (ending : Option EndReason) :
    Onward run { run with gate, ending } :=
  ⟨rfl, rfl, .inl (Nat.le_refl _)⟩

theorem Onward.pass (run : Run) : Onward run { run with pointer := run.pointer + 1 } :=
  ⟨rfl, rfl, .inl (Nat.le_succ _)⟩

theorem Onward.skip (run : Run) (lines : Nat) (gate : Gate) :
    Onward run { run.skip lines with gate } := by
  refine ⟨rfl, rfl, ?_⟩
  simp only [Run.skip]
  omega

theorem Past.goOn {s : Session} (h : Past number index s) {run now : Run}
    (hrun : s.active = some run) (honward : Onward run now) (out : List Output)
    (journal : List Entry) :
    Past number index { s with active := some now, output := out, journal } := by
  refine ⟨h.given, ?_⟩
  rintro _ ⟨⟩ hid
  obtain ⟨hpast, hlast⟩ := h.past run hrun (honward.id ▸ hid)
  have hcount := honward.lineCount
  have hpointer := honward.pointer
  omega

theorem Past.begin (play : Play) (h : Past number index play.session) (request : PendingStart)
    (waited : Bool) : Past number index (begin library play request waited).1.session := by
  unfold Session.begin
  split
  · exact h
  · simp only
    split
    · refine ⟨Nat.le_succ_of_le h.given, ?_⟩
      rintro _ ⟨⟩ hid
      have hnew : play.session.lastRun + 1 = number := hid
      have hgiven := h.given
      omega
    · exact ⟨h.given, h.past⟩

theorem Past.submit {s : Session} (h : Past number index s) (input : PlayerInput) :
    Past number index (s.submit input).2 := by
  unfold Session.submit
  split
  · exact h
  · next run hrun =>
    split
    · simp only [setGate, Run.take]
      split
      · exact h.goOn hrun (.skip run _ .opened) _ _
      · exact h.goOn hrun (.still run .opened run.ending) _ _
    · exact h

theorem Beat.past {play next : Play} (h : Beat library play next)
    (hp : Past number index play.session) : Past number index next.session := by
  cases h with
  | poll place hrun =>
    obtain ⟨gate, hgate⟩ := pollGate_session place hrun
    rw [hgate]
    exact hp.goOn hrun (.still _ gate _) _ _
  | skip hrun => exact hp.goOn hrun (.pass _) _ _
  | answer input => exact hp.submit input
  | defer => exact ⟨hp.given, hp.past⟩
  | finish hrun hcause =>
    refine past_of_idle ?_ (teardown_active play _)
    rw [teardown_session _ hrun]
    exact hp.given
  | @resume request rest =>
    exact Past.begin ⟨{ play.session with deferred := rest }, play.stage⟩ ⟨hp.given, hp.past⟩
      request true
  | tryNow => exact hp.begin play _ false

/-- Of all that a line can ask for, only a jump back takes the run back. -/
theorem Past.apply {s : Session} (h : Past number index s) {directive : Directive}
    (hback : ∀ run, s.active = some run → run.id = number → ∀ lines, directive ≠ .jump true lines) :
    Past number index (s.apply directive).1 := by
  unfold Session.apply
  split
  · exact h
  · next run hrun =>
    cases directive with
    | proceed | startScript => exact h
    | «show» | transition => exact ⟨h.given, h.past⟩
    | awaitInput text skip => cases skip <;> exact h.goOn hrun (.still run _ run.ending) _ _
    | pause | walkers => exact h.goOn hrun (.still run _ run.ending) _ _
    | forceEnd => exact h.goOn hrun (.still run run.gate _) _ _
    | jump back lines =>
      cases back with
      | true =>
        refine ⟨h.given, ?_⟩
        rintro _ ⟨⟩ hid
        exact absurd rfl (hback run hrun hid lines)
      | false => exact h.goOn hrun (.skip run lines run.gate) _ _
    | endScript script =>
      simp only [endScript]
      split
      · exact h.goOn hrun (.still run run.gate _) _ _
      · exact ⟨h.given, h.past⟩

theorem performAll_past (place : Place) (scope : Scope) {play : Play} {run : Run}
    (hrun : play.session.active = some run) (hp : Past number index play.session)
    {actions : List Action} (hback : run.id = number → ∀ lines, .unjump lines ∉ actions) :
    Past number index (performAll place scope play actions).1.session := by
  -- The run stays active under its number, and if that is the other one it may jump as it likes.
  refine (performAll_keeps
    (P := fun now => StillActive run now.session ∧ Past number index now.session)
    (fun _ _ _ h => h) (fun {now directive} action ha hasks h => ?_)
    ⟨⟨run.pointer, run.gate, run.ending, hrun⟩, hp⟩).2
  obtain ⟨hstill, hpast⟩ := h
  obtain ⟨_, _, _, hnow⟩ := id hstill
  refine ⟨hstill.trans hnow (apply_move .empty now hnow directive).2, hpast.apply ?_⟩
  rintro first hfirst hid lines rfl
  cases hnow.symm.trans hfirst
  cases hasks
  exact hback hid lines ha

/-- One of some turns takes a line of that run beyond the given one, and the line jumps back. -/
def JumpsBack (library : ScriptLibrary) (play : Play) (number index : Nat)
    (turns : List Turn) : Prop :=
  ∃ before place after next run taken lines,
    turns = before ++ .request (.advance place) :: after ∧
    lineTaken? library place (playOut library play before) = some (next, run, taken) ∧
    run.id = number ∧ index < run.pointer ∧ .unjump lines ∈ taken.actions

theorem JumpsBack.snoc {play : Play} {turns : List Turn}
    (h : JumpsBack library play number index turns) (turn : Turn) :
    JumpsBack library play number index (turns ++ [turn]) := by
  obtain ⟨before, place, after, next, run, taken, lines, rfl, h⟩ := h
  refine ⟨before, place, after ++ [turn], next, run, taken, lines, ?_, h⟩
  rw [List.append_assoc, List.cons_append]

theorem advance_past (library : ScriptLibrary) (place : Place) {play : Play}
    (hp : Past number index play.session) :
    Past number index (advance library place play).1.session ∨
      ∃ next run taken lines, lineTaken? library place play = some (next, run, taken) ∧
        run.id = number ∧ index < run.pointer ∧ .unjump lines ∈ taken.actions := by
  cases htaken : lineTaken? library place play with
  | none => exact .inl ((advance_beats htaken).keeps (P := fun now => Past number index now.session)
      Beat.past hp)
  | some found =>
    obtain ⟨next, run, taken⟩ := found
    obtain ⟨polled, hpoll, hrun, _, rfl, hadvance⟩ := advance_takes htaken
    have hpolled := (hpoll.beats library).keeps (P := fun now => Past number index now.session)
      Beat.past hp
    by_cases hback : run.id = number ∧ ∃ lines, .unjump lines ∈ taken.actions
    · obtain ⟨hid, lines, hlines⟩ := hback
      exact .inr ⟨_, run, taken, lines, rfl, hid, (hpolled.past run hrun hid).1, hlines⟩
    · rw [hadvance]
      have hpassed : Past number index (polled.session.pass run taken true) :=
        hpolled.goOn hrun (.pass run) _ _
      refine .inl ((takeLine_beats library place _ run taken).keeps
        (P := fun now => Past number index now.session) Beat.past ?_)
      have hnow : (polled.session.pass run taken true).active =
          some { run with pointer := run.pointer + 1 } := rfl
      refine performAll_past place run.scope hnow hpassed ?_
      exact fun hid lines hlines => hback ⟨hid, lines, hlines⟩

theorem take_past (library : ScriptLibrary) {play : Play}
    (hp : Past number index play.session) (turn : Turn) :
    Past number index (take library play turn).session ∨
      JumpsBack library play number index [turn] := by
  cases turn with
  | request op =>
    cases op with
    | start request =>
      exact .inl ((start_beats library play request).keeps
        (P := fun now => Past number index now.session) Beat.past hp)
    | advance place =>
      rcases advance_past library place hp with h | h
      · exact .inl h
      · obtain ⟨next, run, taken, lines, h⟩ := h
        exact .inr ⟨[], place, [], next, run, taken, lines, rfl, h⟩
    | submit input => exact .inl (hp.submit input)
    | abort =>
      have hdown : Past number index (teardown play .aborted).session := by
        cases hrun : play.session.active with
        | none => rwa [teardown_of_idle .aborted hrun]
        | some run =>
          have hbeat : Beat library play _ := .finish hrun .aborted
          exact hbeat.past hp
      exact .inl ⟨hdown.given, hdown.past⟩
    | drain => exact .inl ⟨hp.given, hp.past⟩
  | remark | world | timers => exact .inl hp

theorem playOut_past {play : Play} (hp : Past number index play.session) (turns : List Turn) :
    Past number index (playOut library play turns).session ∨
      JumpsBack library play number index turns := by
  induction turns using List.reverseRecOn with
  | nil => exact .inl hp
  | append_singleton turns turn ih =>
    rcases ih with hpast | hback
    · rw [playOut_append]
      rcases take_past library hpast turn with hnext | hback
      · exact .inl hnext
      · obtain ⟨before, place, after, next, run, taken, lines, hturn, htaken, h⟩ := hback
        refine .inr ⟨turns ++ before, place, after, next, run, taken, lines, ?_, ?_, h⟩
        · rw [List.append_assoc, hturn]
        · rw [playOut_append]
          exact htaken
    · exact .inr (hback.snoc turn)

/-- An advance that finds the gate of the active run shut leaves everything as it is; only walkers
who stand still are awaited no longer. One that meets a line whose conditions fail moves the pointer
on by one and does nothing else, besides opening a gate that is over and dropping its timer, and
unless a later line of the run jumps back, the run does not come to that line again. A gate that
waits for walkers opens exactly if none of them is alive and walking, and who is destroyed or warped
is so no longer. -/
theorem declined_advance_changes_nothing (library : ScriptLibrary) (stage : Stage)
    (turns : List Turn) (place : Place) {run : Run}
    (hrun : (playOut library ⟨.fresh, stage⟩ turns).session.active = some run) :
    let play := playOut library ⟨.fresh, stage⟩ turns
    (run.gate.Shut place play.stage →
      advance library place play =
        (⟨play.session.setGate run (run.gate.prune play.stage.world), play.stage⟩,
          .ok run.state)) ∧
    (∀ script line, ¬run.gate.Shut place play.stage →
      library.get? run.script = some script → script.lines[run.pointer]? = some line →
      Condition.allHold line.conditions play.stage.world run.master = false →
      let next := advance library place play
      next =
        (⟨{ play.session with
            active := some { run with pointer := run.pointer + 1, gate := .opened }
            journal := play.session.journal ++ [.passed line false] },
          ⟨play.stage.world, run.gate.spend play.stage.timers⟩⟩, .ok .running) ∧
      ∀ more again, (playOut library next.1 more).session.active = some again →
        again.id = run.id → again.pointer ≤ run.pointer →
          JumpsBack library next.1 run.id run.pointer more) ∧
    (∀ handles, run.gate = .walkers handles →
      ((pollGate place play run).2.gate = .opened ↔
        ∀ h ∈ handles, ¬play.stage.world.Strides h)) ∧
    (∀ h k, (play.stage.world.despawn h).Strides k ↔ k ≠ h ∧ play.stage.world.Strides k) ∧
    ∀ scope actor target w, Dispatch.warp place scope play.stage.world actor target = .ok w →
      ∃ h found, Dispatch.resolve place scope play.stage.world actor = .ok (h, found) ∧
        ∀ k, w.Strides k ↔ k ≠ h ∧ play.stage.world.Strides k := by
  intro play
  let opened : Run := { run with gate := .opened }
  have hending : opened.ending = none := playOut_settled library stage turns run hrun
  refine ⟨advance_of_shut hrun, fun script line hover hscript hline hfails => ?_, ?_,
    fun _ _ => strides_despawn_iff, fun _ _ _ _ => strides_warp⟩
  · intro next
    have hskips : next = _ :=
      (advance_of_over hrun hover).trans
        (proceed_of_line place (play.openGate run) hending hscript hline)
    simp only [Play.openGate, hfails, Bool.false_eq_true, if_false] at hskips
    refine ⟨hskips, fun more again hagain hid hback => ?_⟩
    have hpast : Past run.id run.pointer next.1.session := by
      rw [hskips]
      refine ⟨(playOut_accounted library stage turns).active_le_lastRun hrun, ?_⟩
      rintro _ ⟨⟩ _
      obtain ⟨found, hfound, hcount⟩ := ((playOut_sound library stage turns).fits run hrun).found
      cases hscript.symm.trans hfound
      have hlt := (List.getElem?_eq_some_iff.mp hline).1
      exact ⟨Nat.lt_succ_self _, hcount ▸ hlt⟩
    refine (playOut_past hpast more).resolve_left fun hstill => ?_
    exact absurd (hstill.past again hagain hid).1 (Nat.not_lt.mpr hback)
  · intro handles hgate
    rw [pollGate_gate_eq_opened_iff hrun, hgate]
    exact not_exists.trans (forall_congr' fun _ => not_and)

/-- The guard asks for the password. As long as nobody answers nothing happens, and without the
password the guard does not step aside, then or later. -/
theorem guard_waits_for_password :
    let library : ScriptLibrary := .ofList
      [("guard", .ofSource [] none ["text=Password?", "password++set_flag=aside", "wait=5"])]
    let place : Place := ⟨.blank "gate" 8 8, 0⟩
    let turns : List Turn :=
      [.request (.start ⟨"guard", none, .map⟩), .request (.advance place)]
    let asked := playOut library ⟨.fresh, ⟨.blank ∅, ∅⟩⟩ turns
    let told := playOut library ⟨.fresh, ⟨.blank ∅, ∅⟩⟩ (turns ++ [.request (.submit .acknowledge)])
    let refused := (advance library place told).1
    advance library place asked = (asked, .ok .awaitingInput) ∧
      refused.stage = told.stage ∧ refused.session.output = told.session.output ∧
      ∀ more again, (playOut library refused more).session.active = some again →
        again.id = 1 → again.pointer ≤ 1 → JumpsBack library refused 1 1 more := by
  intro library place turns asked told refused
  have hasked : ∃ run ∈ asked.session.active, run.gate = .input none := by decide +kernel
  have htold : ∃ run ∈ told.session.active, ∃ script ∈ library.get? run.script,
      ∃ line ∈ script.lines[run.pointer]?, run.gate = .opened ∧ run.id = 1 ∧ run.pointer = 1 ∧
        Condition.allHold line.conditions told.stage.world run.master = false := by
    decide +kernel
  obtain ⟨run, hrun, hgate⟩ := hasked
  obtain ⟨now, hnow, script, hscript, line, hline, hopen, hid, hpointer, hfails⟩ := htold
  have hdeclined := (declined_advance_changes_nothing library _ turns place hrun).1
    (hgate ▸ trivial)
  obtain ⟨hskips, hlater⟩ := (declined_advance_changes_nothing library _ _ place hnow).2.1
    script line (hopen ▸ not_false) hscript hline hfails
  have hself : asked.session.setGate run (.input none) = asked.session :=
    hgate ▸ setGate_self hrun
  refine ⟨?_, ?_, ?_, ?_⟩
  · rw [hdeclined, hgate, Run.state, hgate]
    exact Prod.ext (congrArg (Play.mk · asked.stage) hself) rfl
  · rw [hopen] at hskips
    exact congrArg (fun result => result.1.stage) hskips
  · exact congrArg (fun result => result.1.session.output) hskips
  · rw [hid, hpointer] at hlater
    exact hlater

end StoryEngine.Session

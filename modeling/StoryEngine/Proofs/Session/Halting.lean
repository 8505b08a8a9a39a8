import StoryEngine.Proofs.Session.Completion
import StoryEngine.Proofs.Session.Tickets

/-! # Advances that fail

An advance fails only over the line that it takes. The run at that line is halted then, and what
waits is tried in turn, as it is after any other end. Nothing that the line has asked for is
started or left in the queue.
-/

namespace StoryEngine

set_option autoImplicit false

theorem Timers.get?_cancelWaitScope (timers : Timers) {scope name : String}
    (h : inWaitScope scope name = true) : (timers.cancelWaitScope scope).get? name = none := by
  rw [cancelWaitScope, StringMap.get?_filter, Option.filter_eq_none_iff]
  intro _ _
  rw [h]
  nofun

namespace Session

variable {library : ScriptLibrary}

theorem apply_endScript_asked (s : Session) (script : String) :
    (s.apply (.endScript script)).2 = none := by
  unfold apply
  cases s.active <;> rfl

theorem apply_proceed_asked (s : Session) : (s.apply .proceed).2 = none := by
  unfold apply
  cases s.active <;> rfl

theorem performAll_of_ends (place : Place) (scope : Scope) (play : Play) {actions : List Action}
    (h : ∀ action ∈ actions, action.isEnd = true) :
    (performAll place scope play actions).2 = .ok [] := by
  induction actions generalizing play with
  | nil => rfl
  | cons action rest ih =>
    have hdone : ∃ directive, Dispatch.perform place scope play.stage action =
        (play.stage, .ok directive) ∧ (play.session.apply directive).2 = none := by
      have hend := h action List.mem_cons_self
      unfold Action.isEnd at hend
      split at hend
      · exact ⟨_, rfl, apply_endScript_asked play.session _⟩
      · exact ⟨_, rfl, apply_proceed_asked play.session⟩
      · cases hend
    obtain ⟨directive, hdone, hasked⟩ := hdone
    rw [performAll, hdone]
    simp only [hasked, ih _ fun other ho => h other (List.mem_cons_of_mem _ ho)]
    rfl

/-- Actions that end no script leave the run active and the queue as it is. -/
theorem performAll_goesOn (place : Place) (scope : Scope) {play : Play} {run : Run}
    (hrun : play.session.active = some run) {actions : List Action}
    (hends : ∀ script, .endEvent script ∉ actions) :
    ∃ out, GoesOn play.session (performAll place scope play actions).1.session out [] := by
  refine performAll_keeps (P := fun next => ∃ out, GoesOn play.session next.session out [])
    (fun _ _ _ h => h) (fun {now directive} action ha hasks h => ?_) ⟨[], .refl hrun⟩
  obtain ⟨out, hgone⟩ := h
  obtain ⟨_, _, _, _, _, hnow⟩ := hgone.run
  rcases apply_cases hnow directive with ⟨more, hmore⟩ | ⟨script, rfl, _, _⟩
  · exact ⟨out ++ more, hgone.trans hmore⟩
  · cases hasks
    exact absurd ha (hends script)

/-- A line fails over one of its actions or over a script that it asks for. -/
theorem takeLine_error (place : Place) {play : Play} {run next : Run} {line : ScriptLine}
    {e : ScriptError} (hk : Known library play) (hnext : play.session.active = some next)
    (hscope : next.scope = run.scope) (h : (takeLine library place play run line).2 = .error e) :
    (performAll place run.scope play line.actions).2 ≠ .ok [] ∧
      (takeLine library place play run line).1 =
        halt library (performAll place run.scope play line.actions).1 run.id := by
  have hmoves := (performAll_moves library place hnext hscope line.actions).1
  unfold takeLine at h ⊢
  generalize performAll place run.scope play line.actions = done at *
  obtain ⟨after, result⟩ := done
  cases result with
  | error e => exact ⟨nofun, rfl⟩
  | ok scripts =>
    simp only at h ⊢
    rcases startAsked_cases library after scripts with ⟨missing, hs, _, hasked⟩ | ⟨last, hasked, _⟩
    · rw [hasked]
      refine ⟨?_, rfl⟩
      rintro ⟨⟩
      cases hs
    · have hklast : Known library last := by
        have hsteps := (startAsked_steps library after scripts).known (hmoves.steps.known hk)
        rwa [hasked] at hsteps
      rw [hasked] at h
      simp only [answer, endIfAsked_ok hklast] at h
      cases h

/-- An advance that fails has passed a line, and halts the run that passed it. -/
theorem advance_error (hread : library.IsRead) {place : Place} {play : Play} {e : ScriptError}
    (hs : Sound library play.session) (h : (advance library place play).2 = .error e) :
    ∃ run after line out, play.session.active = some run ∧
      GoesOn play.session after.session out [(line, true)] ∧
        (advance library place play).1 = halt library after run.id := by
  cases htaken : lineTaken? library place play with
  | none =>
    obtain ⟨state, hok⟩ := advance_ok hs htaken
    cases hok.symm.trans h
  | some taken =>
    obtain ⟨next, run, line⟩ := taken
    obtain ⟨polled, hpoll, hrun, hfaces, rfl, hadvance⟩ := advance_takes htaken
    rw [hadvance] at h ⊢
    have hgone := (hpoll.goesOn hrun).trans (.pass hrun line true)
    have hk : Known library ⟨polled.session.pass run line true, polled.stage⟩ :=
      Known.of_subset hs.known (by rw [hgone.deferred]; exact List.Subset.refl _)
    obtain ⟨hfails, hhalt⟩ := takeLine_error place hk rfl rfl h
    obtain ⟨script, hscript, hline⟩ := hfaces.found
    obtain ⟨raw, hraw⟩ := (hread _ _ hscript).actions_eq (List.mem_of_getElem? hline)
    -- A line that ends scripts was read as nothing but that, and nothing of it can fail.
    have hends : ∀ script, .endEvent script ∉ line.actions := by
      intro script hend
      rw [hraw] at hend
      have hall := Action.parseList_of_end hend
      rw [← hraw] at hall
      exact hfails (performAll_of_ends place run.scope _ hall)
    have hpassed : (Play.mk (polled.session.pass run line true) polled.stage).session.active =
        some { run with pointer := run.pointer + 1 } := rfl
    obtain ⟨out, hacted⟩ := performAll_goesOn place run.scope hpassed hends
    obtain ⟨first, hfirst, _, _, _, hstill⟩ := (hpoll.goesOn hrun).run
    cases hrun.symm.trans hstill
    exact ⟨first, _, line, out, hfirst, hgone.trans hacted, hhalt⟩

/-- Waiting starts have been tried in turn, up to one that began or all of them. -/
structure Resumes (library : ScriptLibrary) (play next : Play) (tries : List Entry) : Prop where
  journal : next.session.journal = play.session.journal ++ tries
  tried : ∀ entry ∈ tries, entry.resumed?.isSome
  queue : play.session.deferred = tries.filterMap Entry.resumed? ++ next.session.deferred
  output : next.session.output = play.session.output ++ next.session.active.toList.map opening
  begun : ∀ now, next.session.active = some now → ∃ request script w,
    .begun request true now ∈ tries ∧ library.get? request.script = some script ∧
      now = newRun request script (play.session.lastRun + 1) w
  emptied : next.session.active = none → next.session.deferred = []
  timers : next.stage.timers = play.stage.timers

theorem beginWaiting_resumes {play : Play} {waiting : List PendingStart}
    (hknown : ∀ request ∈ waiting, library.contains request.script = true)
    (hidle : play.session.active = none) (hw : play.session.deferred = waiting) :
    ∃ tries, Resumes library play (beginWaiting library play waiting).1 tries := by
  induction waiting generalizing play with
  | nil =>
    rw [beginWaiting]
    refine ⟨[], (List.append_nil _).symm, fun _ he => absurd he List.not_mem_nil, rfl, ?_,
      fun now hnow => ?_, fun _ => hw, rfl⟩
    · rw [hidle]
      exact (List.append_nil _).symm
    · cases hidle.symm.trans hnow
  | cons request rest ih =>
    have hfirst := hknown request List.mem_cons_self
    obtain ⟨script, hscript⟩ := get?_of_contains hfirst
    rw [beginWaiting_cons play rest hfirst]
    rcases begin_cases ⟨{ play.session with deferred := rest }, play.stage⟩ true hscript with
      hbegun | hrefused
    · -- The start begins and is the last one tried.
      simp only [hbegun, startRun_active, reduceCtorEq, if_false]
      refine ⟨[.begun request true _], rfl, ?_, hw, rfl, ?_,
        fun hnone => absurd hnone (Option.some_ne_none _), rfl⟩
      · intro entry he
        rw [List.mem_singleton.mp he]
        rfl
      · rintro _ ⟨⟩
        exact ⟨request, script, _, List.mem_cons_self, hscript, rfl⟩
    · rw [hrefused]
      generalize hplay : (Play.mk _ _) = refused
      have hstill : refused.session.active = none := hplay ▸ hidle
      obtain ⟨tries, htries⟩ := ih
        (fun other ho => hknown other (List.mem_cons_of_mem _ ho)) hstill (hplay ▸ rfl)
      rw [if_pos hstill]
      subst hplay
      refine ⟨.refused request true :: tries, ?_, ?_, ?_, htries.output, ?_, htries.emptied,
        htries.timers⟩
      · rw [htries.journal]
        exact List.append_assoc _ _ _
      · intro entry he
        rcases List.mem_cons.mp he with rfl | he
        · rfl
        · exact htries.tried entry he
      · rw [hw]
        exact congrArg (request :: ·) htries.queue
      · intro now hnow
        obtain ⟨other, found, w, hbegun, hfound, hnow⟩ := htries.begun now hnow
        exact ⟨other, found, w, List.mem_cons_of_mem _ hbegun, hfound, hnow⟩

theorem finish_resumes {play : Play} (hk : Known library play) (reason : EndReason) :
    ∃ tries, Resumes library (teardown play reason) (finish library play reason).1 tries := by
  have hidle := teardown_active play reason
  simp only [finish, startDeferred, hidle, Option.isNone_none, if_true]
  exact beginWaiting_resumes ((teardown_moves library play reason).steps.known hk) hidle rfl

theorem Accounted.active_le_lastRun {s : Session} (h : Accounted s) {run : Run}
    (hrun : s.active = some run) : run.id ≤ s.lastRun := by
  refine h.bounded run.id ?_
  rw [h.ids, hrun]
  exact List.mem_append_right _ List.mem_cons_self

theorem playOut_accounted (library : ScriptLibrary) (stage : Stage) (turns : List Turn) :
    Accounted (playOut library ⟨.fresh, stage⟩ turns).session :=
  (playOut_keeps (P := fun play => Accounted play.session) (fun _ h => absurd h List.not_mem_nil)
    accounted_fresh Step.accounted (fun h => ⟨h.outputs, h.ids, h.increasing, h.bounded⟩)
    (fun _ h => h) turns).2

/-- A failure has ended one run, and all that came of it is what was waiting before. -/
structure Halts (library : ScriptLibrary) (run : Run) (play next : Play) : Prop where
  reported : ∃ out, next.session.output = play.session.output ++ out ∧
    out.filter Output.isLifecycle =
      .runEnded run.script run.owner .failed :: next.session.active.toList.map opening
  journal : ∃ line ended tries, ended.id = run.id ∧
    next.session.journal =
      play.session.journal ++ .passed line true :: .ended ended .failed :: tries ∧
    (∀ entry ∈ tries, entry.resumed?.isSome) ∧
    play.session.deferred = tries.filterMap Entry.resumed? ++ next.session.deferred
  begun : ∀ now, next.session.active = some now → run.id < now.id ∧
    ∃ request ∈ play.session.deferred, ∃ script w, library.get? request.script = some script ∧
      now = newRun request script now.id w
  emptied : next.session.active = none → next.session.deferred = []
  timers : ∀ name, Timers.inWaitScope run.timerScope name = true →
    next.stage.timers.get? name = none

/-- The end of a run after a failure, seen from before the line that failed. -/
theorem halt_halts {play after : Play} {run : Run} {line : ScriptLine} {out : List Output}
    (hk : Known library play) (hid : run.id ≤ play.session.lastRun)
    (hrun : play.session.active = some run)
    (hgone : GoesOn play.session after.session out [(line, true)]) :
    Halts library run play (halt library after run.id) := by
  obtain ⟨first, hfirst, pointer, gate, ending, hactive⟩ := hgone.run
  cases hrun.symm.trans hfirst
  have hkafter : Known library after :=
    hk.of_subset (by rw [hgone.deferred]; exact List.Subset.refl _)
  obtain ⟨tries, htries⟩ := finish_resumes hkafter .failed
  have hhalt : halt library after run.id = (finish library after .failed).1 := by
    simp only [halt, hactive, if_true]
  rw [hhalt]
  have houtput := htries.output
  have hjournal := htries.journal
  have hqueue := htries.queue
  rw [teardown_session .failed hactive] at houtput hjournal hqueue
  refine ⟨?_, ?_, fun now hnow => ?_, htries.emptied, fun name hname => ?_⟩
  · refine ⟨out ++ .runEnded run.script run.owner .failed ::
      (finish library after .failed).1.session.active.toList.map opening, ?_, ?_⟩
    · rw [houtput]
      simp only [Session.endRun, Session.emit, Session.note, hgone.output, List.append_assoc,
        List.singleton_append]
    · rw [List.filter_append, List.filter_eq_nil_iff.mpr fun o ho => by simp [hgone.quiet o ho]]
      cases (finish library after .failed).1.session.active <;> rfl
  · refine ⟨line, { run with pointer, gate, ending }, tries, rfl, ?_, htries.tried, ?_⟩
    · rw [hjournal, endRun_journal, hgone.journal]
      simp only [List.map_cons, List.map_nil, List.append_assoc, List.cons_append, List.nil_append]
    · rw [← hgone.deferred]
      exact hqueue
  · obtain ⟨request, script, w, hbegun, hscript, rfl⟩ := htries.begun now hnow
    have hlast : (teardown after .failed).session.lastRun = play.session.lastRun := by
      rw [teardown_session .failed hactive]
      exact hgone.lastRun
    refine ⟨?_, request, ?_, script, w, hscript, rfl⟩
    · change run.id < (teardown after .failed).session.lastRun + 1
      omega
    · rw [← hgone.deferred]
      refine hqueue ▸ List.mem_append_left _ ?_
      exact List.mem_filterMap.mpr ⟨_, hbegun, rfl⟩
  · rw [htries.timers]
    simp only [teardown, hactive]
    exact Timers.get?_cancelWaitScope after.stage.timers hname

/-- An advance that fails halts the run that was active before it and no other. The failure of that
run is the one end that it reports, none of its timers is left, the queue is tried in turn up to
the next run, and what the line had asked for is neither started nor left waiting. -/
theorem failed_advance_halts (hread : library.IsRead) (stage : Stage) (turns : List Turn)
    (place : Place) (e : ScriptError)
    (h : (advance library place (playOut library ⟨.fresh, stage⟩ turns)).2 = .error e) :
    let play := playOut library ⟨.fresh, stage⟩ turns
    ∃ run, play.session.active = some run ∧
      Halts library run play (advance library place play).1 := by
  intro play
  have hsound := playOut_sound library stage turns
  obtain ⟨run, after, line, out, hrun, hgone, hadvance⟩ := advance_error hread hsound h
  refine ⟨run, hrun, ?_⟩
  rw [hadvance]
  exact halt_halts hsound.known
    ((playOut_accounted library stage turns).active_le_lastRun hrun) hrun hgone

/-- The second line of the scene asks for a ghost that is not there, and for the chase once more.
What the first line asked for comes next: the ambush, for which it is too late, and the chase. -/
theorem scene_halts_at_ghost :
    let library : ScriptLibrary := .ofList
      [("ambush", .ofSource ["early"] none ["text=Hands up!"]),
        ("chase", .ofSource [] none ["text=After them!"]),
        ("scene", .ofSource [] none ["start_event=ambush&&chase", "start_event=chase&&ghost"])]
    let place : Place := ⟨.blank "wood" 8 8, 0⟩
    let turns : List Turn := [.request (.start ⟨"scene", none, .cutscene⟩),
      .request (.advance place),
      .timers (.ofList [("scene#1_wait_owl", ⟨0, 5⟩), ("scene#12_wait", ⟨0, 7⟩)])]
    let play := playOut library ⟨.fresh, ⟨.blank ∅, ∅⟩⟩ turns
    let next := (advance library place play).1
    (advance library place play).2 = .error (.missingScript "ghost") ∧
      (∃ run, play.session.active = some run ∧ Halts library run play next) ∧
      play.session.deferred = [⟨"ambush", none, .cutscene⟩, ⟨"chase", none, .cutscene⟩] ∧
      next.session.active.map (fun run => (run.script, run.id)) = some ("chase", 2) ∧
      next.session.deferred = [] ∧ next.stage.timers.keys = ["scene#12_wait"] := by
  intro library place turns play next
  have hread : ScriptLibrary.IsRead library := by
    refine ScriptLibrary.isRead_ofList fun e he => ?_
    simp only [List.mem_cons, List.not_mem_nil, or_false] at he
    rcases he with rfl | rfl | rfl <;> exact ⟨_, _, _, rfl⟩
  have hfails : (advance library place play).2 = .error (.missingScript "ghost") := by
    decide +kernel
  have hhalts := failed_advance_halts hread ⟨.blank ∅, ∅⟩ turns place _ hfails
  exact ⟨hfails, hhalts, by decide +kernel, by decide +kernel, by decide +kernel,
    by decide +kernel⟩

end Session

end StoryEngine

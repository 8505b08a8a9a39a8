import StoryEngine.Proofs.Script.Verbs
import StoryEngine.Proofs.Session.Integrity

/-! # Completed runs

A run ends as completed only when it is past its last line and waits for nothing. Until then nothing
takes its place: a script that is asked for meanwhile, by the game or by a line, waits in the queue.
-/

namespace StoryEngine.Session

set_option autoImplicit false

variable {library : ScriptLibrary}

theorem performAll_of_starts (place : Place) (scope : Scope) (play : Play) {actions : List Action}
    (h : ∀ action ∈ actions, action.isStart = true) :
    (performAll place scope play actions).1 = play := by
  induction actions with
  | nil => rfl
  | cons action rest ih =>
    have hkept : ∃ directive, Dispatch.perform place scope play.stage action =
        (play.stage, .ok directive) ∧ (play.session.apply directive).1 = play.session := by
      have hstart := h action List.mem_cons_self
      unfold Action.isStart at hstart
      split at hstart
      · exact ⟨_, rfl, by cases hrun : play.session.active <;> simp [apply, hrun]⟩
      · exact ⟨_, rfl, by cases hrun : play.session.active <;> simp [apply, hrun]⟩
      · cases hstart
    obtain ⟨directive, hdone, happly⟩ := hkept
    rw [performAll, hdone]
    simp only [happly]
    exact ih fun other ho => h other (List.mem_cons_of_mem _ ho)

/-- A line that was read and asks for a script does nothing besides. -/
theorem performAll_of_asked (hread : library.IsRead) {place : Place} {scope : Scope}
    {run : Run} {line : ScriptLine} {play after : Play} {scripts : List String} {script : String}
    (hfaces : Faces library run line)
    (h : performAll place scope play line.actions = (after, .ok scripts))
    (hs : script ∈ scripts) : after = play := by
  obtain ⟨found, hfound, hline⟩ := hfaces.found
  obtain ⟨raw, hraw⟩ :=
    (hread run.script found hfound).actions_eq (List.mem_of_getElem? hline)
  have hasked := performAll_asked h script hs
  rw [hraw] at h hasked
  rw [← performAll_of_starts place scope play (Action.parseList_of_start hasked), h]

/-- The moments at which a request makes the session start a script: the game asks for it, or a
line does, after whatever other scripts it asks for before this one. -/
inductive Asked (library : ScriptLibrary) (play : Play) : Op → Play → PendingStart → Prop where
  | game (request : PendingStart) : Asked library play (.start request) play request
  | line {place : Place} {next after mid : Play} {run now : Run} {line : ScriptLine}
      {script : String} {earlier later : List String}
      (htaken : lineTaken? library place play = some (next, run, line))
      (hdone : performAll place run.scope next line.actions =
        (after, .ok (earlier ++ script :: later)))
      (hknown : ∀ other ∈ earlier ++ script :: later, library.contains other = true)
      (hnow : after.session.active = some now)
      (hearlier : startAll library after now.master now.owner earlier = (mid, .ok ())) :
      Asked library play (.advance place) mid ⟨script, now.master, now.owner⟩

theorem startAll_append {play mid : Play} {master : Option Handle} {owner : Owner}
    {earlier : List String} (later : List String)
    (h : startAll library play master owner earlier = (mid, .ok ())) :
    startAll library play master owner (earlier ++ later) =
      startAll library mid master owner later := by
  induction earlier generalizing play with
  | nil =>
    cases h
    rfl
  | cons script rest ih =>
    rw [List.cons_append, startAll]
    rw [startAll] at h
    generalize start library play ⟨script, master, owner⟩ = started at *
    obtain ⟨next, result⟩ := started
    cases result with
    | error e => cases h
    | ok outcome => exact ih h

/-- From such a moment a line goes on with the script and those after it. -/
theorem startAsked_eq {after mid : Play} {now : Run} {script : String} {earlier later : List String}
    (hknown : ∀ other ∈ earlier ++ script :: later, library.contains other = true)
    (hnow : after.session.active = some now)
    (hearlier : startAll library after now.master now.owner earlier = (mid, .ok ())) :
    startAsked library after (earlier ++ script :: later) =
      startAll library mid now.master now.owner (script :: later) := by
  simp only [startAsked, find?_unknown_eq_none_iff.mpr hknown, hnow]
  exact startAll_append (script :: later) hearlier

def Busy (s : Session) : Prop :=
  ∃ run, s.active = some run ∧ (run.pointer < run.lineCount ∨ run.gate ≠ .opened)

/-- The start waits, and nothing else changes. -/
structure Waits (play : Play) (request : PendingStart)
    (result : Play × Except ScriptError StartOutcome) : Prop where
  outcome : result.2 = .ok .deferred
  queue : result.1.session.deferred = play.session.deferred ++ [request]
  active : result.1.session.active = play.session.active
  output : result.1.session.output = play.session.output
  stage : result.1.stage = play.stage

theorem start_waits {play : Play} {request : PendingStart} (hs : Settled play.session)
    (hbusy : Busy play.session) (hknown : library.contains request.script = true) :
    Waits play request (start library play request) := by
  obtain ⟨run, hrun, hleft⟩ := hbusy
  have hlines : run.hasLinesLeft = true := by
    simp only [Run.hasLinesLeft, hs run hrun, Option.isNone_none, Bool.true_and, Bool.or_eq_true,
      decide_eq_true_eq, bne_iff_ne]
    exact hleft
  simp only [start, if_pos hknown, hrun, if_pos hlines]
  exact ⟨rfl, rfl, rfl, rfl, rfl⟩

theorem Asked.settled (hread : library.IsRead) {play mid : Play} {op : Op}
    {request : PendingStart} (h : Asked library play op mid request)
    (hs : Settled play.session) : Settled mid.session := by
  cases h with
  | game => exact hs
  | line htaken hdone hknown hnow hearlier =>
    -- The line was read, so asking is all it does: its run is as it was when the line was taken.
    obtain ⟨polled, _, hrun, hfaces, rfl, _⟩ := advance_takes htaken
    obtain rfl :=
      performAll_of_asked hread hfaces hdone (List.mem_append_right _ List.mem_cons_self)
    obtain rfl : _ = mid := congrArg Prod.fst hearlier
    exact (startAll_beats library _ _ _ _).keeps Beat.settled (hfaces.settled _ _)

/-- What a request puts out, be it drained at once or still to come, and what it adds to the
journal. -/
structure Adds (library : ScriptLibrary) (play : Play) (op : Op) (out : List Output)
    (entries : List Entry) : Prop where
  output : (perform library play op).2.output ++ (perform library play op).1.session.output =
    play.session.output ++ out
  journal : (perform library play op).1.session.journal = play.session.journal ++ entries

theorem perform_adds {play : Play} (hk : Known library play) (op : Op) :
    ∃ out entries, Adds library play op out entries ∧
      out.filter Output.isLifecycle = entries.filterMap Entry.output? := by
  by_cases hop : op = .drain
  · subst hop
    exact ⟨[], [], ⟨rfl, (List.append_nil _).symm⟩, rfl⟩
  · have hsilent : (perform library play op).2.output = [] := by
      cases op with
      | drain => exact absurd rfl hop
      | _ => rfl
    obtain ⟨out, entries, hout, hjournal, hsame⟩ := (perform_steps hk hop).reports
    exact ⟨out, entries, ⟨hsilent ▸ hout, hjournal⟩, hsame⟩

/-- A run is reported as completed only when it is past its last line with its gate open. A known
script that is asked for before waits for the run, and nothing else changes. -/
theorem completed_only_at_end (hread : library.IsRead) (stage : Stage) (turns : List Turn) :
    let play := playOut library ⟨.fresh, stage⟩ turns
    (∀ op, ∃ out entries, Adds library play op out entries ∧
      out.filter Output.isLifecycle = entries.filterMap Entry.output? ∧
      ∀ run, .ended run .completed ∈ entries → run.IsDone library) ∧
    ∀ op mid request, Asked library play op mid request → Busy mid.session →
      library.contains request.script = true → Waits mid request (start library mid request) := by
  intro play
  refine ⟨fun op => ?_, fun op mid request hasked hbusy hknown => ?_⟩
  · obtain ⟨out, entries, hadds, hsame⟩ := perform_adds (playOut_sound library stage turns).known op
    refine ⟨out, entries, hadds, hsame, fun run hrun => ?_⟩
    have hsound := playOut_sound library stage (turns ++ [.request op])
    rw [playOut_append] at hsound
    refine hsound.completed run ?_
    change _ ∈ (perform library play op).1.session.journal
    rw [hadds.journal]
    exact List.mem_append_right _ hrun
  · exact start_waits (hasked.settled hread (playOut_settled library stage turns)) hbusy hknown

/-- The alarm waits for the watch, whether the game raises it or the watch does, until the watch has
passed its last line. -/
theorem alarm_waits_for_watch :
    let library : ScriptLibrary := .ofList
      [("watch", .ofSource [] none ["wait=5", "start_event=alarm", "set_flag=seen"]),
        ("alarm", .ofSource [] none [])]
    let place : Nat → Place := fun now => ⟨.blank "gate" 8 8, now⟩
    let alarm : PendingStart := ⟨"alarm", none, .map⟩
    let turns : List Turn :=
      [.request (.start ⟨"watch", none, .map⟩), .request (.advance (place 0))]
    let more : List Turn := [.request (.advance (place 5)), .request (.advance (place 6))]
    let paused := playOut library ⟨.fresh, ⟨.blank ∅, ∅⟩⟩ turns
    let passed := playOut library ⟨.fresh, ⟨.blank ∅, ∅⟩⟩ (turns ++ more)
    Waits paused alarm (start library paused alarm) ∧
      (∃ mid, Asked library paused (.advance (place 5)) mid alarm ∧
        Waits mid alarm (start library mid alarm)) ∧
      ∃ watch, .ended watch .completed ∈
          (perform library passed (.advance (place 7))).1.session.journal ∧
        watch.IsDone library := by
  intro library place alarm turns more paused passed
  have hread : ScriptLibrary.IsRead library := by
    refine ScriptLibrary.isRead_ofList fun e he => ?_
    rcases List.mem_cons.mp he with rfl | he
    · exact ⟨_, _, _, rfl⟩
    · exact List.mem_singleton.mp he ▸ ⟨_, _, _, rfl⟩
  have hgate : paused.session.active.map Run.gate = some (.pause "watch#1_wait") := by
    decide +kernel
  have hline : (lineTaken? library (place 5) paused).isSome = true := by decide +kernel
  have hdone : ∀ taken ∈ lineTaken? library (place 5) paused,
      performAll (place 5) taken.2.1.scope taken.1 taken.2.2.actions =
        (taken.1, .ok ([] ++ "alarm" :: [])) := by
    decide +kernel
  have hwatch : ∀ taken ∈ lineTaken? library (place 5) paused,
      ∃ watch ∈ taken.1.session.active, watch.master = none ∧ watch.owner = .map ∧
        watch.pointer < watch.lineCount := by
    decide +kernel
  have hended : .completed ∈ ((perform library passed (.advance (place 7))).1.session.journal.drop
      passed.session.journal.length).filterMap (fun entry => entry.ended?.map Prod.snd) := by
    decide +kernel
  obtain ⟨run, hrun, hgate⟩ := Option.map_eq_some_iff.mp hgate
  obtain ⟨⟨next, taker, line⟩, htaken⟩ := Option.isSome_iff_exists.mp hline
  obtain ⟨watch, hactive, hmaster, howner, hleft⟩ := hwatch _ htaken
  have hasked : Asked library paused (.advance (place 5)) next alarm := by
    have h := Asked.line htaken (hdone _ htaken) (by decide +kernel) hactive rfl
    rwa [hmaster, howner] at h
  obtain ⟨-, hwaits⟩ := completed_only_at_end hread ⟨.blank ∅, ∅⟩ turns
  refine ⟨?_, ⟨next, hasked, ?_⟩, ?_⟩
  · exact hwaits _ paused alarm (.game alarm) ⟨run, hrun, .inr (hgate ▸ nofun)⟩ (by decide +kernel)
  · exact hwaits _ next alarm hasked ⟨watch, hactive, .inl hleft⟩ (by decide +kernel)
  · obtain ⟨out, entries, hadds, -, hcompleted⟩ :=
      (completed_only_at_end hread ⟨.blank ∅, ∅⟩ (turns ++ more)).1 (.advance (place 7))
    have hadds : Adds library passed (.advance (place 7)) out entries := hadds
    clear_value passed
    rw [hadds.journal, List.drop_left] at hended
    obtain ⟨entry, hentry, hreason⟩ := List.mem_filterMap.mp hended
    obtain ⟨⟨watch, _⟩, hended, rfl⟩ := Option.map_eq_some_iff.mp hreason
    obtain rfl := Entry.eq_ended hended
    refine ⟨watch, ?_, hcompleted watch hentry⟩
    rw [hadds.journal]
    exact List.mem_append_right _ hentry

end StoryEngine.Session

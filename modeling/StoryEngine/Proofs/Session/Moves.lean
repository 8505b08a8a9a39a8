import Mathlib.Logic.Relation
import StoryEngine.Session.Operations

/-! # The small steps of a session

Every request but that for the output is a chain of small steps, and what holds of every session is
proved of one step at a time. A start that is tried at once is a step of its own. All other steps
are moves: they make nothing begin that was not next in the queue.
-/

namespace StoryEngine

set_option autoImplicit false

open Relation (ReflTransGen)

/-- Whether an output tells that a run began or ended. -/
def Output.isLifecycle : Output → Bool
  | .runStarted _ _ | .runEnded _ _ _ => true
  | _ => false

namespace Session

/-- Every waiting start is for a script of the library. -/
def Known (library : ScriptLibrary) (play : Play) : Prop :=
  ∀ request ∈ play.session.deferred, library.contains request.script = true

/-- A run is active still, though it may have moved on. -/
def StillActive (run : Run) (s : Session) : Prop :=
  ∃ pointer gate ending, s.active = some { run with pointer, gate, ending }

/-- The active run goes on as the same run, showing things and passing lines on its way. -/
structure GoesOn (s t : Session) (out : List Output) (lines : List (ScriptLine × Bool)) :
    Prop where
  run : ∃ run, s.active = some run ∧ StillActive run t
  deferred : t.deferred = s.deferred
  lastRun : t.lastRun = s.lastRun
  output : t.output = s.output ++ out
  quiet : ∀ o ∈ out, o.isLifecycle = false
  journal : t.journal = s.journal ++ lines.map fun line => .passed line.1 line.2

inductive Move (library : ScriptLibrary) : Play → Play → Prop where
  | work {play : Play} {t : Session} {out : List Output} {lines : List (ScriptLine × Bool)}
      (timers : Timers) (h : GoesOn play.session t out lines) :
      Move library play ⟨t, ⟨play.stage.world, timers⟩⟩
  | act {play : Play} {run : Run} (place : Place) (action : Action)
      (hrun : play.session.active = some run) :
      Move library play ⟨play.session, (Dispatch.perform place run.scope play.stage action).1⟩
  | withdraw {play : Play} {run : Run} {script : String}
      (hrun : play.session.active = some run) (hother : script ≠ run.script) :
      Move library play ⟨play.session.withdraw script, play.stage⟩
  | defer {play : Play} {run : Run} {request : PendingStart}
      (hknown : library.contains request.script = true)
      (hrun : play.session.active = some run) (hleft : run.hasLinesLeft = true) :
      Move library play ⟨play.session.defer request, play.stage⟩
  | finish {play : Play} {run : Run} (reason : EndReason)
      (hrun : play.session.active = some run) : Move library play (teardown play reason)
  | resume {play : Play} {request : PendingStart} {rest : List PendingStart}
      (hknown : library.contains request.script = true) (hidle : play.session.active = none)
      (hnext : play.session.deferred = request :: rest) :
      Move library play
        (begin library ⟨{ play.session with deferred := rest }, play.stage⟩ request true).1
  | drop {play : Play} (hidle : play.session.active = none) :
      Move library play ⟨play.session.dropWaiting, play.stage⟩

inductive Step (library : ScriptLibrary) : Play → Play → Prop where
  | move {play next : Play} (h : Move library play next) : Step library play next
  | tryNow {play : Play} {request : PendingStart}
      (hknown : library.contains request.script = true) (hidle : play.session.active = none) :
      Step library play (begin library play request false).1

abbrev Moves (library : ScriptLibrary) : Play → Play → Prop := ReflTransGen (Move library)

abbrev Steps (library : ScriptLibrary) : Play → Play → Prop := ReflTransGen (Step library)

theorem Moves.steps {library : ScriptLibrary} {play next : Play} (h : Moves library play next) :
    Steps library play next :=
  ReflTransGen.mono (fun _ _ => Step.move) _ _ h

theorem Steps.keeps {library : ScriptLibrary} {P : Play → Prop} {play next : Play}
    (h : Steps library play next)
    (hstep : ∀ {play next : Play}, Step library play next → P play → P next) (hp : P play) :
    P next := by
  induction h with
  | refl => exact hp
  | tail _ h ih => exact hstep h ih

theorem state_eq_idle_iff (s : Session) : s.state = .idle ↔ s.active = none := by
  unfold state
  cases s.active with
  | none => exact iff_of_true rfl rfl
  | some run =>
    obtain ⟨_, _, _, _, _, _, _, gate, _⟩ := run
    cases gate <;> exact iff_of_false nofun nofun

/-- The session after the start conditions of a script have been evaluated. -/
inductive Tried (s : Session) (request : PendingStart) (waited : Bool) : Session → Prop where
  | begun (run : Run) (hid : run.id = s.lastRun + 1) (hending : run.ending = none) :
      Tried s request waited (s.startRun request waited run)
  | refused : Tried s request waited (s.note (.refused request waited))

theorem get?_of_contains {library : ScriptLibrary} {script : String}
    (h : library.contains script = true) : ∃ found, library.get? script = some found :=
  Option.isSome_iff_exists.mp h

theorem begin_of_known {library : ScriptLibrary} (play : Play) {request : PendingStart}
    (waited : Bool) (h : library.contains request.script = true) :
    Tried play.session request waited (begin library play request waited).1.session ∧
      ∃ outcome, (begin library play request waited).2 = .ok outcome := by
  obtain ⟨script, hscript⟩ := get?_of_contains h
  simp only [begin, hscript]
  split
  · exact ⟨.begun _ rfl rfl, _, rfl⟩
  · exact ⟨.refused, _, rfl⟩

/-- What a try leaves, with the trigger of the script consumed either way. -/
theorem begin_cases {library : ScriptLibrary} (play : Play) {request : PendingStart}
    {script : Script} (waited : Bool) (hscript : library.get? request.script = some script) :
    let world := consumeTrigger script request.master play.stage.world
    let run := newRun request script (play.session.lastRun + 1) world
    begin library play request waited =
        (⟨play.session.startRun request waited run, ⟨world, play.stage.timers⟩⟩, .ok .started) ∨
      begin library play request waited =
        (⟨play.session.note (.refused request waited), ⟨world, play.stage.timers⟩⟩,
          .ok .conditionsFailed) := by
  simp only [begin, hscript]
  split
  · exact .inl rfl
  · exact .inr rfl

/-- The first waiting start is tried, and the rest only if it does not begin. -/
theorem beginWaiting_cons {library : ScriptLibrary} (play : Play) {request : PendingStart}
    (rest : List PendingStart) (h : library.contains request.script = true) :
    let tried := (begin library ⟨{ play.session with deferred := rest }, play.stage⟩ request true).1
    beginWaiting library play (request :: rest) =
      if tried.session.active = none then beginWaiting library tried rest else (tried, .ok ()) := by
  obtain ⟨outcome, hok⟩ :=
    (begin_of_known ⟨{ play.session with deferred := rest }, play.stage⟩ true h).2
  rw [beginWaiting]
  generalize begin library ⟨{ play.session with deferred := rest }, play.stage⟩ request true =
    tried at *
  obtain ⟨next, result⟩ := tried
  cases hok
  simp only [Option.isNone_iff_eq_none]

theorem teardown_session {play : Play} {run : Run} (reason : EndReason)
    (h : play.session.active = some run) :
    (teardown play reason).session = play.session.endRun run reason := by
  simp only [teardown, h]

theorem teardown_of_idle {play : Play} (reason : EndReason) (h : play.session.active = none) :
    teardown play reason = play := by
  simp only [teardown, h]

theorem Known.of_subset {library : ScriptLibrary} {play next : Play} (h : Known library play)
    (hsub : next.session.deferred ⊆ play.session.deferred) : Known library next :=
  fun request hr => h request (hsub hr)

theorem Tried.deferred {s t : Session} {request : PendingStart} {waited : Bool}
    (h : Tried s request waited t) : t.deferred = s.deferred := by
  cases h <;> rfl

theorem Move.known {library : ScriptLibrary} {play next : Play} (h : Move library play next)
    (hk : Known library play) : Known library next := by
  cases h with
  | work timers h => exact hk.of_subset (by rw [h.deferred]; exact List.Subset.refl _)
  | act place action hrun => exact hk.of_subset (List.Subset.refl _)
  | withdraw hrun hother => exact hk.of_subset (List.filter_sublist).subset
  | defer hknown hrun hleft =>
    intro request hr
    rcases List.mem_append.mp hr with hr | hr
    · exact hk request hr
    · rw [List.mem_singleton.mp hr]
      exact hknown
  | finish reason hrun =>
    exact hk.of_subset (by rw [teardown_session reason hrun]; exact List.Subset.refl _)
  | resume hknown hidle hnext =>
    refine hk.of_subset ?_
    rw [(begin_of_known _ true hknown).1.deferred, hnext]
    exact List.subset_cons_self _ _
  | drop hidle => exact hk.of_subset (List.nil_subset _)

theorem Step.known {library : ScriptLibrary} {play next : Play} (h : Step library play next)
    (hk : Known library play) : Known library next := by
  cases h with
  | move h => exact h.known hk
  | tryNow hknown hidle =>
    exact hk.of_subset
      (by rw [(begin_of_known _ false hknown).1.deferred]; exact List.Subset.refl _)

theorem Steps.known {library : ScriptLibrary} {play next : Play} (h : Steps library play next)
    (hk : Known library play) : Known library next :=
  h.keeps Step.known hk

theorem teardown_moves (library : ScriptLibrary) (play : Play) (reason : EndReason) :
    Moves library play (teardown play reason) := by
  cases h : play.session.active with
  | none => rw [teardown_of_idle reason h]
  | some run => exact .single (.finish reason h)

theorem teardown_active (play : Play) (reason : EndReason) :
    (teardown play reason).session.active = none := by
  cases h : play.session.active with
  | none => rw [teardown_of_idle reason h, h]
  | some run => rw [teardown_session reason h]; rfl

/-- Waiting starts are tried in order until one begins or none is left. -/
theorem beginWaiting_moves {library : ScriptLibrary} {play : Play} {waiting : List PendingStart}
    (hk : Known library play) (hidle : play.session.active = none)
    (hw : play.session.deferred = waiting) :
    Moves library play (beginWaiting library play waiting).1 ∧
      ((beginWaiting library play waiting).1.session.active = none →
        (beginWaiting library play waiting).1.session.deferred = []) := by
  induction waiting generalizing play with
  | nil => exact ⟨.refl, fun _ => hw⟩
  | cons request rest ih =>
    have hknown : library.contains request.script = true :=
      hk request (by rw [hw]; exact List.mem_cons_self)
    have hmove := Move.resume hknown hidle hw
    have htried :=
      (begin_of_known ⟨{ play.session with deferred := rest }, play.stage⟩ true hknown).1
    rw [beginWaiting_cons play rest hknown]
    generalize (begin library ⟨{ play.session with deferred := rest }, play.stage⟩ request
      true).1 = next at *
    by_cases hnext : next.session.active = none
    · obtain ⟨hmoves, hempty⟩ := ih (hmove.known hk) hnext htried.deferred
      rw [if_pos hnext]
      exact ⟨.head hmove hmoves, hempty⟩
    · rw [if_neg hnext]
      exact ⟨.single hmove, fun h => absurd h hnext⟩

theorem finish_moves {library : ScriptLibrary} {play : Play} (reason : EndReason)
    (hk : Known library play) :
    Moves library play (finish library play reason).1 ∧
      ((finish library play reason).1.session.active = none →
        (finish library play reason).1.session.deferred = []) := by
  have hdown := teardown_moves library play reason
  have hidle := teardown_active play reason
  have hwaiting := beginWaiting_moves (hdown.steps.known hk) hidle rfl
  simp only [finish, startDeferred, hidle, Option.isNone_none, if_true]
  exact ⟨hdown.trans hwaiting.1, hwaiting.2⟩

theorem halt_moves {library : ScriptLibrary} {play : Play} (id : Nat) (hk : Known library play) :
    Moves library play (halt library play id) := by
  unfold halt
  split
  · split
    · exact (finish_moves .failed hk).1
    · exact .refl
  · exact .refl

theorem endIfAsked_moves {library : ScriptLibrary} {play : Play} (id : Nat)
    (hk : Known library play) : Moves library play (endIfAsked library play id).1 := by
  unfold endIfAsked
  split
  · split
    · split
      · exact (finish_moves _ hk).1
      · exact .refl
    · exact .refl
  · exact .refl

theorem StillActive.trans {run next : Run} {s t : Session} (h : StillActive run s)
    (hs : s.active = some next) (ht : StillActive next t) : StillActive run t := by
  obtain ⟨_, _, _, h⟩ := h
  obtain ⟨pointer, gate, ending, ht⟩ := ht
  cases hs.symm.trans h
  exact ⟨pointer, gate, ending, ht⟩

theorem GoesOn.of_active {s : Session} {run : Run} (hrun : s.active = some run) (pointer : Nat)
    (gate : Gate) (ending : Option EndReason) :
    GoesOn s { s with active := some { run with pointer, gate, ending } } [] [] where
  run := ⟨run, hrun, pointer, gate, ending, rfl⟩
  deferred := rfl
  lastRun := rfl
  output := (List.append_nil _).symm
  quiet := fun _ ho => absurd ho List.not_mem_nil
  journal := (List.append_nil _).symm

theorem GoesOn.refl {s : Session} {run : Run} (hrun : s.active = some run) :
    GoesOn s s [] [] := by
  have h := GoesOn.of_active hrun run.pointer run.gate run.ending
  rwa [← hrun] at h

theorem GoesOn.trans {s t u : Session} {out more : List Output}
    {lines others : List (ScriptLine × Bool)} (h : GoesOn s t out lines)
    (h' : GoesOn t u more others) : GoesOn s u (out ++ more) (lines ++ others) := by
  obtain ⟨run, hrun, hstill⟩ := h.run
  obtain ⟨next, hnext, hstill'⟩ := h'.run
  refine ⟨⟨run, hrun, hstill.trans hnext hstill'⟩, ?_, ?_, ?_, ?_, ?_⟩
  · rw [h'.deferred, h.deferred]
  · rw [h'.lastRun, h.lastRun]
  · rw [h'.output, h.output, List.append_assoc]
  · intro o ho
    rcases List.mem_append.mp ho with ho | ho
    · exact h.quiet o ho
    · exact h'.quiet o ho
  · rw [h'.journal, h.journal, List.append_assoc, ← List.map_append]

theorem GoesOn.emit {s t : Session} {lines : List (ScriptLine × Bool)} {o : Output}
    (h : GoesOn s t [] lines) (ho : o.isLifecycle = false) : GoesOn s (t.emit o) [o] lines where
  run := h.run
  deferred := h.deferred
  lastRun := h.lastRun
  output := by simp only [Session.emit, h.output, List.append_nil]
  quiet := fun _ hm => List.mem_singleton.mp hm ▸ ho
  journal := h.journal

theorem GoesOn.pass {s : Session} {run : Run} (hrun : s.active = some run) (line : ScriptLine)
    (held : Bool) : GoesOn s (s.pass run line held) [] [(line, held)] where
  run := ⟨run, hrun, run.pointer + 1, run.gate, run.ending, rfl⟩
  deferred := rfl
  lastRun := rfl
  output := (List.append_nil _).symm
  quiet := fun _ ho => absurd ho List.not_mem_nil
  journal := rfl

/-- A directive moves the active run on, or takes the starts of another script out of the queue. -/
theorem apply_cases {s : Session} {run : Run} (hrun : s.active = some run)
    (directive : Directive) :
    (∃ out, GoesOn s (s.apply directive).1 out []) ∨
      ∃ script, directive = .endScript script ∧ script ≠ run.script ∧
        (s.apply directive).1 = s.withdraw script := by
  unfold apply
  rw [hrun]
  have hstill := GoesOn.refl hrun
  have hgate := fun gate => GoesOn.of_active hrun run.pointer gate run.ending
  cases directive with
  | proceed => exact .inl ⟨_, hstill⟩
  | «show» line => exact .inl ⟨_, hstill.emit rfl⟩
  | awaitInput line skip =>
    cases skip with
    | none => exact .inl ⟨_, (hgate (.input none)).emit rfl⟩
    | some skip => exact .inl ⟨_, (hgate (.input (some skip))).emit rfl⟩
  | pause timer => exact .inl ⟨_, hgate (.pause timer)⟩
  | walkers handles => exact .inl ⟨_, hgate (joinWalkers run.gate handles)⟩
  | jump back lines =>
    cases back with
    | true => exact .inl ⟨_, .of_active hrun (run.rewind lines).pointer run.gate run.ending⟩
    | false => exact .inl ⟨_, .of_active hrun (run.skip lines).pointer run.gate run.ending⟩
  | startScript script => exact .inl ⟨_, hstill⟩
  | endScript script =>
    by_cases hown : script = run.script
    · simp only [endScript, if_pos hown]
      exact .inl ⟨_, .of_active hrun run.pointer run.gate (some .endEvent)⟩
    · simp only [endScript, if_neg hown]
      exact .inr ⟨script, rfl, hown, rfl⟩
  | forceEnd => exact .inl ⟨_, .of_active hrun run.pointer run.gate (some .forceEnd)⟩
  | transition target => exact .inl ⟨_, hstill.emit rfl⟩

theorem apply_move (library : ScriptLibrary) (play : Play) {run : Run}
    (hrun : play.session.active = some run) (directive : Directive) :
    Move library play ⟨(play.session.apply directive).1, play.stage⟩ ∧
      StillActive run (play.session.apply directive).1 := by
  rcases apply_cases hrun directive with ⟨out, h⟩ | ⟨script, _, hother, h⟩
  · obtain ⟨_, hactive, hstill⟩ := h.run
    cases hrun.symm.trans hactive
    exact ⟨.work play.stage.timers h, hstill⟩
  · rw [h]
    exact ⟨.withdraw hrun hother, run.pointer, run.gate, run.ending, hrun⟩

theorem performAll_moves (library : ScriptLibrary) (place : Place) {play : Play} {run : Run}
    {scope : Scope} (hrun : play.session.active = some run) (hscope : run.scope = scope)
    (actions : List Action) :
    Moves library play (performAll place scope play actions).1 ∧
      StillActive run (performAll place scope play actions).1.session := by
  induction actions generalizing play run with
  | nil => exact ⟨.refl, run.pointer, run.gate, run.ending, hrun⟩
  | cons action rest ih =>
    have hact : Move library play
        ⟨play.session, (Dispatch.perform place run.scope play.stage action).1⟩ :=
      .act place action hrun
    rw [hscope] at hact
    rw [performAll]
    generalize Dispatch.perform place scope play.stage action = done at *
    obtain ⟨stage, result⟩ := done
    cases result with
    | error e => exact ⟨.single hact, run.pointer, run.gate, run.ending, hrun⟩
    | ok directive =>
      obtain ⟨happly, hstill⟩ := apply_move library ⟨play.session, stage⟩ hrun directive
      obtain ⟨pointer, gate, ending, hnext⟩ := hstill
      obtain ⟨hmoves, hrest⟩ := @ih ⟨_, stage⟩ _ hnext hscope
      exact ⟨.head hact (.head happly hmoves),
        .trans ⟨pointer, gate, ending, hnext⟩ hnext hrest⟩

/-- A start of a known script waits for a run with lines left, and is tried at once if there is
none. -/
theorem start_cases {library : ScriptLibrary} (play : Play) (request : PendingStart)
    (hknown : library.contains request.script = true) :
    (∃ run, play.session.active = some run ∧ run.hasLinesLeft = true ∧
      start library play request = (⟨play.session.defer request, play.stage⟩, .ok .deferred)) ∨
    ((∀ run, play.session.active = some run → run.hasLinesLeft = false) ∧
      ∃ ended, Moves library play ended ∧ ended.session.active = none ∧
        ended.session.deferred = play.session.deferred ∧
        start library play request = begin library ended request false) := by
  unfold start
  rw [if_pos hknown]
  cases hrun : play.session.active with
  | none => exact .inr ⟨nofun, play, .refl, hrun, rfl, rfl⟩
  | some run =>
    cases hleft : run.hasLinesLeft with
    | true => exact .inl ⟨run, rfl, hleft, if_pos hleft⟩
    | false =>
      refine .inr ⟨?_, teardown play (run.ending.getD .completed), teardown_moves library play _,
        teardown_active play _, ?_, ?_⟩
      · rintro _ ⟨⟩
        exact hleft
      · rw [teardown_session _ hrun]
        rfl
      · simp [hleft]

theorem start_steps (library : ScriptLibrary) (play : Play) (request : PendingStart) :
    Steps library play (start library play request).1 := by
  by_cases hknown : library.contains request.script = true
  · rcases start_cases play request hknown with
      ⟨run, hrun, hleft, h⟩ | ⟨_, ended, hmoves, hidle, _, h⟩
    · rw [h]
      exact .single (.move (.defer hknown hrun hleft))
    · rw [h]
      exact hmoves.steps.tail (.tryNow hknown hidle)
  · rw [start, if_neg hknown]

theorem startAll_steps (library : ScriptLibrary) (play : Play) (master : Option Handle)
    (owner : Owner) (scripts : List String) :
    Steps library play (startAll library play master owner scripts).1 := by
  induction scripts generalizing play with
  | nil => exact .refl
  | cons script rest ih =>
    have hstart := start_steps library play ⟨script, master, owner⟩
    rw [startAll]
    generalize start library play ⟨script, master, owner⟩ = started at *
    obtain ⟨next, result⟩ := started
    cases result with
    | error e => exact hstart
    | ok outcome => exact hstart.trans (ih next)

theorem find?_unknown_eq_none_iff {library : ScriptLibrary} {scripts : List String} :
    (scripts.find? fun script => !library.contains script) = none ↔
      ∀ script ∈ scripts, library.contains script = true := by
  rw [List.find?_eq_none]
  exact forall₂_congr fun _ _ => by rw [Bool.not_eq_true', Bool.not_eq_false]

theorem startAsked_steps (library : ScriptLibrary) (play : Play) (scripts : List String) :
    Steps library play (startAsked library play scripts).1 := by
  unfold startAsked
  split
  · exact .refl
  · split
    · exact startAll_steps library play _ _ scripts
    · exact startAll_steps library play _ _ scripts

theorem takeLine_steps {library : ScriptLibrary} (place : Place) {play : Play} {run next : Run}
    (hk : Known library play) (hnext : play.session.active = some next)
    (hscope : next.scope = run.scope) (line : ScriptLine) :
    Steps library play (takeLine library place play run line).1 := by
  have hline := (performAll_moves library place hnext hscope line.actions).1.steps
  unfold takeLine
  generalize performAll place run.scope play line.actions = taken at *
  obtain ⟨after, result⟩ := taken
  have hkafter := hline.known hk
  cases result with
  | error e => exact hline.trans (halt_moves run.id hkafter).steps
  | ok scripts =>
    have hasked := startAsked_steps library after scripts
    simp only
    generalize startAsked library after scripts = asked at *
    obtain ⟨last, result⟩ := asked
    have hklast := hasked.known hkafter
    cases result with
    | error e => exact hline.trans (hasked.trans (halt_moves run.id hklast).steps)
    | ok _ => exact hline.trans (hasked.trans (endIfAsked_moves run.id hklast).steps)

theorem proceed_of_end {library : ScriptLibrary} (place : Place) (play : Play) {run : Run}
    {script : Script} (hending : run.ending = none)
    (hscript : library.get? run.script = some script) (hline : script.lines[run.pointer]? = none) :
    proceed library place play run = answer (finish library play .completed) := by
  simp only [proceed, hending, hscript, hline]

theorem proceed_of_line {library : ScriptLibrary} (place : Place) (play : Play) {run : Run}
    {script : Script} {line : ScriptLine} (hending : run.ending = none)
    (hscript : library.get? run.script = some script)
    (hline : script.lines[run.pointer]? = some line) :
    proceed library place play run =
      let held := Condition.allHold line.conditions play.stage.world run.master
      let next : Play := ⟨play.session.pass run line held, play.stage⟩
      if held then takeLine library place next run line else (next, .ok next.session.state) := by
  simp only [proceed, hending, hscript, hline]

theorem proceed_steps {library : ScriptLibrary} (place : Place) {play : Play} {run : Run}
    (hk : Known library play) (hrun : play.session.active = some run) :
    Steps library play (proceed library place play run).1 := by
  unfold proceed
  split
  · exact (finish_moves _ hk).1.steps
  · split
    · exact (halt_moves _ hk).steps
    · split
      · exact (finish_moves _ hk).1.steps
      · next line _ =>
        simp only
        generalize Condition.allHold line.conditions play.stage.world run.master = held
        have hpass : Move library play ⟨play.session.pass run line held, play.stage⟩ :=
          .work play.stage.timers (.pass hrun line held)
        cases held with
        | true => exact .head (.move hpass) (takeLine_steps place (hpass.known hk) rfl rfl line)
        | false => exact .single (.move hpass)

theorem pollGate_moves (library : ScriptLibrary) (place : Place) {play : Play} {run : Run}
    (hrun : play.session.active = some run) :
    Moves library play (pollGate place play run).1 ∧
      (pollGate place play run).1.session.active = some (pollGate place play run).2 := by
  have hmove (timers : Timers) (gate : Gate) : Move library play
      ⟨{ play.session with active := some { run with gate } }, ⟨play.stage.world, timers⟩⟩ :=
    .work timers (.of_active hrun run.pointer gate run.ending)
  unfold pollGate
  split
  · exact ⟨.refl, hrun⟩
  · exact ⟨.refl, hrun⟩
  · split
    · exact ⟨.single (hmove _ .opened), rfl⟩
    · exact ⟨.refl, hrun⟩
  · exact ⟨.single (hmove _ _), rfl⟩

theorem advance_steps {library : ScriptLibrary} (place : Place) {play : Play}
    (hk : Known library play) : Steps library play (advance library place play).1 := by
  unfold advance
  split
  · exact .refl
  · next run hrun =>
    obtain ⟨hpoll, hactive⟩ := pollGate_moves library place hrun
    simp only
    split
    · exact hpoll.steps.trans (proceed_steps place (hpoll.steps.known hk) hactive)
    · exact hpoll.steps

/-- An answer that is waited for lets the active run go on. -/
theorem submit_cases (s : Session) (input : PlayerInput) :
    (s.submit input).2 = s ∨ GoesOn s (s.submit input).2 [] [] := by
  unfold submit
  split
  · exact .inl rfl
  · next run hrun =>
    split
    · next skip hgate =>
      have htake : ∃ pointer, run.take input skip = { run with pointer } := by
        unfold Run.take
        split
        · exact ⟨_, rfl⟩
        · exact ⟨run.pointer, rfl⟩
      obtain ⟨pointer, htake⟩ := htake
      rw [htake]
      exact .inr (.of_active hrun pointer .opened run.ending)
    · exact .inl rfl

theorem submit_moves (library : ScriptLibrary) (play : Play) (input : PlayerInput) :
    Moves library play ⟨(play.session.submit input).2, play.stage⟩ := by
  rcases submit_cases play.session input with h | h
  · rw [h]
  · exact .single (.work play.stage.timers h)

theorem abort_moves (library : ScriptLibrary) (play : Play) :
    Moves library play (abort play) :=
  (teardown_moves library play .aborted).tail (.drop (teardown_active play .aborted))

theorem perform_steps {library : ScriptLibrary} {play : Play} {op : Op}
    (hk : Known library play) (hop : op ≠ .drain) :
    Steps library play (perform library play op).1 := by
  cases op with
  | start request => exact start_steps library play request
  | advance place => exact advance_steps place hk
  | submit input => exact (submit_moves library play input).steps
  | abort => exact (abort_moves library play).steps
  | drain => exact absurd rfl hop

theorem run_snoc (library : ScriptLibrary) (play : Play) (ops : List Op) (op : Op) :
    run library play (ops ++ [op]) = (perform library (run library play ops) op).1 :=
  List.foldl_append

theorem emitted_cons (library : ScriptLibrary) (play : Play) (op : Op) (ops : List Op) :
    emitted library play (op :: ops) =
      (perform library play op).2.output ++ emitted library (perform library play op).1 ops :=
  List.append_assoc _ _ _

/-- What holds of a play and is kept by every small step and by handing out the output holds after
every sequence of requests. -/
theorem run_induction {library : ScriptLibrary} {P : Play → Prop} {play : Play}
    (hk : Known library play) (hstart : P play)
    (hstep : ∀ {play next : Play}, Step library play next → P play → P next)
    (hdrain : ∀ {play : Play}, P play → P ⟨{ play.session with output := [] }, play.stage⟩)
    (ops : List Op) : Known library (run library play ops) ∧ P (run library play ops) := by
  induction ops generalizing play with
  | nil => exact ⟨hk, hstart⟩
  | cons op rest ih =>
    change Known library (run library (perform library play op).1 rest) ∧ _
    by_cases hop : op = .drain
    · subst hop
      exact ih hk (hdrain hstart)
    · have hsteps := perform_steps hk hop
      exact ih (hsteps.known hk) (hsteps.keeps hstep hstart)

end Session

end StoryEngine

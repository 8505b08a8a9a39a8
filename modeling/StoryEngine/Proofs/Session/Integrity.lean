import StoryEngine.Proofs.Session.Beats
import StoryEngine.Proofs.Session.Lifecycle

/-! # What holds of every session between two requests

The active run is a run of a script of the library, with its pointer inside the lines, and does not
want to end; the scripts that wait are in the library too. So the only script that an advance can
miss is one that the line it takes asks for.
-/

namespace StoryEngine

set_option autoImplicit false

/-- A run of a script of the library, at one of its lines or at the end. -/
structure Run.Fits (library : ScriptLibrary) (run : Run) : Prop where
  found : ∃ script, library.get? run.script = some script ∧ run.lineCount = script.lines.length
  pointer : run.pointer ≤ run.lineCount
  ending : run.ending ≠ some .completed

/-- A run that is past the last line of its script and waits for nothing. -/
structure Run.IsDone (library : ScriptLibrary) (run : Run) : Prop where
  pointer : ∃ script, library.get? run.script = some script ∧ run.pointer = script.lines.length
  gate : run.gate = .opened

namespace Run

variable {library : ScriptLibrary} {run : Run}

theorem Fits.withGate (h : run.Fits library) (gate : Gate) : Fits library { run with gate } :=
  ⟨h.found, h.pointer, h.ending⟩

theorem Fits.withEnding (h : run.Fits library) (reason : EndReason)
    (hreason : reason ≠ .completed) : Fits library { run with ending := some reason } :=
  ⟨h.found, h.pointer, fun heq => hreason (Option.some.inj heq)⟩

theorem Fits.skip (h : run.Fits library) (lines : Nat) : (run.skip lines).Fits library :=
  ⟨h.found, Nat.min_le_right _ _, h.ending⟩

theorem Fits.rewind (h : run.Fits library) (lines : Nat) : (run.rewind lines).Fits library :=
  ⟨h.found, Nat.min_le_right _ _, h.ending⟩

theorem Fits.take (h : run.Fits library) (input : PlayerInput) (skip : Option Nat) :
    (run.take input skip).Fits library := by
  unfold Run.take
  split
  · exact h.skip _
  · exact h

theorem Fits.pass {line : ScriptLine} (h : run.Fits library)
    (hfaces : Session.Faces library run line) :
    Fits library { run with pointer := run.pointer + 1 } := by
  obtain ⟨script, hscript, hline⟩ := hfaces.found
  obtain ⟨found, hfound, hcount⟩ := h.found
  cases hscript.symm.trans hfound
  refine ⟨h.found, ?_, h.ending⟩
  have hlt := (List.getElem?_eq_some_iff.mp hline).1
  change run.pointer + 1 ≤ run.lineCount
  omega

theorem Fits.isDone (h : run.Fits library)
    (hcause : Session.Cause library run .completed) : run.IsDone library := by
  obtain ⟨found, hfound, hcount⟩ := h.found
  have hpointer := h.pointer
  cases hcause with
  | asked hending => exact absurd hending h.ending
  | replaced hending hleft =>
    -- The two tests of completion differ, but both leave only a pointer past the last line.
    simp only [Run.hasLinesLeft, hending, Option.isNone_none, Bool.true_and, Bool.or_eq_false_iff,
      decide_eq_false_iff_not, bne_eq_false_iff_eq] at hleft
    exact ⟨⟨found, hfound, by omega⟩, hleft.2⟩
  | atEnd hending hgate hscript hline =>
    cases hscript.symm.trans hfound
    have hle := List.getElem?_eq_none_iff.mp hline
    exact ⟨⟨found, hfound, by omega⟩, hgate⟩

end Run

namespace Session

structure Sound (library : ScriptLibrary) (s : Session) : Prop where
  fits : ∀ run, s.active = some run → run.Fits library
  known : ∀ request ∈ s.deferred, library.contains request.script = true
  completed : ∀ run, .ended run .completed ∈ s.journal → run.IsDone library

variable {library : ScriptLibrary}

theorem sound_fresh (library : ScriptLibrary) : Sound library .fresh where
  fits := fun _ h => by cases h
  known := fun _ h => absurd h List.not_mem_nil
  completed := fun _ h => absurd h List.not_mem_nil

theorem Sound.update {s t : Session} (hs : Sound library s)
    (hfits : ∀ run, t.active = some run → run.Fits library)
    (hdeferred : t.deferred ⊆ s.deferred)
    (hjournal : ∀ run, .ended run .completed ∈ t.journal →
      Entry.ended run .completed ∈ s.journal) : Sound library t where
  fits := hfits
  known := fun request h => hs.known request (hdeferred h)
  completed := fun run h => hs.completed run (hjournal run h)

theorem Sound.withActive {s : Session} (hs : Sound library s) {run : Run}
    (hrun : run.Fits library) (out : List Output) :
    Sound library { s with active := some run, output := out } :=
  hs.update (fun _ h => Option.some.inj h ▸ hrun) (List.Subset.refl _) fun _ h => h

/-- Only an entry about an end tells of one. -/
theorem mem_journal_of_note {s : Session} {entry : Entry} {run : Run} {reason : EndReason}
    (hentry : entry.ended? = none) (h : .ended run reason ∈ (s.note entry).journal) :
    Entry.ended run reason ∈ s.journal := by
  rcases List.mem_append.mp h with h | h
  · exact h
  · rw [← List.mem_singleton.mp h] at hentry
    cases hentry

theorem Sound.note {s : Session} (hs : Sound library s) {entry : Entry}
    (hentry : entry.ended? = none) : Sound library (s.note entry) :=
  hs.update hs.fits (List.Subset.refl _) fun _ h => mem_journal_of_note hentry h

theorem Sound.begin (play : Play) (hs : Sound library play.session)
    (request : PendingStart) (waited : Bool) :
    Sound library (begin library play request waited).1.session := by
  unfold Session.begin
  split
  · exact hs
  · next script hscript =>
    simp only
    split
    · refine hs.update ?_ (List.Subset.refl _) fun run h => ?_
      · rintro _ ⟨⟩
        exact ⟨⟨script, hscript, rfl⟩, Nat.zero_le _, fun h => by cases h⟩
      · exact mem_journal_of_note rfl h
    · exact hs.note rfl

theorem Sound.submit {s : Session} (hs : Sound library s) (input : PlayerInput) :
    Sound library (s.submit input).2 := by
  unfold Session.submit
  split
  · exact hs
  · next run hrun =>
    split
    · next skip _ => exact hs.withActive (((hs.fits run hrun).take input skip).withGate .opened) _
    · exact hs

theorem Beat.sound {play next : Play} (h : Beat library play next)
    (hs : Sound library play.session) : Sound library next.session := by
  cases h with
  | poll place hrun =>
    obtain ⟨gate, hgate⟩ := pollGate_session place hrun
    rw [hgate]
    exact hs.withActive ((hs.fits _ hrun).withGate gate) _
  | skip hrun hfaces => exact (hs.withActive ((hs.fits _ hrun).pass hfaces) _).note rfl
  | answer input => exact hs.submit input
  | defer hknown hrun hleft =>
    refine ⟨hs.fits, fun request h => ?_, fun run h => ?_⟩
    · rcases List.mem_append.mp h with h | h
      · exact hs.known request h
      · exact List.mem_singleton.mp h ▸ hknown
    · exact hs.completed run (mem_journal_of_note rfl h)
  | @finish run reason hrun hcause =>
    rw [teardown_session reason hrun]
    refine ⟨fun _ h => (by cases h), hs.known, fun done h => ?_⟩
    rcases List.mem_append.mp h with h | h
    · exact hs.completed done h
    · cases List.mem_singleton.mp h
      exact (hs.fits _ hrun).isDone hcause
  | @resume request rest hidle hnext =>
    refine Sound.begin ⟨{ play.session with deferred := rest }, play.stage⟩ ?_ _ _
    exact hs.update hs.fits (hnext ▸ List.subset_cons_self request rest) fun _ h => h
  | tryNow hknown hidle => exact hs.begin _ _ _

theorem Sound.apply {s : Session} (hs : Sound library s) (directive : Directive) :
    Sound library (s.apply directive).1 := by
  unfold Session.apply
  split
  · exact hs
  · next run hrun =>
    have hfits := hs.fits run hrun
    have hshow (out : List Output) : Sound library { s with output := out } :=
      hs.update hs.fits (List.Subset.refl _) fun _ h => h
    cases directive with
    | proceed | startScript => exact hs
    | «show» | transition => exact hshow _
    | awaitInput line skip => cases skip <;> exact hs.withActive (hfits.withGate _) _
    | pause | walkers => exact hs.withActive (hfits.withGate _) _
    | jump back lines =>
      cases back
      · exact hs.withActive (hfits.skip lines) s.output
      · exact hs.withActive (hfits.rewind lines) s.output
    | endScript script =>
      simp only [endScript]
      split
      · exact hs.withActive (hfits.withEnding .endEvent (by decide)) _
      · exact hs.update hs.fits List.filter_sublist.subset fun _ h => mem_journal_of_note rfl h
    | forceEnd => exact hs.withActive (hfits.withEnding .forceEnd (by decide)) _

theorem playOut_sound (library : ScriptLibrary) (stage : Stage) (turns : List Turn) :
    Sound library (playOut library ⟨.fresh, stage⟩ turns).session := by
  refine playOut_induction (P := fun play => Sound library play.session) (sound_fresh library)
    Beat.sound ?_ ?_ ?_ (fun _ h => h) (fun _ _ h => h)
  · intro play run line place hrun hfaces hs
    refine performAll_keeps (P := fun play => Sound library play.session) (fun _ _ _ h => h)
      (fun _ _ _ h => h.apply _) ?_
    exact (hs.withActive ((hs.fits _ hrun).pass hfaces) _).note rfl
  · intro play hs
    exact Sound.note (s := { play.session with deferred := [] })
      (hs.update hs.fits (List.nil_subset _) fun _ h => h) rfl
  · intro play hs
    exact hs.update hs.fits (List.Subset.refl _) fun _ h => h

def Settled (s : Session) : Prop := ∀ run, s.active = some run → run.ending = none

theorem settled_of_idle {s : Session} (h : s.active = none) : Settled s :=
  fun _ hrun => nomatch h.symm.trans hrun

theorem settled_of_active {s : Session} {run : Run} (hrun : s.active = some run)
    (h : run.ending = none) : Settled s :=
  fun _ hsame => Option.some.inj (hrun.symm.trans hsame) ▸ h

theorem Faces.settled {run : Run} {line : ScriptLine} (h : Faces library run line) (s : Session)
    (held : Bool) : Settled (s.pass run line held) :=
  settled_of_active rfl h.ending

theorem Settled.begin (play : Play) (hs : Settled play.session) (request : PendingStart)
    (waited : Bool) : Settled (begin library play request waited).1.session := by
  unfold Session.begin
  split
  · exact hs
  · simp only
    split
    · rintro _ ⟨⟩
      rfl
    · exact hs

theorem Settled.submit {s : Session} (hs : Settled s) (input : PlayerInput) :
    Settled (s.submit input).2 := by
  unfold Session.submit
  split
  · exact hs
  · next run hrun =>
    split
    · next skip _ =>
      refine settled_of_active rfl ?_
      change (run.take input skip).ending = none
      unfold Run.take
      split <;> exact hs run hrun
    · exact hs

theorem Beat.settled {play next : Play} (h : Beat library play next)
    (hs : Settled play.session) : Settled next.session := by
  cases h with
  | poll place hrun =>
    obtain ⟨gate, hgate⟩ := pollGate_session place hrun
    rw [hgate]
    have hending := hs _ hrun
    exact settled_of_active rfl hending
  | skip hrun hfaces => exact hfaces.settled _ _
  | answer input => exact hs.submit input
  | defer hknown hrun hleft => exact hs
  | finish hrun hcause => exact settled_of_idle (teardown_active play _)
  | @resume request rest hidle hnext =>
    exact Settled.begin ⟨{ play.session with deferred := rest }, play.stage⟩ hs _ _
  | tryNow hknown hidle => exact hs.begin _ _ _

theorem finish_settled (library : ScriptLibrary) (play : Play) (reason : EndReason) :
    Settled (finish library play reason).1.session := by
  have hidle := teardown_active play reason
  simp only [finish, startDeferred, hidle, Option.isNone_none, if_true]
  exact (beginWaiting_beats hidle rfl).keeps Beat.settled (settled_of_idle hidle)

theorem endIfAsked_settled {play : Play} {id : Nat}
    (hs : ∀ run, play.session.active = some run → run.id = id ∨ run.ending = none) :
    Settled (endIfAsked library play id).1.session := by
  unfold endIfAsked
  split
  · next run hrun =>
    split
    · next reason hending =>
      split
      · exact finish_settled library play reason
      · next hid => exact settled_of_active hrun ((hs run hrun).resolve_left hid)
    · next hending => exact settled_of_active hrun hending
  · next hidle => exact settled_of_idle hidle

theorem halt_settled {play : Play} {run : Run} {id : Nat} (hrun : play.session.active = some run)
    (hid : run.id = id) : Settled (halt library play id).session := by
  simp only [halt, hrun, if_pos hid]
  exact finish_settled library play .failed

theorem start_ok (play : Play) (request : PendingStart)
    (h : library.contains request.script = true) :
    ∃ outcome, (start library play request).2 = .ok outcome := by
  rcases start_cases play request h with ⟨_, _, _, hs⟩ | ⟨_, ended, _, _, _, hs⟩
  · rw [hs]
    exact ⟨_, rfl⟩
  · rw [hs]
    exact (begin_of_known ended false h).2

/-- Once any script has been started, no run wants to end. -/
theorem startAll_ok (play : Play) (master : Option Handle) (owner : Owner) {scripts : List String}
    (hknown : ∀ script ∈ scripts, library.contains script = true) :
    (startAll library play master owner scripts).2 = .ok () ∧
      (scripts = [] ∧ (startAll library play master owner scripts).1 = play ∨
        Settled (startAll library play master owner scripts).1.session) := by
  induction scripts generalizing play with
  | nil => exact ⟨rfl, .inl ⟨rfl, rfl⟩⟩
  | cons script rest ih =>
    have hfirst := hknown script List.mem_cons_self
    have hsettled : Settled (start library play ⟨script, master, owner⟩).1.session :=
      start_ending play ⟨script, master, owner⟩ hfirst
    obtain ⟨outcome, hok⟩ := start_ok play ⟨script, master, owner⟩ hfirst
    rw [startAll]
    generalize start library play ⟨script, master, owner⟩ = started at *
    obtain ⟨next, result⟩ := started
    cases hok
    obtain ⟨hrest, hlast⟩ := ih next fun other ho => hknown other (List.mem_cons_of_mem _ ho)
    refine ⟨hrest, .inr ?_⟩
    rcases hlast with ⟨_, hsame⟩ | hlast
    · simp only [hsame]
      exact hsettled
    · exact hlast

theorem beginWaiting_ok {play : Play} {waiting : List PendingStart}
    (hknown : ∀ request ∈ waiting, library.contains request.script = true) :
    (beginWaiting library play waiting).2 = .ok () := by
  induction waiting generalizing play with
  | nil => rfl
  | cons request rest ih =>
    rw [beginWaiting_cons play rest (hknown request List.mem_cons_self)]
    split
    · exact ih fun other ho => hknown other (List.mem_cons_of_mem _ ho)
    · rfl

theorem finish_ok {play : Play} (hk : Known library play) (reason : EndReason) :
    (finish library play reason).2 = .ok () := by
  have hidle := teardown_active play reason
  simp only [finish, startDeferred, hidle, Option.isNone_none, if_true]
  exact beginWaiting_ok ((teardown_moves library play reason).steps.known hk)

theorem endIfAsked_ok {play : Play} (hk : Known library play) (id : Nat) :
    (endIfAsked library play id).2 = .ok () := by
  unfold endIfAsked
  split
  · split
    · split
      · exact finish_ok hk _
      · rfl
    · rfl
  · rfl

theorem apply_asked {s : Session} {directive : Directive} {script : String}
    (h : (s.apply directive).2 = some script) : directive = .startScript script := by
  unfold apply at h
  split at h
  · cases h
  · split at h <;> cases h
    rfl

/-- What a line asks for are scripts that one of its actions starts. -/
theorem performAll_asked {place : Place} {scope : Scope} {play after : Play}
    {actions : List Action} {scripts : List String}
    (h : performAll place scope play actions = (after, .ok scripts)) :
    ∀ script ∈ scripts, .startEvent script ∈ actions := by
  induction actions generalizing play scripts with
  | nil =>
    cases h
    exact fun _ hs => absurd hs List.not_mem_nil
  | cons action rest ih =>
    rw [performAll] at h
    have hasks := @Dispatch.perform_asks place scope play.stage
    generalize hdone : Dispatch.perform place scope play.stage action = done at h
    obtain ⟨stage, result⟩ := done
    cases result with
    | error e => cases h
    | ok directive =>
      simp only at h
      generalize hrest : performAll place scope ⟨(play.session.apply directive).1, stage⟩ rest =
        last at h
      obtain ⟨last, result⟩ := last
      obtain ⟨rfl, hresult⟩ := Prod.mk.inj h
      obtain ⟨others, rfl, rfl⟩ := map_eq_ok_iff.mp hresult
      intro script hs
      rcases List.mem_append.mp hs with hs | hs
      · have hdirective := apply_asked (Option.mem_toList.mp hs)
        have hask := hasks (congrArg Prod.snd hdone)
        rw [hdirective] at hask
        cases hask
        exact List.mem_cons_self
      · exact List.mem_cons_of_mem _ (ih hrest script hs)

theorem performAll_missesScript (place : Place) (scope : Scope) (play : Play)
    (actions : List Action) :
    Dispatch.missesScript (performAll place scope play actions).2 = false := by
  induction actions generalizing play with
  | nil => rfl
  | cons action rest ih =>
    have hfirst := Dispatch.perform_missesScript place scope play.stage action
    rw [performAll]
    generalize Dispatch.perform place scope play.stage action = done at *
    obtain ⟨stage, result⟩ := done
    cases result with
    | error e => exact hfirst
    | ok directive => exact (Dispatch.missesScript_map _ _).trans (ih _)

/-- Scripts that a line asks for are all started, unless one of them is unknown. -/
theorem startAsked_cases (library : ScriptLibrary) (play : Play) (scripts : List String) :
    (∃ script ∈ scripts, library.contains script = false ∧
      startAsked library play scripts = (play, .error (.missingScript script))) ∨
    ∃ last, startAsked library play scripts = (last, .ok ()) ∧
      (last = play ∨ Settled last.session) := by
  unfold startAsked
  cases hmissing : scripts.find? fun script => !library.contains script with
  | some missing =>
    have hunknown := List.find?_some hmissing
    rw [Bool.not_eq_true'] at hunknown
    exact .inl ⟨missing, List.mem_of_find?_eq_some hmissing, hunknown, rfl⟩
  | none =>
    have hknown := find?_unknown_eq_none_iff.mp hmissing
    refine .inr ?_
    simp only
    split
    · next run _ =>
      obtain ⟨hok, hlast⟩ := startAll_ok play run.master run.owner hknown
      exact ⟨_, Prod.ext rfl hok, hlast.imp_left And.right⟩
    · obtain ⟨hok, hlast⟩ := startAll_ok play none .map hknown
      exact ⟨_, Prod.ext rfl hok, hlast.imp_left And.right⟩

/-- After a line has been carried out no run wants to end. If a script was missing then, it is one
that the line starts. -/
theorem takeLine_settled (place : Place) {play : Play} {run next : Run}
    (hnext : play.session.active = some next) (hscope : next.scope = run.scope)
    (hid : next.id = run.id) (hk : Known library play) (line : ScriptLine) :
    Settled (takeLine library place play run line).1.session ∧
      ∀ script, (takeLine library place play run line).2 = .error (.missingScript script) →
        library.contains script = false ∧ .startEvent script ∈ line.actions := by
  -- The actions may make the run want to end. It is still the same run, by its number, so whatever
  -- follows ends it, unless a start comes before, after which no run wants to end.
  obtain ⟨hmoves, pointer, gate, ending, hactive⟩ :=
    performAll_moves library place hnext hscope line.actions
  have hmisses := performAll_missesScript place run.scope play line.actions
  unfold takeLine
  rcases hdone : performAll place run.scope play line.actions with ⟨after, result⟩
  rw [hdone] at hmoves hactive hmisses
  have hhalt : Settled (halt library after run.id).session := halt_settled hactive hid
  cases result with
  | error e =>
    refine ⟨hhalt, ?_⟩
    rintro script ⟨⟩
    cases hmisses
  | ok scripts =>
    simp only
    rcases startAsked_cases library after scripts with
      ⟨missing, hs, hunknown, h⟩ | ⟨last, h, hlast⟩
    · rw [h]
      refine ⟨hhalt, ?_⟩
      rintro _ ⟨⟩
      exact ⟨hunknown, performAll_asked hdone missing hs⟩
    · have hklast : Known library last := by
        have hsteps := (startAsked_steps library after scripts).known (hmoves.steps.known hk)
        rwa [h] at hsteps
      rw [h]
      refine ⟨endIfAsked_settled ?_, fun script herror => ?_⟩
      · rcases hlast with rfl | hlast
        · intro ran hran
          cases hactive.symm.trans hran
          exact .inl hid
        · exact fun ran hran => .inr (hlast ran hran)
      · simp only [answer, endIfAsked_ok hklast] at herror
        cases herror

theorem perform_settled {play : Play} (hk : Known library play) (hs : Settled play.session)
    (op : Op) : Settled (perform library play op).1.session := by
  cases op with
  | start request => exact (start_beats library play request).keeps Beat.settled hs
  | advance place =>
    cases h : lineTaken? library place play with
    | none => exact (advance_beats h).keeps Beat.settled hs
    | some taken =>
      obtain ⟨hadvance, hmoves, hactive⟩ := advance_of_lineTaken?_eq_some h
      change Settled (advance library place play).1.session
      rw [hadvance]
      exact (takeLine_settled place hactive rfl rfl (hmoves.steps.known hk) _).1
  | submit input => exact hs.submit input
  | abort => exact settled_of_idle (teardown_active play .aborted)
  | drain => exact hs

theorem playOut_settled (library : ScriptLibrary) (stage : Stage) (turns : List Turn) :
    Settled (playOut library ⟨.fresh, stage⟩ turns).session := by
  induction turns using List.reverseRecOn with
  | nil => exact settled_of_idle rfl
  | append_singleton turns turn ih =>
    rw [playOut_append]
    cases turn with
    | request op => exact perform_settled (playOut_sound library stage turns).known ih op
    | remark | world | timers => exact ih

theorem advance_ok {place : Place} {play : Play} (hs : Sound library play.session)
    (h : lineTaken? library place play = none) :
    ∃ state, (advance library place play).2 = .ok state := by
  obtain ⟨polled, hpoll, hidles⟩ := advance_idles h
  have hs := (hpoll.beats library).keeps (P := fun play => Sound library play.session) Beat.sound hs
  generalize advance library place play = result at hidles
  cases hidles with
  | idle | waits | skips => exact ⟨_, rfl⟩
  | ends => exact ⟨_, congrArg (Except.map _) (finish_ok hs.known _)⟩
  | lost hrun hscript =>
    obtain ⟨script, hfound, _⟩ := (hs.fits _ hrun).found
    cases hscript.symm.trans hfound

/-- The active run is at a line of its script, which is in the library, or at the end of it, and
does not want to end; all that waits is in the library too. An advance that misses a script
therefore misses neither that of the run nor one that waits, but one that the line it takes is to
start. -/
theorem playOut_wellFormed (library : ScriptLibrary) (stage : Stage) (turns : List Turn) :
    let last := playOut library ⟨.fresh, stage⟩ turns
    (∀ run, last.session.active = some run →
      (∃ script, library.get? run.script = some script ∧ run.lineCount = script.lines.length) ∧
        run.pointer ≤ run.lineCount ∧ run.ending = none) ∧
    (∀ request ∈ last.session.deferred, library.contains request.script = true) ∧
    ∀ place missing, (advance library place last).2 = .error (.missingScript missing) →
      library.contains missing = false ∧ ∃ next run line,
        lineTaken? library place last = some (next, run, line) ∧
          .startEvent missing ∈ line.actions := by
  intro last
  have hsound : Sound library last.session := playOut_sound library stage turns
  have hsettled : Settled last.session := playOut_settled library stage turns
  refine ⟨fun run hrun => ?_, hsound.known, fun place missing herror => ?_⟩
  · have hfits := hsound.fits run hrun
    exact ⟨hfits.found, hfits.pointer, hsettled run hrun⟩
  · cases h : lineTaken? library place last with
    | none =>
      obtain ⟨state, hok⟩ := advance_ok hsound h
      cases hok.symm.trans herror
    | some taken =>
      obtain ⟨next, run, line⟩ := taken
      obtain ⟨hadvance, hmoves, hactive⟩ := advance_of_lineTaken?_eq_some h
      rw [hadvance] at herror
      obtain ⟨hunknown, hstart⟩ :=
        (takeLine_settled place hactive rfl rfl (hmoves.steps.known hsound.known) line).2
          missing herror
      exact ⟨hunknown, next, run, line, rfl, hstart⟩

/-- A jump far past the end stops at the end. A line that asks for a script that waits and for one
that is not there misses the latter. -/
theorem missing_ghost_is_started :
    let library : ScriptLibrary := .ofList
      [("a", ⟨[], none, [⟨[], [.jump 18446744073709551615, .unjump 1, .startEvent "b"], ""⟩,
          ⟨[], [.forceEnd, .startEvent "b", .startEvent "ghost"], ""⟩]⟩),
        ("b", .ofSource [] none [])]
    let place : Place := ⟨.blank "cellar" 8 8, 0⟩
    let start : Turn := .request (.start ⟨"a", none, .map⟩)
    let last := playOut library ⟨.fresh, ⟨.blank ∅, ∅⟩⟩ [start, .request (.advance place)]
    (∃ run, last.session.active = some run ∧ run.pointer = 1 ∧ run.pointer ≤ run.lineCount ∧
      run.ending = none) ∧
    library.contains "b" = true ∧ library.contains "ghost" = false ∧
    ∃ next run line, lineTaken? library place last = some (next, run, line) ∧
      .startEvent "ghost" ∈ line.actions := by
  intro library place start last
  obtain ⟨hruns, hknown, hmissing⟩ :=
    playOut_wellFormed library ⟨.blank ∅, ∅⟩ [start, .request (.advance place)]
  have hactive : last.session.active.map Run.pointer = some 1 := by decide +kernel
  obtain ⟨run, hrun, hpointer⟩ := Option.map_eq_some_iff.mp hactive
  have hwaits : (⟨"b", none, .map⟩ : PendingStart) ∈ last.session.deferred := by decide +kernel
  refine ⟨⟨run, hrun, hpointer, (hruns run hrun).2⟩, hknown _ hwaits, ?_⟩
  exact hmissing place "ghost" (by decide +kernel)

end Session

end StoryEngine

import Mathlib.Data.List.Induction
import StoryEngine.Proofs.Session.Moves

/-! # Starts that wait

A start that is asked for while a run has lines left waits in a queue, and the queue is tried in
turn when the run ends. One thing passes the queue by: a start that finds no run with lines left is
tried at once, even if others wait. The statements here say exactly when that happens, and when it
leaves starts behind that nothing will try again.
-/

namespace StoryEngine

set_option autoImplicit false

/-- The starts that wait after an entry, given those that waited before it. -/
def Entry.settle (waiting : List PendingStart) : Entry → List PendingStart
  | .deferred request => waiting ++ [request]
  | .withdrawn script => waiting.filter fun p => p.script != script
  | .dropped => []
  | .begun _ true _ | .refused _ true => waiting.tail
  | .begun _ false _ | .refused _ false | .passed _ _ | .ended _ _ => waiting

/-- A start that is tried passes none that waits: it is the first of them, or there are none. -/
def Entry.InTurn (waiting : List PendingStart) : Entry → Prop
  | .begun request true _ | .refused request true => waiting.head? = some request
  | .begun _ false _ | .refused _ false => waiting = []
  | .deferred _ | .withdrawn _ | .dropped | .passed _ _ | .ended _ _ => True

instance (waiting : List PendingStart) : (entry : Entry) → Decidable (entry.InTurn waiting)
  | .begun request true _ | .refused request true =>
    inferInstanceAs (Decidable (waiting.head? = some request))
  | .begun _ false _ | .refused _ false => inferInstanceAs (Decidable (waiting = []))
  | .deferred _ | .withdrawn _ | .dropped | .passed _ _ | .ended _ _ => .isTrue trivial

namespace Session

/-- The starts that wait after some entries. -/
def waiting (entries : List Entry) : List PendingStart := entries.foldl Entry.settle []

/-- Every start was tried in its turn. -/
def InOrder (entries : List Entry) : Prop :=
  ∀ before entry after, entries = before ++ entry :: after → entry.InTurn (waiting before)

/-- Starts wait, and nothing is active whose end would let them be tried. -/
def Stranded (s : Session) : Prop := s.active = none ∧ s.deferred ≠ []

/-- Starts wait, but no run with lines left would make a further start wait too. -/
def Exposed (s : Session) : Prop :=
  s.deferred ≠ [] ∧ ∀ run, s.active = some run → run.hasLinesLeft = false

theorem waiting_snoc (entries : List Entry) (entry : Entry) :
    waiting (entries ++ [entry]) = entry.settle (waiting entries) := by
  simp [waiting, List.foldl_append]

theorem waiting_append_passed (entries : List Entry) (lines : List (ScriptLine × Bool)) :
    waiting (entries ++ lines.map fun line => .passed line.1 line.2) = waiting entries := by
  induction lines generalizing entries with
  | nil => rw [List.map_nil, List.append_nil]
  | cons line rest ih =>
    rw [List.map_cons, ← List.singleton_append, ← List.append_assoc, ih, waiting_snoc]
    rfl

/-- What holds at every place of a list holds at every place of its front part and at the last. -/
theorem forall_split_snoc {α : Type} (P : List α → α → Prop) (front : List α) (last : α) :
    (∀ before a after, front ++ [last] = before ++ a :: after → P before a) ↔
      (∀ before a after, front = before ++ a :: after → P before a) ∧ P front last := by
  constructor
  · intro h
    refine ⟨?_, h front last [] rfl⟩
    intro before a after hfront
    exact h before a (after ++ [last]) (by rw [hfront, List.append_assoc, List.cons_append])
  · rintro ⟨hfront, hlast⟩ before a after h
    rcases List.eq_nil_or_concat after with rfl | ⟨rest, b, rfl⟩
    · obtain ⟨rfl, ha⟩ := List.append_inj' h rfl
      cases ha
      exact hlast
    · rw [List.concat_eq_append, ← List.cons_append, ← List.append_assoc] at h
      exact hfront before a rest (List.append_inj' h rfl).1

theorem inOrder_snoc (entries : List Entry) (entry : Entry) :
    InOrder (entries ++ [entry]) ↔ InOrder entries ∧ entry.InTurn (waiting entries) :=
  forall_split_snoc (fun (before : List Entry) (entry : Entry) => entry.InTurn (waiting before))
    entries entry

theorem inOrder_append_passed (entries : List Entry) (lines : List (ScriptLine × Bool)) :
    InOrder (entries ++ lines.map fun line => .passed line.1 line.2) ↔ InOrder entries := by
  induction lines generalizing entries with
  | nil => rw [List.map_nil, List.append_nil]
  | cons line rest ih =>
    rw [List.map_cons, ← List.singleton_append, ← List.append_assoc, ih, inOrder_snoc]
    exact and_iff_left trivial

theorem inOrder_iff_getElem? (entries : List Entry) :
    InOrder entries ↔
      ∀ k < entries.length, ∀ entry ∈ entries[k]?, entry.InTurn (waiting (entries.take k)) := by
  constructor
  · intro h k hk entry hentry
    obtain ⟨_, rfl⟩ := List.getElem?_eq_some_iff.mp hentry
    refine h _ _ (entries.drop (k + 1)) ?_
    rw [← List.drop_eq_getElem_cons hk, List.take_append_drop]
  · rintro h before entry after rfl
    have hentry := h before.length (by simp) entry (by simp)
    rwa [List.take_left] at hentry

instance (entries : List Entry) : Decidable (InOrder entries) :=
  decidable_of_iff _ (inOrder_iff_getElem? entries).symm

/-- The queue holds known scripts only and is the one that the journal tells of. -/
structure Consistent (library : ScriptLibrary) (play : Play) : Prop where
  known : Known library play
  replayed : waiting play.session.journal = play.session.deferred

theorem consistent_fresh (library : ScriptLibrary) (stage : Stage) :
    Consistent library ⟨.fresh, stage⟩ where
  known := fun _ h => absurd h List.not_mem_nil
  replayed := rfl

theorem Tried.settles {s t : Session} {request : PendingStart} {waited : Bool}
    (h : Tried s request waited t) :
    waiting t.journal = if waited then (waiting s.journal).tail else waiting s.journal := by
  cases waited <;> cases h <;> exact waiting_snoc _ _

theorem Tried.inOrder_iff {s t : Session} {request : PendingStart} {waited : Bool}
    (h : Tried s request waited t) :
    InOrder t.journal ↔ InOrder s.journal ∧
      if waited then (waiting s.journal).head? = some request else waiting s.journal = [] := by
  cases waited <;> cases h <;> exact inOrder_snoc _ _

/-- A move keeps the queue true to the journal, and tries nothing out of turn. -/
theorem Move.inOrder_iff {library : ScriptLibrary} {play next : Play}
    (h : Move library play next) (hc : Consistent library play) :
    Consistent library next ∧
      (InOrder next.session.journal ↔ InOrder play.session.journal) := by
  have hreplayed := hc.replayed
  refine ⟨⟨h.known hc.known, ?_⟩, ?_⟩
  · cases h with
    | work timers h => rw [h.journal, waiting_append_passed, h.deferred, hreplayed]
    | act place action hrun => exact hreplayed
    | withdraw hrun hother => exact (waiting_snoc _ _).trans (by rw [hreplayed]; rfl)
    | defer hknown hrun hleft => exact (waiting_snoc _ _).trans (by rw [hreplayed]; rfl)
    | finish reason hrun =>
      rw [teardown_session reason hrun, endRun_journal, waiting_snoc]
      exact hreplayed
    | @resume request rest hknown hidle hnext =>
      have htried := (begin_of_known
        ⟨{ play.session with deferred := rest }, play.stage⟩ true hknown).1
      rw [htried.settles, htried.deferred, if_pos rfl, hreplayed, hnext]
      rfl
    | drop hidle => exact waiting_snoc _ _
  · cases h with
    | work timers h => rw [h.journal, inOrder_append_passed]
    | act place action hrun => exact Iff.rfl
    | withdraw hrun hother => exact (inOrder_snoc _ _).trans (and_iff_left trivial)
    | defer hknown hrun hleft => exact (inOrder_snoc _ _).trans (and_iff_left trivial)
    | finish reason hrun =>
      rw [teardown_session reason hrun, endRun_journal]
      exact (inOrder_snoc _ _).trans (and_iff_left trivial)
    | @resume request rest hknown hidle hnext =>
      have htried := (begin_of_known
        ⟨{ play.session with deferred := rest }, play.stage⟩ true hknown).1
      rw [htried.inOrder_iff, if_pos rfl, hreplayed, hnext]
      exact and_iff_left rfl
    | drop hidle => exact (inOrder_snoc _ _).trans (and_iff_left trivial)

theorem Moves.inOrder_iff {library : ScriptLibrary} {play next : Play}
    (h : Moves library play next) (hc : Consistent library play) :
    Consistent library next ∧
      (InOrder next.session.journal ↔ InOrder play.session.journal) := by
  induction h with
  | refl => exact ⟨hc, Iff.rfl⟩
  | tail _ h ih =>
    obtain ⟨hmid, hiff⟩ := ih
    obtain ⟨hnext, hiff'⟩ := h.inOrder_iff hmid
    exact ⟨hnext, hiff'.trans hiff⟩

theorem Step.consistent {library : ScriptLibrary} {play next : Play}
    (h : Step library play next) (hc : Consistent library play) : Consistent library next := by
  cases h with
  | move h => exact (h.inOrder_iff hc).1
  | tryNow hknown hidle =>
    have htried := (begin_of_known play false hknown).1
    refine ⟨(Step.tryNow hknown hidle).known hc.known, ?_⟩
    rw [htried.settles, htried.deferred]
    exact hc.replayed

section Start

variable {library : ScriptLibrary} (play : Play) (request : PendingStart)
  (hknown : library.contains request.script = true)

include hknown

/-- What a start tried at once leaves: the queue as it was, and no run or a fresh one. -/
theorem begin_leaves (ended : Play) :
    (begin library ended request false).1.session.deferred = ended.session.deferred ∧
      (ended.session.active = none →
        ∀ run, (begin library ended request false).1.session.active = some run →
          run.ending = none) := by
  have htried := (begin_of_known ended false hknown).1
  refine ⟨htried.deferred, ?_⟩
  generalize (begin library ended request false).1.session = t at htried
  intro hidle run hrun
  cases htried with
  | begun fresh hid hending =>
    cases hrun
    exact hending
  | refused =>
    rw [Session.note, hidle] at hrun
    cases hrun

theorem start_inOrder_iff (hc : Consistent library play) :
    InOrder (start library play request).1.session.journal ↔
      InOrder play.session.journal ∧ ¬Exposed play.session := by
  rcases start_cases play request hknown with
    ⟨run, hrun, hleft, h⟩ | ⟨hnone, ended, hmoves, hidle, hqueue, h⟩
  · rw [h]
    have hnot : ¬Exposed play.session := by
      rintro ⟨_, hnone⟩
      rw [hnone run hrun] at hleft
      cases hleft
    exact (inOrder_snoc _ _).trans (and_congr_right fun _ => iff_of_true trivial hnot)
  · rw [h]
    obtain ⟨hcended, hiff⟩ := hmoves.inOrder_iff hc
    rw [(begin_of_known ended false hknown).1.inOrder_iff, hiff, hcended.replayed, hqueue]
    refine and_congr_right fun _ => ⟨fun hnil hexposed => hexposed.1 hnil, ?_⟩
    intro hnot
    by_cases hnil : play.session.deferred = []
    · exact hnil
    · exact absurd ⟨hnil, hnone⟩ hnot

theorem start_exposed (h : Exposed (start library play request).1.session) :
    Exposed play.session := by
  rcases start_cases play request hknown with
    ⟨run, hrun, hleft, hs⟩ | ⟨hnone, ended, hmoves, hidle, hqueue, hs⟩
  · rw [hs] at h
    rw [h.2 run hrun] at hleft
    cases hleft
  · rw [hs] at h
    refine ⟨?_, hnone⟩
    rw [← hqueue, ← (begin_leaves request hknown ended).1]
    exact h.1

theorem start_deferred_ne_nil (h : play.session.deferred ≠ []) :
    (start library play request).1.session.deferred ≠ [] := by
  rcases start_cases play request hknown with
    ⟨run, hrun, hleft, hs⟩ | ⟨hnone, ended, hmoves, hidle, hqueue, hs⟩
  · rw [hs]
    exact List.append_ne_nil_of_left_ne_nil h _
  · rw [hs, (begin_leaves request hknown ended).1, hqueue]
    exact h

/-- After a start the active run does not want to end. -/
theorem start_ending (run : Run)
    (hrun : (start library play request).1.session.active = some run) : run.ending = none := by
  rcases start_cases play request hknown with
    ⟨old, hold, hleft, hs⟩ | ⟨hnone, ended, hmoves, hidle, hqueue, hs⟩
  · rw [hs] at hrun
    cases hold.symm.trans hrun
    rw [Run.hasLinesLeft, Bool.and_eq_true, Option.isNone_iff_eq_none] at hleft
    exact hleft.1
  · rw [hs] at hrun
    exact (begin_leaves request hknown ended).2 hidle run hrun

theorem start_stranded (h : Stranded (start library play request).1.session) :
    Exposed play.session := by
  rcases start_cases play request hknown with
    ⟨run, hrun, hleft, hs⟩ | ⟨hnone, ended, hmoves, hidle, hqueue, hs⟩
  · rw [hs] at h
    cases hrun.symm.trans h.1
  · rw [hs] at h
    refine ⟨?_, hnone⟩
    rw [← hqueue, ← (begin_leaves request hknown ended).1]
    exact h.2

end Start

/-- After the starts that one line asks for: they were tried in turn, and left nothing stranded,
unless they came when no run had lines left and others waited. -/
theorem startAll_late {library : ScriptLibrary} {play : Play} (master : Option Handle)
    (owner : Owner) {scripts : List String} (hne : scripts ≠ [])
    (hknown : ∀ script ∈ scripts, library.contains script = true)
    (hc : Consistent library play) :
    (startAll library play master owner scripts).2 = .ok () ∧
      (InOrder (startAll library play master owner scripts).1.session.journal ↔
        InOrder play.session.journal ∧ ¬Exposed play.session) ∧
      (Stranded (startAll library play master owner scripts).1.session →
        Exposed play.session) ∧
      (play.session.deferred ≠ [] →
        (startAll library play master owner scripts).1.session.deferred ≠ []) ∧
      ∀ run, (startAll library play master owner scripts).1.session.active = some run →
        run.ending = none := by
  induction scripts generalizing play with
  | nil => exact absurd rfl hne
  | cons script rest ih =>
    have hfirst : library.contains script = true := hknown script List.mem_cons_self
    have hrest : ∀ other ∈ rest, library.contains other = true :=
      fun other ho => hknown other (List.mem_cons_of_mem _ ho)
    let request : PendingStart := ⟨script, master, owner⟩
    have horder := start_inOrder_iff play request hfirst hc
    have hexposed := start_exposed play request hfirst
    have hqueue := start_deferred_ne_nil play request hfirst
    have hending := start_ending play request hfirst
    have hstranded := start_stranded play request hfirst
    have hcmid : Consistent library (start library play request).1 :=
      (start_steps library play request).keeps Step.consistent hc
    have hok : ∃ outcome, (start library play request).2 = .ok outcome := by
      rcases start_cases play request hfirst with
        ⟨run, _, _, h⟩ | ⟨_, ended, _, _, _, h⟩
      · rw [h]
        exact ⟨_, rfl⟩
      · rw [h]
        exact (begin_of_known ended false hfirst).2
    rw [startAll]
    generalize start library play request = started at *
    obtain ⟨mid, result⟩ := started
    obtain ⟨outcome, rfl⟩ := hok
    by_cases hnil : rest = []
    · subst hnil
      exact ⟨rfl, horder, hstranded, hqueue, hending⟩
    · obtain ⟨hok, horder', hstranded', hqueue', hending'⟩ := ih hnil hrest hcmid
      refine ⟨hok, ?_, fun h => hexposed (hstranded' h), fun h => hqueue' (hqueue h), hending'⟩
      refine horder'.trans ((and_congr_left fun _ => horder).trans ⟨And.left, fun h => ⟨h, ?_⟩⟩)
      exact fun hmid => h.2 (hexposed hmid)

/-- What lets a run end for a reason. -/
inductive Cause (library : ScriptLibrary) (run : Run) : EndReason → Prop where
  | asked {reason : EndReason} (hending : run.ending = some reason) : Cause library run reason
  | replaced (hending : run.ending = none) (hleft : run.hasLinesLeft = false) :
      Cause library run .completed
  | atEnd {script : Script} (hending : run.ending = none) (hgate : run.gate = .opened)
      (hscript : library.get? run.script = some script)
      (hline : script.lines[run.pointer]? = none) : Cause library run .completed
  | aborted : Cause library run .aborted
  | failed : Cause library run .failed

/-- The run is at a line of its script and may take it. -/
structure Faces (library : ScriptLibrary) (run : Run) (line : ScriptLine) : Prop where
  gate : run.gate = .opened
  ending : run.ending = none
  found : ∃ script, library.get? run.script = some script ∧ script.lines[run.pointer]? = some line

/-- The line that an advance carries out, with the play just past it and the run as it was. -/
def lineTaken? (library : ScriptLibrary) (place : Place) (play : Play) :
    Option (Play × Run × ScriptLine) :=
  match play.session.active with
  | none => none
  | some run =>
    let (play, run) := pollGate place play run
    if run.gate = .opened ∧ run.ending = none then
      ((library.get? run.script).bind fun script => script.lines[run.pointer]?).bind fun line =>
        if Condition.allHold line.conditions play.stage.world run.master then
          some ({ play with session := play.session.pass run line true }, run, line)
        else none
    else none

/-- The play once the gate of the active run has been polled. -/
inductive Polled (place : Place) (play : Play) : Play → Prop where
  | idle (hidle : play.session.active = none) : Polled place play play
  | active {run : Run} (hrun : play.session.active = some run) :
      Polled place play (pollGate place play run).1

theorem pollGate_active (place : Place) {play : Play} {run : Run}
    (hrun : play.session.active = some run) :
    (pollGate place play run).1.session.active = some (pollGate place play run).2 :=
  (pollGate_moves .empty place hrun).2

theorem stranded_of_active {s : Session} {run : Run} (h : s.active = some run) : ¬Stranded s := by
  rintro ⟨hidle, _⟩
  cases h.symm.trans hidle

theorem StillActive.not_stranded {run : Run} {s : Session} (h : StillActive run s) :
    ¬Stranded s := by
  obtain ⟨_, _, _, h⟩ := h
  exact stranded_of_active h

theorem finish_not_stranded {library : ScriptLibrary} {play : Play} (reason : EndReason)
    (hk : Known library play) : ¬Stranded (finish library play reason).1.session :=
  fun h => h.2 ((finish_moves reason hk).2 h.1)

theorem halt_not_stranded {library : ScriptLibrary} {play : Play} (id : Nat)
    (hk : Known library play) (h : ¬Stranded play.session) :
    ¬Stranded (halt library play id).session := by
  unfold halt
  split
  · split
    · exact finish_not_stranded .failed hk
    · exact h
  · exact h

/-- What an advance comes to that takes no line, once the gate has been polled. -/
inductive Idles (library : ScriptLibrary) (play : Play) :
    Play × Except ScriptError RunState → Prop where
  | idle : Idles library play (play, .ok .idle)
  | waits (run : Run) : Idles library play (play, .ok run.state)
  | ends {run : Run} {reason : EndReason} (hrun : play.session.active = some run)
      (hcause : Cause library run reason) : Idles library play (answer (finish library play reason))
  | lost {run : Run} (hrun : play.session.active = some run)
      (hscript : library.get? run.script = none) :
      Idles library play (halt library play run.id, .error (.missingScript run.script))
  | skips {run : Run} {line : ScriptLine} (hrun : play.session.active = some run)
      (hfaces : Faces library run line) (state : RunState) :
      Idles library play (⟨play.session.pass run line false, play.stage⟩, .ok state)

theorem advance_idles {library : ScriptLibrary} {place : Place} {play : Play}
    (h : lineTaken? library place play = none) :
    ∃ polled, Polled place play polled ∧ Idles library polled (advance library place play) := by
  unfold lineTaken? at h
  unfold advance
  cases hrun : play.session.active with
  | none => exact ⟨play, .idle hrun, .idle⟩
  | some run =>
    have hpoll : Polled place play (pollGate place play run).1 := .active hrun
    have hactive := pollGate_active place hrun
    rw [hrun] at h
    simp only at h ⊢
    generalize pollGate place play run = polled at *
    obtain ⟨play, run⟩ := polled
    refine ⟨play, hpoll, ?_⟩
    by_cases hgate : run.gate = .opened
    · simp only [hgate, if_true, true_and] at h ⊢
      unfold proceed
      split
      · next reason hending => exact .ends hactive (.asked hending)
      · next hending =>
        rw [if_pos hending] at h
        split
        · next hscript => exact .lost hactive hscript
        · next script hscript =>
          split
          · next hline => exact .ends hactive (.atEnd hending hgate hscript hline)
          · next line hline =>
            have hheld : Condition.allHold line.conditions play.stage.world run.master = false := by
              rw [hscript, Option.bind_some, hline, Option.bind_some] at h
              exact Bool.eq_false_iff.mpr fun hheld => by simp [hheld] at h
            simp only [hheld]
            exact .skips hactive ⟨hgate, hending, script, hscript, hline⟩ _
    · simp only [hgate, if_false]
      exact .waits run

/-- Any other advance moves past the line and carries it out. -/
theorem advance_takes {library : ScriptLibrary} {place : Place} {play next : Play} {run : Run}
    {line : ScriptLine} (h : lineTaken? library place play = some (next, run, line)) :
    ∃ polled, Polled place play polled ∧ polled.session.active = some run ∧
      Faces library run line ∧ next = ⟨polled.session.pass run line true, polled.stage⟩ ∧
        advance library place play = takeLine library place next run line := by
  unfold lineTaken? at h
  unfold advance
  cases hrun : play.session.active with
  | none =>
    rw [hrun] at h
    cases h
  | some first =>
    have hpoll : Polled place play (pollGate place play first).1 := .active hrun
    have hactive := pollGate_active place hrun
    rw [hrun] at h
    simp only at h ⊢
    generalize pollGate place play first = polled at *
    obtain ⟨play, polled⟩ := polled
    by_cases hopen : polled.gate = .opened ∧ polled.ending = none
    · rw [if_pos hopen] at h
      obtain ⟨found, hfound, h⟩ := Option.bind_eq_some_iff.mp h
      obtain ⟨script, hscript, hline⟩ := Option.bind_eq_some_iff.mp hfound
      by_cases hheld : Condition.allHold found.conditions play.stage.world polled.master = true
      · rw [if_pos hheld] at h
        cases h
        have hgo := proceed_of_line place play hopen.2 hscript hline
        rw [hheld] at hgo
        rw [if_pos hopen.1]
        exact ⟨play, hpoll, hactive, ⟨hopen.1, hopen.2, script, hscript, hline⟩, rfl, hgo⟩
      · rw [if_neg hheld] at h
        cases h
    · rw [if_neg hopen] at h
      cases h

theorem Polled.moves {place : Place} {play polled : Play} (h : Polled place play polled)
    (library : ScriptLibrary) :
    Moves library play polled ∧ (¬Stranded play.session → ¬Stranded polled.session) := by
  cases h with
  | idle => exact ⟨.refl, id⟩
  | active hrun =>
    exact ⟨(pollGate_moves library place hrun).1,
      fun _ => stranded_of_active (pollGate_active place hrun)⟩

/-- An advance that takes no line makes moves only and strands nothing. -/
theorem advance_of_lineTaken?_eq_none {library : ScriptLibrary} {place : Place} {play : Play}
    (hk : Known library play) (h : lineTaken? library place play = none) :
    Moves library play (advance library place play).1 ∧
      (¬Stranded play.session → ¬Stranded (advance library place play).1.session) := by
  obtain ⟨polled, hpolled, hidles⟩ := advance_idles h
  obtain ⟨hmoves, hstranded⟩ := hpolled.moves library
  have hk := hmoves.steps.known hk
  generalize advance library place play = result at *
  cases hidles with
  | idle | waits => exact ⟨hmoves, hstranded⟩
  | ends hrun hcause =>
    exact ⟨hmoves.trans (finish_moves _ hk).1, fun _ => finish_not_stranded _ hk⟩
  | lost hrun hscript =>
    refine ⟨hmoves.trans (halt_moves _ hk), fun _ => ?_⟩
    exact halt_not_stranded _ hk (stranded_of_active hrun)
  | skips hrun hfaces =>
    exact ⟨hmoves.tail (.work polled.stage.timers (.pass hrun _ false)),
      fun _ => stranded_of_active rfl⟩

theorem advance_of_lineTaken?_eq_some {library : ScriptLibrary} {place : Place}
    {play next : Play} {run : Run} {line : ScriptLine}
    (h : lineTaken? library place play = some (next, run, line)) :
    advance library place play = takeLine library place next run line ∧
      Moves library play next ∧
        next.session.active = some { run with pointer := run.pointer + 1 } := by
  obtain ⟨polled, hpolled, hrun, hfaces, rfl, hadvance⟩ := advance_takes h
  have hmoves := (hpolled.moves library).1
  exact ⟨hadvance, hmoves.tail (.work polled.stage.timers (.pass hrun line true)), rfl⟩

/-- The line asks for scripts at a moment when others wait and no run has lines left. -/
def LateLine (library : ScriptLibrary) (place : Place) (play : Play) (run : Run)
    (line : ScriptLine) : Prop :=
  ∃ after scripts, performAll place run.scope play line.actions = (after, .ok scripts) ∧
    scripts ≠ [] ∧ (∀ script ∈ scripts, library.contains script = true) ∧ Exposed after.session

/-- A known script is asked for, by the request itself or by the line that it carries out, at a
moment when others wait and no run has lines left. -/
def ComesLate (library : ScriptLibrary) (play : Play) : Op → Prop
  | .start request => library.contains request.script = true ∧ Exposed play.session
  | .advance place => ∃ next run line,
      lineTaken? library place play = some (next, run, line) ∧
        LateLine library place next run line
  | .submit _ | .abort | .drain => False

/-- A request that comes late is carried out of turn, and only one that comes late can leave starts
stranded; it does so if no run is active after it. -/
def Reveals (play next : Play) (late : Prop) : Prop :=
  (InOrder next.session.journal ↔ InOrder play.session.journal ∧ ¬late) ∧
    (¬Stranded play.session → (Stranded next.session ↔ late ∧ next.session.active = none))

theorem reveals_of_moves {library : ScriptLibrary} {play next : Play} {late : Prop}
    (hc : Consistent library play) (h : Moves library play next)
    (hstranded : ¬Stranded play.session → ¬Stranded next.session) (hlate : ¬late) :
    Reveals play next late := by
  refine ⟨?_, ?_⟩
  · rw [(h.inOrder_iff hc).2]
    exact (and_iff_left hlate).symm
  · intro hs
    exact iff_of_false (hstranded hs) fun h => hlate h.1

/-- A line that has been carried out ends its run if that wants to end, and otherwise leaves all as
it is. -/
theorem endIfAsked_cases (library : ScriptLibrary) (play : Play) (id : Nat) :
    (endIfAsked library play id).1 = play ∨
      ∃ run reason, play.session.active = some run ∧ run.ending = some reason ∧
        (endIfAsked library play id).1 = (finish library play reason).1 := by
  unfold endIfAsked
  split
  · next run hrun =>
    split
    · next reason hending =>
      split
      · exact .inr ⟨run, reason, hrun, hending, rfl⟩
      · exact .inl rfl
    · exact .inl rfl
  · exact .inl rfl

/-- Either one of the scripts a line asks for is unknown and nothing has happened yet, or they are
all started, out of turn if others wait and no run has lines left. -/
theorem startAsked_reveals {library : ScriptLibrary} {play : Play} {run : Run}
    (hc : Consistent library play) (hrun : play.session.active = some run)
    (scripts : List String) (id : Nat) :
    (∃ e, startAsked library play scripts = (play, .error e) ∧
      ∃ script ∈ scripts, library.contains script = false) ∨
    ∃ last, startAsked library play scripts = (last, .ok ()) ∧
      Reveals play (endIfAsked library last id).1
        (scripts ≠ [] ∧ (∀ script ∈ scripts, library.contains script = true) ∧
          Exposed play.session) := by
  unfold startAsked
  cases hmissing : scripts.find? fun script => !library.contains script with
  | some missing =>
    have hunknown := List.find?_some hmissing
    rw [Bool.not_eq_true'] at hunknown
    exact .inl ⟨_, rfl, missing, List.mem_of_find?_eq_some hmissing, hunknown⟩
  | none =>
    have hknown := find?_unknown_eq_none_iff.mp hmissing
    simp only [hrun]
    refine .inr ⟨(startAll library play run.master run.owner scripts).1, ?_⟩
    by_cases hnil : scripts = []
    · subst hnil
      refine ⟨rfl, reveals_of_moves hc (endIfAsked_moves id hc.known) ?_ fun h => h.1 rfl⟩
      intro hs
      rcases endIfAsked_cases library play id with h | ⟨_, _, _, _, h⟩
      · exact h.symm ▸ hs
      · exact h.symm ▸ finish_not_stranded _ hc.known
    · obtain ⟨hok, horder, hstranded, hqueue, hending⟩ :=
        startAll_late run.master run.owner hnil hknown hc
      refine ⟨Prod.ext rfl hok, ?_⟩
      rcases endIfAsked_cases library (startAll library play run.master run.owner scripts).1 id
        with h | ⟨active, reason, hactive, hreason, _⟩
      · rw [h]
        refine ⟨horder.trans (and_congr_right fun _ => not_congr ?_), fun _ => ⟨?_, ?_⟩⟩
        · exact ⟨fun h => ⟨hnil, hknown, h⟩, fun h => h.2.2⟩
        · exact fun h => ⟨⟨hnil, hknown, hstranded h⟩, h.1⟩
        · exact fun h => ⟨h.2, hqueue h.1.2.2.1⟩
      · rw [hending active hactive] at hreason
        cases hreason

theorem lateLine_iff {library : ScriptLibrary} {place : Place} {play after : Play} {run : Run}
    {line : ScriptLine} {scripts : List String}
    (h : performAll place run.scope play line.actions = (after, .ok scripts)) :
    LateLine library place play run line ↔
      scripts ≠ [] ∧ (∀ script ∈ scripts, library.contains script = true) ∧
        Exposed after.session := by
  constructor
  · rintro ⟨_, _, h', hlate⟩
    cases h.symm.trans h'
    exact hlate
  · exact fun hlate => ⟨after, scripts, h, hlate⟩

theorem takeLine_reveals {library : ScriptLibrary} (place : Place) {play : Play} {run next : Run}
    (hc : Consistent library play) (hnext : play.session.active = some next)
    (hscope : next.scope = run.scope) (line : ScriptLine) :
    Reveals play (takeLine library place play run line).1
      (LateLine library place play run line) := by
  obtain ⟨hline, hstill⟩ := performAll_moves library place hnext hscope line.actions
  unfold takeLine
  rcases hdone : performAll place run.scope play line.actions with ⟨after, result⟩
  rw [hdone] at hline hstill
  obtain ⟨hcafter, hiff⟩ := hline.inOrder_iff hc
  have hhalt : Moves library play (halt library after run.id) ∧
      (¬Stranded play.session → ¬Stranded (halt library after run.id).session) :=
    ⟨hline.trans (halt_moves run.id hcafter.known),
      fun _ => halt_not_stranded run.id hcafter.known hstill.not_stranded⟩
  cases result with
  | error e =>
    refine reveals_of_moves hc hhalt.1 hhalt.2 ?_
    rintro ⟨_, _, h, _⟩
    cases hdone.symm.trans h
  | ok scripts =>
    obtain ⟨_, _, _, hactive⟩ := id hstill
    simp only
    rw [lateLine_iff hdone]
    rcases startAsked_reveals hcafter hactive scripts run.id with
      ⟨e, h, script, hs, hunknown⟩ | ⟨last, h, hreveals⟩
    · rw [h]
      refine reveals_of_moves hc hhalt.1 hhalt.2 ?_
      rintro ⟨_, hknown, _⟩
      rw [hknown script hs] at hunknown
      cases hunknown
    · rw [h]
      refine ⟨?_, fun _ => hreveals.2 hstill.not_stranded⟩
      rw [← hiff]
      exact hreveals.1

theorem submit_not_stranded {s : Session} (input : PlayerInput) (h : ¬Stranded s) :
    ¬Stranded (s.submit input).2 := by
  unfold submit
  split
  · exact h
  · split
    · exact stranded_of_active rfl
    · exact h

theorem perform_reveals {library : ScriptLibrary} {play : Play} (hc : Consistent library play)
    (op : Op) : Reveals play (perform library play op).1 (ComesLate library play op) := by
  cases op with
  | start request =>
    by_cases hknown : library.contains request.script = true
    · refine ⟨?_, fun hs => ⟨fun h => ?_, fun h => ?_⟩⟩
      · refine (start_inOrder_iff play request hknown hc).trans ?_
        exact and_congr_right fun _ => not_congr (and_iff_right hknown).symm
      · exact ⟨⟨hknown, start_stranded play request hknown h⟩, h.1⟩
      · exact ⟨h.2, start_deferred_ne_nil play request hknown h.1.2.1⟩
    · have hsame : (perform library play (.start request)).1 = play := by
        simp only [perform, start, if_neg hknown]
      refine reveals_of_moves hc ?_ ?_ fun h => hknown h.1
      · rw [hsame]
      · rw [hsame]
        exact id
  | advance place =>
    cases h : lineTaken? library place play with
    | none =>
      obtain ⟨hmoves, hstranded⟩ := advance_of_lineTaken?_eq_none hc.known h
      refine reveals_of_moves hc hmoves hstranded ?_
      rintro ⟨next, run, line, hsome, _⟩
      rw [h] at hsome
      cases hsome
    | some taken =>
      obtain ⟨next, run, line⟩ := taken
      obtain ⟨hadvance, hmoves, hactive⟩ := advance_of_lineTaken?_eq_some h
      obtain ⟨hcnext, hiff⟩ := hmoves.inOrder_iff hc
      have hreveals := takeLine_reveals place hcnext hactive rfl line
      have hlate : ComesLate library play (.advance place) ↔
          LateLine library place next run line := by
        refine ⟨?_, fun hl => ⟨next, run, line, h, hl⟩⟩
        rintro ⟨_, _, _, hsome, hl⟩
        rw [h] at hsome
        cases hsome
        exact hl
      have hperform : (perform library play (.advance place)).1 =
          (takeLine library place next run line).1 := by rw [← hadvance]; rfl
      rw [Reveals, hlate, hperform, ← hiff]
      exact ⟨hreveals.1, fun _ => hreveals.2 (stranded_of_active hactive)⟩
  | submit input =>
    exact reveals_of_moves hc (submit_moves library play input) (submit_not_stranded input) id
  | abort => exact reveals_of_moves hc (abort_moves library play) (fun _ h => h.2 rfl) id
  | drain => exact ⟨(and_iff_left id).symm, fun hs => iff_of_false hs fun h => h.1⟩

theorem run_consistent (library : ScriptLibrary) (stage : Stage) (ops : List Op) :
    Consistent library (run library ⟨.fresh, stage⟩ ops) :=
  (run_induction (P := Consistent library) (consistent_fresh library stage).known
    (consistent_fresh library stage) Step.consistent (fun h => ⟨h.known, h.replayed⟩) ops).2

theorem stranded_iff (s : Session) : ¬Stranded s ↔ (s.state = .idle → s.deferred = []) := by
  rw [Stranded, not_and, state_eq_idle_iff]
  exact forall_congr' fun _ => not_not

/-- No start is left behind, that is, nothing waits whenever the session is idle, exactly if a run
is active after every request that comes late. -/
theorem idle_queue_empty_iff (library : ScriptLibrary) (stage : Stage) (ops : List Op) :
    (∀ before after, ops = before ++ after →
      (run library ⟨.fresh, stage⟩ before).session.state = .idle →
        (run library ⟨.fresh, stage⟩ before).session.deferred = []) ↔
    ∀ before op after, ops = before ++ op :: after →
      ComesLate library (run library ⟨.fresh, stage⟩ before) op →
        (run library ⟨.fresh, stage⟩ (before ++ [op])).session.state ≠ .idle := by
  constructor
  · intro h before op after hops hlate hidle
    have hreveals := (perform_reveals (run_consistent library stage before) op).2
      ((stranded_iff _).mpr (h before (op :: after) hops))
    have hnext := h (before ++ [op]) after (by rw [hops, List.append_assoc]; rfl)
    rw [run_snoc] at hidle hnext
    exact (stranded_iff _).mpr hnext (hreveals.mpr ⟨hlate, (state_eq_idle_iff _).mp hidle⟩)
  · intro h before after hops
    rw [← stranded_iff]
    induction before using List.reverseRecOn generalizing after with
    | nil => exact fun hs => hs.2 rfl
    | append_singleton before op ih =>
      intro hs
      rw [List.append_assoc, List.singleton_append] at hops
      have hreveals := (perform_reveals (run_consistent library stage before) op).2
        (ih (op :: after) hops)
      have hlate := h before op after hops
      rw [run_snoc] at hs hlate
      obtain ⟨hcomes, hidle⟩ := hreveals.mp hs
      exact hlate hcomes ((state_eq_idle_iff _).mpr hidle)

/-- A start whose conditions fail, asked for when the first run is at its end, leaves the session
idle with the other start still waiting. -/
theorem refused_start_strands :
    let library : ScriptLibrary := .ofList
      [("a", .ofSource [] none ["start_event=q", "set_flag=x"]),
        ("q", .ofSource [] none ["set_flag=q_ran"]),
        ("r", .ofSource ["never"] none ["set_flag=r_ran"])]
    let place : Place := ⟨.blank "test_map" 16 16, 0⟩
    let last := (run library ⟨.fresh, ⟨.blank ∅, ∅⟩⟩
      [.start ⟨"a", none, .map⟩, .advance place, .advance place,
        .start ⟨"r", none, .map⟩]).session
    last.state = .idle ∧ last.deferred = [⟨"q", none, .map⟩] := by
  decide +kernel

/-- The queue is what the journal tells, and every start is tried in its turn exactly if no request
comes late. -/
theorem tried_in_turn_iff (library : ScriptLibrary) (stage : Stage) (ops : List Op) :
    let last := (run library ⟨.fresh, stage⟩ ops).session
    waiting last.journal = last.deferred ∧
      (InOrder last.journal ↔ ∀ before op after, ops = before ++ op :: after →
        ¬ComesLate library (run library ⟨.fresh, stage⟩ before) op) := by
  refine ⟨(run_consistent library stage ops).replayed, ?_⟩
  induction ops using List.reverseRecOn with
  | nil => exact iff_of_true (fun _ _ _ h => by simp [run, fresh] at h) (by simp)
  | append_singleton ops op ih =>
    have hreveals := (perform_reveals (run_consistent library stage ops) op).1
    rw [run_snoc, hreveals, ih]
    exact (forall_split_snoc
      (fun before op => ¬ComesLate library (run library ⟨.fresh, stage⟩ before) op) ops op).symm

/-- A start asked for when the first run is at its end begins before the other one, which waits. -/
theorem late_start_overtakes :
    let library : ScriptLibrary := .ofList
      [("a", .ofSource [] none ["start_event=q", "set_flag=x"]),
        ("q", .ofSource [] none ["set_flag=q_ran"]),
        ("r", .ofSource [] none ["set_flag=r_ran"])]
    let place : Place := ⟨.blank "test_map" 16 16, 0⟩
    let last := (run library ⟨.fresh, ⟨.blank ∅, ∅⟩⟩
      [.start ⟨"a", none, .map⟩, .advance place, .advance place,
        .start ⟨"r", none, .map⟩]).session
    last.active.map Run.script = some "r" ∧ last.deferred = [⟨"q", none, .map⟩] ∧
      ¬InOrder last.journal := by
  decide +kernel

end Session

end StoryEngine

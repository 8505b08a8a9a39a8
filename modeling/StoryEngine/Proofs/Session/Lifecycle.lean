import StoryEngine.Proofs.Session.Moves

/-! # Beginnings and ends of runs

What a session puts out tells the beginning and the end of every run. Whatever ends a run, these
outputs alternate, each end is the end of the run begun just before it, and the numbers of the runs
increase.
-/

namespace StoryEngine

set_option autoImplicit false

def Entry.begun? : Entry → Option Run
  | .begun _ _ run => some run
  | _ => none

def Entry.ended? : Entry → Option (Run × EndReason)
  | .ended run reason => some (run, reason)
  | _ => none

theorem Entry.eq_ended {entry : Entry} {run : Run} {reason : EndReason}
    (h : entry.ended? = some (run, reason)) : entry = .ended run reason := by
  cases entry <;> cases h
  rfl

/-- The output that goes with an entry. -/
def Entry.output? : Entry → Option Output
  | .begun _ _ run => some (.runStarted run.script run.owner)
  | .ended run reason => some (.runEnded run.script run.owner reason)
  | _ => none

/-- An entry about no beginning and no end. -/
def Entry.IsSilent (entry : Entry) : Prop :=
  entry.begun? = none ∧ entry.ended? = none ∧ entry.output? = none

namespace Session

/-- The runs begun so far, each as it was at first. -/
def begun (s : Session) : List Run := s.journal.filterMap Entry.begun?

/-- The runs ended so far, each as it was at last. -/
def ended (s : Session) : List (Run × EndReason) := s.journal.filterMap Entry.ended?

def opening (run : Run) : Output := .runStarted run.script run.owner

/-- What is put out about a run that has ended. -/
def bracket (e : Run × EndReason) : List Output :=
  [opening e.1, .runEnded e.1.script e.1.owner e.2]

/-- From one session to another the outputs about runs and the journal have grown alike. -/
def Reports (s t : Session) : Prop :=
  ∃ out entries, t.output = s.output ++ out ∧ t.journal = s.journal ++ entries ∧
    out.filter Output.isLifecycle = entries.filterMap Entry.output?

theorem Reports.refl (s : Session) : Reports s s :=
  ⟨[], [], (List.append_nil _).symm, (List.append_nil _).symm, rfl⟩

theorem Reports.trans {s t u : Session} (h : Reports s t) (h' : Reports t u) : Reports s u := by
  obtain ⟨out, entries, ho, he, h⟩ := h
  obtain ⟨out', entries', ho', he', h'⟩ := h'
  refine ⟨out ++ out', entries ++ entries', ?_, ?_, ?_⟩
  · rw [ho', ho, List.append_assoc]
  · rw [he', he, List.append_assoc]
  · rw [List.filter_append, List.filterMap_append, h, h']

theorem reports_note (s : Session) (entry : Entry) (h : entry.output? = none) :
    Reports s (s.note entry) :=
  ⟨[], [entry], (List.append_nil _).symm, rfl, by simp [h]⟩

theorem GoesOn.reports {s t : Session} {out : List Output} {lines : List (ScriptLine × Bool)}
    (h : GoesOn s t out lines) : Reports s t := by
  refine ⟨out, lines.map fun line => .passed line.1 line.2, h.output, h.journal, ?_⟩
  rw [List.filter_eq_nil_iff.mpr fun o ho => by simp [h.quiet o ho], eq_comm,
    List.filterMap_eq_nil_iff]
  intro entry he
  obtain ⟨line, _, rfl⟩ := List.mem_map.mp he
  rfl

theorem Tried.reports {s t : Session} {request : PendingStart} {waited : Bool}
    (h : Tried s request waited t) : Reports s t := by
  cases h with
  | begun run => exact ⟨[opening run], [.begun request waited run], rfl, rfl, rfl⟩
  | refused => exact reports_note s _ rfl

theorem Move.reports {library : ScriptLibrary} {play next : Play} (h : Move library play next) :
    Reports play.session next.session := by
  cases h with
  | work timers h => exact h.reports
  | act place action hrun => exact .refl _
  | withdraw hrun hother => exact reports_note play.session (.withdrawn _) rfl
  | defer hknown hrun hleft => exact reports_note play.session (.deferred _) rfl
  | finish reason hrun =>
    rw [teardown_session reason hrun]
    exact ⟨[.runEnded _ _ reason], [.ended _ reason], rfl, rfl, rfl⟩
  | resume hknown hidle hnext => exact (begin_of_known _ true hknown).1.reports
  | drop hidle => exact reports_note play.session .dropped rfl

theorem Step.reports {library : ScriptLibrary} {play next : Play} (h : Step library play next) :
    Reports play.session next.session := by
  cases h with
  | move h => exact h.reports
  | tryNow hknown hidle => exact (begin_of_known _ false hknown).1.reports

theorem Steps.reports {library : ScriptLibrary} {play next : Play} (h : Steps library play next) :
    Reports play.session next.session :=
  h.keeps (P := fun next => Reports play.session next.session) (fun h hr => hr.trans h.reports)
    (.refl _)

theorem emitted_lifecycle_from {library : ScriptLibrary} (play : Play)
    (hk : Known library play) (ops : List Op) :
    ∃ entries, (run library play ops).session.journal = play.session.journal ++ entries ∧
      (emitted library play ops).filter Output.isLifecycle =
        play.session.output.filter Output.isLifecycle ++ entries.filterMap Entry.output? := by
  induction ops generalizing play with
  | nil => exact ⟨[], (List.append_nil _).symm, (List.append_nil _).symm⟩
  | cons op rest ih =>
    by_cases hop : op = .drain
    · subst hop
      obtain ⟨entries, hjournal, hout⟩ := ih ⟨{ play.session with output := [] }, play.stage⟩ hk
      refine ⟨entries, hjournal, ?_⟩
      rw [emitted_cons, List.filter_append]
      exact congrArg (play.session.output.filter Output.isLifecycle ++ ·) hout
    · have hsteps := perform_steps hk hop
      obtain ⟨out, entries, ho, he, hsame⟩ := hsteps.reports
      obtain ⟨later, hjournal, hout⟩ := ih _ (hsteps.known hk)
      have hsilent : (perform library play op).2.output = [] := by
        cases op with
        | drain => exact absurd rfl hop
        | _ => rfl
      refine ⟨entries ++ later, ?_, ?_⟩
      · rw [← List.append_assoc, ← he]
        exact hjournal
      · rw [emitted_cons, hsilent, List.nil_append, hout, ho, List.filter_append, hsame,
          List.filterMap_append, List.append_assoc]

theorem emitted_lifecycle (library : ScriptLibrary) (stage : Stage) (ops : List Op) :
    (emitted library ⟨.fresh, stage⟩ ops).filter Output.isLifecycle =
      (run library ⟨.fresh, stage⟩ ops).session.journal.filterMap Entry.output? := by
  obtain ⟨entries, hjournal, hout⟩ := emitted_lifecycle_from ⟨.fresh, stage⟩
    (fun _ h => absurd h List.not_mem_nil) ops
  rw [hout, hjournal]
  rfl

/-- The runs of a session are accounted for: all that began have ended, except the active one. -/
structure Accounted (s : Session) : Prop where
  outputs : s.journal.filterMap Entry.output? =
    s.ended.flatMap bracket ++ s.active.toList.map opening
  ids : s.begun.map Run.id = s.ended.map (fun e => e.1.id) ++ s.active.toList.map Run.id
  increasing : (s.begun.map Run.id).Pairwise (· < ·)
  bounded : ∀ id ∈ s.begun.map Run.id, id ≤ s.lastRun

theorem accounted_fresh : Accounted .fresh where
  outputs := rfl
  ids := rfl
  increasing := List.Pairwise.nil
  bounded := fun _ h => absurd h List.not_mem_nil

theorem begun_of_journal {s t : Session} {entries : List Entry}
    (h : t.journal = s.journal ++ entries) :
    t.begun = s.begun ++ entries.filterMap Entry.begun? := by
  rw [begun, h, List.filterMap_append, begun]

theorem ended_of_journal {s t : Session} {entries : List Entry}
    (h : t.journal = s.journal ++ entries) :
    t.ended = s.ended ++ entries.filterMap Entry.ended? := by
  rw [ended, h, List.filterMap_append, ended]

theorem Accounted.requeue {s : Session} (h : Accounted s) (waiting : List PendingStart) :
    Accounted { s with deferred := waiting } :=
  ⟨h.outputs, h.ids, h.increasing, h.bounded⟩

theorem Accounted.of_silent {s t : Session} (h : Accounted s) {entries : List Entry}
    (hjournal : t.journal = s.journal ++ entries) (hsilent : ∀ e ∈ entries, e.IsSilent)
    (hlast : t.lastRun = s.lastRun)
    (hactive : t.active = s.active ∨ ∃ run, s.active = some run ∧ StillActive run t) :
    Accounted t := by
  have hbegun : t.begun = s.begun := by
    rw [begun_of_journal hjournal, List.filterMap_eq_nil_iff.mpr fun e he => (hsilent e he).1,
      List.append_nil]
  have hended : t.ended = s.ended := by
    rw [ended_of_journal hjournal, List.filterMap_eq_nil_iff.mpr fun e he => (hsilent e he).2.1,
      List.append_nil]
  have houtput : t.journal.filterMap Entry.output? = s.journal.filterMap Entry.output? := by
    rw [hjournal, List.filterMap_append,
      List.filterMap_eq_nil_iff.mpr fun e he => (hsilent e he).2.2, List.append_nil]
  have hopen : t.active.toList.map opening = s.active.toList.map opening ∧
      t.active.toList.map Run.id = s.active.toList.map Run.id := by
    rcases hactive with hactive | ⟨run, hs, _, _, _, ht⟩
    · rw [hactive]
      exact ⟨rfl, rfl⟩
    · rw [hs, ht]
      exact ⟨rfl, rfl⟩
  refine ⟨?_, ?_, ?_, ?_⟩
  · rw [houtput, hended, hopen.1]
    exact h.outputs
  · rw [hbegun, hended, hopen.2]
    exact h.ids
  · rw [hbegun]
    exact h.increasing
  · rw [hbegun, hlast]
    exact h.bounded

theorem Accounted.note {s : Session} (h : Accounted s) {entry : Entry} (hs : entry.IsSilent) :
    Accounted (s.note entry) := by
  have hjournal : (s.note entry).journal = s.journal ++ [entry] := rfl
  exact h.of_silent hjournal (fun _ he => List.mem_singleton.mp he ▸ hs) rfl (.inl rfl)

theorem Accounted.goesOn {s t : Session} {out : List Output} {lines : List (ScriptLine × Bool)}
    (h : Accounted s) (hgo : GoesOn s t out lines) : Accounted t := by
  refine h.of_silent hgo.journal ?_ hgo.lastRun (.inr hgo.run)
  intro entry he
  obtain ⟨line, _, rfl⟩ := List.mem_map.mp he
  exact ⟨rfl, rfl, rfl⟩

theorem Accounted.startRun {s : Session} (h : Accounted s) (hidle : s.active = none)
    (request : PendingStart) (waited : Bool) {run : Run} (hid : run.id = s.lastRun + 1) :
    Accounted (s.startRun request waited run) := by
  have hjournal := startRun_journal s request waited run
  have hbegun : (s.startRun request waited run).begun = s.begun ++ [run] :=
    begun_of_journal hjournal
  have hended : (s.startRun request waited run).ended = s.ended :=
    (ended_of_journal hjournal).trans (List.append_nil _)
  have hids := h.ids
  have houtputs := h.outputs
  rw [hidle] at hids houtputs
  refine ⟨?_, ?_, ?_, ?_⟩
  · rw [hjournal, hended, List.filterMap_append, houtputs]
    simp [Entry.output?, opening]
  · rw [hbegun, hended, List.map_append, hids]
    simp
  · rw [hbegun, List.map_append, List.pairwise_append]
    refine ⟨h.increasing, List.pairwise_singleton _ _, ?_⟩
    intro id hm next hn
    have hle := h.bounded id hm
    rw [List.mem_singleton.mp hn, hid]
    omega
  · intro id hm
    rw [hbegun, List.map_append] at hm
    change id ≤ run.id
    rcases List.mem_append.mp hm with hm | hm
    · have hle := h.bounded id hm
      omega
    · exact Nat.le_of_eq (List.mem_singleton.mp hm)

theorem Accounted.endRun {s : Session} (h : Accounted s) {run : Run} (reason : EndReason)
    (hrun : s.active = some run) : Accounted (s.endRun run reason) := by
  have hjournal := endRun_journal s run reason
  have hbegun : (s.endRun run reason).begun = s.begun :=
    (begun_of_journal hjournal).trans (List.append_nil _)
  have hended : (s.endRun run reason).ended = s.ended ++ [(run, reason)] :=
    ended_of_journal hjournal
  have hids := h.ids
  have houtputs := h.outputs
  rw [hrun] at hids houtputs
  refine ⟨?_, ?_, ?_, ?_⟩
  · rw [hjournal, hended, List.filterMap_append, houtputs]
    simp [bracket, opening, Entry.output?]
  · rw [hbegun, hended, hids]
    simp
  · rw [hbegun]
    exact h.increasing
  · rw [hbegun]
    exact h.bounded

theorem Accounted.tried {s t : Session} {request : PendingStart} {waited : Bool}
    (h : Accounted s) (hidle : s.active = none) (ht : Tried s request waited t) :
    Accounted t := by
  cases ht with
  | begun run hid => exact h.startRun hidle request waited hid
  | refused => exact h.note ⟨rfl, rfl, rfl⟩

theorem Step.accounted {library : ScriptLibrary} {play next : Play}
    (h : Step library play next) (ha : Accounted play.session) : Accounted next.session := by
  cases h with
  | tryNow hknown hidle => exact ha.tried hidle (begin_of_known _ false hknown).1
  | move h =>
    cases h with
    | work timers h => exact ha.goesOn h
    | act place action hrun => exact ha
    | withdraw hrun hother => exact (ha.requeue _).note ⟨rfl, rfl, rfl⟩
    | defer hknown hrun hleft => exact (ha.requeue _).note ⟨rfl, rfl, rfl⟩
    | finish reason hrun =>
      rw [teardown_session reason hrun]
      exact ha.endRun reason hrun
    | @resume request rest hknown hidle hnext =>
      have htried := (begin_of_known
        ⟨{ play.session with deferred := rest }, play.stage⟩ true hknown).1
      exact (ha.requeue rest).tried hidle htried
    | drop hidle => exact (ha.requeue _).note ⟨rfl, rfl, rfl⟩

theorem run_accounted (library : ScriptLibrary) (stage : Stage) (ops : List Op) :
    Accounted (run library ⟨.fresh, stage⟩ ops).session :=
  (run_induction (P := fun play => Accounted play.session)
    (fun _ h => absurd h List.not_mem_nil) accounted_fresh Step.accounted
    (fun h => ⟨h.outputs, h.ids, h.increasing, h.bounded⟩) ops).2

/-- The last output of finished runs and perhaps an active one tells whether one is active. -/
theorem getLast?_brackets (ended : List (Run × EndReason)) (active : Option Run)
    (script : String) (owner : Owner) :
    (ended.flatMap bracket ++ active.toList.map opening).getLast? =
        some (.runStarted script owner) ↔
      ∃ run, active = some run ∧ run.script = script ∧ run.owner = owner := by
  cases active with
  | some run => simp [opening]
  | none =>
    rcases List.eq_nil_or_concat ended with rfl | ⟨before, e, rfl⟩
    · simp
    · simp [bracket]

/-- What a session puts out about runs: one bracket after another for the runs that have ended, then
the beginning of the active run, if there is one. The numbers of the runs that began, which are
these same runs in this order, increase. -/
theorem lifecycle_alternates (library : ScriptLibrary) (stage : Stage) (ops : List Op) :
    let last := (run library ⟨.fresh, stage⟩ ops).session
    let told := (emitted library ⟨.fresh, stage⟩ ops).filter Output.isLifecycle
    told = last.ended.flatMap bracket ++ last.active.toList.map opening ∧
      (∀ script owner, told.getLast? = some (.runStarted script owner) ↔
        ∃ run, last.active = some run ∧ run.script = script ∧ run.owner = owner) ∧
      last.begun.map Run.id =
        last.ended.map (fun e => e.1.id) ++ last.active.toList.map Run.id ∧
      (last.begun.map Run.id).Pairwise (· < ·) := by
  intro last told
  have haccounted := run_accounted library stage ops
  have htold : told = last.ended.flatMap bracket ++ last.active.toList.map opening :=
    (emitted_lifecycle library stage ops).trans haccounted.outputs
  refine ⟨htold, ?_, haccounted.ids, haccounted.increasing⟩
  intro script owner
  rw [htold]
  exact getLast?_brackets last.ended last.active script owner

end Session

end StoryEngine

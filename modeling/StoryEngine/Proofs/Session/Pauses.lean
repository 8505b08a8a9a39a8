import StoryEngine.Proofs.Script.Verbs
import StoryEngine.Proofs.Session.Beats

/-! # Pauses and their timers

The gate of a run that pauses and the timer that the gate waits for are kept apart, and nothing but
the steps of a session holds them together. Where every script was read from texts, a pause stands
alone in its line, and there is a timer exactly while the active run pauses.
-/

namespace StoryEngine

set_option autoImplicit false

def Gate.timer? : Gate → Option String
  | .pause timer => some timer
  | _ => none

namespace Timers

variable {timers : Timers}

theorem keys_eq_nil_iff : timers.keys = [] ↔ timers = ∅ := by
  rw [StringMap.keys, List.map_eq_nil_iff]
  exact ⟨fun h => StringMap.ext_toList h, fun h => congrArg StringMap.toList h⟩

theorem keys_filter (keep : String → Bool) :
    (timers.filter fun name _ => keep name).keys = timers.keys.filter keep :=
  (List.filter_map).symm

theorem keys_erase_of_single {name : String} (h : timers.keys = [name]) :
    (timers.erase name).keys = [] := by
  rw [StringMap.erase, keys_filter fun k => k != name, h]
  simp

theorem inWaitScope_waitMark (scope : String) : inWaitScope scope (scope ++ waitMark) = true := by
  have hrest : Text.afterStart? (scope ++ waitMark).toList (scope ++ waitMark).toList = some [] :=
    (Text.afterStart?_eq_some_iff _ _ _).mpr (List.append_nil _)
  rw [inWaitScope, hrest]

theorem keys_cancelWaitScope {scope : String} (h : timers.keys ⊆ [scope ++ waitMark]) :
    (timers.cancelWaitScope scope).keys = [] := by
  rw [cancelWaitScope, keys_filter fun name => !inWaitScope scope name, List.filter_eq_nil_iff]
  intro name hname
  rw [List.mem_singleton.mp (h hname), inWaitScope_waitMark]
  nofun

theorem keys_start_of_nil (h : timers.keys = []) (name : String) (millis : Nat) (now : Tick) :
    (timers.start name millis now).keys = [name] := by
  rw [keys_eq_nil_iff.mp h]
  rfl

end Timers

namespace Session

/-- There is a timer for the pause of the active run, and no other one. -/
structure Timed (play : Play) : Prop where
  keys : play.stage.timers.keys = (play.session.active.bind fun run => run.gate.timer?).toList
  named : ∀ run timer, play.session.active = some run → run.gate = .pause timer →
    timer = run.scope.waitTimer

structure Unpaused (play : Play) : Prop where
  keys : play.stage.timers.keys = []
  gate : ∀ run, play.session.active = some run → run.gate.timer? = none

theorem Unpaused.timed {play : Play} (h : Unpaused play) : Timed play where
  keys := by
    rw [h.keys]
    cases hrun : play.session.active with
    | none => rfl
    | some run => rw [Option.bind_some, h.gate run hrun]; rfl
  named := by
    intro run timer hrun hgate
    have hnone := h.gate run hrun
    rw [hgate] at hnone
    cases hnone

theorem Timed.unpaused {play : Play} (h : Timed play)
    (hgate : ∀ run, play.session.active = some run → run.gate.timer? = none) : Unpaused play where
  keys := by
    rw [h.keys]
    cases hrun : play.session.active with
    | none => rfl
    | some run => rw [Option.bind_some, hgate run hrun]; rfl
  gate := hgate

theorem Timed.keys_eq_nil {play : Play} {run : Run} (h : Timed play)
    (hrun : play.session.active = some run) (hgate : run.gate.timer? = none) :
    play.stage.timers.keys = [] := by
  rw [h.keys, hrun, Option.bind_some, hgate]
  rfl

theorem unpaused_of_idle {play : Play} (hidle : play.session.active = none)
    (h : play.stage.timers.keys = []) : Unpaused play :=
  ⟨h, fun _ hrun => nomatch hidle.symm.trans hrun⟩

theorem unpaused_of_active {play : Play} {run : Run} (hrun : play.session.active = some run)
    (hgate : run.gate.timer? = none) (h : play.stage.timers.keys = []) : Unpaused play :=
  ⟨h, fun _ hsame => Option.some.inj (hrun.symm.trans hsame) ▸ hgate⟩

theorem timed_of_active {play : Play} {run : Run} (hrun : play.session.active = some run)
    (hgate : run.gate.timer? = none) (h : play.stage.timers.keys = []) : Timed play :=
  (unpaused_of_active hrun hgate h).timed

variable {library : ScriptLibrary}

theorem pollGate_timed (place : Place) {play : Play} {run : Run} (ht : Timed play)
    (hrun : play.session.active = some run) : Timed (pollGate place play run).1 := by
  unfold pollGate
  split
  · exact ht
  · exact ht
  · next timer hgate =>
    have hkeys := ht.keys
    rw [hrun, Option.bind_some, hgate] at hkeys
    split
    · exact timed_of_active rfl rfl (Timers.keys_erase_of_single hkeys)
    · exact ht
  · next handles hgate =>
    refine timed_of_active rfl ?_ (ht.keys_eq_nil hrun (congrArg Gate.timer? hgate))
    simp only
    split <;> rfl

theorem submit_timed {play : Play} (ht : Timed play) (input : PlayerInput) :
    Timed ⟨(play.session.submit input).2, play.stage⟩ := by
  unfold submit
  split
  · exact ht
  · next run hrun =>
    split
    · next skip hgate =>
      exact timed_of_active rfl rfl (ht.keys_eq_nil hrun (congrArg Gate.timer? hgate))
    · exact ht

theorem begin_unpaused (play : Play) (hu : Unpaused play) (request : PendingStart)
    (waited : Bool) : Unpaused (begin library play request waited).1 := by
  unfold begin
  split
  · exact hu
  · simp only
    split
    · refine ⟨hu.keys, ?_⟩
      rintro _ ⟨⟩
      rfl
    · exact ⟨hu.keys, hu.gate⟩

theorem teardown_unpaused {play : Play} {run : Run} (ht : Timed play)
    (hrun : play.session.active = some run) (reason : EndReason) :
    Unpaused (teardown play reason) := by
  refine unpaused_of_idle (teardown_active play reason) ?_
  simp only [teardown, hrun]
  refine Timers.keys_cancelWaitScope fun name hname => ?_
  rw [ht.keys, hrun, Option.bind_some, Option.mem_toList] at hname
  unfold Gate.timer? at hname
  split at hname
  · next timer hgate =>
    cases hname
    exact List.mem_singleton.mpr (ht.named run name hrun hgate)
  · cases hname

theorem Faces.unpaused {play : Play} {run : Run} {line : ScriptLine} (h : Faces library run line)
    (ht : Timed play) (hrun : play.session.active = some run) (held : Bool) :
    Unpaused ⟨play.session.pass run line held, play.stage⟩ := by
  have hgate : run.gate.timer? = none := congrArg Gate.timer? h.gate
  exact unpaused_of_active rfl hgate (ht.keys_eq_nil hrun hgate)

theorem Beat.timed {play next : Play} (h : Beat library play next) (ht : Timed play) :
    Timed next := by
  have hidle (hnone : play.session.active = none) : Unpaused play :=
    ht.unpaused fun _ hrun => nomatch hnone.symm.trans hrun
  -- A run that ends takes its timer with it, and none begins but where none is active.
  cases h with
  | poll place hrun => exact pollGate_timed place ht hrun
  | skip hrun hfaces => exact (hfaces.unpaused ht hrun _).timed
  | answer input => exact submit_timed ht input
  | defer => exact ⟨ht.keys, ht.named⟩
  | finish hrun hcause => exact (teardown_unpaused ht hrun _).timed
  | @resume request rest hnone hnext =>
    have hu := hidle hnone
    exact (begin_unpaused ⟨{ play.session with deferred := rest }, play.stage⟩
      ⟨hu.keys, hu.gate⟩ request true).timed
  | tryNow hknown hnone => exact (begin_unpaused play (hidle hnone) _ false).timed

/-- Only a pause closes a gate on a timer. -/
theorem apply_unpaused {play : Play} (hu : Unpaused play) {directive : Directive}
    (h : ∀ timer, directive ≠ .pause timer) :
    Unpaused ⟨(play.session.apply directive).1, play.stage⟩ := by
  unfold apply
  split
  · exact hu
  · next run hrun =>
    have hgate := hu.gate run hrun
    cases directive with
    | pause timer => exact absurd rfl (h timer)
    | proceed | «show» | transition | startScript => exact ⟨hu.keys, hu.gate⟩
    | awaitInput line skip => cases skip <;> exact unpaused_of_active rfl rfl hu.keys
    | walkers handles =>
      refine unpaused_of_active rfl ?_ hu.keys
      simp only [joinWalkers]
      split <;> rfl
    | jump back lines => cases back <;> exact unpaused_of_active rfl hgate hu.keys
    | endScript script =>
      simp only [endScript]
      split
      · exact unpaused_of_active rfl hgate hu.keys
      · exact ⟨hu.keys, hu.gate⟩
    | forceEnd => exact unpaused_of_active rfl hgate hu.keys

theorem performAll_unpaused (place : Place) (scope : Scope) {play : Play} (hu : Unpaused play)
    {actions : List Action} (h : ∀ action ∈ actions, Dialog.isWait action = false) :
    Unpaused (performAll place scope play actions).1 := by
  refine performAll_keeps (P := Unpaused) (fun now action ha hu => ?_)
    (fun action ha hasks hu => apply_unpaused hu fun timer hpause => ?_) hu
  · have hkept := Dispatch.perform_timers place scope now.stage (h action ha)
    exact ⟨(congrArg StringMap.keys hkept).trans hu.keys, hu.gate⟩
  · have hwait := h action ha
    rw [hpause] at hasks
    cases hasks
    cases hwait

theorem performAll_wait (place : Place) {play : Play} {run : Run} {scope : Scope} {millis : Nat}
    (hu : Unpaused play) (hrun : play.session.active = some run) (hscope : run.scope = scope) :
    Timed (performAll place scope play [.wait millis]).1 := by
  have hdone : Dispatch.perform place scope play.stage (.wait millis) =
      (⟨play.stage.world, play.stage.timers.start scope.waitTimer millis place.now⟩,
        .ok (.pause scope.waitTimer)) := rfl
  simp only [performAll, hdone, apply, hrun]
  refine ⟨Timers.keys_start_of_nil hu.keys _ _ _, ?_⟩
  rintro _ _ ⟨⟩ ⟨⟩
  exact congrArg Scope.waitTimer hscope.symm

/-- A line that was read pauses the run and does nothing else, or does not pause it. -/
theorem performAll_timed (hread : library.IsRead) (place : Place) {play : Play} {run : Run}
    {line : ScriptLine} (ht : Timed play) (hrun : play.session.active = some run)
    (hfaces : Faces library run line) :
    Timed (performAll place run.scope ⟨play.session.pass run line true, play.stage⟩
      line.actions).1 := by
  have hu := hfaces.unpaused ht hrun true
  obtain ⟨script, hscript, hline⟩ := hfaces.found
  obtain ⟨raw, hraw⟩ := (hread _ _ hscript).actions_eq (List.mem_of_getElem? hline)
  -- Anything else beside a pause could close the gate on something other than its timer.
  by_cases hwait : ∃ millis, .wait millis ∈ line.actions
  · obtain ⟨millis, hmillis⟩ := hwait
    rw [hraw] at hmillis ⊢
    rw [Action.parseList_eq_singleton .wait hmillis rfl rfl rfl]
    exact performAll_wait place hu rfl rfl
  · refine (performAll_unpaused place _ hu fun action ha => ?_).timed
    cases action with
    | wait millis => exact absurd ⟨millis, ha⟩ hwait
    | _ => rfl

/-- As long as only a session and conversations have to do with the timers, there are none but the
one for which the active run waits. -/
theorem timers_only_for_pause (hread : library.IsRead) (w : World) (turns : List Turn)
    (hturns : ∀ timers, .timers timers ∉ turns) :
    let last := playOut library ⟨.fresh, ⟨w, ∅⟩⟩ turns
    (last.session.state ≠ .awaitingPause → last.stage.timers = ∅) ∧
      (last.session.state = .awaitingPause → ∃ run, last.session.active = some run ∧
        last.stage.timers.keys = [run.timerScope ++ Timers.waitMark]) := by
  intro last
  have htimed : Timed last := by
    refine playOut_induction (P := Timed) (unpaused_of_idle rfl rfl).timed Beat.timed
      (fun place hrun hfaces ht => performAll_timed hread place ht hrun hfaces)
      (fun ht => ⟨ht.keys, ht.named⟩) (fun ht => ⟨ht.keys, ht.named⟩)
      (fun _ ht => ⟨ht.keys, ht.named⟩) fun timers hmem _ => absurd hmem (hturns timers)
  have hkeys := htimed.keys
  cases hrun : last.session.active with
  | none =>
    have hidle : last.session.state = .idle := (state_eq_idle_iff _).mpr hrun
    rw [hrun] at hkeys
    refine ⟨fun _ => Timers.keys_eq_nil_iff.mp hkeys, fun hpause => ?_⟩
    rw [hidle] at hpause
    cases hpause
  | some run =>
    have hstate : last.session.state = run.state := by
      rw [Session.state, hrun]
      rfl
    rw [hrun, Option.bind_some] at hkeys
    rw [hstate, Run.state]
    cases hgate : run.gate with
    | pause timer =>
      refine ⟨fun hstate => absurd rfl hstate, fun _ => ⟨run, rfl, ?_⟩⟩
      rw [hkeys, hgate]
      exact congrArg (fun name => [name]) (htimed.named run timer hrun hgate)
    | opened | input | walkers =>
      rw [hgate] at hkeys
      exact ⟨fun _ => Timers.keys_eq_nil_iff.mp hkeys, nofun⟩

/-- While the guard waits, an innkeeper is asked for a rest, whose waiting is passed over. Then the
guard is called off. -/
theorem guard_pauses_alone :
    let library : ScriptLibrary := .ofList [("guard", .ofSource [] none ["wait=5", "wait=7"])]
    let place : Place := ⟨.blank "gate" 8 8, 3⟩
    let table : DialogTable := ⟨"Innkeeper", ∅, ∅, none, none,
      .ofList [("rest", [⟨["Sleep well."], none, [], [.wait 60], []⟩])]⟩
    let turns : List Turn := [.request (.start ⟨"guard", none, .map⟩), .request (.advance place),
      .remark ⟨∅, Dialog.defaultNoMatch⟩ ⟨table, "rest", place, none⟩]
    let paused := playOut library ⟨.fresh, ⟨.blank ∅, ∅⟩⟩ turns
    (∃ run, paused.session.active = some run ∧
      paused.stage.timers.keys = [run.timerScope ++ Timers.waitMark]) ∧
    paused.stage.timers.keys = ["guard#1_wait"] ∧
    (playOut library ⟨.fresh, ⟨.blank ∅, ∅⟩⟩ (turns ++ [.request .abort])).stage.timers = ∅ := by
  intro library place table turns paused
  have hread : ScriptLibrary.IsRead library :=
    ScriptLibrary.isRead_ofList fun e he => List.mem_singleton.mp he ▸ ⟨_, _, _, rfl⟩
  have hturns : ∀ timers, .timers timers ∉ turns ++ [.request .abort] := by
    simp [turns]
  have hpaused := (timers_only_for_pause hread (.blank ∅) turns fun timers hmem =>
    hturns timers (List.mem_append_left _ hmem)).2
  have hended := (timers_only_for_pause hread (.blank ∅) _ hturns).1
  exact ⟨hpaused (by decide +kernel), by decide +kernel, hended (by decide +kernel)⟩

end Session

end StoryEngine

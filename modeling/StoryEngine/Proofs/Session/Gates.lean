import StoryEngine.Proofs.Script.Verbs
import StoryEngine.Proofs.Session.Beats
import StoryEngine.Proofs.World.Actors

/-! # Gates

An advance first looks at what the active run waits for. As long as that is not over, all that
happens is that walkers who stand still by now are awaited no longer. Once it is over the gate
opens, the timer that held the run is dropped, and the run goes on.
-/

namespace StoryEngine

set_option autoImplicit false

/-- The handle refers to a living actor who has tiles left to go. -/
def World.Strides (w : World) (h : Handle) : Prop :=
  ∃ actor, w.actor? h = some actor ∧ actor.path ≠ []

namespace Gate

/-- What the gate waits for is not over. -/
def Shut (place : Place) (stage : Stage) : Gate → Prop
  | .opened => False
  | .input _ => True
  | .pause timer => stage.timers.isFinished timer place.now = false
  | .walkers handles => ∃ h ∈ handles, stage.world.Strides h

/-- The gate without the walkers who stand still or are gone. -/
def prune (w : World) : Gate → Gate
  | .walkers handles => .walkers (handles.filter (Session.isWalking w))
  | gate => gate

/-- The timers without the one that the gate was waiting for. -/
def spend (timers : Timers) : Gate → Timers
  | .pause timer => timers.erase timer
  | _ => timers

end Gate

/-- The play once the gate of its run has been opened. -/
def Play.openGate (play : Play) (run : Run) : Play :=
  ⟨play.session.setGate run .opened, ⟨play.stage.world, run.gate.spend play.stage.timers⟩⟩

namespace Session

variable {library : ScriptLibrary} {place : Place} {play : Play} {run : Run} {line : ScriptLine}
  {w : World}

theorem isWalking_iff {h : Handle} : isWalking w h = true ↔ w.Strides h := by
  rw [isWalking, Option.any_eq_true]
  refine exists_congr fun actor => and_congr_right fun _ => ?_
  rw [Actor.isWalking, Bool.not_eq_true', List.isEmpty_eq_false_iff]

theorem filter_isWalking_eq_nil_iff {handles : List Handle} :
    handles.filter (isWalking w) = [] ↔ ∀ h ∈ handles, ¬w.Strides h := by
  rw [List.filter_eq_nil_iff]
  exact forall₂_congr fun _ _ => not_congr isWalking_iff

theorem setGate_self (hrun : play.session.active = some run) :
    play.session.setGate run run.gate = play.session := by
  rw [setGate, ← hrun]

/-- A gate that waits for walkers is shut exactly if some are left of them. -/
theorem shut_walkers_iff {handles : List Handle} {stage : Stage} :
    Gate.Shut place stage (.walkers handles) ↔
      handles.filter (isWalking stage.world) ≠ [] := by
  rw [Ne, filter_isWalking_eq_nil_iff, Gate.Shut]
  simp only [not_forall, not_not, exists_prop]

theorem pollGate_of_shut (hrun : play.session.active = some run)
    (hshut : run.gate.Shut place play.stage) :
    pollGate place play run =
      let gate := run.gate.prune play.stage.world
      (⟨play.session.setGate run gate, play.stage⟩, { run with gate }) := by
  obtain ⟨script, id, pointer, lineCount, master, owner, destroy, gate, ending⟩ := run
  have hself := setGate_self hrun
  cases gate with
  | opened => exact hshut.elim
  | input skip => exact Prod.ext (congrArg (Play.mk · play.stage) hself.symm) rfl
  | pause timer =>
    have hunfinished : play.stage.timers.isFinished timer place.now = false := hshut
    simp only [pollGate, hunfinished, Bool.false_eq_true, if_false]
    exact Prod.ext (congrArg (Play.mk · play.stage) hself.symm) rfl
  | walkers handles =>
    simp only [pollGate, if_neg (shut_walkers_iff.mp hshut)]
    rfl

theorem pollGate_of_over (hrun : play.session.active = some run)
    (hover : ¬run.gate.Shut place play.stage) :
    pollGate place play run = (play.openGate run, { run with gate := .opened }) := by
  obtain ⟨script, id, pointer, lineCount, master, owner, destroy, gate, ending⟩ := run
  cases gate with
  | opened => exact Prod.ext (congrArg (Play.mk · play.stage) (setGate_self hrun).symm) rfl
  | input skip => exact absurd trivial hover
  | pause timer =>
    have hfinished : play.stage.timers.isFinished timer place.now = true :=
      (Bool.not_eq_false _).mp hover
    simp only [pollGate, hfinished, if_true]
    rfl
  | walkers handles =>
    rw [shut_walkers_iff, not_not] at hover
    simp only [pollGate, hover, if_true]
    rfl

theorem prune_ne_opened {gate : Gate} {stage : Stage} (hshut : gate.Shut place stage) :
    gate.prune w ≠ .opened := by
  cases gate with
  | opened => exact hshut.elim
  | input | pause | walkers => nofun

/-- A gate is open after a look at it exactly if what it waited for is over. -/
theorem pollGate_gate_eq_opened_iff (hrun : play.session.active = some run) :
    (pollGate place play run).2.gate = .opened ↔ ¬run.gate.Shut place play.stage := by
  by_cases hshut : run.gate.Shut place play.stage
  · rw [pollGate_of_shut hrun hshut]
    exact iff_of_false (prune_ne_opened hshut) (not_not_intro hshut)
  · rw [pollGate_of_over hrun hshut]
    exact iff_of_true rfl hshut

/-- As long as the gate is shut, an advance lets nothing happen. -/
theorem advance_of_shut (hrun : play.session.active = some run)
    (hshut : run.gate.Shut place play.stage) :
    advance library place play =
      (⟨play.session.setGate run (run.gate.prune play.stage.world), play.stage⟩,
        .ok run.state) := by
  have hstate : Run.state { run with gate := run.gate.prune play.stage.world } = run.state := by
    unfold Run.state
    cases run.gate <;> rfl
  simp only [advance, hrun, pollGate_of_shut hrun hshut, if_neg (prune_ne_opened hshut),
    hstate]

theorem advance_of_over (hrun : play.session.active = some run)
    (hover : ¬run.gate.Shut place play.stage) :
    advance library place play =
      proceed library place (play.openGate run) { run with gate := .opened } := by
  simp only [advance, hrun, pollGate_of_over hrun hover, if_true]

theorem Polled.world_eq {polled : Play} (hp : Polled place play polled) :
    polled.stage.world = play.stage.world := by
  cases hp with
  | idle => rfl
  | @active first hrun =>
    by_cases hshut : first.gate.Shut place play.stage
    · rw [pollGate_of_shut hrun hshut]
    · rw [pollGate_of_over hrun hshut]
      rfl

/-- A line with an action whose verb has no list of targets has no other. -/
theorem Faces.actions_eq_singleton (hfaces : Faces library run line) (hread : library.IsRead)
    (verb : Verb) {action : Action} (haction : action ∈ line.actions)
    (hsound : action.isDegraded = false) (hname : action.verbName = verb.name)
    (hlist : verb.takesList = false) : line.actions = [action] := by
  obtain ⟨script, hscript, hline⟩ := hfaces.found
  obtain ⟨raw, hraw⟩ := (hread _ _ hscript).actions_eq (List.mem_of_getElem? hline)
  rw [hraw] at haction ⊢
  exact Action.parseList_eq_singleton verb haction hsound hname hlist

/-- Who is destroyed does not walk on, and nobody else stops for it. -/
theorem strides_despawn_iff {h k : Handle} : (w.despawn h).Strides k ↔ k ≠ h ∧ w.Strides k := by
  unfold World.Strides
  rw [World.actor?_despawn]
  split
  · next hk => simp [hk]
  · next hk => simp [hk]

/-- Who is warped does not walk on, and nobody else stops for it. -/
theorem strides_warp {scope : Scope} {next : World} {actor target : ActorRef}
    (hdone : Dispatch.warp place scope w actor target = .ok next) :
    ∃ h found, Dispatch.resolve place scope w actor = .ok (h, found) ∧
      ∀ k, next.Strides k ↔ k ≠ h ∧ w.Strides k := by
  obtain ⟨⟨h, found⟩, hfound, hdone⟩ := bind_eq_ok_iff.mp hdone
  obtain ⟨⟨_, goal⟩, _, hdone⟩ := bind_eq_ok_iff.mp hdone
  obtain ⟨_, _, hdone⟩ := bind_eq_ok_iff.mp hdone
  cases hdone
  refine ⟨h, found, hfound, fun k => ?_⟩
  unfold World.Strides
  rw [World.actor?_modifyActor]
  split
  · next hk => simp [hk]
  · next hk => simp [hk]

end Session

end StoryEngine

import Mathlib.Data.List.Induction
import StoryEngine.Proofs.Session.Gates
import StoryEngine.Proofs.World.Strolls

/-! # A walk takes its length

The line that makes an actor walk holds its run for as many rounds as the path has steps, and not
one longer, when nobody is in the way.
-/

namespace StoryEngine

set_option autoImplicit false

namespace World

theorem Strolls.strides_iff {map : GridMap} {w : World} {h : Handle} {actor : Actor}
    {path : List Direction} (hs : Strolls map w h actor path) (n : Nat) :
    (w.modifyActor h (Actor.strolled path n)).Strides h ↔ n < path.length := by
  simp only [Strides, hs.actor?_eq, if_true, Option.some.injEq, exists_eq_left']
  exact (not_congr List.drop_eq_nil_iff).trans Nat.not_le

end World

namespace Session

variable {library : ScriptLibrary} {map : GridMap} {play next : Play} {run : Run}
  {line : ScriptLine} {ref : ActorRef} {path : List Direction} {h : Handle} {w : World}

/-- The run that waits for a walker it has sent off. -/
def awaiting (run : Run) (h : Handle) : Run :=
  { run with pointer := run.pointer + 1, gate := .walkers [h] }

/-- A line that makes an actor walk makes its run wait for that actor and does nothing else. -/
theorem advance_of_walk (hread : library.IsRead) {place : Place}
    (htaken : lineTaken? library place play = some (next, run, line))
    (hwalk : .walk ref path ∈ line.actions)
    (haccepted : Dispatch.walk place run.scope play.stage.world ref path = .ok (h, w)) :
    advance library place play =
      (⟨{ next.session with active := some (awaiting run h) }, ⟨w, next.stage.timers⟩⟩,
        .ok .awaitingWalkers) := by
  obtain ⟨polled, hpolled, _, hfaces, rfl, hadvance⟩ := advance_takes htaken
  have hactions : line.actions = [.walk ref path] :=
    hfaces.actions_eq_singleton hread .walk hwalk rfl rfl rfl
  rw [← hpolled.world_eq] at haccepted
  simp only [hadvance, takeLine, hactions, performAll, Dispatch.perform, haccepted,
    Dispatch.afterWalk, Session.apply, Session.setGate, Session.pass, note, startAsked, startAll,
    endIfAsked, answer, List.find?_nil, Except.map, Option.toList_none, List.append_nil, awaiting,
    joinWalkers, hfaces.ending, hfaces.gate]
  rfl

theorem strolls_of_walk {place : Place} {scope : Scope} {start : World} {actor : Actor}
    (hclear : place.map.blocked = []) (hactor : start.actor? h = some actor)
    (hin : place.map.inBounds actor.position = true)
    (hothers : ∀ k other, start.actor? k = some other → k ≠ h →
      other.hidden = true ∧ other.path = [])
    (haccepted : Dispatch.walk place scope start ref path = .ok (h, w)) :
    start.Strolls place.map h actor path ∧ w = start.modifyActor h (Actor.strolled path 0) := by
  obtain ⟨⟨k, found⟩, hfound, hdone⟩ := bind_eq_ok_iff.mp haccepted
  simp only at hdone
  split at hdone
  · cases hdone
  · next hstays =>
    cases hdone
    cases hactor.symm.trans (Dispatch.actor?_of_resolve hfound)
    exact ⟨⟨hclear, hactor, GridMap.holds_of_leavesAt? hin hstays, hothers⟩, rfl⟩

/-- All that happens while a walk is watched. -/
inductive Pace where
  | round
  | advance (now : Tick)
deriving DecidableEq

namespace Pace

def pass (library : ScriptLibrary) (map : GridMap) (play : Play) : Pace → Play
  | round => ⟨play.session, ⟨(play.stage.world.stepWalkers map).1, play.stage.timers⟩⟩
  | advance now => (Session.advance library ⟨map, now⟩ play).1

def passAll (library : ScriptLibrary) (map : GridMap) (play : Play) (paces : List Pace) :
    Play :=
  paces.foldl (pass library map) play

def rounds (paces : List Pace) : Nat :=
  paces.count round

/-- Whenever the session is asked to go on, fewer rounds than that have passed. -/
def AdvancesBefore (n : Nat) (paces : List Pace) : Prop :=
  ∀ front now, front ++ [advance now] <+: paces → rounds front < n

variable {paces : List Pace} {n : Nat}

@[simp] theorem rounds_append_round : rounds (paces ++ [round]) = rounds paces + 1 := by
  rw [rounds, List.count_append, List.count_singleton_self, rounds]

@[simp] theorem rounds_append_advance (now : Tick) :
    rounds (paces ++ [advance now]) = rounds paces := by
  rw [rounds, List.count_append, List.count_singleton, rounds]
  rfl

theorem advancesBefore_of_rounds_lt (hfew : rounds paces < n) : AdvancesBefore n paces :=
  fun _ _ hfront =>
    Nat.lt_of_le_of_lt (((List.prefix_append _ _).trans hfront).sublist.count_le round) hfew

theorem AdvancesBefore.init {pace : Pace} (hbefore : AdvancesBefore n (paces ++ [pace])) :
    AdvancesBefore n paces :=
  fun front now hfront => hbefore front now (hfront.trans (List.prefix_append _ _))

/-- The play with a walker that many steps on its path. -/
def walked (play : Play) (w : World) (h : Handle) (path : List Direction) (n : Nat) : Play :=
  ⟨play.session, ⟨w.modifyActor h (Actor.strolled path n), play.stage.timers⟩⟩

variable {actor : Actor}

/-- As long as the walker is on its way, every advance leaves everything as it is. -/
theorem advance_walked (hs : w.Strolls map h actor path) (hactive : play.session.active = some run)
    (hgate : run.gate = .walkers [h]) (hn : n < path.length) (now : Tick) :
    Session.advance library ⟨map, now⟩ (walked play w h path n) =
      (walked play w h path n, .ok .awaitingWalkers) := by
  have hstrides : (walked play w h path n).stage.world.Strides h := (hs.strides_iff n).mpr hn
  have hshut : run.gate.Shut ⟨map, now⟩ (walked play w h path n).stage := by
    rw [hgate]
    exact ⟨h, List.mem_singleton_self h, hstrides⟩
  have hprune : run.gate.prune (walked play w h path n).stage.world = run.gate := by
    rw [hgate, Gate.prune, List.filter_singleton, isWalking_iff.mpr hstrides]
    rfl
  have hwaits : (walked play w h path n).session.active = some run := hactive
  rw [advance_of_shut hwaits hshut, hprune, setGate_self hwaits, Run.state, hgate]

/-- Only the rounds count, and each takes the walker one step on. -/
theorem passAll_walked (hs : w.Strolls map h actor path)
    (hactive : play.session.active = some run) (hgate : run.gate = .walkers [h])
    (hbefore : AdvancesBefore path.length paces) :
    passAll library map (walked play w h path 0) paces =
      walked play w h path (rounds paces) := by
  induction paces using List.reverseRecOn with
  | nil => rfl
  | append_singleton paces pace ih =>
    have hnow := ih hbefore.init
    rw [passAll] at hnow
    rw [passAll, List.foldl_append, hnow, List.foldl_cons, List.foldl_nil]
    cases pace with
    | round =>
      rw [rounds_append_round]
      simp only [pass, walked, hs.stepWalkers_eq]
    | advance now =>
      have hn : rounds paces < path.length := hbefore paces now (List.prefix_refl _)
      rw [rounds_append_advance]
      exact congrArg Prod.fst (advance_walked hs hactive hgate hn now)

end Pace

/-- A run that makes an actor walk with nobody in the way is held for as many rounds as the path
has steps, however often it is asked to go on. Each of them takes the actor one step on, so that it
stands at the end of the path once they are over, and the next advance goes on with the script. -/
theorem walk_takes_its_length (hread : library.IsRead) {start : Tick} {actor : Actor}
    (htaken : lineTaken? library ⟨map, start⟩ play = some (next, run, line))
    (hwalk : .walk ref path ∈ line.actions)
    (haccepted : Dispatch.walk ⟨map, start⟩ run.scope play.stage.world ref path = .ok (h, w))
    (hclear : map.blocked = []) (hactor : play.stage.world.actor? h = some actor)
    (hin : map.inBounds actor.position = true)
    (hothers : ∀ k other, play.stage.world.actor? k = some other → k ≠ h →
      other.hidden = true ∧ other.path = []) :
    let sent := advance library ⟨map, start⟩ play
    sent.2 = .ok .awaitingWalkers ∧
    (∀ paces, Pace.rounds paces < path.length →
      let now := Pace.passAll library map sent.1 paces
      (now.stage.world.stepWalkers map).2 = .ok 1 ∧
        ∀ tick, advance library ⟨map, tick⟩ now = (now, .ok .awaitingWalkers)) ∧
    ∀ paces, Pace.AdvancesBefore path.length paces →
      path.length ≤ Pace.rounds paces →
      let now := Pace.passAll library map sent.1 paces
      let free : Run := { run with pointer := run.pointer + 1, gate := .opened }
      let session : Session := { sent.1.session with active := some free }
      now.stage.world.actor? h =
          some { actor with
            position := actor.position.walk path
            facing := path.getLast?.getD actor.facing
            path := [] } ∧
        ∃ script, library.get? run.script = some script ∧ ∀ tick,
          let went := advance library ⟨map, tick⟩ now
          (∀ following, script.lines[run.pointer + 1]? = some following →
            let held := Condition.allHold following.conditions now.stage.world run.master
            let taken : Play := ⟨session.pass free following held, now.stage⟩
            went = if held then takeLine library ⟨map, tick⟩ taken free following
              else (taken, .ok .running)) ∧
          (script.lines[run.pointer + 1]? = none →
            went = answer (finish library ⟨session, now.stage⟩ .completed)) := by
  intro sent
  obtain ⟨polled, _, _, hfaces, _, _⟩ := advance_takes htaken
  obtain ⟨script, hscript, hline⟩ := hfaces.found
  obtain ⟨hs, rfl⟩ := strolls_of_walk hclear hactor hin hothers haccepted
  have hsent := advance_of_walk hread htaken hwalk haccepted
  have hgate : (awaiting run h).gate = .walkers [h] := rfl
  -- The run that has sent off the walker, before the first round.
  let waiting : Play := ⟨{ next.session with active := some (awaiting run h) }, next.stage⟩
  have hactive : waiting.session.active = some (awaiting run h) := rfl
  have hstart : sent.1 = Pace.walked waiting play.stage.world h path 0 := congrArg Prod.fst hsent
  refine ⟨congrArg Prod.snd hsent, fun paces hfew => ?_, fun paces hbefore hlong => ?_⟩
  · intro now
    have hnow : now = Pace.walked waiting play.stage.world h path (Pace.rounds paces) := by
      rw [← Pace.passAll_walked hs hactive hgate (Pace.advancesBefore_of_rounds_lt hfew),
        ← hstart]
    rw [hnow]
    refine ⟨?_, fun tick => Pace.advance_walked hs hactive hgate hfew tick⟩
    exact (congrArg Prod.snd (hs.stepWalkers_eq _)).trans (by rw [if_pos hfew])
  · intro now free session
    have hnow : now = Pace.walked waiting play.stage.world h path (Pace.rounds paces) := by
      rw [← Pace.passAll_walked hs hactive hgate hbefore, ← hstart]
    have hsession : now.session = sent.1.session := by
      rw [hnow, hstart]
      rfl
    have hrun : now.session.active = some (awaiting run h) := by
      rw [hnow]
      rfl
    have hactor : now.stage.world.actor? h =
        some (actor.strolled path (Pace.rounds paces)) := by
      rw [hnow]
      exact (hs.actor?_eq _ h).trans (if_pos rfl)
    have hover (place : Place) : ¬(awaiting run h).gate.Shut place now.stage := by
      rw [hnow]
      rintro ⟨k, hk, hstrides⟩
      cases List.mem_singleton.mp hk
      exact Nat.not_lt_of_le hlong ((hs.strides_iff _).mp hstrides)
    have hgoes (tick : Tick) : advance library ⟨map, tick⟩ now =
        proceed library ⟨map, tick⟩ ⟨session, now.stage⟩ free := by
      rw [advance_of_over hrun (hover _), Play.openGate, setGate, hsession]
      rfl
    refine ⟨hactor.trans (congrArg some (actor.strolled_of_le hlong)), script, hscript, ?_⟩
    intro tick went
    refine ⟨fun following hfollowing => ?_, fun hlast => ?_⟩
    · exact (hgoes tick).trans (proceed_of_line _ _ hfaces.ending hscript hfollowing)
    · exact (hgoes tick).trans (proceed_of_end _ _ hfaces.ending hscript hlast)

/-- A farmer needs five rounds for five tiles, past a mole that is below ground. -/
theorem farmer_arrives_after_five_rounds :
    let library : ScriptLibrary :=
      .ofList [("stroll", .ofSource [] none ["walk=farmer__E3N2", "set_flag=arrived"])]
    let map : GridMap := .blank "field" 8 8
    let farmer : Actor := .arriving "farmer" "npc" ⟨1, 4⟩
    let mole : Actor := { Actor.arriving "mole" "npc" ⟨2, 4⟩ with hidden := true }
    let world := (((World.blank ∅).spawn farmer).2.spawn mole).2
    let begun := playOut library ⟨.fresh, ⟨world, ∅⟩⟩
      [.request (.start ⟨"stroll", none, .map⟩)]
    let sent := (advance library ⟨map, 0⟩ begun).1
    (∀ paces, Pace.rounds paces < 5 →
      let now := Pace.passAll library map sent paces
      (now.stage.world.stepWalkers map).2 = .ok 1 ∧
        ∀ tick, advance library ⟨map, tick⟩ now = (now, .ok .awaitingWalkers)) ∧
    ∀ paces, Pace.AdvancesBefore 5 paces → 5 ≤ Pace.rounds paces →
      (Pace.passAll library map sent paces).stage.world.actor? ⟨0, 0⟩ =
        some { farmer with position := ⟨4, 2⟩, facing := .north } := by
  intro library map farmer mole world begun sent
  let path : List Direction := [.east, .east, .east, .north, .north]
  have hread : ScriptLibrary.IsRead library :=
    ScriptLibrary.isRead_ofList fun e he => List.mem_singleton.mp he ▸ ⟨_, _, _, rfl⟩
  have hline : ∃ taken ∈ lineTaken? library ⟨map, 0⟩ begun,
      .walk (.named "farmer") path ∈ taken.2.2.actions ∧
        ∃ sent ∈ (Dispatch.walk ⟨map, 0⟩ taken.2.1.scope begun.stage.world (.named "farmer")
          path).toOption, sent.1 = ⟨0, 0⟩ := by
    decide +kernel
  obtain ⟨⟨next, run, line⟩, htaken, hwalk, ⟨h, w⟩, haccepted, rfl⟩ := hline
  have hothers : ∀ entry ∈ begun.stage.world.actors.toList, entry.1 ≠ ⟨0, 0⟩ →
      entry.2.hidden = true ∧ entry.2.path = [] := by
    decide +kernel
  have hwalked := walk_takes_its_length hread htaken hwalk (toOption_eq_some_iff.mp haccepted) rfl
    (by decide +kernel : begun.stage.world.actor? ⟨0, 0⟩ = some farmer) (by decide)
    fun k other hother => hothers (k, other) (Arena.mem_toList_iff.mpr hother)
  exact ⟨hwalked.2.1, fun paces hbefore hlong => (hwalked.2.2 paces hbefore hlong).1⟩

end Session

end StoryEngine

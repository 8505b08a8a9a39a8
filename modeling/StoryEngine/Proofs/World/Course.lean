import Mathlib.Data.List.Induction
import StoryEngine.Proofs.World.Changes

/-! # Actors on course

An actor is on course if it stands on the map and the rest of its path stays there. Only the return
of an actor from behind its stand-in can take it off course: it is put where the stand-in is and
keeps the path that was meant to begin elsewhere. As long as no return does so, every actor stays on
course through any sequence of actions and rounds, and no round meets the edge of the map.
-/

namespace StoryEngine

set_option autoImplicit false

namespace GridMap

variable {map : GridMap} {p : Position} {direction : Direction} {path : List Direction}

/-- A path can be followed from a tile, tile by tile, without leaving the map. -/
def Holds (map : GridMap) (p : Position) (path : List Direction) : Prop :=
  ∀ front, front <+: path → map.inBounds (p.walk front) = true

theorem holds_nil : map.Holds p [] ↔ map.inBounds p = true := by
  simp only [Holds, List.prefix_nil, forall_eq]
  exact Iff.rfl

theorem holds_cons :
    map.Holds p (direction :: path) ↔
      map.inBounds p = true ∧ map.Holds (p.step direction) path := by
  constructor
  · intro h
    exact ⟨h [] (List.nil_prefix), fun front hfront =>
      h (direction :: front) (List.cons_prefix_cons.mpr ⟨rfl, hfront⟩)⟩
  · rintro ⟨hin, h⟩ front hfront
    cases front with
    | nil => exact hin
    | cons d front =>
      obtain ⟨rfl, hrest⟩ := List.cons_prefix_cons.mp hfront
      exact h front hrest

instance instDecidableHolds (map : GridMap) :
    ∀ (p : Position) (path : List Direction), Decidable (map.Holds p path)
  | _, [] => decidable_of_iff _ holds_nil.symm
  | p, direction :: path =>
    have := instDecidableHolds map (p.step direction) path
    decidable_of_iff _ holds_cons.symm

theorem Holds.inBounds (h : map.Holds p path) : map.inBounds p = true :=
  h [] List.nil_prefix

theorem holds_of_leavesAt? (hin : map.inBounds p = true)
    (h : Dispatch.leavesAt? map p path = none) : map.Holds p path := by
  induction path generalizing p with
  | nil => exact holds_nil.mpr hin
  | cons direction path ih =>
    rw [Dispatch.leavesAt?] at h
    split at h
    · next hnext => exact holds_cons.mpr ⟨hin, ih hnext h⟩
    · cases h

end GridMap

namespace World

/-- Every actor stands on the map and can follow the rest of its path there. -/
def OnCourse (map : GridMap) (w : World) : Prop :=
  ∀ h actor, w.actor? h = some actor → map.Holds actor.position actor.path

instance (map : GridMap) (w : World) : Decidable (w.OnCourse map) :=
  inferInstanceAs (Decidable (w.Every fun actor => map.Holds actor.position actor.path))

theorem OnCourse.modify {map : GridMap} {w : World} (hw : w.OnCourse map) (h : Handle)
    {change : Actor → Actor}
    (hchange : ∀ actor, w.actor? h = some actor →
      map.Holds (change actor).position (change actor).path) :
    (w.modifyActor h change).OnCourse map :=
  Every.modify hw h hchange

theorem OnCourse.despawn {map : GridMap} {w : World} (hw : w.OnCourse map) (h : Handle) :
    (w.despawn h).OnCourse map :=
  Every.despawn hw h

theorem OnCourse.spawn {map : GridMap} {w : World} (hw : w.OnCourse map) {arrival : Actor}
    (harrival : map.Holds arrival.position arrival.path) :
    (w.spawn arrival).2.OnCourse map :=
  Every.spawn hw harrival

theorem Change.onCourse {map : GridMap} {w next : World} (h : Change map w next)
    (hw : w.OnCourse map) : next.OnCourse map := by
  cases h with
  | others h => exact Every.of_actors_eq hw h
  | arrive name kind facing hp => exact hw.spawn (GridMap.holds_nil.mpr hp)
  | double name kind facing hactor hp =>
    subst hp
    exact hw.spawn (GridMap.holds_nil.mpr (hw _ _ hactor).inBounds)
  | leave h => exact hw.despawn h
  | adjust h hkeeps =>
    refine hw.modify h fun actor hactor => ?_
    rw [(hkeeps actor).1, (hkeeps actor).2]
    exact hw h actor hactor
  | put h hp => exact hw.modify h fun _ _ => GridMap.holds_nil.mpr hp
  | @sendOff h actor path hactor hpath =>
    refine hw.modify h fun found hfound => ?_
    cases hfound.symm.trans hactor
    exact GridMap.holds_of_leavesAt? (hw h actor hfound).inBounds hpath
  | @stride h actor direction path hactor hpath hp =>
    refine hw.modify h fun found hfound => ?_
    cases hfound.symm.trans hactor
    have hholds := hw h actor hfound
    rw [hpath, GridMap.holds_cons] at hholds
    rw [stepAlong, hpath]
    exact hholds.2

theorem Changes.onCourse {map : GridMap} {w next : World} (h : Changes map w next)
    (hw : w.OnCourse map) : next.OnCourse map :=
  h.keeps Change.onCourse hw

theorem OnCourse.stepWalker_ok {map : GridMap} {w : World} (hw : w.OnCourse map) (h : Handle) :
    ∃ moved, (stepWalker map w h).2 = .ok moved := by
  unfold stepWalker
  split
  · exact ⟨_, rfl⟩
  · next actor hactor =>
    split
    · exact ⟨_, rfl⟩
    · next direction path hpath =>
      have hholds := hw h actor hactor
      rw [hpath, GridMap.holds_cons] at hholds
      simp only [hholds.2.inBounds, Bool.not_true, Bool.false_eq_true, if_false]
      split <;> exact ⟨_, rfl⟩

theorem OnCourse.stepEach_ok {map : GridMap} {w : World} (hw : w.OnCourse map)
    (handles : List Handle) : ∃ moved, (stepEach map w handles).2 = .ok moved := by
  induction handles generalizing w with
  | nil => exact ⟨0, rfl⟩
  | cons h rest ih =>
    obtain ⟨moved, hmoved⟩ := hw.stepWalker_ok h
    have hnext := (stepWalker_changes map w h).onCourse hw
    rw [stepEach]
    generalize stepWalker map w h = stepped at *
    obtain ⟨next, result⟩ := stepped
    subst hmoved
    obtain ⟨count, hcount⟩ := ih hnext
    exact ⟨_, congrArg (Except.map _) hcount⟩

/-- No round meets the edge of the map while every actor is on course. -/
theorem OnCourse.stepWalkers_ok {map : GridMap} {w : World} (hw : w.OnCourse map) :
    ∃ moved, (w.stepWalkers map).2 = .ok moved :=
  hw.stepEach_ok _

end World

namespace Dispatch

/-- The name of a stand-in is longer than that of the actor it stands for. -/
theorem not_sameName_standInName (name : String) :
    Text.sameName name (standInName name) = false := by
  rw [← Bool.not_eq_true, Text.sameName_iff]
  intro h
  have hlength := congrArg (fun s => s.toList.length) h
  simp [standInName] at hlength

/-- The actor would take a path from the tile of its stand-in that leads off the map. -/
def ReturnsAstray (place : Place) (scope : Scope) (w : World) (ref : ActorRef) : Prop :=
  ∃ h actor k proxy, resolve place scope w ref = .ok (h, actor) ∧
    w.actors.findByName? (standInName actor.name) = some k ∧ w.actor? k = some proxy ∧
      ¬place.map.Holds proxy.position actor.path

theorem standInEnd_eq_ok_iff {place : Place} {scope : Scope} {w next : World} {ref : ActorRef} :
    standInEnd place scope w ref = .ok next ↔
      ∃ h actor k proxy, resolve place scope w ref = .ok (h, actor) ∧
        w.actors.findByName? (standInName actor.name) = some k ∧ w.actor? k = some proxy ∧
        next = (w.despawn k).modifyActor h fun a =>
          { a with position := proxy.position, facing := proxy.facing, hidden := false } := by
  rw [standInEnd, bind_eq_ok_iff]
  constructor
  · rintro ⟨⟨h, actor⟩, hfound, hdone⟩
    simp only at hdone
    split at hdone
    · cases hdone
    · next k proxy hproxy =>
      cases hdone
      obtain ⟨_, hk, hproxy⟩ := Option.bind_eq_some_iff.mp hproxy
      obtain ⟨_, hproxy, hpair⟩ := Option.map_eq_some_iff.mp hproxy
      cases hpair
      exact ⟨h, actor, k, proxy, hfound, hk, hproxy, rfl⟩
  · rintro ⟨h, actor, k, proxy, hfound, hk, hproxy, rfl⟩
    refine ⟨(h, actor), hfound, ?_⟩
    simp only [hk, hproxy, Option.bind_some, Option.map_some]
    rfl

theorem standIn_ne {place : Place} {scope : Scope} {w : World} {ref : ActorRef} {h k : Handle}
    {actor : Actor} (hfound : resolve place scope w ref = .ok (h, actor))
    (hk : w.actors.findByName? (standInName actor.name) = some k) : h ≠ k := by
  rintro rfl
  obtain ⟨proxy, hproxy, hname⟩ := Arena.get?_of_findByName? hk
  cases hproxy.symm.trans (actor?_of_resolve hfound)
  rw [not_sameName_standInName] at hname
  cases hname

/-- A return keeps every actor on course exactly if the one that returns does not go astray. -/
theorem perform_standInEnd_onCourse_iff (place : Place) {scope : Scope} {stage : Stage}
    (hw : stage.world.OnCourse place.map) (ref : ActorRef) :
    (perform place scope stage (.standInEnd ref)).1.world.OnCourse place.map ↔
      ¬ReturnsAstray place scope stage.world ref := by
  simp only [perform]
  cases hdone : standInEnd place scope stage.world ref with
  | error e =>
    refine iff_of_true hw ?_
    rintro ⟨h, actor, k, proxy, hfound, hk, hproxy, _⟩
    have := standInEnd_eq_ok_iff.mpr ⟨h, actor, k, proxy, hfound, hk, hproxy, rfl⟩
    cases hdone.symm.trans this
  | ok next =>
    obtain ⟨h, actor, k, proxy, hfound, hk, hproxy, rfl⟩ := standInEnd_eq_ok_iff.mp hdone
    have hactor : (stage.world.despawn k).actor? h = some actor := by
      rw [World.actor?_despawn, if_neg (standIn_ne hfound hk), actor?_of_resolve hfound]
    constructor
    · rintro hnext ⟨h', actor', k', proxy', hfound', hk', hproxy', hastray⟩
      cases hfound.symm.trans hfound'
      cases hk.symm.trans hk'
      cases hproxy.symm.trans hproxy'
      have hback := World.actor?_modifyActor (stage.world.despawn k) h (fun a =>
        { a with position := proxy.position, facing := proxy.facing, hidden := false }) h
      rw [if_pos rfl, hactor, Option.map_some] at hback
      exact hastray (hnext h _ hback)
    · intro hstays
      refine (hw.despawn k).modify h fun found hfound' => ?_
      cases hfound'.symm.trans hactor
      by_contra hastray
      exact hstays ⟨h, actor, k, proxy, hfound, hk, hproxy, hastray⟩

end Dispatch

inductive Happening where
  | act (scope : Scope) (now : Tick) (action : Action)
  | round
deriving DecidableEq

namespace Happening

/-- The stage after something has happened, whether or not it failed. -/
def after (map : GridMap) (stage : Stage) : Happening → Stage
  | act scope now action => (Dispatch.perform ⟨map, now⟩ scope stage action).1
  | round => { stage with world := (stage.world.stepWalkers map).1 }

def afterAll (map : GridMap) (stage : Stage) (happenings : List Happening) : Stage :=
  happenings.foldl (after map) stage

/-- Somebody returns from behind a stand-in and goes astray. -/
def LeadsAstray (map : GridMap) (stage : Stage) : Happening → Prop
  | act scope now (.standInEnd ref) => Dispatch.ReturnsAstray ⟨map, now⟩ scope stage.world ref
  | _ => False

theorem after_onCourse_iff {map : GridMap} {stage : Stage} (hw : stage.world.OnCourse map)
    (happening : Happening) :
    (happening.after map stage).world.OnCourse map ↔ ¬happening.LeadsAstray map stage := by
  cases happening with
  | round => exact iff_of_true ((World.stepWalkers_changes map stage.world).onCourse hw) id
  | act scope now action =>
    cases action with
    | standInEnd ref => exact Dispatch.perform_standInEnd_onCourse_iff ⟨map, now⟩ hw ref
    | _ => exact iff_of_true ((Dispatch.perform_changes ⟨map, now⟩ scope stage rfl).onCourse hw) id

/-- From a world in which every actor is on course, every actor stays on course and no round fails
exactly if nobody goes astray on the return from behind a stand-in. -/
theorem on_course_iff (map : GridMap) (stage : Stage) (hw : stage.world.OnCourse map)
    (happenings : List Happening) :
    (∀ before later, happenings = before ++ later →
      (afterAll map stage before).world.OnCourse map ∧
        ∃ moved, ((afterAll map stage before).world.stepWalkers map).2 = .ok moved) ↔
    ∀ before happening later, happenings = before ++ happening :: later →
      ¬happening.LeadsAstray map (afterAll map stage before) := by
  constructor
  · intro h before happening later hsplit
    have hbefore := (h before _ hsplit).1
    have hnext := (h (before ++ [happening]) later (by rw [hsplit, List.append_assoc]; rfl)).1
    rw [afterAll, List.foldl_append] at hnext
    exact (after_onCourse_iff hbefore happening).mp hnext
  · intro h before
    induction before using List.reverseRecOn with
    | nil => exact fun _ _ => ⟨hw, hw.stepWalkers_ok⟩
    | append_singleton before happening ih =>
      intro later hsplit
      rw [List.append_assoc] at hsplit
      have hnext := (after_onCourse_iff (ih _ hsplit).1 happening).mpr
        (h before happening later hsplit)
      rw [afterAll, List.foldl_append]
      exact ⟨hnext, World.OnCourse.stepWalkers_ok hnext⟩

/-- A walker that goes on while its stand-in waits, and then returns to where that one stands. -/
theorem walker_behind_standIn_on_course :
    let map : GridMap := .blank "test_map" 16 16
    let scope : Scope := ⟨"test", none, "test#1"⟩
    let miller : Actor := { Actor.arriving "miller" "npc" ⟨5, 5⟩ with path := [.west, .north] }
    let stage : Stage := ⟨((World.blank ∅).spawn miller).2, ∅⟩
    let happenings : List Happening :=
      [.act scope 0 (.standIn (.named "miller")), .round,
        .act scope 0 (.standInEnd (.named "miller"))]
    stage.world.OnCourse map ∧ ∀ before later, happenings = before ++ later →
      (afterAll map stage before).world.OnCourse map ∧
        ∃ moved, ((afterAll map stage before).world.stepWalkers map).2 = .ok moved := by
  intro map scope miller stage happenings
  have hstart : stage.world.OnCourse map := by decide +kernel
  refine ⟨hstart, (on_course_iff map stage hstart happenings).mpr ?_⟩
  intro before happening later hsplit
  have hsteps : ∀ n < 3, (afterAll map stage (happenings.take n)).world.OnCourse map ∧
      (afterAll map stage (happenings.take (n + 1))).world.OnCourse map := by
    decide +kernel
  have hlength : before.length < 3 := by
    have hlength := congrArg List.length hsplit
    simp only [happenings, List.length_append, List.length_cons, List.length_nil] at hlength
    omega
  obtain ⟨hbefore, hafter⟩ := hsteps before.length hlength
  rw [hsplit, List.take_left] at hbefore
  rw [hsplit, List.take_length_add_append, afterAll, List.foldl_append] at hafter
  exact (after_onCourse_iff hbefore happening).mp hafter

/-- The miller leaves the map on the way that was meant to begin elsewhere. -/
theorem returned_walker_leaves_map :
    let map : GridMap := .blank "test_map" 16 16
    let scope : Scope := ⟨"test", none, "test#1"⟩
    let village := ((World.blank ∅).spawn (.arriving "miller" "npc" ⟨5, 5⟩)).2
    let stage : Stage := ⟨(village.spawn (.arriving "post" "sign" ⟨0, 5⟩)).2, ∅⟩
    let last := afterAll map stage
      [.act scope 0 (.walk (.named "miller") [.west, .west, .west]),
        .act scope 0 (.standIn (.named "miller")),
        .act scope 0 (.warp (.named "miller_stand_in") (.named "post")),
        .act scope 0 (.standInEnd (.named "miller"))]
    stage.world.OnCourse map ∧ ¬last.world.OnCourse map ∧
      (last.world.stepWalkers map).2 = .error (.outOfBounds "miller" ⟨-1, 5⟩ "" "test_map") :=
  ⟨by decide +kernel, by decide +kernel, rfl⟩

end Happening

end StoryEngine

import StoryEngine.Proofs.World.Course

/-! # Actors stand on the map

Some actions look where they put an actor, and the others put it where another one stands. So as
long as everybody stands on the map, everybody does so after whatever is done to them, even if it
breaks off half-way.
-/

namespace StoryEngine

set_option autoImplicit false

namespace World

def OnMap (map : GridMap) (w : World) : Prop :=
  w.Every fun actor => map.inBounds actor.position = true

instance (map : GridMap) (w : World) : Decidable (w.OnMap map) :=
  inferInstanceAs (Decidable (w.Every fun actor => map.inBounds actor.position = true))

variable {map : GridMap} {w next : World}

theorem Change.onMap (h : Change map w next) (hw : w.OnMap map) : next.OnMap map := by
  cases h with
  | others h => exact Every.of_actors_eq hw h
  | arrive name kind facing hp => exact Every.spawn hw hp
  | double name kind facing hactor hp =>
    subst hp
    have hin := hw _ _ hactor
    exact Every.spawn hw hin
  | leave h => exact Every.despawn hw h
  | adjust h hkeeps =>
    refine Every.modify hw h fun actor hactor => ?_
    rw [(hkeeps actor).1]
    exact hw h actor hactor
  | put h hp => exact Every.modify hw h fun _ _ => hp
  | sendOff => exact Every.modify hw _ fun actor hactor => hw _ actor hactor
  | stride hactor hpath hp => exact Every.modify hw _ fun _ _ => hp

theorem Changes.onMap (h : Changes map w next) (hw : w.OnMap map) : next.OnMap map :=
  h.keeps Change.onMap hw

end World

namespace Dispatch

/-- An actor that returns takes the tile of its stand-in, who stood on the map. -/
theorem standInEnd_onMap {place : Place} {scope : Scope} {w next : World} {ref : ActorRef}
    (hdone : standInEnd place scope w ref = .ok next) (hw : w.OnMap place.map) :
    next.OnMap place.map := by
  obtain ⟨h, actor, k, proxy, _, _, hproxy, rfl⟩ := standInEnd_eq_ok_iff.mp hdone
  have hin : place.map.inBounds proxy.position = true := hw k proxy hproxy
  exact World.Every.modify (World.Every.despawn hw k) h fun _ _ => hin

theorem perform_onMap (place : Place) (scope : Scope) {stage : Stage}
    (hw : stage.world.OnMap place.map) (action : Action) :
    (perform place scope stage action).1.world.OnMap place.map := by
  cases hreturns : returns action with
  | false => exact (perform_changes place scope stage hreturns).onMap hw
  | true =>
    cases action with
    | standInEnd ref =>
      simp only [perform]
      cases hdone : standInEnd place scope stage.world ref with
      | error e => exact hw
      | ok next => exact standInEnd_onMap hdone hw
    | _ => cases hreturns

end Dispatch

namespace Happening

theorem after_onMap {map : GridMap} {stage : Stage} (hw : stage.world.OnMap map)
    (happening : Happening) : (happening.after map stage).world.OnMap map := by
  cases happening with
  | act scope now action => exact Dispatch.perform_onMap ⟨map, now⟩ scope hw action
  | round => exact (World.stepWalkers_changes map stage.world).onMap hw

/-- From a world in which everybody stands on the map nothing that is done, and no round, takes
anybody off it, whether it succeeds or fails. -/
theorem stay_on_map (map : GridMap) (stage : Stage) (hw : stage.world.OnMap map)
    (happenings : List Happening) : (afterAll map stage happenings).world.OnMap map := by
  induction happenings using List.reverseRecOn with
  | nil => exact hw
  | append_singleton before happening ih =>
    rw [afterAll, List.foldl_append]
    exact after_onMap ih happening

/-- The hero comes back behind a post in the corner and would go on to the east from there. Two
crates have been put on the map, and two more would not fit. -/
theorem hero_stays_in_the_corner :
    let map : GridMap := .blank "yard" 4 4
    let scope : Scope := ⟨"test", none, "test#1"⟩
    let yard := ((World.blank ∅).spawn (.arriving "hero" "npc" ⟨1, 1⟩)).2
    let stage : Stage := ⟨(yard.spawn (.arriving "post" "sign" ⟨3, 3⟩)).2, ∅⟩
    let last := afterAll map stage
      [.act scope 0 (.spawn ⟨"crate", ⟨0, 3⟩, some (.east, 2)⟩),
        .act scope 0 (.spawn ⟨"crate", ⟨3, 0⟩, some (.east, 2)⟩),
        .act scope 0 (.walk (.named "hero") [.north, .north]),
        .act scope 0 (.walk (.named "hero") [.north, .east]), .round,
        .act scope 0 (.standIn (.named "hero")),
        .act scope 0 (.warp (.named "hero_stand_in") (.named "post")),
        .act scope 0 (.standInEnd (.named "hero")), .round]
    stage.world.OnMap map ∧ last.world.OnMap map ∧
      last.world.actors.toList.map (fun entry => (entry.2.name, entry.2.position)) =
        [("hero", ⟨3, 3⟩), ("post", ⟨3, 3⟩), ("crate", ⟨0, 3⟩), ("crate", ⟨1, 3⟩)] ∧
      (last.world.stepWalkers map).2 = .error (.outOfBounds "hero" ⟨4, 3⟩ "" "yard") := by
  intro map scope yard stage last
  have hstart : stage.world.OnMap map := by decide +kernel
  exact ⟨hstart, stay_on_map map stage hstart _, by decide +kernel, by decide +kernel⟩

end Happening

end StoryEngine

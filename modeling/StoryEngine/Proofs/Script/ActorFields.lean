import StoryEngine.Proofs.Script.Forms

/-! # Actors in values

Where a value names an actor, `self` and `master` stand for the master of the run, in small or
capital letters. One field is read in another way: the target of a warp is always a name, so that
no actor can be sent to the master by these words.
-/

namespace StoryEngine

set_option autoImplicit false

open Text (trim sameName splitAll)
open Script (fields fieldMark)

/-- The two words for the master of the run. -/
def ActorRef.IsSelf (text : String) : Prop :=
  sameName (trim text) "self" = true ∨ sameName (trim text) "master" = true

@[simp] theorem ActorRef.parse_empty : parse "" = .master := rfl

@[simp] theorem ActorRef.parse_trim (text : String) : parse (trim text) = parse text := by
  simp only [parse, Text.trim_trim]

theorem ActorRef.parse_of_isSelf {text : String} (h : IsSelf text) : parse text = .master := by
  rcases h with h | h <;> simp [parse, h]

/-- What stands in a value for actors, in order. One that is left out is as good as blank. -/
def Verb.actorTexts (verb : Verb) (value : String) : List String :=
  match verb with
  | walk | face =>
    match splitAll fieldMark value with
    | [_] => [""]
    | [actor, _] => [actor]
    | _ => []
  | warp =>
    match splitAll fieldMark value with
    | [actor, target] => [actor, target]
    | _ => []
  | setArg =>
    match splitAll fieldMark value with
    | [actor, _, _] => [actor]
    | _ => []
  | standIn | standInEnd => [value]
  | _ => []

namespace Action

open ActionField

def actorRefs : Action → List ActorRef
  | walk actor _ | standIn actor | standInEnd actor | setArg actor _ _ | face actor _ => [actor]
  | warp actor target => [actor, target]
  | _ => []

section

variable {raw value text : String} {verb : Verb} {action : Action} {i : Nat}

/-- All actors are read alike, except by a warp. -/
theorem actorRefs_of_build (h : build value verb = .ok action) (hverb : verb ≠ .warp)
    (hsome : verb.actorTexts value ≠ []) :
    action.actorRefs = (verb.actorTexts value).map .parse := by
  cases verb with
  | warp => exact absurd rfl hverb
  | standIn | standInEnd =>
    cases h
    rfl
  | walk | face =>
    simp only [build, ActionField.walk, ActionField.face, fields] at h
    simp only [Verb.actorTexts] at hsome ⊢
    generalize splitAll fieldMark value = pieces at h hsome ⊢
    rcases pieces with _ | ⟨first, _ | ⟨second, _ | ⟨extra, rest⟩⟩⟩
    case nil => exact absurd rfl hsome
    case cons.cons.cons => exact absurd rfl hsome
    all_goals
      simp only [List.map_cons, List.map_nil] at h
      obtain ⟨_, _, rfl⟩ := map_eq_ok_iff.mp h
      simp [actorRefs]
  | setArg =>
    simp only [build, ActionField.setArg, fields] at h
    simp only [Verb.actorTexts] at hsome ⊢
    generalize splitAll fieldMark value = pieces at h hsome ⊢
    rcases pieces with _ | ⟨actor, _ | ⟨key, _ | ⟨update, _ | ⟨extra, rest⟩⟩⟩⟩
    case cons.cons.cons.nil =>
      simp only [List.map_cons, List.map_nil] at h
      obtain ⟨_, _, h⟩ := bind_eq_ok_iff.mp h
      obtain ⟨_, _, h⟩ := bind_eq_ok_iff.mp h
      cases h
      simp [actorRefs]
    all_goals exact absurd rfl hsome
  | _ => exact absurd rfl hsome

theorem eq_trim_of_name {label result : String} (h : name label value = .ok result) :
    result = trim value := by
  unfold name at h
  split at h
  · cases h
  · exact (Except.ok.inj h).symm

/-- A warp takes its target for a name, whatever it says. -/
theorem actorRefs_of_warp (h : build value .warp = .ok action) :
    ∃ actor target, Verb.warp.actorTexts value = [actor, target] ∧
      action.actorRefs = [.parse actor, .named (trim target)] := by
  simp only [build, ActionField.warp, fields] at h
  simp only [Verb.actorTexts]
  generalize splitAll fieldMark value = pieces at h ⊢
  rcases pieces with _ | ⟨actor, _ | ⟨target, _ | ⟨extra, rest⟩⟩⟩
  case cons.cons.nil =>
    simp only [List.map_cons, List.map_nil] at h
    obtain ⟨_, hnamed, rfl⟩ := map_eq_ok_iff.mp h
    exact ⟨actor, target, rfl, by simp [actorRefs, eq_trim_of_name hnamed]⟩
  all_goals simp at h

/-- A word for the master means the master in every field for an actor but the target of a warp. -/
theorem eq_master_iff (h : build value verb = .ok action)
    (htext : (verb.actorTexts value)[i]? = some text) (hself : ActorRef.IsSelf text) :
    ∃ ref, action.actorRefs[i]? = some ref ∧ (ref = .master ↔ ¬(verb = .warp ∧ i = 1)) := by
  by_cases hverb : verb = .warp
  · obtain rfl := hverb
    obtain ⟨actor, target, htexts, hrefs⟩ := actorRefs_of_warp h
    rw [htexts] at htext
    rw [hrefs]
    match i with
    | 0 =>
      cases htext
      exact ⟨_, rfl, iff_of_true (ActorRef.parse_of_isSelf hself) (by simp)⟩
    | 1 => exact ⟨_, rfl, iff_of_false ActorRef.noConfusion (by simp)⟩
    | i + 2 => cases htext
  · have hsome : verb.actorTexts value ≠ [] := fun hnone => by
      rw [hnone] at htext
      cases htext
    refine ⟨.parse text, ?_, iff_of_true (ActorRef.parse_of_isSelf hself) fun hwarp => hverb hwarp.1⟩
    rw [actorRefs_of_build h hverb hsome, List.getElem?_map, htext]
    rfl

theorem build_of_fits (h : verb.form.fits value = true) :
    build value verb = .ok (ofVerb verb value) := by
  have hok : (build value verb).isOk = true := by rw [isOk_build, h, Bool.true_or]
  unfold ofVerb
  cases hbuild : build value verb with
  | ok action => rfl
  | error fault =>
    rw [hbuild] at hok
    cases hok

/-- In an instruction that fits its verb, `self` and `master` are read as the master of the run in
every field for an actor, except that the target of a warp is read as a name. -/
theorem self_is_master_iff {target : String} (hraw : Instructs raw verb value)
    (htarget : target ∈ verb.targets value) (hfits : verb.form.fits target = true)
    (htext : (verb.actorTexts target)[i]? = some text) (hself : ActorRef.IsSelf text) :
    ∃ action ∈ parseList raw, action = ofVerb verb target ∧ action.isDegraded = false ∧
      ∃ ref, action.actorRefs[i]? = some ref ∧ (ref = .master ↔ ¬(verb = .warp ∧ i = 1)) := by
  have hbuild := build_of_fits hfits
  refine ⟨ofVerb verb target, ?_, rfl, (usable_of_build hbuild).2, eq_master_iff hbuild htext hself⟩
  rw [parseList_of_instructs hraw]
  exact List.mem_map_of_mem htarget

theorem walker_is_master :
    let raw := " Walk = SELF\t__N2"
    let target := "SELF\t__N2"
    Instructs raw .walk target ∧ target ∈ Verb.walk.targets target ∧
      Verb.walk.form.fits target = true ∧ (Verb.walk.actorTexts target)[0]? = some "SELF\t" ∧
      ActorRef.IsSelf "SELF\t" ∧ walk .master [.north, .north] ∈ parseList raw := by
  intro raw target
  have hraw : Instructs raw .walk target := ⟨"Walk ", " SELF\t__N2", by decide +kernel⟩
  have htarget : target ∈ Verb.walk.targets target := List.mem_singleton_self _
  have hfits : Verb.walk.form.fits target = true := by decide +kernel
  have htext : (Verb.walk.actorTexts target)[0]? = some "SELF\t" := by decide +kernel
  have hself : ActorRef.IsSelf "SELF\t" := .inl (by decide +kernel)
  obtain ⟨action, hmem, rfl, _⟩ := self_is_master_iff hraw htarget hfits htext hself
  have haction : ofVerb .walk target = walk .master [.north, .north] := by decide +kernel
  exact ⟨hraw, htarget, hfits, htext, hself, haction ▸ hmem⟩

theorem warp_to_self_is_named :
    Verb.warp.form.fits "bob__self" = true ∧ ActorRef.IsSelf "self" ∧
      parseList "warp=bob__self" = [warp (.named "bob") (.named "self")] :=
  ⟨by decide +kernel, .inl (by decide +kernel), by decide +kernel⟩

end

end Action

end StoryEngine

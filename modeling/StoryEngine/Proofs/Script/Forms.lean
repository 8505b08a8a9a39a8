import StoryEngine.Proofs.Script.Instructions
import StoryEngine.Proofs.Text.Numerals

/-! # The forms of values

What the value of a verb is made of, as a table: fields of certain kinds, joined by `__` where there
are several. A value is read exactly if it fits the form of its verb, but for two things that are
too much and are let pass: further fields behind the count of an item, and a value for `force_end`.
-/

namespace StoryEngine

set_option autoImplicit false

open Text (trim)
open Text.Numeral (natBelow? intWithin? count32 count64 signed64)
open Script (fields)

inductive FieldKind where
  | name
  | count (bound : Nat)
  | coordinate
  | direction
  | path
  | actor
  | argument
  | text
deriving DecidableEq

namespace FieldKind

/-- A name is not blank, and an argument with a sign in front is a change by a number. An actor may
be left out, and a text may be anything. -/
def accepts (kind : FieldKind) (s : String) : Bool :=
  match kind with
  | name => trim s != ""
  | count bound => (natBelow? bound (trim s)).isSome
  | coordinate => (intWithin? Text.Numeral.coordinate (trim s)).isSome
  | direction => (Direction.parse? s).isSome
  | path => (WalkPath.parse s).isOk
  | argument =>
    match (trim s).toList with
    | '+' :: amount => (intWithin? signed64 (trim (.ofList amount))).isSome
    | '-' :: _ => (intWithin? signed64 (trim s)).isSome
    | _ => true
  | actor | text => true

/-- Each field is of its kind, and none is missing or left over. A text takes all that is left. -/
def fitsRow : List FieldKind → List String → Bool
  | [], fields => fields.isEmpty
  | _ :: _, [] => false
  | kind :: kinds, field :: rest => kind.accepts field && (kind = text || fitsRow kinds rest)

@[simp] theorem accepts_actor (s : String) : actor.accepts s = true := rfl

@[simp] theorem accepts_text (s : String) : FieldKind.text.accepts s = true := rfl

end FieldKind

/-- How values are written. Where there is but one field it is the whole value, and only several
fields are parted by a mark. -/
inductive ValueForm where
  | nothing
  | whole (kind : FieldKind)
  | parted (rows : List (List FieldKind))
deriving DecidableEq

def ValueForm.fits : ValueForm → String → Bool
  | nothing, value => trim value == ""
  | whole kind, value => kind.accepts value
  | parted rows, value => rows.any fun row => FieldKind.fitsRow row (fields value)

namespace Verb

def tileRows : List (List FieldKind) :=
  [[.name, .coordinate, .coordinate], [.name, .coordinate, .coordinate, .direction, .count count32]]

def form : Verb → ValueForm
  | setFlag | clearFlag | removeFlag | resetFlags => .whole .name
  | giveGold | takeGold => .whole (.count count64)
  | giveItem | takeItem => .parted [[.name], [.name, .count count32]]
  | jump | unjump => .whole (.count count64)
  | startEvent | endEvent => .whole .name
  | forceEnd => .nothing
  | text | textNoWait => .whole .text
  | question => .parted [[.count count64, .text]]
  | walk => .parted [[.path], [.actor, .path]]
  | warp => .parted [[.actor, .name]]
  | spawn => .parted tileRows
  | destroy => .parted ([.name] :: tileRows)
  | standIn | standInEnd => .whole .actor
  | teleport => .parted [[.name, .coordinate, .coordinate]]
  | forceCombat => .whole .name
  | setArg => .parted [[.actor, .name, .argument]]
  | wait => .whole (.count count64)
  | startQuest | completeQuest | failQuest => .whole .name
  | startStep | completeStep | failStep | revealHint => .parted [[.name, .name]]
  | joinParty | leaveParty => .whole .name
  | face => .parted [[.direction], [.actor, .direction]]

/-- The value has more than its verb can use, and the rest of it fits. -/
def takesSurplus (verb : Verb) (value : String) : Bool :=
  match verb, fields value with
  | giveItem, item :: count :: _ :: _ | takeItem, item :: count :: _ :: _ =>
    FieldKind.name.accepts item && (FieldKind.count count32).accepts count
  | forceEnd, _ => trim value != ""
  | _, _ => false

theorem not_fits_of_takesSurplus {verb : Verb} {value : String}
    (h : verb.takesSurplus value = true) : verb.form.fits value = false := by
  unfold takesSurplus at h
  split at h
  · next hfields => simp [form, ValueForm.fits, FieldKind.fitsRow, hfields]
  · next hfields => simp [form, ValueForm.fits, FieldKind.fitsRow, hfields]
  · simpa [form, ValueForm.fits] using h
  · cases h

theorem takesSurplus_of_whole {verb : Verb} {kind : FieldKind} {value : String}
    (hform : verb.form = .whole kind) : verb.takesSurplus value = false := by
  cases verb <;> cases hform <;> rfl

end Verb

namespace ActionField

variable (label value : String)

theorem isOk_name : (name label value).isOk = FieldKind.name.accepts value := by
  simp only [name, FieldKind.accepts]
  split <;> simp [*]

theorem isOk_count (bound : Nat) :
    (count bound label value).isOk = (FieldKind.count bound).accepts value := by
  simp only [FieldKind.accepts]
  unfold count
  cases natBelow? bound (trim value) <;> rfl

theorem isOk_number (bound : Nat) :
    (number bound label value).isOk = (intWithin? bound (trim value)).isSome := by
  unfold number
  cases intWithin? bound (trim value) <;> rfl

theorem isOk_direction : (direction value).isOk = FieldKind.direction.accepts value := by
  simp only [FieldKind.accepts]
  unfold direction
  cases Direction.parse? value <;> rfl

theorem isOk_path : (path value).isOk = FieldKind.path.accepts value :=
  isOk_mapError _ _

theorem isOk_position (x y : String) :
    (position x y).isOk = (FieldKind.coordinate.accepts x && FieldKind.coordinate.accepts y) := by
  simp only [position, bind_pure_comp, isOk_bind_fmap, isOk_number, FieldKind.accepts]

theorem isOk_argUpdate : (argUpdate value).isOk = FieldKind.argument.accepts value := by
  simp only [argUpdate, FieldKind.accepts]
  split
  · next hnow =>
    have hchars := congrArg String.toList ((Text.sameName_iff _ _).mp hnow)
    simp only [Text.toList_asciiLower] at hchars
    -- What starts with a sign is not `now`.
    rcases htext : (trim value).toList with _ | ⟨c, rest⟩
    · rfl
    · have hsign : c ≠ '+' ∧ c ≠ '-' := by
        rw [htext] at hchars
        constructor <;>
        · rintro rfl
          cases hchars
      simp [hsign]
  · rcases htext : (trim value).toList with _ | ⟨c, rest⟩
    · rfl
    · by_cases hplus : c = '+'
      · simp [hplus, isOk_number]
      · by_cases hminus : c = '-'
        · simp [hminus, isOk_number]
        · simp [hplus, hminus]

theorem isOk_questPart :
    (questPart value).isOk = (ValueForm.parted [[.name, .name]]).fits value := by
  simp only [questPart, ValueForm.fits, bind_pure_comp]
  rcases fields value with _ | ⟨quest, _ | ⟨part, _ | ⟨extra, rest⟩⟩⟩ <;>
    simp [isOk_name, FieldKind.fitsRow]

theorem isOk_itemCount (verb : Verb) (hverb : verb = .giveItem ∨ verb = .takeItem) :
    (itemCount value).isOk = (verb.form.fits value || verb.takesSurplus value) := by
  rcases hverb with rfl | rfl <;>
  · simp only [itemCount, Verb.form, ValueForm.fits, Verb.takesSurplus, bind_pure_comp]
    rcases fields value with _ | ⟨item, _ | ⟨given, _ | ⟨extra, rest⟩⟩⟩ <;>
      simp [isOk_name, isOk_count, FieldKind.fitsRow]

theorem isOk_tileRun :
    (tileRun value).isOk = (ValueForm.parted Verb.tileRows).fits value := by
  simp only [tileRun, ValueForm.fits, Verb.tileRows, bind_pure_comp]
  rcases fields value with _ | ⟨kind, _ | ⟨x, _ | ⟨y, _ | ⟨along, _ | ⟨times, _ | ⟨extra, rest⟩⟩⟩⟩⟩⟩
  case cons.cons.cons.cons.cons.nil =>
    -- The direction and the count are read before the kind and the place.
    simp only
    rw [isOk_bind ((FieldKind.count count32).accepts times &&
      FieldKind.fitsRow [.name, .coordinate, .coordinate] [kind, x, y])]
    · simp [isOk_direction, FieldKind.fitsRow, Bool.and_assoc, Bool.and_comm, Bool.and_left_comm]
    · intro _
      rw [isOk_bind (FieldKind.fitsRow [.name, .coordinate, .coordinate] [kind, x, y]), isOk_count]
      simp [isOk_name, isOk_position, FieldKind.fitsRow]
  all_goals simp [isOk_name, isOk_position, FieldKind.fitsRow]

theorem isOk_question : (question value).isOk = Verb.question.form.fits value := by
  simp only [question, Verb.form, ValueForm.fits]
  cases hcut : Text.splitFirst Script.fieldMark value with
  | none =>
    have hone : Text.occursIn Script.fieldMark value = false := by simp [Text.occursIn, hcut]
    simp [Script.fields_of_not_occursIn hone, FieldKind.fitsRow]
  | some parts =>
    rw [Script.fields_of_splitFirst hcut]
    obtain ⟨text, more, hmore⟩ := List.exists_cons_of_ne_nil (Script.fields_ne_nil parts.2)
    simp [hmore, FieldKind.fitsRow, isOk_count, FieldKind.accepts]

theorem isOk_walk : (walk value).isOk = Verb.walk.form.fits value := by
  simp only [walk, Verb.form, ValueForm.fits]
  rcases fields value with _ | ⟨first, _ | ⟨steps, _ | ⟨extra, rest⟩⟩⟩ <;>
    simp [isOk_path, FieldKind.fitsRow]

theorem isOk_face : (face value).isOk = Verb.face.form.fits value := by
  simp only [face, Verb.form, ValueForm.fits]
  rcases fields value with _ | ⟨first, _ | ⟨facing, _ | ⟨extra, rest⟩⟩⟩ <;>
    simp [isOk_direction, FieldKind.fitsRow]

theorem isOk_warp : (warp value).isOk = Verb.warp.form.fits value := by
  simp only [warp, Verb.form, ValueForm.fits]
  rcases fields value with _ | ⟨actor, _ | ⟨target, _ | ⟨extra, rest⟩⟩⟩ <;>
    simp [isOk_name, FieldKind.fitsRow]

/-- The name of what is to go has no mark in it, and every run of tiles has. -/
theorem isOk_destroy : (destroy value).isOk = Verb.destroy.form.fits value := by
  simp only [destroy, Verb.form, ValueForm.fits, List.any_cons]
  split
  · next hmark =>
    obtain ⟨parts, hcut⟩ := Option.isSome_iff_exists.mp hmark
    obtain ⟨second, more, hmore⟩ := List.exists_cons_of_ne_nil (Script.fields_ne_nil parts.2)
    rw [isOk_map, isOk_tileRun, ValueForm.fits, Script.fields_of_splitFirst hcut, hmore]
    simp [FieldKind.fitsRow]
  · next hmark =>
    rw [Bool.not_eq_true] at hmark
    simp [Script.fields_of_not_occursIn hmark, FieldKind.fitsRow, Verb.tileRows, isOk_name,
      FieldKind.accepts]

theorem isOk_teleport : (teleport value).isOk = Verb.teleport.form.fits value := by
  simp only [teleport, Verb.form, ValueForm.fits, bind_pure_comp]
  rcases fields value with _ | ⟨map, _ | ⟨x, _ | ⟨y, _ | ⟨extra, rest⟩⟩⟩⟩ <;>
    simp [isOk_name, isOk_position, FieldKind.fitsRow]

theorem isOk_setArg : (setArg value).isOk = Verb.setArg.form.fits value := by
  simp only [setArg, Verb.form, ValueForm.fits, bind_pure_comp]
  rcases fields value with _ | ⟨actor, _ | ⟨key, _ | ⟨update, _ | ⟨extra, rest⟩⟩⟩⟩ <;>
    simp [isOk_name, isOk_argUpdate, FieldKind.fitsRow]

end ActionField

namespace Action

open ActionField

theorem isOk_build (verb : Verb) (value : String) :
    (build value verb).isOk = (verb.form.fits value || verb.takesSurplus value) := by
  cases verb with
  | giveItem => exact (isOk_map _ _).trans (isOk_itemCount value .giveItem (.inl rfl))
  | takeItem => exact (isOk_map _ _).trans (isOk_itemCount value .takeItem (.inr rfl))
  | forceEnd => simp [build, Verb.form, ValueForm.fits, Verb.takesSurplus, bne]
  | question => simp [build, isOk_question, Verb.takesSurplus]
  | walk => simp [build, isOk_walk, Verb.takesSurplus]
  | warp => simp [build, isOk_warp, Verb.takesSurplus]
  | destroy => simp [build, isOk_destroy, Verb.takesSurplus]
  | teleport => simp [build, isOk_teleport, Verb.takesSurplus]
  | setArg => simp [build, isOk_setArg, Verb.takesSurplus]
  | face => simp [build, isOk_face, Verb.takesSurplus]
  | spawn => simp [build, isOk_tileRun, Verb.form, Verb.takesSurplus]
  | startStep | completeStep | failStep | revealHint =>
    simp [build, isOk_questPart, Verb.form, Verb.takesSurplus]
  | _ => simp [build, isOk_name, isOk_count, Verb.form, ValueForm.fits, Verb.takesSurplus]

theorem isDegraded_ofVerb (verb : Verb) (value : String) :
    (ofVerb verb value).isDegraded = !(build value verb).isOk := by
  unfold ofVerb
  cases h : build value verb with
  | ok action => exact (usable_of_build h).2
  | error fault => rfl

theorem isDegraded_ofVerb_eq_false_iff (verb : Verb) (value : String) :
    (ofVerb verb value).isDegraded = false ↔
      verb.form.fits value = true ∨ verb.takesSurplus value = true := by
  rw [isDegraded_ofVerb, isOk_build, Bool.not_eq_false', Bool.or_eq_true]

/-- In the place of a single field the mark is a part of a name like any other, and of no number. -/
theorem fits_of_occursIn {verb : Verb} {kind : FieldKind} {value : String}
    (hform : verb.form = .whole kind) (hmark : Text.occursIn Script.fieldMark value = true) :
    verb.form.fits value = true ↔ ∀ bound, kind ≠ .count bound := by
  have hline : '_' ∈ value.toList := Text.mem_of_occursIn hmark (by decide)
  have hname : trim value ≠ "" := by
    intro hblank
    have hkept : '_' ∈ (trim value).toList := Text.mem_trim hline (by decide)
    rw [hblank] at hkept
    cases hkept
  have hcount (bound : Nat) : natBelow? bound (trim value) = none := by
    refine Option.eq_none_iff_forall_ne_some.mpr fun n hn => ?_
    obtain ⟨hspells, -⟩ := Text.Numeral.natBelow?_trim_eq_some_iff.mp hn
    exact hspells.not_mem (by decide) (by decide) (by decide) hline
  rw [hform, ValueForm.fits]
  cases verb <;> cases hform <;> simp [FieldKind.accepts, hname, hcount]

/-- An instruction is read target by target, and a target is read if it fits the form of the verb.
Beyond that only fields behind the count of an item and a value for `force_end` are let pass. The
mark parts fields only where there are several. -/
theorem read_iff_fits {raw : String} {verb : Verb} {value : String}
    (hraw : Instructs raw verb value) :
    parseList raw = (verb.targets value).map (ofVerb verb) ∧
      ∀ target,
        let action := ofVerb verb target
        (action.isDegraded = false ↔
          verb.form.fits target = true ∨ verb.takesSurplus target = true) ∧
        (verb.takesSurplus target = true → verb.form.fits target = false) ∧
        (action.verbName = verb.meant.name ∧ action.isDegraded = false ∨
          ∃ fault, action = malformed verb target fault) ∧
        ∀ kind, verb.form = .whole kind → Text.occursIn Script.fieldMark target = true →
          (action.isDegraded = false ↔ ∀ bound, kind ≠ .count bound) := by
  refine ⟨parseList_of_instructs hraw, fun target => ?_⟩
  have hread := isDegraded_ofVerb_eq_false_iff verb target
  refine ⟨hread, Verb.not_fits_of_takesSurplus, ofVerb_cases verb target, ?_⟩
  intro kind hform hmark
  rw [hread, Verb.takesSurplus_of_whole hform, ← fits_of_occursIn hform hmark]
  exact or_iff_left Bool.false_ne_true

theorem lantern_is_no_count :
    let raw := " Give_Item = key__2 && oil__lantern"
    Instructs raw .giveItem "key__2 && oil__lantern" ∧
      parseList raw = [giveItem "key" 2,
        malformed .giveItem "oil__lantern" (.invalid "count" "lantern")] := by
  intro raw
  have hraw : Instructs raw .giveItem "key__2 && oil__lantern" :=
    ⟨"Give_Item ", " key__2 && oil__lantern", by decide +kernel⟩
  refine ⟨hraw, (read_iff_fits hraw).1.trans ?_⟩
  decide +kernel

/-- What stands behind a count is not looked at. -/
theorem junk_behind_count_is_read :
    parseList "give_item=key__2__junk" = [giveItem "key" 2] ∧
      Verb.giveItem.form.fits "key__2__junk" = false := by
  constructor <;> decide +kernel

end Action

end StoryEngine

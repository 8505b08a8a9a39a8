import StoryEngine.Proofs.Result
import StoryEngine.Script.Library

/-! # Lines that are read have one verb

A line may be put together of any actions. One that is read from a text holds the actions of a
single verb: one action, or one for each target that the verb lists. A pause therefore stands alone
in its line, and a line that starts scripts does nothing else.
-/

namespace StoryEngine

set_option autoImplicit false

/-- The verb for which a verb is another word. -/
def Verb.meant : Verb → Verb
  | removeFlag => clearFlag
  | verb => verb

theorem Verb.ofName?_name (verb : Verb) : ofName? verb.name = some verb := by
  cases verb <;> rfl

theorem Verb.eq_of_name_eq {verb other : Verb} (h : verb.name = other.name) : verb = other := by
  have hfound := verb.ofName?_name
  rw [h, other.ofName?_name, Option.some.injEq] at hfound
  exact hfound.symm

namespace Action

open ActionField

/-- What a verb makes of a value can be used, and says which verb it was. -/
theorem usable_of_build {value : String} {verb : Verb} {action : Action}
    (h : build value verb = .ok action) :
    action.verbName = verb.meant.name ∧ action.isDegraded = false := by
  cases verb with
  | forceEnd | text | textNoWait | standIn | standInEnd =>
    cases h
    exact ⟨rfl, rfl⟩
  | giveItem | takeItem | startStep | completeStep | failStep | revealHint =>
    simp only [build] at h
    obtain ⟨⟨_, _⟩, _, rfl⟩ := map_eq_ok_iff.mp h
    exact ⟨rfl, rfl⟩
  | question =>
    simp only [build, ActionField.question] at h
    split at h
    · obtain ⟨_, _, rfl⟩ := map_eq_ok_iff.mp h
      exact ⟨rfl, rfl⟩
    · cases h
  | walk =>
    simp only [build, ActionField.walk] at h
    split at h
    · obtain ⟨_, _, rfl⟩ := map_eq_ok_iff.mp h
      exact ⟨rfl, rfl⟩
    · obtain ⟨_, _, rfl⟩ := map_eq_ok_iff.mp h
      exact ⟨rfl, rfl⟩
    · cases h
  | warp =>
    simp only [build, ActionField.warp] at h
    split at h
    · obtain ⟨_, _, rfl⟩ := map_eq_ok_iff.mp h
      exact ⟨rfl, rfl⟩
    · cases h
  | destroy =>
    simp only [build, ActionField.destroy] at h
    split at h <;> obtain ⟨_, _, rfl⟩ := map_eq_ok_iff.mp h <;> exact ⟨rfl, rfl⟩
  | teleport =>
    simp only [build, ActionField.teleport] at h
    split at h
    · obtain ⟨_, _, h⟩ := bind_eq_ok_iff.mp h
      obtain ⟨_, _, h⟩ := bind_eq_ok_iff.mp h
      cases h
      exact ⟨rfl, rfl⟩
    · cases h
  | setArg =>
    simp only [build, ActionField.setArg] at h
    split at h
    · obtain ⟨_, _, h⟩ := bind_eq_ok_iff.mp h
      obtain ⟨_, _, h⟩ := bind_eq_ok_iff.mp h
      cases h
      exact ⟨rfl, rfl⟩
    · cases h
  | face =>
    simp only [build, ActionField.face] at h
    split at h
    · obtain ⟨_, _, rfl⟩ := map_eq_ok_iff.mp h
      exact ⟨rfl, rfl⟩
    · obtain ⟨_, _, rfl⟩ := map_eq_ok_iff.mp h
      exact ⟨rfl, rfl⟩
    · cases h
  | _ =>
    simp only [build] at h
    obtain ⟨_, _, rfl⟩ := map_eq_ok_iff.mp h
    exact ⟨rfl, rfl⟩

theorem ofVerb_cases (verb : Verb) (value : String) :
    (ofVerb verb value).verbName = verb.meant.name ∧ (ofVerb verb value).isDegraded = false ∨
      ∃ fault, ofVerb verb value = malformed verb value fault := by
  unfold ofVerb
  cases h : build value verb with
  | ok action => exact .inl (usable_of_build h)
  | error fault => exact .inr ⟨fault, rfl⟩

/-- A text is read as one action at most, or as an action for each target of a verb that lists
them. -/
theorem parseList_cases (raw : String) :
    (parseList raw).length ≤ 1 ∨
      ∃ (verb : Verb) (values : List String),
        verb.takesList = true ∧ parseList raw = values.map (ofVerb verb) := by
  simp only [parseList, ofVerbName]
  split
  · exact .inl (Nat.zero_le 1)
  · split
    · exact .inl (Nat.le_refl 1)
    · split
      · next known _ =>
        split
        · next hlist => exact .inr ⟨known, _, hlist, rfl⟩
        · exact .inl (Nat.le_refl 1)
      · exact .inl (Nat.le_refl 1)

theorem eq_singleton_of_mem {α : Type} {list : List α} {a : α} (h : list.length ≤ 1)
    (ha : a ∈ list) : list = [a] := by
  match list, h with
  | [b], _ => rw [List.mem_singleton.mp ha]

theorem meant_of_takesList {verb : Verb} (h : verb.takesList = true) : verb.meant = verb := by
  cases verb with
  | removeFlag => cases h
  | _ => rfl

/-- Where an action of a verb is read nothing else is, unless the verb lists its targets. -/
theorem parseList_of_mem {raw : String} (verb : Verb) {action : Action}
    (h : action ∈ parseList raw) (hread : action.isDegraded = false)
    (hname : action.verbName = verb.name) :
    parseList raw = [action] ∨
      verb.takesList = true ∧
        ∃ values : List String, parseList raw = values.map (ofVerb verb) := by
  rcases parseList_cases raw with hlength | ⟨other, values, hlist, hvalues⟩
  · exact .inl (eq_singleton_of_mem hlength h)
  · rw [hvalues] at h
    obtain ⟨value, _, rfl⟩ := List.mem_map.mp h
    rcases ofVerb_cases other value with ⟨hother, _⟩ | ⟨fault, hfault⟩
    · rw [hname, meant_of_takesList hlist] at hother
      obtain rfl := Verb.eq_of_name_eq hother
      exact .inr ⟨hlist, values, hvalues⟩
    · rw [hfault] at hread
      cases hread

/-- What holds of an action that is read and of all that its verb may come to holds of all that is
read. -/
theorem forall_mem_parseList {P : Action → Prop} {raw : String} (verb : Verb) {action : Action}
    (h : action ∈ parseList raw) (hread : action.isDegraded = false)
    (hname : action.verbName = verb.name) (hself : P action)
    (hverb : ∀ value, P (ofVerb verb value)) : ∀ other ∈ parseList raw, P other := by
  intro other hother
  rcases parseList_of_mem verb h hread hname with hsingle | ⟨_, values, hvalues⟩
  · rw [hsingle] at hother
    rw [List.mem_singleton.mp hother]
    exact hself
  · rw [hvalues] at hother
    obtain ⟨value, _, rfl⟩ := List.mem_map.mp hother
    exact hverb value

/-- An action of a verb that has no list of targets is read alone. -/
theorem parseList_eq_singleton {raw : String} (verb : Verb) {action : Action}
    (h : action ∈ parseList raw) (hread : action.isDegraded = false)
    (hname : action.verbName = verb.name) (hlist : verb.takesList = false) :
    parseList raw = [action] := by
  rcases parseList_of_mem verb h hread hname with hsingle | ⟨htakes, _⟩
  · exact hsingle
  · cases hlist.symm.trans htakes

/-- An action that starts a script, or was meant to. -/
def isStart : Action → Bool
  | startEvent _ | malformed .startEvent _ _ => true
  | _ => false

theorem isStart_ofVerb (value : String) : (ofVerb .startEvent value).isStart = true := by
  unfold ofVerb
  cases h : build value .startEvent with
  | ok action =>
    simp only [build] at h
    obtain ⟨_, _, rfl⟩ := map_eq_ok_iff.mp h
    rfl
  | error fault => rfl

/-- Where a script is started nothing else is read. -/
theorem parseList_of_start {raw script : String} (h : startEvent script ∈ parseList raw) :
    ∀ action ∈ parseList raw, action.isStart = true :=
  forall_mem_parseList .startEvent h rfl rfl rfl isStart_ofVerb

/-- An action that ends a script, or was meant to. -/
def isEnd : Action → Bool
  | endEvent _ | malformed .endEvent _ _ => true
  | _ => false

theorem isEnd_ofVerb (value : String) : (ofVerb .endEvent value).isEnd = true := by
  unfold ofVerb
  cases h : build value .endEvent with
  | ok action =>
    simp only [build] at h
    obtain ⟨_, _, rfl⟩ := map_eq_ok_iff.mp h
    rfl
  | error fault => rfl

/-- Where a script is ended nothing else is read. -/
theorem parseList_of_end {raw script : String} (h : endEvent script ∈ parseList raw) :
    ∀ action ∈ parseList raw, action.isEnd = true :=
  forall_mem_parseList .endEvent h rfl rfl rfl isEnd_ofVerb

end Action

def Script.IsRead (script : Script) : Prop :=
  ∃ conditions destroy lines, script = .ofSource conditions destroy lines

def ScriptLibrary.IsRead (library : ScriptLibrary) : Prop :=
  ∀ id script, library.get? id = some script → script.IsRead

theorem ScriptLibrary.isRead_ofList {scripts : List (String × Script)}
    (h : ∀ e ∈ scripts, e.2.IsRead) : ScriptLibrary.IsRead (.ofList scripts) := by
  have hinsert (library : ScriptLibrary) (hread : library.IsRead) :
      ScriptLibrary.IsRead (scripts.foldl (fun m e => m.insert e.1 e.2) library) := by
    induction scripts generalizing library with
    | nil => exact hread
    | cons e rest ih =>
      refine ih (fun other ho => h other (List.mem_cons_of_mem e ho)) _ fun id script hget => ?_
      rw [StringMap.get?_insert] at hget
      split at hget
      · cases hget
        exact h e List.mem_cons_self
      · exact hread id script hget
  exact hinsert .empty nofun

theorem Script.isRead_of_ofJson? {body : Json} {script : Script}
    (h : Script.ofJson? body = some script) : script.IsRead := by
  unfold Script.ofJson? at h
  obtain ⟨fields, _, h⟩ := Option.bind_eq_some_iff.mp h
  split at h
  · obtain ⟨conditions, _, h⟩ := Option.bind_eq_some_iff.mp h
    obtain ⟨destroy, _, h⟩ := Option.bind_eq_some_iff.mp h
    obtain ⟨lines, _, h⟩ := Option.bind_eq_some_iff.mp h
    cases h
    exact ⟨conditions, destroy, lines, rfl⟩
  · cases h

/-- What is read from a file was read from texts. -/
theorem ScriptLibrary.isRead_of_ofJson? {file : Json} {library : ScriptLibrary}
    (h : ofJson? file = some library) : library.IsRead := by
  unfold ofJson? Json.map? at h
  split at h
  · obtain ⟨scripts, hscripts, rfl⟩ := Option.map_eq_some_iff.mp h
    refine isRead_ofList fun e he => ?_
    obtain ⟨member, _, hmember⟩ := mem_of_mapM_eq_some hscripts he
    obtain ⟨script, hscript, rfl⟩ := Option.map_eq_some_iff.mp hmember
    exact Script.isRead_of_ofJson? hscript
  · cases h

theorem Script.IsRead.actions_eq {script : Script} (h : script.IsRead) {line : ScriptLine}
    (hline : line ∈ script.lines) : ∃ raw, line.actions = Action.parseList raw := by
  obtain ⟨conditions, destroy, lines, rfl⟩ := h
  obtain ⟨raw, _, rfl⟩ := List.mem_map.mp hline
  simp only [ScriptLine.parse]
  exact ⟨_, rfl⟩

end StoryEngine

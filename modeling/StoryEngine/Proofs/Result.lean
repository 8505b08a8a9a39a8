import Mathlib.Data.List.Forall2

/-! # Results that may be failures

How a result that is no failure came about.
-/

namespace StoryEngine

set_option autoImplicit false

variable {ε α β : Type}

theorem bind_eq_ok_iff {x : Except ε α} {f : α → Except ε β} {b : β} :
    x >>= f = .ok b ↔ ∃ a, x = .ok a ∧ f a = .ok b := by
  cases x with
  | error e => exact iff_of_false nofun fun ⟨_, h, _⟩ => nomatch h
  | ok a => exact ⟨fun h => ⟨a, rfl, h⟩, fun ⟨_, ha, h⟩ => by cases ha; exact h⟩

theorem map_eq_ok_iff {x : Except ε α} {f : α → β} {b : β} :
    x.map f = .ok b ↔ ∃ a, x = .ok a ∧ f a = b := by
  cases x with
  | error e => exact iff_of_false nofun fun ⟨_, h, _⟩ => nomatch h
  | ok a =>
    constructor
    · rintro ⟨⟩
      exact ⟨a, rfl, rfl⟩
    · rintro ⟨_, ⟨⟩, rfl⟩
      rfl

theorem mapError_eq_ok_iff {δ : Type} {x : Except ε α} {f : ε → δ} {a : α} :
    x.mapError f = .ok a ↔ x = .ok a := by
  cases x with
  | error e => exact iff_of_false nofun nofun
  | ok b => exact ⟨fun h => by cases h; rfl, fun h => by cases h; rfl⟩

theorem toOption_eq_some_iff {x : Except ε α} {a : α} : x.toOption = some a ↔ x = .ok a := by
  cases x with
  | error e => exact iff_of_false nofun nofun
  | ok b => exact ⟨fun h => by cases h; rfl, fun h => by cases h; rfl⟩

@[simp] theorem isOk_ok (a : α) : (Except.ok a : Except ε α).isOk = true := rfl

@[simp] theorem isOk_error (e : ε) : (Except.error e : Except ε α).isOk = false := rfl

@[simp] theorem isOk_map (x : Except ε α) (f : α → β) : (x.map f).isOk = x.isOk := by
  cases x <;> rfl

@[simp] theorem isOk_mapError {δ : Type} (x : Except ε α) (f : ε → δ) :
    (x.mapError f).isOk = x.isOk := by
  cases x <;> rfl

@[simp] theorem isOk_fmap (x : Except ε α) (f : α → β) : (f <$> x).isOk = x.isOk := by
  cases x <;> rfl

/-- The second step succeeds or fails whatever the first one gives. -/
theorem isOk_bind {x : Except ε α} {f : α → Except ε β} (passes : Bool)
    (h : ∀ a, (f a).isOk = passes) : (x >>= f).isOk = (x.isOk && passes) := by
  cases x with
  | error e => rfl
  | ok a => exact h a

@[simp] theorem isOk_bind_fmap {γ : Type} (x : Except ε α) (y : Except ε β) (f : α → β → γ) :
    (x >>= fun a => f a <$> y).isOk = (x.isOk && y.isOk) :=
  isOk_bind y.isOk fun a => isOk_fmap y (f a)

/-- What every step keeps holds of the result of all steps. -/
theorem foldlM_keeps {P : β → Prop} {step : β → α → Except ε β} {list : List α} {b result : β}
    (h : list.foldlM step b = .ok result)
    (hstep : ∀ {b a next}, step b a = .ok next → P b → P next) (hb : P b) : P result := by
  induction list generalizing b with
  | nil =>
    cases h
    exact hb
  | cons a rest ih =>
    obtain ⟨next, hnext, hrest⟩ := bind_eq_ok_iff.mp h
    exact ih hrest (hstep hnext hb)

theorem mapM_eq_some_of_forall {f : α → Option β} {g : α → β} {list : List α}
    (h : ∀ a ∈ list, f a = some (g a)) : list.mapM f = some (list.map g) := by
  induction list with
  | nil => rfl
  | cons a rest ih =>
    rw [List.mapM_cons, h a List.mem_cons_self, ih fun b hb => h b (List.mem_cons_of_mem a hb)]
    rfl

theorem mapM_eq_some_iff {f : α → Option β} {list : List α} {result : List β} :
    list.mapM f = some result ↔ List.Forall₂ (fun a b => f a = some b) list result := by
  induction list generalizing result with
  | nil => simp [eq_comm]
  | cons a rest ih =>
    rw [List.mapM_cons, List.forall₂_cons_left_iff]
    constructor
    · intro h
      obtain ⟨first, hfirst, h⟩ := Option.bind_eq_some_iff.mp h
      obtain ⟨others, hothers, h⟩ := Option.bind_eq_some_iff.mp h
      cases h
      exact ⟨first, others, hfirst, ih.mp hothers, rfl⟩
    · rintro ⟨first, others, hfirst, hothers, rfl⟩
      rw [hfirst, ih.mpr hothers]
      rfl

section

variable {f : α → Option β} {list : List α} {result : List β}

theorem mem_of_mapM_eq_some {b : β} (h : list.mapM f = some result) (hb : b ∈ result) :
    ∃ a ∈ list, f a = some b := by
  rw [mapM_eq_some_iff] at h
  induction h with
  | nil => cases hb
  | cons hfirst _ ih =>
    rcases List.mem_cons.mp hb with rfl | hb
    · exact ⟨_, List.mem_cons_self, hfirst⟩
    · obtain ⟨a, ha, hfa⟩ := ih hb
      exact ⟨a, List.mem_cons_of_mem _ ha, hfa⟩

theorem exists_of_mapM_eq_some {a : α} (h : list.mapM f = some result) (ha : a ∈ list) :
    ∃ b, f a = some b := by
  rw [mapM_eq_some_iff] at h
  induction h with
  | nil => cases ha
  | cons hfirst _ ih =>
    rcases List.mem_cons.mp ha with rfl | ha
    · exact ⟨_, hfirst⟩
    · exact ih ha

theorem getElem?_of_mapM_eq_some {i : Nat} {a : α} (h : list.mapM f = some result)
    (ha : list[i]? = some a) : ∃ b, f a = some b ∧ result[i]? = some b := by
  rw [mapM_eq_some_iff] at h
  induction h generalizing i with
  | nil => cases ha
  | cons hfirst _ ih =>
    cases i with
    | zero =>
      cases ha
      exact ⟨_, hfirst, rfl⟩
    | succ i => exact ih ha

end

/-- What reads each element back reads the list back. -/
theorem mapM_map_eq_some {f : β → Option α} {g : α → β} {list : List α}
    (h : ∀ a ∈ list, f (g a) = some a) : (list.map g).mapM f = some list := by
  rw [List.mapM_map]
  exact (mapM_eq_some_of_forall (g := id) h).trans (congrArg some (List.map_id list))

end StoryEngine

/-! # Cutting a text at a separator

`splitFirst` cuts once, at the leftmost occurrence. `splitAll` cuts at every occurrence, read from
the left without overlap, and keeps empty pieces. Separators are not empty.
-/

namespace StoryEngine.Text

set_option autoImplicit false

/-- What follows a start that a text begins with. -/
def afterStart? : List Char → List Char → Option (List Char)
  | [], s => some s
  | _ :: _, [] => none
  | d :: ds, c :: cs => if d = c then afterStart? ds cs else none

def cutFirst (sep : List Char) : List Char → Option (List Char × List Char)
  | [] => none
  | c :: cs =>
    match afterStart? sep (c :: cs) with
    | some rest => some ([], rest)
    | none => (cutFirst sep cs).map fun parts => (c :: parts.1, parts.2)

/-- Puts a character in front of the first piece. -/
def consFirst (c : Char) : List (List Char) → List (List Char)
  | [] => [[c]]
  | piece :: pieces => (c :: piece) :: pieces

/-- Cuts at every occurrence; the first argument counts characters of a separator still to pass. -/
def cutAllFrom (sep : List Char) : Nat → List Char → List (List Char)
  | _, [] => [[]]
  | skip + 1, _ :: cs => cutAllFrom sep skip cs
  | 0, c :: cs =>
    if sep.isPrefixOf (c :: cs) then [] :: cutAllFrom sep (sep.length - 1) cs
    else consFirst c (cutAllFrom sep 0 cs)

def cutAll (sep : List Char) (s : List Char) : List (List Char) := cutAllFrom sep 0 s

def splitFirst (sep s : String) : Option (String × String) :=
  (cutFirst sep.toList s.toList).map fun parts => (.ofList parts.1, .ofList parts.2)

def splitAll (sep s : String) : List String := (cutAll sep.toList s.toList).map String.ofList

def occursIn (sep s : String) : Bool := (splitFirst sep s).isSome

theorem afterStart?_eq_some_iff (start s rest : List Char) :
    afterStart? start s = some rest ↔ start ++ rest = s := by
  induction start generalizing s with
  | nil => simp [afterStart?, eq_comm]
  | cons d ds ih =>
    cases s with
    | nil => simp [afterStart?]
    | cons c cs => by_cases h : d = c <;> simp [afterStart?, h, ih]

theorem append_of_cutFirst (sep s a b : List Char) (h : cutFirst sep s = some (a, b)) :
    a ++ sep ++ b = s := by
  induction s generalizing a b with
  | nil => simp [cutFirst] at h
  | cons c cs ih =>
    rw [cutFirst] at h
    split at h
    · next rest hr =>
      cases h
      simpa using (afterStart?_eq_some_iff sep (c :: cs) _).mp hr
    · obtain ⟨parts, hp, hab⟩ := Option.map_eq_some_iff.mp h
      cases hab
      simpa using ih parts.1 parts.2 hp

theorem append_of_splitFirst (sep s a b : String) (h : splitFirst sep s = some (a, b)) :
    a ++ sep ++ b = s := by
  obtain ⟨parts, hp, hab⟩ := Option.map_eq_some_iff.mp h
  cases hab
  have := append_of_cutFirst sep.toList s.toList parts.1 parts.2 hp
  rw [← String.toList_inj]
  simpa using this

end StoryEngine.Text

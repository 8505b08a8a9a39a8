/-! # ASCII letter case

Names are compared without regard to the case of the letters A to Z; every other character stands
for itself.
-/

namespace StoryEngine.Text

set_option autoImplicit false

def asciiLower (s : String) : String := String.ofList (s.toList.map Char.toLower)

def sameName (a b : String) : Bool := asciiLower a == asciiLower b

@[simp] theorem toList_asciiLower (s : String) :
    (asciiLower s).toList = s.toList.map Char.toLower := by
  simp [asciiLower]

@[simp] theorem sameName_self (a : String) : sameName a a = true := by simp [sameName]

theorem sameName_iff (a b : String) : sameName a b = true ↔ asciiLower a = asciiLower b := by
  simp [sameName]

theorem sameName_comm (a b : String) : sameName a b = sameName b a := by
  rw [Bool.eq_iff_iff, sameName_iff, sameName_iff, eq_comm]

end StoryEngine.Text

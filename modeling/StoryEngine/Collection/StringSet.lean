import StoryEngine.Collection.StringMap

/-! # Sets of text -/

namespace StoryEngine

set_option autoImplicit false

abbrev StringSet := StringMap Unit

namespace StringSet

def has (s : StringSet) (key : String) : Bool := s.contains key

def add (s : StringSet) (key : String) : StringSet := s.insert key ()

def ofKeys (keys : List String) : StringSet := keys.foldl add ∅

theorem has_add (s : StringSet) (key k : String) :
    has (add s key) k = (k == key || has s k) := by
  by_cases h : k = key <;> simp [has, add, StringMap.contains, StringMap.get?_insert, h]

theorem has_erase (s : StringSet) (key k : String) :
    has (s.erase key) k = (k != key && has s k) := by
  by_cases h : k = key <;> simp [has, StringMap.contains, StringMap.get?_erase, h]

@[simp] theorem ofKeys_keys (s : StringSet) : ofKeys s.keys = s := by
  rw [ofKeys, StringMap.keys, List.foldl_map]
  exact StringMap.ofList_toList s

end StringSet

end StoryEngine

import StoryEngine.Text.Numeral

/-! # Ticks

A tick is a number of milliseconds since the engine started, in 64 bits; a clock that would pass
the last tick stays there.
-/

namespace StoryEngine

set_option autoImplicit false

abbrev Tick := Nat

namespace Tick

def last : Nat := 0xFFFFFFFFFFFFFFFF

def advance (tick : Tick) (millis : Nat) : Tick := min (tick + millis) last

/-- Milliseconds passed; none if `earlier` lies ahead. -/
def since (tick earlier : Tick) : Nat := tick - earlier

end Tick

end StoryEngine

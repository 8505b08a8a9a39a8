/-! # Time of day -/

namespace StoryEngine

set_option autoImplicit false

def minutesPerDay : Nat := 1440

structure GameTime where
  hour : Nat
  minute : Nat
deriving DecidableEq

namespace GameTime

def ofMinutes (total : Nat) : GameTime :=
  let ofDay := total % minutesPerDay
  ⟨ofDay / 60, ofDay % 60⟩

def twoDigits (n : Nat) : String := if n < 10 then s!"0{n}" else toString n

def render (t : GameTime) : String := s!"{twoDigits t.hour}:{twoDigits t.minute}"

end GameTime

end StoryEngine

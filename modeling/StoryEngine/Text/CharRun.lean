/-! # Runs of code points

A run stands for every `step`-th code point from `first` to `last`. Unicode properties are lists of
runs.
-/

namespace StoryEngine.Text

set_option autoImplicit false

structure CharRun where
  first : Nat
  last : Nat
  step : Nat

def CharRun.contains (run : CharRun) (c : Char) : Bool :=
  run.first ≤ c.toNat && c.toNat ≤ run.last && (c.toNat - run.first) % run.step == 0

def inRuns (runs : List CharRun) (c : Char) : Bool := runs.any (·.contains c)

end StoryEngine.Text

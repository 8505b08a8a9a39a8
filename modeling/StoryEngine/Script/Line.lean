import StoryEngine.Script.ActionReader
import StoryEngine.Script.Condition

/-! # Script lines and scripts -/

namespace StoryEngine

set_option autoImplicit false

structure ScriptLine where
  conditions : List Condition
  actions : List Action
  raw : String
deriving DecidableEq

def ScriptLine.parse (raw : String) : ScriptLine :=
  let (conditions, action) := Script.splitLine raw
  ⟨(conditions.map Condition.parseList).getD [], Action.parseList action, raw⟩

/-- When the actor that sets a script off is removed. -/
inductive DestroyPolicy where
  | onTrigger
  | afterTrigger
deriving DecidableEq

structure Script where
  conditions : List Condition
  destroy : Option DestroyPolicy
  lines : List ScriptLine
deriving DecidableEq

def Script.actions (s : Script) : List Action := s.lines.flatMap fun line => line.actions

/-- The number of actions that will do nothing. -/
def Script.degradedActions (s : Script) : Nat := s.actions.countP Action.isDegraded

end StoryEngine

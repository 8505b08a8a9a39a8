/-! # The verbs of the script language -/

namespace StoryEngine

set_option autoImplicit false

inductive Verb where
  | setFlag
  | clearFlag
  | removeFlag
  | resetFlags
  | giveGold
  | takeGold
  | giveItem
  | takeItem
  | jump
  | unjump
  | startEvent
  | endEvent
  | forceEnd
  | text
  | textNoWait
  | question
  | walk
  | warp
  | spawn
  | destroy
  | standIn
  | standInEnd
  | teleport
  | forceCombat
  | setArg
  | wait
  | startQuest
  | completeQuest
  | failQuest
  | startStep
  | completeStep
  | failStep
  | revealHint
  | joinParty
  | leaveParty
  | face
deriving DecidableEq

namespace Verb

def name : Verb → String
  | setFlag => "set_flag"
  | clearFlag => "clear_flag"
  | removeFlag => "remove_flag"
  | resetFlags => "reset_flags"
  | giveGold => "give_gold"
  | takeGold => "take_gold"
  | giveItem => "give_item"
  | takeItem => "take_item"
  | jump => "jump"
  | unjump => "unjump"
  | startEvent => "start_event"
  | endEvent => "end_event"
  | forceEnd => "force_end"
  | text => "text"
  | textNoWait => "text_nowait"
  | question => "question"
  | walk => "walk"
  | warp => "warp"
  | spawn => "spawn"
  | destroy => "destroy"
  | standIn => "stand_in"
  | standInEnd => "stand_in_end"
  | teleport => "teleport"
  | forceCombat => "force_combat"
  | setArg => "set_arg"
  | wait => "wait"
  | startQuest => "start_quest"
  | completeQuest => "complete_quest"
  | failQuest => "fail_quest"
  | startStep => "start_step"
  | completeStep => "complete_step"
  | failStep => "fail_step"
  | revealHint => "reveal_hint"
  | joinParty => "join_party"
  | leaveParty => "leave_party"
  | face => "face"

def all : List Verb :=
  [setFlag, clearFlag, removeFlag, resetFlags, giveGold, takeGold, giveItem, takeItem, jump, unjump,
    startEvent, endEvent, forceEnd, text, textNoWait, question, walk, warp, spawn, destroy, standIn,
    standInEnd, teleport, forceCombat, setArg, wait, startQuest, completeQuest, failQuest, startStep,
    completeStep, failStep, revealHint, joinParty, leaveParty, face]

def ofName? (name : String) : Option Verb := all.find? (·.name == name)

/-- Whether the value may list several targets joined by `&&`. -/
def takesList : Verb → Bool
  | setFlag | clearFlag | giveItem | takeItem | startEvent | endEvent | destroy | standIn
  | standInEnd | startQuest | completeQuest | failQuest | startStep | completeStep | failStep
  | revealHint | joinParty | leaveParty => true
  | _ => false

theorem mem_all (v : Verb) : v ∈ all := by cases v <;> decide

end Verb

end StoryEngine

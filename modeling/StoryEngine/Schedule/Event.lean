import StoryEngine.Schedule.TimeToken
import StoryEngine.Script.WalkPath

/-! # Schedule events

A row says what an actor does, and an event is a row that has been read: its direction and its
patrol, walked as many times as the row says.
-/

namespace StoryEngine

set_option autoImplicit false

structure ScheduleRow where
  action : String
  target : Option String
  patrol : Option String
  loops : Option Nat
  direction : Option String
  repeatInterval : Option Nat
  repeatCount : Option Nat
deriving DecidableEq

structure ScheduleEvent where
  minute : Nat
  row : ScheduleRow
  facing : Option Direction
  patrol : List Direction
  dynamic : Bool
deriving DecidableEq

inductive RowFault where
  | missingAction
  | direction (token : String)
  | walk (fault : WalkFault)
  | patrolTooLong
deriving DecidableEq

def RowFault.message : RowFault → String
  | missingAction => "missing action"
  | direction token => s!"invalid direction '{token}'"
  | walk fault => fault.message
  | patrolTooLong => s!"patrol longer than {WalkPath.maxSteps} steps"

inductive ScheduleError where
  | invalidTime (token : String) (fault : TimeFault)
  | invalidEvent (actor token : String) (fault : RowFault)
  | empty (actor : String)
  | unreadable (path detail : String)
  | duplicate (actor path : String)
deriving DecidableEq

def ScheduleError.message : ScheduleError → String
  | invalidTime token fault => s!"invalid time token '{token}': {fault.message}"
  | invalidEvent actor token fault => s!"schedule for '{actor}' at {token}: {fault.message}"
  | empty actor => s!"schedule for '{actor}' has no events"
  | unreadable path detail => s!"schedule file {path}: {detail}"
  | duplicate actor path => s!"duplicate schedule for '{actor}' in {path}"

namespace ScheduleEvent

def readFacing (row : ScheduleRow) : Except RowFault (Option Direction) :=
  match row.direction with
  | none => .ok none
  | some token =>
    match Direction.parse? token with
    | some d => .ok (some d)
    | none => .error (.direction token)

def readPath (row : ScheduleRow) : Except RowFault (List Direction) :=
  match row.patrol with
  | none => .ok []
  | some raw => (WalkPath.parse raw).mapError .walk

/-- A path is walked at least once. -/
def repeatPath (path : List Direction) (loops : Nat) : List Direction :=
  (List.replicate (max loops 1) path).flatten

def readPatrol (row : ScheduleRow) : Except RowFault (List Direction) := do
  let path ← readPath row
  match row.loops with
  | none => return path
  | some loops =>
    if path.length * loops > WalkPath.maxSteps then throw .patrolTooLong
    else if path = [] then return []
    else return repeatPath path loops

def ofRow (minute : Nat) (dynamic : Bool) (row : ScheduleRow) : Except RowFault ScheduleEvent := do
  if Text.trim row.action = "" then throw .missingAction
  let facing ← readFacing row
  let patrol ← readPatrol row
  return ⟨minute, row, facing, patrol, dynamic⟩

end ScheduleEvent

end StoryEngine

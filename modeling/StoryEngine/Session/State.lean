import StoryEngine.Script.Dispatch
import StoryEngine.Script.Library

/-! # Running scripts one at a time

A session has at most one active run. A run that waits for something has a closed gate. Scripts that
were asked for while a run had lines left wait in a queue.
-/

namespace StoryEngine

set_option autoImplicit false

inductive RunState where
  | idle
  | running
  | awaitingInput
  | awaitingPause
  | awaitingWalkers
deriving DecidableEq

/-- The mode of the game that started a run and takes over when it ends. -/
inductive Owner where
  | map
  | dialog
  | cutscene
  | combat
deriving DecidableEq

inductive PlayerInput where
  | acknowledge
  | yes
  | no
deriving DecidableEq

inductive EndReason where
  | completed
  | forceEnd
  | endEvent
  | aborted
  | failed
deriving DecidableEq

inductive StartOutcome where
  | started
  | deferred
  | conditionsFailed
deriving DecidableEq

inductive Output where
  | text (script : String) (line : TextLine) (awaitInput : Bool)
  | question (script : String) (line : TextLine)
  | transition (script : String) (target : Transition)
  | runStarted (script : String) (owner : Owner)
  | runEnded (script : String) (owner : Owner) (reason : EndReason)
deriving DecidableEq

inductive Gate where
  | opened
  | input (skipOnNo : Option Nat)
  | pause (timer : String)
  | walkers (handles : List Handle)
deriving DecidableEq

/-- `pointer` is the index of the next line. -/
structure Run where
  script : String
  id : Nat
  pointer : Nat
  lineCount : Nat
  master : Option Handle
  owner : Owner
  destroy : Option DestroyPolicy
  gate : Gate
  ending : Option EndReason
deriving DecidableEq

namespace Run

/-- Names the timers of this run. -/
def timerScope (run : Run) : String := s!"{run.script}#{run.id}"

def scope (run : Run) : Scope := ⟨run.script, run.master, run.timerScope⟩

def hasLinesLeft (run : Run) : Bool :=
  run.ending.isNone && (run.pointer < run.lineCount || run.gate != .opened)

def state (run : Run) : RunState :=
  match run.gate with
  | .opened => .running
  | .input _ => .awaitingInput
  | .pause _ => .awaitingPause
  | .walkers _ => .awaitingWalkers

/-- Moves the pointer forward, not past the end. -/
def skip (run : Run) (lines : Nat) : Run :=
  { run with pointer := min (run.pointer + lines) run.lineCount }

/-- Moves the pointer back, not past the start. -/
def rewind (run : Run) (lines : Nat) : Run :=
  { run with pointer := min (run.pointer - lines) run.lineCount }

/-- A question answered with no may skip lines. -/
def take (run : Run) (input : PlayerInput) (skipOnNo : Option Nat) : Run :=
  match input, skipOnNo with
  | .no, some lines => run.skip lines
  | _, _ => run

end Run

/-- A start that waits for the active run to end. -/
structure PendingStart where
  script : String
  master : Option Handle
  owner : Owner
deriving DecidableEq

/-- What a session reports to the log as it goes. A start that had to wait is told from one that was
tried at once. -/
inductive Entry where
  | deferred (request : PendingStart)
  | withdrawn (script : String)
  | dropped
  | begun (request : PendingStart) (waited : Bool) (run : Run)
  | refused (request : PendingStart) (waited : Bool)
  | passed (line : ScriptLine) (held : Bool)
  | ended (run : Run) (reason : EndReason)
deriving DecidableEq

structure Session where
  active : Option Run
  deferred : List PendingStart
  output : List Output
  lastRun : Nat
  journal : List Entry
deriving DecidableEq

namespace Session

def fresh : Session := ⟨none, [], [], 0, []⟩

def state (s : Session) : RunState := (s.active.map Run.state).getD .idle

def emit (s : Session) (out : Output) : Session := { s with output := s.output ++ [out] }

def note (s : Session) (entry : Entry) : Session := { s with journal := s.journal ++ [entry] }

def setGate (s : Session) (run : Run) (gate : Gate) : Session :=
  { s with active := some { run with gate } }

def defer (s : Session) (request : PendingStart) : Session :=
  { s with deferred := s.deferred ++ [request] }.note (.deferred request)

/-- Takes the waiting starts of a script out of the queue. -/
def withdraw (s : Session) (script : String) : Session :=
  { s with deferred := s.deferred.filter fun p => p.script != script }.note (.withdrawn script)

def dropWaiting (s : Session) : Session := { s with deferred := [] }.note .dropped

def startRun (s : Session) (request : PendingStart) (waited : Bool) (run : Run) : Session :=
  ({ s with active := some run, lastRun := run.id }.emit (.runStarted run.script run.owner)).note
    (.begun request waited run)

def endRun (s : Session) (run : Run) (reason : EndReason) : Session :=
  ({ s with active := none }.emit (.runEnded run.script run.owner reason)).note (.ended run reason)

@[simp] theorem startRun_active (s : Session) (request : PendingStart) (waited : Bool) (run : Run) :
    (s.startRun request waited run).active = some run := rfl

@[simp] theorem startRun_journal (s : Session) (request : PendingStart) (waited : Bool)
    (run : Run) :
    (s.startRun request waited run).journal = s.journal ++ [.begun request waited run] := rfl

@[simp] theorem endRun_active (s : Session) (run : Run) (reason : EndReason) :
    (s.endRun run reason).active = none := rfl

@[simp] theorem endRun_journal (s : Session) (run : Run) (reason : EndReason) :
    (s.endRun run reason).journal = s.journal ++ [.ended run reason] := rfl

/-- Moves past the line that the pointer is at. -/
def pass (s : Session) (run : Run) (line : ScriptLine) (held : Bool) : Session :=
  { s with active := some { run with pointer := run.pointer + 1 } }.note (.passed line held)

end Session

/-- A session together with the stage on which it plays. -/
structure Play where
  session : Session
  stage : Stage
deriving DecidableEq

end StoryEngine

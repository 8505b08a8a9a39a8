import StoryEngine.Session.State

/-! # Starting, advancing and ending runs

The active run takes at most one line per advance. A run with lines left is never replaced; a run
that is at its end is replaced by whatever is started next. A failure while a line is carried out
ends the run, and the play is returned beside the failure.
-/

namespace StoryEngine.Session

set_option autoImplicit false

def removeMaster (run : Run) (w : World) : World :=
  match run.destroy, run.master with
  | some .afterTrigger, some h => w.despawn h
  | _, _ => w

/-- Ends the active run: its wait timers go, and its master if it is to be destroyed afterwards. -/
def teardown (play : Play) (reason : EndReason) : Play :=
  match play.session.active with
  | none => play
  | some run =>
    ⟨play.session.endRun run reason,
      ⟨removeMaster run play.stage.world, play.stage.timers.cancelWaitScope run.timerScope⟩⟩

/-- The trigger of a script is consumed even if the script does not run. -/
def consumeTrigger (script : Script) (master : Option Handle) (w : World) : World :=
  match script.destroy, master with
  | some .onTrigger, some h => w.despawn h
  | _, _ => w

def newRun (request : PendingStart) (script : Script) (id : Nat) (w : World) : Run :=
  ⟨request.script, id, 0, script.lines.length, request.master.filter w.actors.contains,
    request.owner, script.destroy, .opened, none⟩

/-- Evaluates the start conditions of a script and makes it the active run if they hold. -/
def begin (library : ScriptLibrary) (play : Play) (request : PendingStart) (waited : Bool) :
    Play × Except ScriptError StartOutcome :=
  match library.get? request.script with
  | none => (play, .error (.missingScript request.script))
  | some script =>
    let holds := Condition.allHold script.conditions play.stage.world request.master
    let world := consumeTrigger script request.master play.stage.world
    let stage := { play.stage with world }
    if holds then
      let run := newRun request script (play.session.lastRun + 1) world
      (⟨play.session.startRun request waited run, stage⟩, .ok .started)
    else (⟨play.session.note (.refused request waited), stage⟩, .ok .conditionsFailed)

def start (library : ScriptLibrary) (play : Play) (request : PendingStart) :
    Play × Except ScriptError StartOutcome :=
  if library.contains request.script then
    match play.session.active with
    | none => begin library play request false
    | some run =>
      if run.hasLinesLeft then ({ play with session := play.session.defer request }, .ok .deferred)
      else begin library (teardown play (run.ending.getD .completed)) request false
  else (play, .error (.missingScript request.script))

/-- Begins waiting starts in order until one of them becomes the active run. -/
def beginWaiting (library : ScriptLibrary) (play : Play) : List PendingStart →
    Play × Except ScriptError Unit
  | [] => (play, .ok ())
  | request :: rest =>
    let session := { play.session with deferred := rest }
    match begin library { play with session } request true with
    | (play, .error e) => (play, .error e)
    | (play, .ok _) =>
      if play.session.active.isNone then beginWaiting library play rest else (play, .ok ())

def startDeferred (library : ScriptLibrary) (play : Play) : Play × Except ScriptError Unit :=
  if play.session.active.isNone then beginWaiting library play play.session.deferred
  else (play, .ok ())

def finish (library : ScriptLibrary) (play : Play) (reason : EndReason) :
    Play × Except ScriptError Unit :=
  startDeferred library (teardown play reason)

/-- Ends the run of that number after a failure. A run that has ended already, and whatever took
its place, are left alone. -/
def halt (library : ScriptLibrary) (play : Play) (id : Nat) : Play :=
  match play.session.active with
  | some run => if run.id = id then (finish library play .failed).1 else play
  | none => play

/-- Walkers of one line are awaited together. -/
def joinWalkers (gate : Gate) (handles : List Handle) : Gate :=
  match gate with
  | .walkers others => .walkers (others ++ handles)
  | _ => .walkers handles

def endScript (s : Session) (run : Run) (script : String) : Session :=
  if script = run.script then { s with active := some { run with ending := some .endEvent } }
  else s.withdraw script

/-- Applies a directive to the active run. A script to be started is handed back, for after the
line. -/
def apply (s : Session) (directive : Directive) : Session × Option String :=
  match s.active with
  | none => (s, none)
  | some run =>
    match directive with
    | .proceed => (s, none)
    | .show line => (s.emit (.text run.script line false), none)
    | .awaitInput line none =>
      ((s.emit (.text run.script line true)).setGate run (.input none), none)
    | .awaitInput line (some skip) =>
      ((s.emit (.question run.script line)).setGate run (.input (some skip)), none)
    | .pause timer => (s.setGate run (.pause timer), none)
    | .walkers handles => (s.setGate run (joinWalkers run.gate handles), none)
    | .jump true lines => ({ s with active := some (run.rewind lines) }, none)
    | .jump false lines => ({ s with active := some (run.skip lines) }, none)
    | .startScript script => (s, some script)
    | .endScript script => (s.endScript run script, none)
    | .forceEnd => ({ s with active := some { run with ending := some .forceEnd } }, none)
    | .transition target => (s.emit (.transition run.script target), none)

/-- Carries out actions in order; the scripts they ask for are handed back. -/
def performAll (place : Place) (scope : Scope) (play : Play) : List Action →
    Play × Except ScriptError (List String)
  | [] => (play, .ok [])
  | action :: rest =>
    match Dispatch.perform place scope play.stage action with
    | (stage, .error e) => ({ play with stage }, .error e)
    | (stage, .ok directive) =>
      let (session, asked) := play.session.apply directive
      let (play, result) := performAll place scope ⟨session, stage⟩ rest
      (play, result.map fun scripts => asked.toList ++ scripts)

def startAll (library : ScriptLibrary) (play : Play) (master : Option Handle) (owner : Owner) :
    List String → Play × Except ScriptError Unit
  | [] => (play, .ok ())
  | script :: rest =>
    match start library play ⟨script, master, owner⟩ with
    | (play, .error e) => (play, .error e)
    | (play, .ok _) => startAll library play master owner rest

/-- Starts the scripts a line asked for. An unknown one fails the line before any other starts. -/
def startAsked (library : ScriptLibrary) (play : Play) (scripts : List String) :
    Play × Except ScriptError Unit :=
  match scripts.find? fun script => !library.contains script with
  | some missing => (play, .error (.missingScript missing))
  | none =>
    match play.session.active with
    | some run => startAll library play run.master run.owner scripts
    | none => startAll library play none .map scripts

/-- What happens after a line to the run that took it. -/
def endIfAsked (library : ScriptLibrary) (play : Play) (id : Nat) :
    Play × Except ScriptError Unit :=
  match play.session.active with
  | some run =>
    match run.ending with
    | some reason => if run.id = id then finish library play reason else (play, .ok ())
    | none => (play, .ok ())
  | none => (play, .ok ())

def answer (result : Play × Except ScriptError Unit) : Play × Except ScriptError RunState :=
  (result.1, result.2.map fun _ => result.1.session.state)

/-- Carries out a line of the active run, whose pointer is already past it. -/
def takeLine (library : ScriptLibrary) (place : Place) (play : Play) (run : Run)
    (line : ScriptLine) : Play × Except ScriptError RunState :=
  match performAll place run.scope play line.actions with
  | (play, .error e) => (halt library play run.id, .error e)
  | (play, .ok scripts) =>
    match startAsked library play scripts with
    | (play, .error e) => (halt library play run.id, .error e)
    | (play, .ok ()) => answer (endIfAsked library play run.id)

/-- Goes on with a run whose gate is open. -/
def proceed (library : ScriptLibrary) (place : Place) (play : Play) (run : Run) :
    Play × Except ScriptError RunState :=
  match run.ending with
  | some reason => answer (finish library play reason)
  | none =>
    match library.get? run.script with
    | none => (halt library play run.id, .error (.missingScript run.script))
    | some script =>
      match script.lines[run.pointer]? with
      | none => answer (finish library play .completed)
      | some line =>
        let held := Condition.allHold line.conditions play.stage.world run.master
        let play := { play with session := play.session.pass run line held }
        if held then takeLine library place play run line else (play, .ok play.session.state)

def isWalking (w : World) (h : Handle) : Bool := (w.actor? h).any Actor.isWalking

/-- Opens the gate of a run if what it waits for is over. -/
def pollGate (place : Place) (play : Play) (run : Run) : Play × Run :=
  match run.gate with
  | .opened | .input _ => (play, run)
  | .pause timer =>
    if play.stage.timers.isFinished timer place.now then
      let run := { run with gate := .opened }
      (⟨{ play.session with active := some run },
        { play.stage with timers := play.stage.timers.erase timer }⟩, run)
    else (play, run)
  | .walkers handles =>
    let left := handles.filter (isWalking play.stage.world)
    let run := { run with gate := if left = [] then .opened else .walkers left }
    ({ play with session := { play.session with active := some run } }, run)

def advance (library : ScriptLibrary) (place : Place) (play : Play) :
    Play × Except ScriptError RunState :=
  match play.session.active with
  | none => (play, .ok .idle)
  | some run =>
    let (play, run) := pollGate place play run
    if run.gate = .opened then proceed library place play run else (play, .ok run.state)

/-- The answer to a text or question; refused when nothing waits for one. -/
def submit (s : Session) (input : PlayerInput) : Bool × Session :=
  match s.active with
  | none => (false, s)
  | some run =>
    match run.gate with
    | .input skipOnNo =>
      (true, s.setGate (run.take input skipOnNo) .opened)
    | _ => (false, s)

/-- Ends the run at once and drops every waiting start. -/
def abort (play : Play) : Play :=
  let ended := teardown play .aborted
  { ended with session := ended.session.dropWaiting }

def drain (s : Session) : List Output × Session := (s.output, { s with output := [] })

end StoryEngine.Session

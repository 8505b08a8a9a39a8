import StoryEngine.Session.Advance

/-! # Sequences of requests to a session -/

namespace StoryEngine.Session

set_option autoImplicit false

inductive Op where
  | start (request : PendingStart)
  | advance (place : Place)
  | submit (input : PlayerInput)
  | abort
  | drain
deriving DecidableEq

inductive Reply where
  | started (result : Except ScriptError StartOutcome)
  | advanced (result : Except ScriptError RunState)
  | submitted (taken : Bool)
  | aborted
  | drained (output : List Output)

def perform (library : ScriptLibrary) (play : Play) : Op → Play × Reply
  | .start request => let (play, r) := start library play request; (play, .started r)
  | .advance place => let (play, r) := advance library place play; (play, .advanced r)
  | .submit input => let (taken, session) := play.session.submit input
    ({ play with session }, .submitted taken)
  | .abort => (abort play, .aborted)
  | .drain => let (output, session) := play.session.drain
    ({ play with session }, .drained output)

/-- The play after a sequence of requests. -/
def run (library : ScriptLibrary) (play : Play) (ops : List Op) : Play :=
  ops.foldl (fun play op => (perform library play op).1) play

/-- The replies to a sequence of requests, in order. -/
def replies (library : ScriptLibrary) (play : Play) : List Op → List Reply
  | [] => []
  | op :: ops =>
    let (play, reply) := perform library play op
    reply :: replies library play ops

def Reply.output : Reply → List Output
  | .drained output => output
  | _ => []

/-- All that a session puts out during a sequence of requests, whether drained or still to come. -/
def emitted (library : ScriptLibrary) (play : Play) (ops : List Op) : List Output :=
  (replies library play ops).flatMap Reply.output ++ (run library play ops).session.output

end StoryEngine.Session

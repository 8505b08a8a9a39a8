import StoryEngine.Command.Console

/-! # The engine log

The log of a root begins with a banner, which is written when the log is made or found empty.
-/

namespace StoryEngine.EngineLog

set_option autoImplicit false

def fileName : String := "engine.log"

def banner (unixTime : Nat) : String :=
  "# questline event scripting engine\n" ++ s!"# {fileName} created at unix time {unixTime}\n"

def directory (root : String) : String := Path.join root "log"

def path (root : String) : String := Path.join (directory root) fileName

/-- Makes the log ready in its directory. -/
def openIn (files : Files) (path : String) (unixTime : Nat) : Files × Except FileFault Unit :=
  match files.append path "" with
  | (files, .error fault) => (files, .error fault)
  | (files, .ok ()) =>
    match files.entry path with
    | .ok (.text "") => files.append path (banner unixTime)
    | _ => (files, .ok ())

def start (files : Files) (root : String) (unixTime : Nat) : Files × Except CommandError Unit :=
  match files.makeDirs (directory root) with
  | (files, .error fault) => (files, .error (.logDirectory fault))
  | (files, .ok ()) =>
    match openIn files (path root) unixTime with
    | (files, .error fault) => (files, .error (.logFile fileName fault))
    | (files, .ok ()) => (files, .ok ())

end StoryEngine.EngineLog

import StoryEngine.Content.Load
import StoryEngine.Dialog.Table

/-! # Content reports

A report goes through all files of a directory and gathers every fault. It counts the degraded
actions as well, those whose text named no known verb or did not fit the verb.
-/

namespace StoryEngine

set_option autoImplicit false

structure ContentReport where
  files : Nat
  parsed : Nat
  degraded : Nat
  errors : List ContentError
deriving DecidableEq

namespace ContentReport

def blank : ContentReport := ⟨0, 0, 0, []⟩

/-- The report on a directory that cannot be listed. -/
def ofError (error : ContentError) : ContentReport := ⟨0, 0, 0, [error]⟩

def isClean (report : ContentReport) : Bool := report.errors.isEmpty && report.degraded == 0

end ContentReport

/-- A report so far, and for each name the last file that defined it. -/
structure Inspection where
  report : ContentReport
  definedIn : StringMap String

namespace Inspection

def start : Inspection := ⟨.blank, ∅⟩

def reject (i : Inspection) (error : ContentError) : Inspection :=
  { i with report := { i.report with
    files := i.report.files + 1
    errors := i.report.errors ++ [error] } }

/-- Notes that a file defines a name. The error is raised if an earlier one did. -/
def define (path : String) (twice : String → String → String → ContentError) (i : Inspection)
    (name : String) : Inspection :=
  let errors := match i.definedIn.get? name with
    | some earlier => i.report.errors ++ [twice name earlier path]
    | none => i.report.errors
  ⟨{ i.report with errors }, i.definedIn.insert name path⟩

def accept (i : Inspection) (degraded : Nat) : Inspection :=
  { i with report := { i.report with
    files := i.report.files + 1
    parsed := i.report.parsed + 1
    degraded := i.report.degraded + degraded } }

def scriptFile (files : Files) (i : Inspection) (path : String) : Inspection :=
  match files.readAs path ScriptLibrary.parse? with
  | .error trouble => i.reject (.scriptFile path trouble)
  | .ok file =>
    file.keys.foldl (define path .scriptTwice) (i.accept (ScriptLibrary.degradedActions file))

/-- The name of a dialog file without its extension is the name of the person who speaks. -/
def dialogFile (files : Files) (directory : String) (i : Inspection) (name : String) : Inspection :=
  let path := Path.join directory name
  match files.readAs path (DialogTable.parse? (Path.stem name)) with
  | .error trouble => i.reject (.dialogFile path trouble)
  | .ok table => i.accept table.degradedEvents

def scheduleFile (files : Files) (i : Inspection) (path : String) : Inspection :=
  match files.readText path with
  | .error fault => i.reject (.unreadableSchedules fault)
  | .ok content =>
    match ScheduleBook.parse content path with
    | .error cause => i.reject (.schedule cause)
    | .ok book => book.keys.foldl (define path .scheduleTwice) (i.accept 0)

end Inspection

namespace ContentReport

/-- Goes through what a listing gave. -/
def ofListing (directory : String) (listing : Except FileFault (List String))
    (inspect : Inspection → String → Inspection) : ContentReport :=
  match listing with
  | .error fault => .ofError (.directory directory fault)
  | .ok entries => (entries.foldl inspect .start).report

def scripts (files : Files) (directory : String) : ContentReport :=
  ofListing directory (files.pathsWith Files.scriptExtensions directory) (Inspection.scriptFile files)

def dialog (files : Files) (directory : String) : ContentReport :=
  ofListing directory (files.namesWith Files.dialogExtensions directory)
    (Inspection.dialogFile files directory)

def schedules (files : Files) (directory : String) : ContentReport :=
  ofListing directory
    ((files.namesWithEither "yaml" "yml" directory).map (List.map (Path.join directory)))
    (Inspection.scheduleFile files)

end ContentReport

end StoryEngine

import StoryEngine.Command.Console
import StoryEngine.Content.Root

/-! # Printing content reports -/

namespace StoryEngine

set_option autoImplicit false

open Printing (say complain)

def ContentReport.print (label : String) (report : ContentReport) : Printing Unit := do
  say <| s!"- {label}: files={report.files}, parsed={report.parsed}, " ++
    s!"degraded={report.degraded}, errors={report.errors.length}"
  for error in report.errors do
    complain s!"questline: {label} validate {error.message}"

def SaveReport.print (report : SaveReport) : Printing Unit := do
  if report.missingDirectory then say "- saves: missing save directory"
  else
    say s!"- saves: files={report.files}, parsed={report.parsed}, errors={report.errors.length}"
  for error in report.errors do
    complain s!"questline: save validate {error.message}"

def ContentReports.print (reports : ContentReports) : Printing Unit := do
  reports.scripts.print "scripts"
  reports.dialog.print "dialog"
  reports.schedules.print "schedules"
  reports.saves.print

end StoryEngine

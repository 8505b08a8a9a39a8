import StoryEngine.Content.Report
import StoryEngine.Save.Store

/-! # Content roots

A content root has one directory for each kind of content, and the saves. Reports are made of the
directories that are there.
-/

namespace StoryEngine

set_option autoImplicit false

structure ContentReports where
  scripts : ContentReport
  dialog : ContentReport
  schedules : ContentReport
  saves : SaveReport
deriving DecidableEq

namespace ContentReports

def reportOn (files : Files) (inspect : Files → String → ContentReport) (directory : String) :
    ContentReport :=
  if files.isDirectory directory then inspect files directory else .blank

def collect (files : Files) (root : String) : ContentReports :=
  { scripts := reportOn files .scripts (Path.join root "scripts")
    dialog := reportOn files .dialog (Path.join root "dialog")
    schedules := reportOn files .schedules (Path.join root "schedules")
    saves := (SaveStore.ofRoot root).validate files }

def errorCount (reports : ContentReports) : Nat :=
  reports.scripts.errors.length + reports.dialog.errors.length +
    reports.schedules.errors.length + reports.saves.errors.length

end ContentReports

end StoryEngine

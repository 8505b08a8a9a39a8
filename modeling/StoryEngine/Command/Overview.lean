import StoryEngine.Command.EngineLog
import StoryEngine.Command.Reports
import StoryEngine.Command.Survey
import StoryEngine.Dialog.Library
import StoryEngine.Schedule.Tracker

/-! # The command that gives an overview

It starts the log, loads all content and a save, and prints what there is and what the actors do at
the time of the save.
-/

namespace StoryEngine.Overview

set_option autoImplicit false

open Printing (say orStop)

structure Loaded where
  quests : QuestCatalog
  languages : LanguageTable
  scripts : ScriptLibrary
  schedules : ScheduleBook

def printSurvey (survey : Survey) (settings : Settings) : Printing Unit := do
  let presence := fun found => if found then "present" else "missing"
  say "questline: content scan"
  say s!"- root: {settings.root}"
  say s!"- log: {EngineLog.path settings.root}"
  say s!"- script files: {survey.scripts}"
  say s!"- dialog files: {survey.dialog}"
  say s!"- schedule files: {survey.schedules}"
  say s!"- save files: {survey.saves}"
  say s!"- quests.json: {presence survey.hasQuests}"
  say s!"- languages.json: {presence survey.hasLanguages}"

def load (files : Files) (root : String) : Except CommandError Loaded := do
  let scripts := Path.join root "scripts"
  let schedules := Path.join root "schedules"
  let quests ← (QuestCatalog.load files (Path.join root "quests.json")).mapError .content
  let languages ← (LanguageTable.load files (Path.join root "languages.json")).mapError .content
  let scripts ← if files.isDirectory scripts then (ScriptLibrary.load files scripts).mapError .content
    else pure ∅
  let schedules ← if files.isDirectory schedules then
      (ScheduleBook.load files schedules).mapError .schedule
    else pure ∅
  return ⟨quests, languages, scripts, schedules⟩

def printLoaded (loaded : Loaded) : Printing Unit := do
  say s!"- quests: {loaded.quests.size}"
  say s!"- languages: {loaded.languages.size}"
  say s!"- scripts: {loaded.scripts.size} (degraded actions {loaded.scripts.degradedActions})"
  say s!"- actor schedules: {loaded.schedules.size}"

/-- The world as the slot left it, or the blank one if the slot holds nothing. -/
def restore (files : Files) (settings : Settings) (blank : World) : Printing World := do
  let store := SaveStore.ofRoot settings.root
  match ← orStop .save (SaveStore.load files store settings.slot) with
  | none =>
    say s!"- save {settings.slot}: none"
    return blank
  | some s =>
    let (dropped, world) := s.apply blank
    say <| s!"- save {settings.slot}: flags={world.flags.size}, " ++
      s!"talked_to={world.talkedTo.size}, dropped quests={dropped.length}"
    return world

def printDialog (files : Files) (settings : Settings) (world : World) : Printing Unit := do
  let library := DialogLibrary.ofDirectory (Path.join settings.root "dialog") settings.dialogCapacity
  let (preloaded, library) := library.preload files world.talkedTo.keys
  say <| s!"- dialog cache: {preloaded} preloaded, {library.cached}/{library.capacity} cached, " ++
    s!"{library.stats.evictions} evictions"

def scheduleLine (s : Schedule) (status : ScheduleStatus) (row : ScheduleRow) (repeats : Nat) :
    String :=
  s!"- schedule {s.actor}: {row.action} since {(GameTime.ofMinutes status.eventMinute).render} " ++
    s!"({status.minutesSinceStart} min, {status.turnsSinceStart} turns, " ++
    s!"{status.stepsDue} steps due, {repeats} repeats)"

def scheduleLine? (settings : Settings) (turns : TurnLog) (s : Schedule) : Option String := do
  let status ← s.resolve turns settings.stepMinutes
  let event ← s.events[status.eventIndex]?
  return scheduleLine s status event.row (ScheduleTracker.dueRepeats ∅ s status).1

def print (files : Files) (settings : Settings) : Printing Unit := do
  let survey ← orStop id (Survey.make files settings.root)
  printSurvey survey settings
  let loaded ← orStop id (load files settings.root)
  printLoaded loaded
  (ContentReports.collect files settings.root).print
  let world ← restore files settings (.blank loaded.quests)
  printDialog files settings world
  say s!"- game time: {world.turns.timeOfDay.render} after {world.turns.turnCount} turns"
  for line in loaded.schedules.values.filterMap (scheduleLine? settings world.turns) do
    say line

def run (files : Files) (environment : String → Option String) (words : List String)
    (unixTime : Nat) : Ending :=
  match Settings.ofWords files environment words with
  | .error cause => .ofError files 1 ⟨[], []⟩ (.settings cause)
  | .ok settings =>
    match EngineLog.start files settings.root unixTime with
    | (files, .error error) => .ofError files 1 ⟨[], []⟩ error
    | (files, .ok ()) => .ofPrinting files 1 (print files settings) fun () t => (0, t)

end StoryEngine.Overview

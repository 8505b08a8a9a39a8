import StoryEngine.Schedule.Resolve

/-! # Schedule books

One schedule for each actor. A second schedule for an actor is reported, but it is the one that
stays.
-/

namespace StoryEngine

set_option autoImplicit false

abbrev ScheduleBook := StringMap Schedule

namespace ScheduleBook

/-- The book after the insertion, whether or not it is reported. -/
def add (book : ScheduleBook) (s : Schedule) (origin : String) :
    ScheduleBook × Except ScheduleError Unit :=
  (book.insert s.actor s,
    if book.contains s.actor then .error (.duplicate s.actor origin) else .ok ())

/-- Adds schedules in order up to the first that is reported. -/
def addAll (book : ScheduleBook) (origin : String) : List Schedule → Except ScheduleError ScheduleBook
  | [] => .ok book
  | s :: rest =>
    match book.add s origin with
    | (_, .error e) => .error e
    | (book, .ok ()) => addAll book origin rest

/-- The book of a file: the rows of each actor, in the order of the actors. -/
def ofFile (origin : String) (file : StringMap (StringMap ScheduleRow)) :
    Except ScheduleError ScheduleBook :=
  file.toList.foldlM (fun (book : ScheduleBook) e => do
    let s ← Schedule.ofRows e.1 e.2
    book.addAll origin [s]) ∅

end ScheduleBook

end StoryEngine

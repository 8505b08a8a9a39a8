import StoryEngine.Dialog.Respond
import StoryEngine.Main
import StoryEngine.Session.Operations
import StoryEngine.Time.TurnLogFormat
import StoryEngine.World.Walkers
import StoryEngine.Proofs.Session.Moves
import StoryEngine.Proofs.Session.Lifecycle
import StoryEngine.Proofs.Session.Waiting
import StoryEngine.Proofs.Session.StraightLine
import StoryEngine.Proofs.Dispatch.Failure
import StoryEngine.Proofs.World.Course
import StoryEngine.Proofs.Dialog.Conversation
import StoryEngine.Proofs.Schedule.Insertion
import StoryEngine.Proofs.Schedule.Repeats
import StoryEngine.Proofs.World.Handles
import StoryEngine.Proofs.Quest.Record
import StoryEngine.Proofs.Save.Capture
import StoryEngine.Proofs.Json.Quoted
import StoryEngine.Proofs.Json.Indented
import StoryEngine.Proofs.Json.Fields
import StoryEngine.Proofs.Save.Text
import StoryEngine.Proofs.Session.Integrity
import StoryEngine.Proofs.Session.Completion
import StoryEngine.Proofs.Session.Pauses
import StoryEngine.Proofs.Session.Tickets
import StoryEngine.Proofs.World.Standing
import StoryEngine.Proofs.Session.Halting
import StoryEngine.Proofs.Session.Triggers
import StoryEngine.Proofs.Session.Masters
import StoryEngine.Proofs.Dispatch.Requests
import StoryEngine.Proofs.Dispatch.Footprint
import StoryEngine.Proofs.Quest.Growth
import StoryEngine.Proofs.Content.Agreement
import StoryEngine.Proofs.Dialog.Loadable
import StoryEngine.Proofs.Schedule.LookBack
import StoryEngine.Proofs.Dialog.Cache
import StoryEngine.Proofs.Storage.Siblings
import StoryEngine.Proofs.Storage.Directories
import StoryEngine.Proofs.Save.Slots
import StoryEngine.Proofs.Save.Faults
import StoryEngine.Proofs.Time.Turns
import StoryEngine.Proofs.Script.WalkGrammar
import StoryEngine.Proofs.Schedule.Edits
import StoryEngine.Proofs.Schedule.Activations
import StoryEngine.Proofs.Number.Rounding
import StoryEngine.Proofs.Time.Progress
import StoryEngine.Proofs.Session.Gates
import StoryEngine.Proofs.Session.Declining
import StoryEngine.Proofs.Session.Holding
import StoryEngine.Proofs.Session.Strolling
import StoryEngine.Proofs.World.Strolls
import StoryEngine.Proofs.Dispatch.StandIns
import StoryEngine.Proofs.World.Rounds
import StoryEngine.Proofs.World.FailedRounds
import StoryEngine.Proofs.Dispatch.TileRuns
import StoryEngine.Proofs.Dispatch.Removal
import StoryEngine.Proofs.Dispatch.Inventory
import StoryEngine.Proofs.Text.Pieces
import StoryEngine.Proofs.Script.Instructions
import StoryEngine.Proofs.Script.Forms
import StoryEngine.Proofs.Script.ActorFields
import StoryEngine.Proofs.Script.Conditions
import StoryEngine.Proofs.Script.Negation
import StoryEngine.Proofs.Script.Vocabulary
import StoryEngine.Proofs.Dispatch.Flags
import StoryEngine.Proofs.Text.Joining
import StoryEngine.Proofs.Script.Lists
import StoryEngine.Proofs.Dialog.Translation
import StoryEngine.Proofs.Dialog.Dictionary
import StoryEngine.Proofs.Collection.Latest
import StoryEngine.Proofs.Dialog.Keywords
import StoryEngine.Proofs.Quest.Outcomes
import StoryEngine.Proofs.Save.Catalogs
import StoryEngine.Proofs.Dialog.Accounts
import StoryEngine.Proofs.Text.Numerals
import StoryEngine.Proofs.Schedule.Tokens
import StoryEngine.Proofs.Schedule.Books
import StoryEngine.Proofs.Schedule.Patrols
import StoryEngine.Proofs.Session.WaitScopes
import StoryEngine.Proofs.World.Bearings

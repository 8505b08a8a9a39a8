import StoryEngine.Proofs.Dispatch.Requests
import StoryEngine.Proofs.Session.Triggers

/-! # Masters

The actor that a script with the policy `afterTrigger` was started for lives as long as the run,
unless an action or the rest of the game takes it earlier. What happens to the arena is told deed by
deed, in the order in which a session makes its entries and its actions ask for things. A handle is
never used again, so that at the end of a run nobody else goes in place of its master.
-/

namespace StoryEngine

set_option autoImplicit false

open Arena (Request Event departures)

/-- The session makes an entry, or an action or the rest of the game asks something of the arena. -/
inductive Deed where
  | noted (entry : Entry)
  | asked (request : Request)

def Deed.entry? : Deed → Option Entry
  | .noted entry => some entry
  | .asked _ => none

theorem Deed.eq_noted {deed : Deed} {entry : Entry} (h : deed.entry? = some entry) :
    deed = .noted entry := by
  cases deed <;> cases h
  rfl

def Deed.requests (library : ScriptLibrary) : Deed → List Request
  | .noted entry => (entry.takes? library).toList.map .despawn
  | .asked request => [request]

/-- The arena and its history after some deeds. -/
def arenaAfter (library : ScriptLibrary) (setup : List Request) (deeds : List Deed) :
    Arena × List Event :=
  Arena.run (setup ++ deeds.flatMap (Deed.requests library))

section

variable (library : ScriptLibrary) (setup : List Request)

theorem arenaAfter_append (deeds more : List Deed) :
    (arenaAfter library setup (deeds ++ more)).1 =
      (arenaAfter library setup deeds).1.serve (more.flatMap (Deed.requests library)) := by
  rw [arenaAfter, List.flatMap_append, ← List.append_assoc]
  exact (Arena.run_append _ _).1

/-- What becomes of an actor in the course of some deeds. -/
theorem get?_arenaAfter_append {deeds more : List Deed} {h : Handle} {actor : Actor}
    (hfew : ∀ i, departures i (arenaAfter library setup (deeds ++ more)).2 < 0x100000000)
    (hactor : (arenaAfter library setup deeds).1.get? h = some actor) :
    ∃ since, (arenaAfter library setup (deeds ++ more)).2 =
        since ++ (arenaAfter library setup deeds).2 ∧
      (.despawned h ∈ since ∧ (arenaAfter library setup (deeds ++ more)).1.get? h = none ∨
        .despawned h ∉ since ∧ (arenaAfter library setup (deeds ++ more)).1.get? h =
          some (since.foldr (Event.change h) actor)) := by
  rw [arenaAfter, List.flatMap_append, ← List.append_assoc] at hfew ⊢
  exact Arena.get?_run_append hfew hactor

/-- With an entry only the actor goes that it takes. -/
theorem get?_arenaAfter_entry (deeds : List Deed) (entry : Entry) (k : Handle) :
    (arenaAfter library setup (deeds ++ [.noted entry])).1.get? k =
      if entry.takes? library = some k then none
      else (arenaAfter library setup deeds).1.get? k := by
  rw [arenaAfter_append]
  simp only [List.flatMap_cons, List.flatMap_nil, List.append_nil, Deed.requests]
  cases entry.takes? library with
  | none => rfl
  | some h =>
    exact (Arena.get?_despawn _ h k).trans (if_congr (by rw [Option.some_inj, eq_comm]) rfl rfl)

theorem requests_entries (entries : List Entry) :
    (entries.map Deed.noted).flatMap (Deed.requests library) =
      (entries.filterMap (Entry.takes? library)).map .despawn := by
  induction entries with
  | nil => rfl
  | cons entry rest ih =>
    rw [List.map_cons, List.flatMap_cons, ih, List.filterMap_cons, Deed.requests]
    cases entry.takes? library <;> rfl

theorem requests_asked (asks : List Request) :
    (asks.map Deed.asked).flatMap (Deed.requests library) = asks := by
  rw [List.flatMap_map]
  exact List.flatMap_singleton' asks

end

theorem entries_of_entries (entries : List Entry) :
    (entries.map Deed.noted).filterMap Deed.entry? = entries := by
  rw [List.filterMap_map]
  exact List.filterMap_some

theorem entries_of_asked (asks : List Request) :
    (asks.map Deed.asked).filterMap Deed.entry? = [] := by
  rw [List.filterMap_map]
  exact List.filterMap_eq_nil_iff.mpr fun _ _ => rfl

theorem noted_mem_iff {entries : List Entry} {entry : Entry} :
    Deed.noted entry ∈ entries.map .noted ↔ entry ∈ entries :=
  List.mem_map_of_injective fun _ _ => Deed.noted.inj

theorem noted_not_mem_asked {asks : List Request} {entry : Entry} :
    Deed.noted entry ∉ asks.map .asked := by
  intro hmem
  obtain ⟨_, _, heq⟩ := List.mem_map.mp hmem
  cases heq

namespace Session

/-- A request to the session, or what the rest of the game makes of the stage in between. The actors
then change by what is asked of the arena. -/
inductive Moment where
  | request (op : Op)
  | meanwhile (stage : Stage) (asks : List Request)

def undergo (library : ScriptLibrary) (play : Play) : Moment → Play
  | .request op => (perform library play op).1
  | .meanwhile stage asks => ⟨play.session, ⟨{ stage.world with
      actors := play.stage.world.actors.serve asks }, stage.timers⟩⟩

/-- What the line asks of the arena that a request takes. -/
def asked (library : ScriptLibrary) (play : Play) : Op → List Request
  | .advance place =>
    match lineTaken? library place play with
    | some (next, run, line) =>
      Dispatch.requestsOfAll place run.scope next.stage line.actions
    | none => []
  | .start _ | .submit _ | .abort | .drain => []

/-- The entries that a session has made since an earlier moment. -/
def told (s t : Session) : List Deed := (t.journal.drop s.journal.length).map .noted

def deedsOf (library : ScriptLibrary) (play : Play) : Moment → List Deed
  | .request op =>
    let after := acted library play op
    told play.session after.session ++ (asked library play op).map .asked ++
      told after.session (perform library play op).1.session
  | .meanwhile _ asks => asks.map .asked

/-- The play after some moments, and the deeds on the way. -/
def chronicle (library : ScriptLibrary) (play : Play) : List Moment → Play × List Deed
  | [] => (play, [])
  | moment :: rest =>
    let (last, deeds) := chronicle library (undergo library play moment) rest
    (last, deedsOf library play moment ++ deeds)

/-- Where nothing else happens, the moments are a sequence of requests. -/
theorem chronicle_requests (library : ScriptLibrary) (play : Play) (ops : List Op) :
    (chronicle library play (ops.map .request)).1 = run library play ops := by
  induction ops generalizing play with
  | nil => rfl
  | cons op rest ih => exact ih (perform library play op).1

theorem told_eq {s t : Session} {entries : List Entry} (h : t.journal = s.journal ++ entries) :
    told s t = entries.map .noted := by
  rw [told, h, List.drop_left]

variable {library : ScriptLibrary} {setup : List Request}

/-- A run began with the last of some deeds, and among later ones no entry takes anybody. -/
structure Lasts (library : ScriptLibrary) (setup : List Request) (run : Run)
    (start during : List Deed) : Prop where
  begun : ∃ earlier request waited pointer gate ending,
    start = earlier ++ [.noted (.begun request waited { run with pointer, gate, ending })] ∧
      run.script = request.script ∧
      run.master = request.master.filter (arenaAfter library setup start).1.contains
  policy : run.destroy = (library.get? run.script).bind Script.destroy
  quiet : ∀ entry, .noted entry ∈ during → entry.takes? library = none

def UnderWay (library : ScriptLibrary) (setup : List Request) (run : Run) (deeds : List Deed) :
    Prop :=
  ∃ start during, deeds = start ++ during ∧ Lasts library setup run start during

theorem Lasts.master_lives {run : Run} {start during : List Deed}
    (h : Lasts library setup run start during) {k : Handle} (hmaster : run.master = some k) :
    ∃ master, (arenaAfter library setup start).1.get? k = some master := by
  obtain ⟨_, request, _, _, _, _, _, _, hfilter⟩ := h.begun
  rw [hmaster] at hfilter
  exact Option.isSome_iff_exists.mp (Option.filter_eq_some_iff.mp hfilter.symm).2

theorem UnderWay.goesOn {run : Run} {deeds more : List Deed}
    (h : UnderWay library setup run deeds)
    (hquiet : ∀ entry, .noted entry ∈ more → entry.takes? library = none) (pointer : Nat)
    (gate : Gate) (ending : Option EndReason) :
    UnderWay library setup { run with pointer, gate, ending } (deeds ++ more) := by
  obtain ⟨start, during, rfl, hlasts⟩ := h
  refine ⟨start, during ++ more, List.append_assoc _ _ _, hlasts.begun, hlasts.policy, ?_⟩
  intro entry hentry
  rcases List.mem_append.mp hentry with hentry | hentry
  · exact hlasts.quiet entry hentry
  · exact hquiet entry hentry

/-- A play has come about by some deeds. -/
structure Chronicled (library : ScriptLibrary) (setup : List Request) (play : Play)
    (deeds : List Deed) : Prop where
  journal : play.session.journal = deeds.filterMap Deed.entry?
  actors : play.stage.world.actors = (arenaAfter library setup deeds).1
  active : ∀ run, play.session.active = some run → UnderWay library setup run deeds
  ended : ∀ before run reason, before ++ [.noted (.ended run reason)] <+: deeds →
    UnderWay library setup run before

variable {play later : Play} {deeds more : List Deed}

theorem prefix_of_not_mem {before : List Deed} {deed : Deed}
    (h : before ++ [deed] <+: deeds ++ more) (hdeed : deed ∉ more) :
    before ++ [deed] <+: deeds := by
  induction more using List.reverseRecOn with
  | nil => rwa [List.append_nil] at h
  | append_singleton more other ih =>
    rw [← List.append_assoc, List.prefix_concat_iff] at h
    rcases h with h | h
    · have hlast := List.append_inj_right' h rfl
      exact absurd (List.mem_append_right more (hlast ▸ List.mem_singleton_self deed)) hdeed
    · exact ih h fun hmem => hdeed (List.mem_append_left _ hmem)

/-- An end comes alone, and is the end of the active run. -/
theorem Chronicled.append (h : Chronicled library setup play deeds)
    (hjournal : later.session.journal = play.session.journal ++ more.filterMap Deed.entry?)
    (hactors : later.stage.world.actors =
      play.stage.world.actors.serve (more.flatMap (Deed.requests library)))
    (hactive : later.stage.world.actors = (arenaAfter library setup (deeds ++ more)).1 →
      ∀ run, later.session.active = some run → UnderWay library setup run (deeds ++ more))
    (hended : ∀ run reason, .noted (.ended run reason) ∈ more →
      more = [.noted (.ended run reason)] ∧ play.session.active = some run) :
    Chronicled library setup later (deeds ++ more) := by
  have hlater : later.stage.world.actors = (arenaAfter library setup (deeds ++ more)).1 := by
    rw [hactors, h.actors, arenaAfter_append]
  refine ⟨?_, hlater, hactive hlater, fun before run reason hbefore => ?_⟩
  · rw [hjournal, h.journal, List.filterMap_append]
  · by_cases hmem : .noted (.ended run reason) ∈ more
    · obtain ⟨rfl, hrun⟩ := hended run reason hmem
      rcases List.prefix_concat_iff.mp hbefore with hbefore | hbefore
      · rw [List.append_inj_left' hbefore rfl]
        exact h.active run hrun
      · exact h.ended before run reason hbefore
    · exact h.ended before run reason (prefix_of_not_mem hbefore hmem)

theorem Chronicled.goesOn (h : Chronicled library setup play deeds)
    (hjournal : later.session.journal = play.session.journal ++ more.filterMap Deed.entry?)
    (hactors : later.stage.world.actors =
      play.stage.world.actors.serve (more.flatMap (Deed.requests library)))
    (hkeeps : Keeps play.session.active later.session)
    (hquiet : ∀ entry, .noted entry ∈ more →
      entry.takes? library = none ∧ entry.ended? = none) :
    Chronicled library setup later (deeds ++ more) := by
  refine h.append hjournal hactors (fun _ run hrun => ?_) fun run reason hmem => ?_
  · obtain ⟨first, hfirst, pointer, gate, ending, hlater⟩ := hkeeps run hrun
    cases hrun.symm.trans hlater
    exact (h.active first hfirst).goesOn (fun entry he => (hquiet entry he).1) pointer gate ending
  · cases (hquiet _ hmem).2

theorem Takes.serves {entries : List Entry} (h : Takes library play later entries) :
    later.session.journal =
        play.session.journal ++ (entries.map Deed.noted).filterMap Deed.entry? ∧
      later.stage.world.actors = play.stage.world.actors.serve
        ((entries.map Deed.noted).flatMap (Deed.requests library)) := by
  rw [entries_of_entries, requests_entries, h.2, Dispatch.actors_despawnAll]
  exact ⟨h.1, rfl⟩

/-- The chronicle of a play goes on with the entries that have been made since. -/
def Continues (library : ScriptLibrary) (setup : List Request) (play : Play) (deeds : List Deed)
    (later : Play) : Prop :=
  ∃ entries, later.session.journal = play.session.journal ++ entries ∧
    Chronicled library setup later (deeds ++ entries.map .noted)

/-- The entries of a beat go on with a chronicle, whether a run goes on, begins or ends. -/
theorem Takes.continues {entries : List Entry} (htakes : Takes library play later entries)
    (htells : Tells library play.session.active later entries)
    (h : Chronicled library setup play deeds) : Continues library setup play deeds later := by
  obtain ⟨hjournal, hactors⟩ := htakes.serves
  refine ⟨entries, htakes.1, ?_⟩
  cases htells with
  | goesOn hkeeps hquiet =>
    exact h.goesOn hjournal hactors hkeeps fun entry he => hquiet entry (noted_mem_iff.mp he)
  | @begins request script id waited hscript hrun =>
    refine h.append hjournal hactors (fun hafter run hactive => ?_) fun run reason hmem => ?_
    · cases hrun.symm.trans hactive
      refine ⟨_, [], (List.append_nil _).symm, ⟨deeds, request, waited, _, _, _, rfl, rfl, ?_⟩,
        ?_, fun _ he => absurd he List.not_mem_nil⟩
      · exact congrArg (fun arena : Arena => request.master.filter arena.contains) hafter
      · rw [newRun, hscript, Option.bind_some]
    · cases List.mem_singleton.mp hmem
  | refuses request waited hidle =>
    refine h.append hjournal hactors (fun _ run hrun => ?_) fun run reason hmem => ?_
    · cases hidle.symm.trans hrun
    · cases List.mem_singleton.mp hmem
  | ends reason hrun hidle =>
    refine h.append hjournal hactors (fun _ other hother => ?_) fun other why hmem => ?_
    · cases hidle.symm.trans hother
    · cases List.mem_singleton.mp hmem
      exact ⟨rfl, hrun⟩

theorem Continues.trans {mid : Play} (h : Continues library setup play deeds mid)
    (hlater : ∀ {deeds}, Chronicled library setup mid deeds →
      Continues library setup mid deeds later) : Continues library setup play deeds later := by
  obtain ⟨entries, hjournal, hso⟩ := h
  obtain ⟨more, hmore, hthen⟩ := hlater hso
  refine ⟨entries ++ more, ?_, ?_⟩
  · rw [hmore, hjournal, List.append_assoc]
  · rwa [List.map_append, ← List.append_assoc]

theorem Beats.continues (hbeats : Beats library play later)
    (h : Chronicled library setup play deeds) : Continues library setup play deeds later := by
  refine hbeats.keeps (P := Continues library setup play deeds) (fun hbeat hso => ?_) ⟨[], ?_⟩
  · obtain ⟨_, htakes, htells⟩ := hbeat.tells
    exact hso.trans (htakes.continues htells)
  · rw [List.map_nil, List.append_nil, List.append_nil]
    exact ⟨rfl, h⟩

/-- The line of a request changes the actors by what it asks for, and its run stays active. -/
theorem acted_serves (library : ScriptLibrary) (play : Play) (op : Op) :
    (acted library play op).stage.world.actors =
        play.stage.world.actors.serve (asked library play op) ∧
      Keeps play.session.active (acted library play op).session := by
  cases op with
  | advance place =>
    simp only [acted, asked]
    cases htaken : lineTaken? library place play with
    | none => exact ⟨rfl, keeps_of_eq rfl⟩
    | some taken =>
      obtain ⟨next, run, line⟩ := taken
      obtain ⟨polled, hpoll, hrun, _, rfl, _⟩ := advance_takes htaken
      have hworld : polled.stage.world = play.stage.world := by
        cases hpoll with
        | idle => rfl
        | @active first hfirst =>
          have htakes : Takes library play (pollGate place play first).1 [] :=
            pollGate_takes place hfirst
          exact htakes.2
      have hpassed : (⟨polled.session.pass run line true, polled.stage⟩ : Play).session.active =
          some { run with pointer := run.pointer + 1 } := rfl
      have hline := (performAll_moves library place hpassed rfl line.actions).2
      obtain ⟨first, hfirst, hstill⟩ := ((hpoll.goesOn hrun).trans (.pass hrun line true)).run
      refine ⟨?_, fun _ _ => ⟨first, hfirst, hstill.trans hpassed hline⟩⟩
      rw [actors_performAll, hworld]
  | start | submit | abort | drain => exact ⟨rfl, keeps_of_eq rfl⟩

theorem acted_chronicled (h : Chronicled library setup play deeds) (op : Op) :
    Chronicled library setup (acted library play op)
      (deeds ++ (told play.session (acted library play op).session ++
        (asked library play op).map .asked)) := by
  obtain ⟨entries, hjournal, hquiet⟩ := acted_grows library play op
  obtain ⟨hactors, hkeeps⟩ := acted_serves library play op
  rw [told_eq hjournal]
  have hnobody : entries.filterMap (Entry.takes? library) = [] :=
    List.filterMap_eq_nil_iff.mpr fun entry he => (hquiet entry he).1
  refine h.goesOn ?_ ?_ hkeeps fun entry hmem => ?_
  · rw [List.filterMap_append, entries_of_entries, entries_of_asked, List.append_nil, hjournal]
  · rw [List.flatMap_append, requests_entries, requests_asked, hnobody, hactors]
    rfl
  · rcases List.mem_append.mp hmem with hmem | hmem
    · exact hquiet entry (noted_mem_iff.mp hmem)
    · exact absurd hmem noted_not_mem_asked

theorem perform_continues {op : Op} (h : Chronicled library setup (acted library play op) deeds) :
    Continues library setup (acted library play op) deeds (perform library play op).1 := by
  obtain ⟨last, hbeats, hlast⟩ := perform_beats library play op
  have hso := hbeats.continues h
  rcases hlast with hlast | hlast | hlast <;> rw [hlast]
  · exact hso
  · have htakes : Takes library last ⟨last.session.dropWaiting, last.stage⟩ [.dropped] :=
      ⟨rfl, rfl⟩
    exact hso.trans (htakes.continues
      (.goesOn (keeps_of_eq rfl) (List.forall_mem_singleton.mpr ⟨rfl, rfl⟩)))
  · obtain ⟨entries, hjournal, hlater⟩ := hso
    exact ⟨entries, hjournal, hlater.journal, hlater.actors, hlater.active, hlater.ended⟩

theorem undergo_chronicled (h : Chronicled library setup play deeds) (moment : Moment) :
    Chronicled library setup (undergo library play moment)
      (deeds ++ deedsOf library play moment) := by
  cases moment with
  | request op =>
    obtain ⟨entries, hjournal, hlater⟩ := perform_continues (acted_chronicled h op)
    simp only [deedsOf, told_eq hjournal]
    rwa [← List.append_assoc]
  | meanwhile stage asks =>
    refine h.goesOn ?_ ?_ (keeps_of_eq rfl) fun _ hmem => absurd hmem noted_not_mem_asked
    · rw [deedsOf, entries_of_asked, List.append_nil]
      rfl
    · rw [deedsOf, requests_asked]
      rfl

theorem chronicle_chronicled (h : Chronicled library setup play deeds) (moments : List Moment) :
    Chronicled library setup (chronicle library play moments).1
      (deeds ++ (chronicle library play moments).2) := by
  induction moments generalizing play deeds with
  | nil =>
    rw [chronicle, List.append_nil]
    exact h
  | cons moment rest ih =>
    have hrest := ih (undergo_chronicled h moment)
    rwa [List.append_assoc] at hrest

theorem begin_world_of_afterTrigger (play : Play) {request : PendingStart} {script : Script}
    (waited : Bool) (hscript : library.get? request.script = some script)
    (hpolicy : script.destroy = some .afterTrigger) :
    (begin library play request waited).1.stage.world = play.stage.world := by
  have hworld : consumeTrigger script request.master play.stage.world = play.stage.world := by
    simp only [consumeTrigger, hpolicy]
  rcases begin_cases play waited hscript with hbegun | hrefused
  · rw [hbegun]
    exact hworld
  · rw [hrefused]
    exact hworld

/-- Whether a script with the policy `afterTrigger` begins or is refused, nothing in the world
changes. While a run is active, no entry takes anybody, and when it ends, for whatever reason, its
master leaves. As long as fewer than `2 ^ 32` actors leave any one slot, that is the actor that
stood under the handle when the run began; and if this one has left before, nobody goes. -/
theorem masters_leave_with_their_runs (library : ScriptLibrary) {setup : List Request}
    {stage : Stage} (hsetup : stage.world.actors = (Arena.run setup).1) (moments : List Moment) :
    let last := (chronicle library ⟨.fresh, stage⟩ moments).1
    let deeds := (chronicle library ⟨.fresh, stage⟩ moments).2
    let after := arenaAfter library setup
    last.session.journal = deeds.filterMap Deed.entry? ∧
      last.stage.world.actors = (after deeds).1 ∧
      (∀ before entry h, (after (before ++ [.noted entry])).1.get? h =
        if entry.takes? library = some h then none else (after before).1.get? h) ∧
      (∀ (play : Play) request script waited, library.get? request.script = some script →
        script.destroy = some .afterTrigger →
          (begin library play request waited).1.stage.world = play.stage.world) ∧
      (∀ run, last.session.active = some run →
        ∃ start during, deeds = start ++ during ∧ Lasts library setup run start during) ∧
      ∀ before run reason, before ++ [.noted (.ended run reason)] <+: deeds →
        ∃ start during, before = start ++ during ∧ Lasts library setup run start during ∧
          ∀ h, run.destroy = some .afterTrigger → run.master = some h →
            (after (before ++ [.noted (.ended run reason)])).1.get? h = none ∧
            ((∀ i, departures i (after before).2 < 0x100000000) →
              ∃ master since, (after start).1.get? h = some master ∧
                (after before).2 = since ++ (after start).2 ∧
                (.despawned h ∈ since ∧
                    (after (before ++ [.noted (.ended run reason)])).1 = (after before).1 ∨
                  .despawned h ∉ since ∧
                    (after before).1.get? h = some (since.foldr (Event.change h) master))) := by
  have hfresh : Chronicled library setup ⟨.fresh, stage⟩ [] := by
    refine ⟨rfl, hsetup.trans ?_, nofun, fun before run reason hbefore => ?_⟩
    · rw [arenaAfter, List.flatMap_nil, List.append_nil]
    · exact absurd (List.prefix_nil.mp hbefore) (List.append_ne_nil_of_right_ne_nil _ nofun)
  have hso := chronicle_chronicled hfresh moments
  rw [List.nil_append] at hso
  intro last deeds after
  refine ⟨hso.journal, hso.actors, get?_arenaAfter_entry library setup,
    fun play _ _ waited hscript => begin_world_of_afterTrigger play waited hscript, hso.active,
    fun before run reason hbefore => ?_⟩
  obtain ⟨start, during, rfl, hlasts⟩ := hso.ended before run reason hbefore
  refine ⟨start, during, rfl, hlasts, fun h hpolicy hmaster => ?_⟩
  have htakes : (Entry.ended run reason).takes? library = some h := by
    rw [Entry.takes?, DestroyPolicy.taken?, if_pos hpolicy, hmaster]
  refine ⟨?_, fun hfew => ?_⟩
  · exact (get?_arenaAfter_entry library setup _ _ h).trans (if_pos htakes)
  · obtain ⟨master, hmasterLives⟩ := hlasts.master_lives hmaster
    obtain ⟨since, hsince, hfate⟩ := get?_arenaAfter_append library setup hfew hmasterLives
    refine ⟨master, since, hmasterLives, hsince, hfate.imp_left fun ⟨hleft, hnone⟩ => ⟨hleft, ?_⟩⟩
    refine (arenaAfter_append library setup (start ++ during) _).trans ?_
    rw [List.flatMap_singleton, Deed.requests, htakes]
    exact Arena.despawn_of_get?_none hnone

/-- The trap takes the guard away itself and puts a crate into its slot, which stays when the trap
is over. Then somebody sets about pushing the crate, and when that is called off the crate goes. -/
theorem crate_outlives_the_trap :
    let guard : Actor := .arriving "guard" "npc" ⟨1, 1⟩
    let library : ScriptLibrary := .ofList
      [("trap", .ofSource [] (some .afterTrigger) ["destroy=guard", "spawn=crate__2__2"]),
        ("push", .ofSource [] (some .afterTrigger) ["text=Creak."])]
    let place : Place := ⟨.blank "vault" 8 8, 0⟩
    let stage : Stage := ⟨((World.blank ∅).spawn guard).2, ∅⟩
    let moments : List Moment := [.request (.start ⟨"trap", some ⟨0, 0⟩, .map⟩),
      .request (.advance place), .request (.advance place), .request (.advance place),
      .request (.start ⟨"push", some ⟨0, 1⟩, .map⟩), .request .abort]
    let deeds := (chronicle library ⟨.fresh, stage⟩ moments).2
    let trap : Run := ⟨"trap", 1, 2, 2, some ⟨0, 0⟩, .map, some .afterTrigger, .opened, none⟩
    let after := arenaAfter library [.spawn guard]
    stage.world.actors = (Arena.run [.spawn guard]).1 ∧
      deeds.take 5 ++ [.noted (.ended trap .completed)] <+: deeds ∧
      (after (deeds.take 5 ++ [.noted (.ended trap .completed)])).1 = (after (deeds.take 5)).1 ∧
      (after (deeds.take 5)).1.toList = [(⟨0, 1⟩, .arriving "crate" "crate" ⟨2, 2⟩)] ∧
      (after deeds).1.toList = [] := by
  intro guard library place stage moments deeds trap after
  have hsetup : stage.world.actors = (Arena.run [.spawn guard]).1 := rfl
  have hends : deeds.take 5 ++ [.noted (.ended trap .completed)] <+: deeds := by
    have hsixth : deeds[5]?.bind Deed.entry? = some (.ended trap .completed) := by decide +kernel
    obtain ⟨deed, hdeed, hentry⟩ := Option.bind_eq_some_iff.mp hsixth
    rw [Deed.eq_noted hentry] at hdeed
    have hfront : deeds.take 6 = deeds.take 5 ++ deeds[5]?.toList := List.take_add_one
    rw [hdeed] at hfront
    exact hfront ▸ List.take_prefix 6 deeds
  have hfew : ∀ i, departures i (after (deeds.take 5)).2 < 0x100000000 := fun i =>
    Nat.lt_of_le_of_lt (Arena.departures_le_length i _) (by decide +kernel)
  have hgone : (after (deeds.take 5)).1.get? ⟨0, 0⟩ = none := by decide +kernel
  obtain ⟨_, _, _, _, _, hparts⟩ := masters_leave_with_their_runs library hsetup moments
  obtain ⟨_, _, _, _, hmaster⟩ := hparts (deeds.take 5) trap .completed hends
  obtain ⟨_, _, _, _, ⟨_, hsame⟩ | ⟨_, hlives⟩⟩ := (hmaster ⟨0, 0⟩ rfl rfl).2 hfew
  · exact ⟨hsetup, hends, hsame, by decide +kernel, by decide +kernel⟩
  · cases hgone.symm.trans hlives

end Session

end StoryEngine

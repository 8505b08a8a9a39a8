import StoryEngine.Proofs.Dispatch.Failure
import StoryEngine.Proofs.Session.Tickets

/-! # Triggers

The actor that sets a script off may be taken from the map, either when the script is tried or when
its run has ended. Apart from what its lines do, a session takes nobody else. A trigger that has to
wait is not consumed before it is tried.
-/

namespace StoryEngine

set_option autoImplicit false

/-- The actor that goes under a policy. -/
def DestroyPolicy.taken? (policy : DestroyPolicy) (destroy : Option DestroyPolicy)
    (master : Option Handle) : Option Handle :=
  if destroy = some policy then master else none

/-- The actor that goes with an entry. -/
def Entry.takes? (library : ScriptLibrary) : Entry → Option Handle
  | .begun request _ _ | .refused request _ =>
    DestroyPolicy.onTrigger.taken? ((library.get? request.script).bind Script.destroy)
      request.master
  | .ended run _ => DestroyPolicy.afterTrigger.taken? run.destroy run.master
  | .deferred _ | .withdrawn _ | .dropped | .passed _ _ => none

namespace Session

open Dispatch (despawnAll)

variable {library : ScriptLibrary}

theorem removeMaster_eq_despawnAll (run : Run) (w : World) :
    removeMaster run w =
      despawnAll w (DestroyPolicy.afterTrigger.taken? run.destroy run.master).toList := by
  unfold removeMaster
  rcases run.destroy with _ | _ | _ <;> cases run.master <;> rfl

theorem consumeTrigger_eq_despawnAll (script : Script) (master : Option Handle) (w : World) :
    consumeTrigger script master w =
      despawnAll w (DestroyPolicy.onTrigger.taken? script.destroy master).toList := by
  unfold consumeTrigger
  rcases script.destroy with _ | _ | _ <;> cases master <;> rfl

/-- From one play to another the journal has grown by some entries, and whoever is gone went with
one of them. -/
def Takes (library : ScriptLibrary) (play next : Play) (entries : List Entry) : Prop :=
  next.session.journal = play.session.journal ++ entries ∧
    next.stage.world =
      despawnAll play.stage.world (entries.filterMap (Entry.takes? library))

theorem Takes.refl (play : Play) : Takes library play play [] :=
  ⟨(List.append_nil _).symm, rfl⟩

theorem Takes.trans {play mid next : Play} {entries more : List Entry}
    (h : Takes library play mid entries) (h' : Takes library mid next more) :
    Takes library play next (entries ++ more) := by
  obtain ⟨hjournal, hworld⟩ := h
  obtain ⟨hjournal', hworld'⟩ := h'
  constructor
  · rw [hjournal', hjournal, List.append_assoc]
  · rw [hworld', hworld, List.filterMap_append, despawnAll, despawnAll, despawnAll,
      List.foldl_append]

theorem takes_of_same {play next : Play} (hjournal : next.session.journal = play.session.journal)
    (hworld : next.stage.world = play.stage.world) : Takes library play next [] :=
  ⟨hjournal.trans (List.append_nil _).symm, hworld⟩

/-- Whoever goes with an entry is gone afterwards. -/
theorem Takes.gone {play next : Play} {entries : List Entry} (h : Takes library play next entries)
    {entry : Entry} (hentry : entry ∈ entries) {k : Handle}
    (hk : entry.takes? library = some k) : next.stage.world.actor? k = none := by
  rw [h.2, Dispatch.actor?_despawnAll, if_pos (List.mem_filterMap.mpr ⟨entry, hentry, hk⟩)]

theorem takes_of_snoc {play next : Play} {entry : Entry}
    (hjournal : next.session.journal = play.session.journal ++ [entry])
    (hworld : next.stage.world = despawnAll play.stage.world (entry.takes? library).toList) :
    Takes library play next [entry] := by
  refine ⟨hjournal, ?_⟩
  rw [hworld, List.filterMap_cons]
  cases entry.takes? library <;> rfl

/-- A start that is tried consumes its trigger, whether it begins or not. -/
theorem tried_takes (play : Play) {request : PendingStart} {script : Script} (waited : Bool)
    (run : Run) (hscript : library.get? request.script = some script) :
    let stage : Stage :=
      ⟨consumeTrigger script request.master play.stage.world, play.stage.timers⟩
    Takes library play ⟨play.session.startRun request waited run, stage⟩
        [.begun request waited run] ∧
      Takes library play ⟨play.session.note (.refused request waited), stage⟩
        [.refused request waited] := by
  intro stage
  have hworld : stage.world = despawnAll play.stage.world
      (DestroyPolicy.onTrigger.taken? ((library.get? request.script).bind Script.destroy)
        request.master).toList := by
    rw [hscript, Option.bind_some]
    exact consumeTrigger_eq_despawnAll script request.master play.stage.world
  exact ⟨takes_of_snoc rfl hworld, takes_of_snoc rfl hworld⟩

theorem begin_takes (play : Play) {request : PendingStart} {script : Script} (waited : Bool)
    (hscript : library.get? request.script = some script) :
    ∃ entry : Entry, Takes library play (begin library play request waited).1 [entry] ∧
      entry.takes? library = DestroyPolicy.onTrigger.taken? script.destroy request.master := by
  have hpolicy : (library.get? request.script).bind Script.destroy = script.destroy := by
    rw [hscript, Option.bind_some]
  rw [← hpolicy]
  rcases begin_cases play waited hscript with hbegun | hrefused
  · rw [hbegun]
    exact ⟨_, (tried_takes play waited _ hscript).1, rfl⟩
  · rw [hrefused]
    exact ⟨_, (tried_takes play waited
      (newRun request script (play.session.lastRun + 1) play.stage.world) hscript).2, rfl⟩

/-- A run that is active was active before. -/
def Keeps (before : Option Run) (t : Session) : Prop :=
  ∀ run, t.active = some run → ∃ first, before = some first ∧ StillActive first t

theorem keeps_of_eq {before : Option Run} {t : Session} (h : t.active = before) :
    Keeps before t :=
  fun run hrun => ⟨run, h ▸ hrun, run.pointer, run.gate, run.ending, hrun⟩

theorem GoesOn.keeps {s t : Session} {out : List Output} {lines : List (ScriptLine × Bool)}
    (h : GoesOn s t out lines) : Keeps s.active t :=
  fun _ _ => h.run

/-- What some entries tell about the run that was active before and the one that is active now. -/
inductive Tells (library : ScriptLibrary) (before : Option Run) (next : Play) :
    List Entry → Prop where
  | goesOn {entries : List Entry} (hkeeps : Keeps before next.session)
      (hquiet : ∀ entry ∈ entries, entry.takes? library = none ∧ entry.ended? = none) :
      Tells library before next entries
  | begins {request : PendingStart} {script : Script} {id : Nat} (waited : Bool)
      (hscript : library.get? request.script = some script)
      (hrun : next.session.active = some (newRun request script id next.stage.world)) :
      Tells library before next [.begun request waited (newRun request script id next.stage.world)]
  | refuses (request : PendingStart) (waited : Bool) (hidle : next.session.active = none) :
      Tells library before next [.refused request waited]
  | ends {run : Run} (reason : EndReason) (hrun : before = some run)
      (hidle : next.session.active = none) : Tells library before next [.ended run reason]

theorem begin_tells {play : Play} (hidle : play.session.active = none) (request : PendingStart)
    (waited : Bool) :
    let next := (begin library play request waited).1
    ∃ entries, Takes library play next entries ∧ Tells library play.session.active next entries := by
  intro next
  cases hscript : library.get? request.script with
  | none =>
    have hsame : next = play := by simp only [next, begin, hscript]
    rw [hsame]
    exact ⟨[], .refl play, .goesOn (keeps_of_eq rfl) (List.forall_mem_nil _)⟩
  | some script =>
    have htried := tried_takes play waited
      (newRun request script (play.session.lastRun + 1)
        (consumeTrigger script request.master play.stage.world)) hscript
    rcases begin_cases play waited hscript with hbegun | hrefused
    · simp only [next, hbegun]
      exact ⟨_, htried.1, .begins waited hscript rfl⟩
    · simp only [next, hrefused]
      exact ⟨_, htried.2, .refuses request waited hidle⟩

theorem teardown_takes {play : Play} {run : Run} (reason : EndReason)
    (hrun : play.session.active = some run) :
    Takes library play (teardown play reason) [.ended run reason] := by
  refine takes_of_snoc ?_ ?_
  · rw [teardown_session reason hrun, endRun_journal]
  · simp only [teardown, hrun]
    exact removeMaster_eq_despawnAll run play.stage.world

theorem pollGate_takes (place : Place) {play : Play} {run : Run}
    (hrun : play.session.active = some run) :
    Takes library play (pollGate place play run).1 [] := by
  obtain ⟨gate, hgate⟩ := pollGate_session place hrun
  refine takes_of_same (by rw [hgate]) ?_
  unfold pollGate
  split
  · rfl
  · rfl
  · split <;> rfl
  · rfl

theorem submit_tells (play : Play) (input : PlayerInput) :
    let next : Play := ⟨(play.session.submit input).2, play.stage⟩
    Takes library play next [] ∧ Tells library play.session.active next [] := by
  intro next
  rcases submit_cases play.session input with h | h
  · exact ⟨takes_of_same (congrArg journal h) rfl,
      .goesOn (keeps_of_eq (congrArg active h)) (List.forall_mem_nil _)⟩
  · exact ⟨takes_of_same (h.journal.trans (List.append_nil _)) rfl,
      .goesOn h.keeps (List.forall_mem_nil _)⟩

theorem Beat.tells {play next : Play} (h : Beat library play next) :
    ∃ entries, Takes library play next entries ∧
      Tells library play.session.active next entries := by
  have hquiet {entry : Entry} (htakes : entry.takes? library = none)
      (hended : entry.ended? = none) :
      ∀ e ∈ [entry], e.takes? library = none ∧ e.ended? = none :=
    List.forall_mem_singleton.mpr ⟨htakes, hended⟩
  cases h with
  | poll place hrun =>
    refine ⟨[], pollGate_takes place hrun, .goesOn ?_ (List.forall_mem_nil _)⟩
    exact (Polled.goesOn (.active hrun) (pollGate_active place hrun)).keeps
  | @skip run line hrun =>
    exact ⟨[_], ⟨rfl, rfl⟩, .goesOn (GoesOn.pass hrun line false).keeps (hquiet rfl rfl)⟩
  | answer input => exact ⟨[], submit_tells play input⟩
  | defer => exact ⟨[_], ⟨rfl, rfl⟩, .goesOn (keeps_of_eq rfl) (hquiet rfl rfl)⟩
  | @finish run reason hrun =>
    exact ⟨_, teardown_takes reason hrun, .ends reason hrun (teardown_active play reason)⟩
  | @resume request rest hidle =>
    have hnext : (⟨{ play.session with deferred := rest }, play.stage⟩ : Play).session.active =
        none := hidle
    exact begin_tells hnext request true
  | @tryNow request _ hidle => exact begin_tells hidle request false

theorem Beats.takes {play next : Play} (h : Beats library play next) :
    ∃ entries, Takes library play next entries := by
  refine h.keeps (P := fun next => ∃ entries, Takes library play next entries)
    (fun h ht => ?_) ⟨[], .refl play⟩
  obtain ⟨entries, ht⟩ := ht
  obtain ⟨more, hmore, _⟩ := h.tells
  exact ⟨entries ++ more, ht.trans hmore⟩

/-- The play once the line that a request takes has been carried out. -/
def acted (library : ScriptLibrary) (play : Play) : Op → Play
  | .advance place =>
    match lineTaken? library place play with
    | some (next, run, line) => (performAll place run.scope next line.actions).1
    | none => play
  | .start _ | .submit _ | .abort | .drain => play

/-- With an entry that a line makes nobody goes and no run ends. -/
theorem acted_grows (library : ScriptLibrary) (play : Play) (op : Op) :
    Grows (fun entry => entry.takes? library = none ∧ entry.ended? = none) play.session
      (acted library play op).session := by
  cases op with
  | advance place =>
    simp only [acted]
    cases htaken : lineTaken? library place play with
    | none => exact .of_journal_eq rfl
    | some taken =>
      obtain ⟨next, run, line⟩ := taken
      obtain ⟨polled, hpoll, hrun, _, rfl, _⟩ := advance_takes htaken
      have hpassed := ((hpoll.goesOn hrun).trans (.pass hrun line true)).journal
      refine .trans (.of_snoc hpassed ⟨rfl, rfl⟩) ?_
      refine (performAll_grows place run.scope rfl line.actions).mono ?_
      rintro _ ⟨script, rfl, _⟩
      exact ⟨rfl, rfl⟩
  | start | submit | abort | drain => exact .of_journal_eq rfl

/-- After its line a request is a chain of beats, except that an abort drops what waits and that
the output is handed out. -/
theorem perform_beats (library : ScriptLibrary) (play : Play) (op : Op) :
    ∃ last, Beats library (acted library play op) last ∧
      ((perform library play op).1 = last ∨
        (perform library play op).1 = ⟨last.session.dropWaiting, last.stage⟩ ∨
        (perform library play op).1 = ⟨{ last.session with output := [] }, last.stage⟩) := by
  cases op with
  | start request => exact ⟨_, start_beats library play request, .inl rfl⟩
  | advance place =>
    refine ⟨_, ?_, .inl rfl⟩
    simp only [acted, perform]
    cases htaken : lineTaken? library place play with
    | none => exact advance_beats htaken
    | some taken =>
      obtain ⟨next, run, line⟩ := taken
      obtain ⟨_, _, _, _, _, hadvance⟩ := advance_takes htaken
      rw [hadvance]
      exact takeLine_beats library place next run line
  | submit input => exact ⟨_, .single (.answer input), .inl rfl⟩
  | abort =>
    refine ⟨teardown play .aborted, ?_, .inr (.inl rfl)⟩
    cases hrun : play.session.active with
    | none => rw [teardown_of_idle .aborted hrun]; exact .refl
    | some run => exact .single (.finish hrun .aborted)
  | drain => exact ⟨play, .refl, .inr (.inr rfl)⟩

theorem perform_takes (library : ScriptLibrary) (play : Play) (op : Op) :
    ∃ entries, Takes library (acted library play op) (perform library play op).1 entries := by
  obtain ⟨last, hbeats, hlast⟩ := perform_beats library play op
  obtain ⟨entries, htakes⟩ := hbeats.takes
  rcases hlast with h | h | h <;> rw [h]
  · exact ⟨entries, htakes⟩
  · exact ⟨entries ++ [.dropped], htakes.trans ⟨rfl, rfl⟩⟩
  · exact ⟨entries, htakes⟩

/-- Whoever goes with an entry is gone after the request that made it. -/
theorem perform_gone {play : Play} {op : Op} {entries : List Entry}
    (hjournal : (perform library play op).1.session.journal = play.session.journal ++ entries)
    {entry : Entry} (hentry : entry ∈ entries) {h : Handle}
    (htakes : entry.takes? library = some h) :
    (perform library play op).1.stage.world.actor? h = none := by
  obtain ⟨front, hfront, hnone⟩ := acted_grows library play op
  obtain ⟨more, hmore⟩ := perform_takes library play op
  have hsplit := hmore.1
  rw [hjournal, hfront, List.append_assoc] at hsplit
  rw [List.append_cancel_left hsplit] at hentry
  rcases List.mem_append.mp hentry with hentry | hentry
  · rw [(hnone entry hentry).1] at htakes
    cases htakes
  · exact hmore.gone hentry htakes

/-- A start consumes its trigger exactly if it need not wait. A trigger that waits is consumed by
the request in whose course it is tried. -/
theorem trigger_consumed_iff {play : Play} {request : PendingStart} {script : Script} {h : Handle}
    (hscript : library.get? request.script = some script)
    (hpolicy : script.destroy = some .onTrigger) (hmaster : request.master = some h)
    (hlives : (play.stage.world.actor? h).isSome) :
    (∃ outcome, (start library play request).2 = .ok outcome ∧
      ((start library play request).1.stage.world.actor? h = none ↔ outcome ≠ .deferred)) ∧
    ∀ later op entries,
      (perform library later op).1.session.journal = later.session.journal ++ entries →
        (∃ entry ∈ entries, entry.resumed? = some request) →
          (perform library later op).1.stage.world.actor? h = none := by
  have hgoes : DestroyPolicy.onTrigger.taken? script.destroy request.master = some h := by
    rw [hpolicy, hmaster]
    rfl
  constructor
  · have hknown : library.contains request.script = true :=
      Option.isSome_iff_exists.mpr ⟨script, hscript⟩
    rcases start_cases play request hknown with ⟨_, _, _, hwaits⟩ | ⟨_, ended, _, _, _, htries⟩
    · rw [hwaits]
      refine ⟨.deferred, rfl, iff_of_false ?_ fun hne => hne rfl⟩
      exact Option.isSome_iff_ne_none.mp hlives
    · rw [htries]
      obtain ⟨outcome, hok⟩ := (begin_of_known ended false hknown).2
      obtain ⟨entry, htakes, hentry⟩ := begin_takes ended false hscript
      refine ⟨outcome, hok, iff_of_true ?_ ?_⟩
      · exact htakes.gone List.mem_cons_self (hentry.trans hgoes)
      · rintro rfl
        exact begin_ne_deferred ended request false hok
  · rintro later op entries hjournal ⟨entry, hentry, hresumed⟩
    refine perform_gone hjournal hentry ?_
    have hpolicy : (library.get? request.script).bind Script.destroy = script.destroy := by
      rw [hscript, Option.bind_some]
    rw [← hpolicy] at hgoes
    unfold Entry.resumed? at hresumed
    split at hresumed
    · cases hresumed
      exact hgoes
    · cases hresumed
      exact hgoes
    · cases hresumed

/-- The lid is shut, and the chest is gone nevertheless. -/
theorem shut_chest_is_consumed :
    let chest : Script := .ofSource ["open"] (some .onTrigger) ["give_gold=5"]
    let library : ScriptLibrary := .ofList [("chest", chest)]
    let play : Play :=
      ⟨.fresh, ⟨((World.blank ∅).spawn (.arriving "chest" "chest" ⟨1, 1⟩)).2, ∅⟩⟩
    let request : PendingStart := ⟨"chest", some ⟨0, 0⟩, .map⟩
    let after := start library play request
    library.get? request.script = some chest ∧ (play.stage.world.actor? ⟨0, 0⟩).isSome ∧
      after.2 = .ok .conditionsFailed ∧ after.1.stage.world.actor? ⟨0, 0⟩ = none := by
  intro chest library play request after
  have hscript : library.get? request.script = some chest := by decide +kernel
  have hlives : (play.stage.world.actor? ⟨0, 0⟩).isSome := by decide +kernel
  have hrefused : after.2 = .ok .conditionsFailed := by decide +kernel
  obtain ⟨outcome, hok, hgone⟩ := (trigger_consumed_iff hscript rfl rfl hlives).1
  cases hok.symm.trans hrefused
  exact ⟨hscript, hlives, hrefused, hgone.mpr nofun⟩

/-- The opening of the chest has to wait for a conversation. When that is called off, nothing is
left that would take the chest away. -/
theorem dropped_trigger_leaves_chest :
    let library : ScriptLibrary := .ofList
      [("talk", .ofSource [] none ["text=Hello."]),
        ("chest", .ofSource [] (some .onTrigger) ["give_gold=5"])]
    let stage : Stage := ⟨((World.blank ∅).spawn (.arriving "chest" "chest" ⟨1, 1⟩)).2, ∅⟩
    let busy := (start library ⟨.fresh, stage⟩ ⟨"talk", none, .dialog⟩).1
    let waits := start library busy ⟨"chest", some ⟨0, 0⟩, .map⟩
    let last := abort waits.1
    waits.2 = .ok .deferred ∧ (waits.1.stage.world.actor? ⟨0, 0⟩).isSome ∧
      last.session.state = .idle ∧ last.session.deferred = [] ∧
      (last.stage.world.actor? ⟨0, 0⟩).isSome := by
  decide +kernel

end Session

end StoryEngine

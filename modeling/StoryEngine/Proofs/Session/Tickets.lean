import Mathlib.Data.List.Nodup
import StoryEngine.Proofs.Session.Beats
import StoryEngine.Proofs.Session.Lifecycle

/-! # What becomes of the starts that wait

Every start that has to wait is given a ticket, and a ledger kept from the journal alone says where
each ticket is: in the queue, tried, withdrawn by a line or dropped by an abort. The session goes by
the ledger: its queue is the one of the ledger, and what it tries after waiting are the tickets that
the ledger says, in the order of their numbers.
-/

namespace StoryEngine

set_option autoImplicit false

/-- A start that had to wait, and its number. -/
abbrev Ticket := PendingStart × Nat

namespace Entry

def deferred? : Entry → Option PendingStart
  | deferred request => some request
  | _ => none

/-- The start that was tried after it had waited. -/
def resumed? : Entry → Option PendingStart
  | begun request true _ | refused request true => some request
  | _ => none

def isRemoval : Entry → Bool
  | withdrawn _ | dropped => true
  | _ => false

end Entry

def tickets (entries : List Entry) : List Ticket := (entries.filterMap Entry.deferred?).zipIdx

structure Ledger where
  issued : Nat
  waiting : List Ticket
  tried : List Ticket
  withdrawn : List Ticket
  dropped : List Ticket
deriving DecidableEq

namespace Ledger

def resume (ledger : Ledger) : Ledger :=
  { ledger with
    waiting := ledger.waiting.tail
    tried := ledger.tried ++ ledger.waiting.take 1 }

def file (ledger : Ledger) : Entry → Ledger
  | .deferred request =>
    { ledger with
      issued := ledger.issued + 1
      waiting := ledger.waiting ++ [(request, ledger.issued)] }
  | .withdrawn script =>
    { ledger with
      waiting := ledger.waiting.filter fun t => t.1.script != script
      withdrawn := ledger.withdrawn ++ ledger.waiting.filter fun t => t.1.script == script }
  | .dropped => { ledger with waiting := [], dropped := ledger.dropped ++ ledger.waiting }
  | .begun _ true _ | .refused _ true => ledger.resume
  | .begun _ false _ | .refused _ false | .passed _ _ | .ended _ _ => ledger

def replay (entries : List Entry) : Ledger := entries.foldl file ⟨0, [], [], [], []⟩

def all (ledger : Ledger) : List Ticket :=
  ledger.waiting ++ (ledger.tried ++ (ledger.withdrawn ++ ledger.dropped))

theorem replay_snoc (entries : List Entry) (entry : Entry) :
    replay (entries ++ [entry]) = (replay entries).file entry := by
  simp only [replay, List.foldl_append, List.foldl_cons, List.foldl_nil]

theorem replay_append_passed (entries : List Entry) (lines : List (ScriptLine × Bool)) :
    replay (entries ++ lines.map fun line => .passed line.1 line.2) = replay entries := by
  rw [replay, List.foldl_append, List.foldl_map]
  exact List.foldl_fixed' (fun _ => rfl) lines

theorem resume_all_perm (ledger : Ledger) : ledger.resume.all.Perm ledger.all := by
  refine List.perm_iff_count.mpr fun t => ?_
  have hsplit := congrArg (List.count t) (List.take_append_drop 1 ledger.waiting)
  rw [List.count_append, List.drop_one] at hsplit
  simp only [resume, all, List.count_append]
  omega

theorem file_all_perm (ledger : Ledger) (entry : Entry) :
    (ledger.file entry).all.Perm
      (ledger.all ++ (entry.deferred?.map fun request => (request, ledger.issued)).toList) := by
  have hnone {next : Ledger} (h : next.all.Perm ledger.all) : next.all.Perm (ledger.all ++ []) := by
    rwa [List.append_nil]
  cases entry with
  | deferred request =>
    refine List.perm_iff_count.mpr fun t => ?_
    simp only [file, all, Entry.deferred?, Option.map_some, Option.toList_some, List.count_append]
    omega
  | withdrawn script =>
    refine hnone (List.perm_iff_count.mpr fun t => ?_)
    have hsplit := (List.filter_append_perm (fun t => t.1.script == script)
      ledger.waiting).count_eq t
    rw [List.count_append] at hsplit
    simp only [file, all, List.count_append, bne]
    omega
  | dropped =>
    refine hnone (List.perm_iff_count.mpr fun t => ?_)
    simp only [file, all, List.nil_append, List.count_append]
    omega
  | begun _ waited | refused _ waited =>
    cases waited
    · exact hnone (.refl _)
    · exact hnone (resume_all_perm ledger)
  | passed | ended => exact hnone (.refl _)

theorem replay_issued (entries : List Entry) :
    (replay entries).issued = (entries.filterMap Entry.deferred?).length := by
  induction entries using List.reverseRecOn with
  | nil => rfl
  | append_singleton entries entry ih =>
    rw [replay_snoc, List.filterMap_append, List.length_append, ← ih]
    cases entry with
    | begun _ waited | refused _ waited => cases waited <;> rfl
    | _ => rfl

theorem tickets_snoc (entries : List Entry) (entry : Entry) :
    tickets (entries ++ [entry]) = tickets entries ++
      (entry.deferred?.map fun request => (request, (replay entries).issued)).toList := by
  rw [tickets, List.filterMap_append, List.zipIdx_append, replay_issued, Nat.zero_add]
  cases entry <;> rfl

theorem replay_all_perm (entries : List Entry) : (replay entries).all.Perm (tickets entries) := by
  induction entries using List.reverseRecOn with
  | nil => exact .refl _
  | append_singleton entries entry ih =>
    rw [replay_snoc, tickets_snoc]
    exact (file_all_perm _ entry).trans (ih.append_right _)

theorem nodup_tickets (entries : List Entry) : (tickets entries).Nodup := by
  refine List.Nodup.of_map Prod.snd ?_
  rw [tickets, List.zipIdx_map_snd]
  exact List.nodup_range'

/-- What has been tried and what waits is in the order of the numbers, all given out before. -/
structure Ascending (ledger : Ledger) : Prop where
  numbers : ((ledger.tried ++ ledger.waiting).map Prod.snd).Pairwise (· < ·)
  bounded : ∀ t ∈ ledger.tried ++ ledger.waiting, t.2 < ledger.issued

theorem Ascending.of_sublist {ledger next : Ledger} (h : ledger.Ascending)
    (hsub : (next.tried ++ next.waiting).Sublist (ledger.tried ++ ledger.waiting))
    (hissued : next.issued = ledger.issued) : next.Ascending where
  numbers := h.numbers.sublist (hsub.map _)
  bounded := fun t ht => hissued ▸ h.bounded t (hsub.subset ht)

theorem Ascending.resume {ledger : Ledger} (h : ledger.Ascending) : ledger.resume.Ascending := by
  refine h.of_sublist ?_ rfl
  rw [Ledger.resume, List.append_assoc, ← List.drop_one, List.take_append_drop]

theorem Ascending.file {ledger : Ledger} (h : ledger.Ascending) (entry : Entry) :
    (ledger.file entry).Ascending := by
  cases entry with
  | deferred request =>
    constructor
    · rw [Ledger.file, ← List.append_assoc, List.map_append, List.pairwise_append]
      refine ⟨h.numbers, List.pairwise_singleton _ _, ?_⟩
      intro number hmem last hlast
      obtain ⟨t, ht, rfl⟩ := List.mem_map.mp hmem
      rw [List.mem_singleton.mp hlast]
      exact h.bounded t ht
    · intro t ht
      rw [Ledger.file, ← List.append_assoc] at ht
      rcases List.mem_append.mp ht with ht | ht
      · exact Nat.lt_succ_of_lt (h.bounded t ht)
      · rw [List.mem_singleton.mp ht]
        exact Nat.lt_succ_self _
  | withdrawn script => exact h.of_sublist (List.filter_sublist.append_left _) rfl
  | dropped => exact h.of_sublist ((List.nil_sublist _).append_left _) rfl
  | begun _ waited | refused _ waited =>
    cases waited
    · exact h
    · exact h.resume
  | passed | ended => exact h

theorem replay_ascending (entries : List Entry) : (replay entries).Ascending := by
  induction entries using List.reverseRecOn with
  | nil => exact ⟨List.Pairwise.nil, fun _ ht => absurd ht List.not_mem_nil⟩
  | append_singleton entries entry ih =>
    rw [replay_snoc]
    exact ih.file entry

structure Extends (ledger later : Ledger) : Prop where
  tried : ledger.tried <+: later.tried
  withdrawn : ledger.withdrawn <+: later.withdrawn
  dropped : ledger.dropped <+: later.dropped

theorem Extends.refl (ledger : Ledger) : ledger.Extends ledger :=
  ⟨List.prefix_rfl, List.prefix_rfl, List.prefix_rfl⟩

theorem Extends.trans {ledger later last : Ledger} (h : ledger.Extends later)
    (h' : later.Extends last) : ledger.Extends last :=
  ⟨h.tried.trans h'.tried, h.withdrawn.trans h'.withdrawn, h.dropped.trans h'.dropped⟩

theorem file_extends (ledger : Ledger) (entry : Entry) : ledger.Extends (ledger.file entry) := by
  cases entry with
  | withdrawn => exact ⟨List.prefix_rfl, List.prefix_append _ _, List.prefix_rfl⟩
  | dropped => exact ⟨List.prefix_rfl, List.prefix_rfl, List.prefix_append _ _⟩
  | begun _ waited | refused _ waited =>
    cases waited
    · exact .refl ledger
    · exact ⟨List.prefix_append _ _, List.prefix_rfl, List.prefix_rfl⟩
  | deferred | passed | ended => exact ⟨List.prefix_rfl, List.prefix_rfl, List.prefix_rfl⟩

theorem replay_extends (entries more : List Entry) :
    (replay entries).Extends (replay (entries ++ more)) := by
  induction more using List.reverseRecOn with
  | nil => rw [List.append_nil]; exact .refl _
  | append_singleton more entry ih =>
    rw [← List.append_assoc, replay_snoc]
    exact ih.trans (file_extends _ entry)

theorem tickets_prefix (entries more : List Entry) :
    tickets entries <+: tickets (entries ++ more) := by
  rw [tickets, tickets, List.filterMap_append, List.zipIdx_append]
  exact List.prefix_append _ _

theorem mem_of_mem_withdrawn {entries : List Entry} {t : Ticket}
    (h : t ∈ (replay entries).withdrawn) : .withdrawn t.1.script ∈ entries := by
  induction entries using List.reverseRecOn with
  | nil => exact absurd h List.not_mem_nil
  | append_singleton entries entry ih =>
    have hearlier (h : t ∈ (replay entries).withdrawn) :
        .withdrawn t.1.script ∈ entries ++ [entry] := List.mem_append_left _ (ih h)
    rw [replay_snoc] at h
    cases entry with
    | withdrawn script =>
      rcases List.mem_append.mp h with h | h
      · exact hearlier h
      · rw [eq_of_beq (List.mem_filter.mp h).2]
        exact List.mem_append_right _ List.mem_cons_self
    | begun _ waited | refused _ waited => cases waited <;> exact hearlier h
    | _ => exact hearlier h

theorem mem_of_mem_dropped {entries : List Entry} {t : Ticket}
    (h : t ∈ (replay entries).dropped) : .dropped ∈ entries := by
  induction entries using List.reverseRecOn with
  | nil => exact absurd h List.not_mem_nil
  | append_singleton entries entry ih =>
    have hearlier (h : t ∈ (replay entries).dropped) : .dropped ∈ entries ++ [entry] :=
      List.mem_append_left _ (ih h)
    rw [replay_snoc] at h
    cases entry with
    | dropped => exact List.mem_append_right _ List.mem_cons_self
    | begun _ waited | refused _ waited => cases waited <;> exact hearlier h
    | _ => exact hearlier h

end Ledger

namespace Session

variable {library : ScriptLibrary}

theorem replay_waiting (entries : List Entry) :
    (Ledger.replay entries).waiting.map Prod.fst = waiting entries := by
  induction entries using List.reverseRecOn with
  | nil => rfl
  | append_singleton entries entry ih =>
    rw [Ledger.replay_snoc, waiting_snoc, ← ih]
    cases entry with
    | deferred request => exact List.map_append
    | withdrawn script =>
      exact (List.filter_map (p := fun request : PendingStart => request.script != script)).symm
    | begun _ waited | refused _ waited =>
      cases waited
      · rfl
      · exact List.map_tail
    | dropped | passed | ended => rfl

/-- What was tried after waiting are the tickets that the ledger says. -/
def ByTicket (entries : List Entry) : Prop :=
  (Ledger.replay entries).tried.map Prod.fst = entries.filterMap Entry.resumed?

theorem ByTicket.snoc {entries : List Entry} (h : ByTicket entries) {entry : Entry}
    (hturn : ∀ request, entry.resumed? = some request → (waiting entries).head? = some request) :
    ByTicket (entries ++ [entry]) := by
  have hresume {request : PendingStart} (hhead : (waiting entries).head? = some request) :
      ((Ledger.replay entries).waiting.take 1).map Prod.fst = [request] := by
    rw [List.map_take, replay_waiting]
    obtain ⟨rest, hwaiting⟩ := List.head?_eq_some_iff.mp hhead
    rw [hwaiting]
    rfl
  rw [ByTicket, Ledger.replay_snoc, List.filterMap_append, ← h]
  cases entry with
  | begun request waited | refused request waited =>
    cases waited
    · exact (List.append_nil _).symm
    · exact List.map_append.trans (congrArg _ (hresume (hturn request rfl)))
  | deferred | withdrawn | dropped | passed | ended => exact (List.append_nil _).symm

theorem ByTicket.append_passed {entries : List Entry} (h : ByTicket entries)
    (lines : List (ScriptLine × Bool)) :
    ByTicket (entries ++ lines.map fun line => .passed line.1 line.2) := by
  have hnone :
      (lines.map fun line => Entry.passed line.1 line.2).filterMap Entry.resumed? = [] := by
    rw [List.filterMap_map]
    exact List.filterMap_eq_nil_iff.mpr fun _ _ => rfl
  rw [ByTicket, Ledger.replay_append_passed, List.filterMap_append, h, hnone, List.append_nil]

theorem Tried.byTicket {s t : Session} {request : PendingStart} {waited : Bool}
    (h : Tried s request waited t) (hb : ByTicket s.journal)
    (hturn : waited = true → (waiting s.journal).head? = some request) : ByTicket t.journal := by
  cases h <;> refine hb.snoc fun other hother => ?_ <;> cases waited <;> cases hother
  · exact hturn rfl
  · exact hturn rfl

theorem Step.byTicket {play next : Play} (h : Step library play next)
    (hc : Consistent library play) (hb : ByTicket play.session.journal) :
    ByTicket next.session.journal := by
  cases h with
  | tryNow hknown hidle => exact (begin_of_known play false hknown).1.byTicket hb nofun
  | move h =>
    cases h with
    | work timers h => exact h.journal ▸ hb.append_passed _
    | act place action hrun => exact hb
    | withdraw hrun hother => exact hb.snoc nofun
    | defer hknown hrun hleft => exact hb.snoc nofun
    | finish reason hrun =>
      rw [teardown_session reason hrun, endRun_journal]
      exact hb.snoc nofun
    | @resume request rest hknown hidle hnext =>
      have htried := (begin_of_known
        ⟨{ play.session with deferred := rest }, play.stage⟩ true hknown).1
      refine htried.byTicket hb fun _ => ?_
      change (waiting play.session.journal).head? = some request
      rw [hc.replayed, hnext]
      rfl
    | drop hidle => exact hb.snoc nofun

/-- Where the tickets of a session are, each in exactly one place. -/
structure Balanced (s : Session) : Prop where
  distinct : (tickets s.journal).Nodup
  each : (Ledger.replay s.journal).all.Perm (tickets s.journal)
  waiting : (Ledger.replay s.journal).waiting.map Prod.fst = s.deferred
  tried : (Ledger.replay s.journal).tried.map Prod.fst = s.journal.filterMap Entry.resumed?
  inTurn : ((Ledger.replay s.journal).tried.map Prod.snd).Pairwise (· < ·)
  withdrawn : ∀ t ∈ (Ledger.replay s.journal).withdrawn, .withdrawn t.1.script ∈ s.journal
  dropped : ∀ t ∈ (Ledger.replay s.journal).dropped, .dropped ∈ s.journal

theorem balanced_of_consistent {play : Play} (hc : Consistent library play)
    (hb : ByTicket play.session.journal) : Balanced play.session where
  distinct := Ledger.nodup_tickets _
  each := Ledger.replay_all_perm _
  waiting := (replay_waiting _).trans hc.replayed
  tried := hb
  inTurn := (Ledger.replay_ascending _).numbers.sublist ((List.sublist_append_left _ _).map _)
  withdrawn := fun _ => Ledger.mem_of_mem_withdrawn
  dropped := fun _ => Ledger.mem_of_mem_dropped

theorem playOut_balanced (library : ScriptLibrary) (stage : Stage) (turns : List Turn) :
    Consistent library (playOut library ⟨.fresh, stage⟩ turns) ∧
      Balanced (playOut library ⟨.fresh, stage⟩ turns).session := by
  have hfresh := consistent_fresh library stage
  have hkept := (playOut_keeps
    (P := fun play => Consistent library play ∧ ByTicket play.session.journal)
    hfresh.known ⟨hfresh, rfl⟩ (fun h hp => ⟨h.consistent hp.1, h.byTicket hp.1 hp.2⟩)
    (fun hp => ⟨⟨hp.1.known, hp.1.replayed⟩, hp.2⟩)
    (fun _ hp => ⟨⟨hp.1.known, hp.1.replayed⟩, hp.2⟩) turns).2
  exact ⟨hkept.1, balanced_of_consistent hkept.1 hkept.2⟩

/-- From one session to another the journal has grown by entries of a kind. -/
def Grows (P : Entry → Prop) (s t : Session) : Prop :=
  ∃ entries, t.journal = s.journal ++ entries ∧ ∀ entry ∈ entries, P entry

variable {P Q : Entry → Prop}

theorem Grows.of_journal_eq {s t : Session} (h : t.journal = s.journal) : Grows P s t :=
  ⟨[], h.trans (List.append_nil _).symm, fun _ he => absurd he List.not_mem_nil⟩

theorem Grows.of_snoc {s t : Session} {entry : Entry} (h : t.journal = s.journal ++ [entry])
    (hentry : P entry) : Grows P s t :=
  ⟨[entry], h, fun _ he => List.mem_singleton.mp he ▸ hentry⟩

theorem Grows.trans {s t u : Session} (h : Grows P s t) (h' : Grows P t u) : Grows P s u := by
  obtain ⟨entries, hjournal, hentries⟩ := h
  obtain ⟨more, hjournal', hmore⟩ := h'
  refine ⟨entries ++ more, by rw [hjournal', hjournal, List.append_assoc], fun entry he => ?_⟩
  rcases List.mem_append.mp he with he | he
  · exact hentries entry he
  · exact hmore entry he

theorem Grows.mono {s t : Session} (h : Grows P s t) (himp : ∀ entry, P entry → Q entry) :
    Grows Q s t := by
  obtain ⟨entries, hjournal, hentries⟩ := h
  exact ⟨entries, hjournal, fun entry he => himp entry (hentries entry he)⟩

theorem Beat.grows {play next : Play} (h : Beat library play next) :
    Grows (fun entry => entry.isRemoval = false) play.session next.session := by
  have hbegin (play : Play) (request : PendingStart) (waited : Bool) :
      Grows (fun entry => entry.isRemoval = false) play.session
        (begin library play request waited).1.session := by
    unfold begin
    split
    · exact .of_journal_eq rfl
    · simp only
      split
      · exact .of_snoc (startRun_journal _ _ _ _) rfl
      · exact .of_snoc rfl rfl
  cases h with
  | poll place hrun =>
    obtain ⟨gate, hgate⟩ := pollGate_session place hrun
    rw [hgate]
    exact .of_journal_eq rfl
  | skip => exact .of_snoc rfl rfl
  | answer input =>
    rcases submit_cases play.session input with h | h
    · exact .of_journal_eq (congrArg journal h)
    · exact .of_journal_eq (h.journal.trans (List.append_nil _))
  | defer => exact .of_snoc rfl rfl
  | finish hrun =>
    rw [teardown_session _ hrun]
    exact .of_snoc (endRun_journal _ _ _) rfl
  | @resume request rest => exact hbegin ⟨{ play.session with deferred := rest }, play.stage⟩ _ _
  | tryNow => exact hbegin _ _ _

theorem Beats.grows {play next : Play} (h : Beats library play next) :
    Grows (fun entry => entry.isRemoval = false) play.session next.session :=
  h.keeps (P := fun next => Grows _ play.session next.session) (fun h hg => hg.trans h.grows)
    (.of_journal_eq rfl)

theorem apply_grows {s : Session} {run : Run} (hrun : s.active = some run)
    (directive : Directive) :
    Grows (fun entry => ∃ script, entry = .withdrawn script ∧ script ≠ run.script ∧
      directive = .endScript script) s (s.apply directive).1 := by
  unfold apply
  rw [hrun]
  cases directive with
  | endScript script =>
    by_cases hown : script = run.script
    · simp only [endScript, if_pos hown]
      exact .of_journal_eq rfl
    · simp only [endScript, if_neg hown]
      exact .of_snoc rfl ⟨script, rfl, hown, rfl⟩
  | awaitInput line skip => cases skip <;> exact .of_journal_eq rfl
  | jump back lines => cases back <;> exact .of_journal_eq rfl
  | _ => exact .of_journal_eq rfl

/-- A line withdraws the scripts that it is to end, unless that is its own. -/
theorem performAll_grows (place : Place) (scope : Scope) {play : Play} {run : Run}
    (hrun : play.session.active = some run) (actions : List Action) :
    Grows (fun entry => ∃ script, entry = .withdrawn script ∧ script ≠ run.script ∧
        .endEvent script ∈ actions)
      play.session (performAll place scope play actions).1.session := by
  -- The run goes on under its own name, so that a script other than its own stays another one.
  refine (performAll_keeps (P := fun next => StillActive run next.session ∧
    Grows _ play.session next.session) (fun _ _ _ h => h) (fun action ha hasks h => ?_)
    ⟨⟨run.pointer, run.gate, run.ending, hrun⟩, .of_journal_eq rfl⟩).2
  obtain ⟨hstill, hgrown⟩ := h
  obtain ⟨pointer, gate, ending, hnow⟩ := id hstill
  refine ⟨hstill.trans hnow (apply_move .empty _ hnow _).2,
    hgrown.trans ((apply_grows hnow _).mono ?_)⟩
  rintro _ ⟨script, rfl, hother, rfl⟩
  cases hasks
  exact ⟨script, rfl, hother, ha⟩

end Session

/-- Only the line that an advance takes withdraws starts, of scripts that it is to end and that are
not its own, and only an abort drops them. -/
def Entry.ComesFrom (library : ScriptLibrary) (play : Play) (op : Session.Op) : Entry → Prop
  | withdrawn script => ∃ place next run line, op = .advance place ∧
      Session.lineTaken? library place play = some (next, run, line) ∧
        script ≠ run.script ∧ .endEvent script ∈ line.actions
  | dropped => op = .abort
  | deferred _ | begun _ _ _ | refused _ _ | passed _ _ | ended _ _ => True

namespace Session

variable {library : ScriptLibrary}

theorem perform_grows (play : Play) (op : Op) :
    Grows (Entry.ComesFrom library play op) play.session (perform library play op).1.session := by
  have hkeeps : ∀ entry : Entry, entry.isRemoval = false → entry.ComesFrom library play op := by
    intro entry hentry
    cases entry with
    | withdrawn | dropped => cases hentry
    | _ => exact trivial
  cases op with
  | start request => exact (start_beats library play request).grows.mono hkeeps
  | advance place =>
    cases h : lineTaken? library place play with
    | none => exact (advance_beats h).grows.mono hkeeps
    | some taken =>
      obtain ⟨next, run, line⟩ := taken
      obtain ⟨polled, hpoll, hrun, hfaces, rfl, hadvance⟩ := advance_takes h
      change Grows _ _ (advance library place play).1.session
      rw [hadvance]
      have hpass : Grows (Entry.ComesFrom library play (.advance place)) polled.session
          (polled.session.pass run line true) :=
        .of_snoc rfl trivial
      refine (((hpoll.beats library).grows.mono hkeeps).trans hpass).trans (.trans ?_
        ((takeLine_beats library place _ run line).grows.mono hkeeps))
      refine (performAll_grows place run.scope rfl line.actions).mono ?_
      rintro _ ⟨script, rfl, hother, hend⟩
      exact ⟨place, _, run, line, rfl, h, hother, hend⟩
  | submit input =>
    have hanswer : Beat library play _ := .answer input
    exact hanswer.grows.mono hkeeps
  | abort =>
    refine .trans (t := (teardown play .aborted).session) ?_ (.of_snoc rfl rfl)
    cases hrun : play.session.active with
    | none => rw [teardown_of_idle .aborted hrun]; exact .of_journal_eq rfl
    | some run =>
      have hfinish : Beat library play _ := .finish hrun .aborted
      exact hfinish.grows.mono hkeeps
  | drain => exact .of_journal_eq rfl

theorem begin_ne_deferred (play : Play) (request : PendingStart) (waited : Bool) :
    (begin library play request waited).2 ≠ .ok .deferred := by
  unfold begin
  split
  · nofun
  · simp only
    split <;> nofun

/-- A start is given a ticket exactly if the answer is that it has to wait. -/
theorem start_deferred_iff (library : ScriptLibrary) (play : Play) (request : PendingStart) :
    (start library play request).2 = .ok .deferred ↔
      (start library play request).1.session.journal =
        play.session.journal ++ [.deferred request] := by
  by_cases hknown : library.contains request.script = true
  · rcases start_cases play request hknown with ⟨_, _, _, h⟩ | ⟨_, ended, _, _, _, h⟩
    · rw [h]
      exact iff_of_true rfl rfl
    · rw [h]
      refine iff_of_false (begin_ne_deferred ended request false) fun hjournal => ?_
      have htried := (begin_of_known ended false hknown).1
      generalize (begin library ended request false).1.session = t at htried hjournal
      cases htried <;> cases (List.append_inj' hjournal rfl).2
  · rw [start, if_neg hknown]
    exact iff_of_false (fun h => by cases h) fun h => by simp at h

theorem playOut_journal_prefix {play : Play} (hk : Known library play) (turns : List Turn) :
    play.session.journal <+: (playOut library play turns).session.journal := by
  refine (playOut_keeps (P := fun next => play.session.journal <+: next.session.journal) hk
    List.prefix_rfl (fun h hp => ?_) (fun hp => hp) (fun _ hp => hp) turns).2
  obtain ⟨_, entries, _, hjournal, _⟩ := h.reports
  exact hp.trans (hjournal ▸ List.prefix_append _ _)

/-- A start is given a ticket exactly if it is answered that it has to wait, and every ticket is at
any time in one place: in the queue, among the tried, the withdrawn or the dropped ones. Those tried
were tried once each and in the order of their numbers. Tickets that have left the queue stay where
they went, and they leave it untried only by a line that ends their script from another one or by
an abort. -/
theorem every_ticket_in_one_place (library : ScriptLibrary) (stage : Stage) (turns : List Turn) :
    let last := playOut library ⟨.fresh, stage⟩ turns
    Balanced last.session ∧
      (∀ more,
        tickets last.session.journal <+: tickets (playOut library last more).session.journal ∧
          (Ledger.replay last.session.journal).Extends
            (Ledger.replay (playOut library last more).session.journal)) ∧
      (∀ op, Grows (Entry.ComesFrom library last op) last.session
        (perform library last op).1.session) ∧
      ∀ play request, (start library play request).2 = .ok .deferred ↔
        (start library play request).1.session.journal =
          play.session.journal ++ [.deferred request] := by
  intro last
  obtain ⟨hconsistent, hbalanced⟩ := playOut_balanced library stage turns
  refine ⟨hbalanced, fun more => ?_, perform_grows last, start_deferred_iff library⟩
  obtain ⟨entries, hentries⟩ := playOut_journal_prefix hconsistent.known more
  rw [← hentries]
  exact ⟨Ledger.tickets_prefix _ _, Ledger.replay_extends _ _⟩

/-- Of four starts that wait, the first is tried, the second withdrawn, the third dropped, and the
last one waits still. -/
theorem four_tickets_in_four_places :
    let library : ScriptLibrary := .ofList
      [("a", .ofSource [] none ["start_event=b", "start_event=c", "end_event=c", "set_flag=x"]),
        ("b", .ofSource ["x"] none ["start_event=d", "set_flag=y"]),
        ("c", .ofSource [] none []), ("d", .ofSource [] none [])]
    let start : Turn := .request (.start ⟨"a", none, .map⟩)
    let advance : Turn := .request (.advance ⟨.blank "hall" 8 8, 0⟩)
    let turns := [start, advance, advance, advance, advance, advance, advance, .request .abort,
      start, advance]
    let last := (playOut library ⟨.fresh, ⟨.blank ∅, ∅⟩⟩ turns).session
    Balanced last ∧
      Ledger.replay last.journal =
        ⟨4, [(⟨"b", none, .map⟩, 3)], [(⟨"b", none, .map⟩, 0)], [(⟨"c", none, .map⟩, 1)],
          [(⟨"d", none, .map⟩, 2)]⟩ := by
  intro library start advance turns last
  exact ⟨(every_ticket_in_one_place library ⟨.blank ∅, ∅⟩ turns).1, by decide +kernel⟩

end Session

end StoryEngine

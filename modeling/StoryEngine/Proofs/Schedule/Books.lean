import Mathlib.Data.List.Induction
import StoryEngine.Proofs.Result
import StoryEngine.Schedule.Book

/-! # Schedules offered to a book

Schedules are offered to a book one after the other, and an offer that is reported does not end the
row. The book looks for a schedule of the same actor by putting the new one in its place, so that
a reported offer replaces what it is reported for. The number of schedules does not show that: it is
the number of offers that were accepted.
-/

namespace StoryEngine

set_option autoImplicit false

namespace ScheduleBook

structure Offer where
  schedule : Schedule
  origin : String

/-- The answers to the offers, and the book after the last of them. -/
def offerAll (book : ScheduleBook) : List Offer → List (Except ScheduleError Unit) × ScheduleBook
  | [] => ([], book)
  | offer :: rest =>
    let (next, answer) := book.add offer.schedule offer.origin
    let (answers, final) := offerAll next rest
    (answer :: answers, final)

/-- The schedules that are offered for an actor, in the order of the offers. -/
def offeredFor (actor : String) (offers : List Offer) : List Schedule :=
  (offers.map Offer.schedule).filter fun s => s.actor == actor

variable (book : ScheduleBook) (s : Schedule) (origin actor : String) (offers : List Offer)

theorem get?_add : (book.add s origin).1.get? actor =
    if actor = s.actor then some s else book.get? actor :=
  book.get?_insert s.actor actor s

theorem add_snd_eq_error_iff (e : ScheduleError) : (book.add s origin).2 = .error e ↔
    book.contains s.actor = true ∧ e = .duplicate s.actor origin := by
  rw [add]
  split
  · next hactor => rw [Except.error.injEq, eq_comm, and_iff_right hactor]
  · next hactor => exact iff_of_false nofun fun h => hactor h.1

theorem isOk_add : (book.add s origin).2.isOk = !book.contains s.actor := by
  rw [add]
  split
  · next hactor => rw [hactor, isOk_error, Bool.not_true]
  · next hactor => rw [Bool.eq_false_iff.mpr hactor, isOk_ok, Bool.not_false]

theorem size_add : (book.add s origin).1.size =
    book.size + if (book.add s origin).2.isOk then 1 else 0 := by
  rw [isOk_add, add, StringMap.size_insert]
  cases book.contains s.actor <;> rfl

/-- An offer leaves the book as it was only if it brings nothing new. -/
theorem add_fst_eq_self_iff : (book.add s origin).1 = book ↔ book.get? s.actor = some s := by
  constructor
  · intro hsame
    rw [← hsame, get?_add, if_pos rfl]
  · intro hheld
    refine StringMap.ext_get? fun k => ?_
    rw [get?_add]
    split
    · next hk => rw [hk, hheld]
    · rfl

theorem offeredFor_cons (offer : Offer) : offeredFor actor (offer :: offers) =
    if offer.schedule.actor = actor then offer.schedule :: offeredFor actor offers
    else offeredFor actor offers := by
  simp only [offeredFor, List.map_cons, List.filter_cons, beq_iff_eq]

/-- The latest offer for an actor is in the book, whatever was answered. -/
theorem get?_offerAll : (book.offerAll offers).2.get? actor =
    (offeredFor actor offers).getLast?.or (book.get? actor) := by
  induction offers generalizing book with
  | nil => rfl
  | cons offer rest ih =>
    rw [offerAll, ih, get?_add, offeredFor_cons]
    split
    · next hactor =>
      rw [if_pos hactor.symm, List.getLast?_cons]
      cases (offeredFor actor rest).getLast? <;> rfl
    · next hactor => rw [if_neg fun h => hactor h.symm]

theorem size_offerAll : (book.offerAll offers).2.size =
    book.size + (book.offerAll offers).1.countP Except.isOk := by
  induction offers generalizing book with
  | nil => rfl
  | cons offer rest ih =>
    rw [offerAll, ih, size_add, List.countP_cons]
    omega

theorem mem_offeredFor {t : Schedule} : t ∈ offeredFor actor offers ↔
    (∃ offer ∈ offers, offer.schedule = t) ∧ t.actor = actor := by
  rw [offeredFor, List.mem_filter, List.mem_map, beq_iff_eq]

theorem offeredFor_append (more : List Offer) :
    offeredFor actor (offers ++ more) = offeredFor actor offers ++ offeredFor actor more := by
  rw [offeredFor, List.map_append, List.filter_append]
  rfl

/-- The book after offers, the first of which was made to an empty one. -/
def filled (offers : List Offer) : ScheduleBook := (offerAll ∅ offers).2

theorem get?_filled : (filled offers).get? actor = (offeredFor actor offers).getLast? := by
  rw [filled, get?_offerAll]
  exact Option.or_none

theorem contains_filled_iff :
    (filled offers).contains actor = true ↔ offeredFor actor offers ≠ [] := by
  rw [StringMap.contains, get?_filled, List.getLast?_isSome]

/-- Every offer that is reported leaves the book as the offers before it made it. -/
def ReportsKeep (offers : List Offer) : Prop :=
  ∀ front offer back, offers = front ++ offer :: back →
    ((filled front).add offer.schedule offer.origin).2.isOk = false →
      ((filled front).add offer.schedule offer.origin).1 = filled front

theorem ReportsKeep.of_append {more : List Offer} (h : ReportsKeep (offers ++ more)) :
    ReportsKeep offers := by
  intro front offer back hoffers
  refine h front offer (back ++ more) ?_
  rw [hoffers, List.append_assoc, List.cons_append]

theorem ReportsKeep.eq_of_mem (h : ReportsKeep offers) :
    ∀ t ∈ offeredFor actor offers, ∀ u ∈ offeredFor actor offers, t = u := by
  induction offers using List.reverseRecOn with
  | nil => nofun
  | append_singleton front offer ih =>
    rw [offeredFor_append, offeredFor_cons]
    split
    · next hactor =>
      have hfront := ih (ReportsKeep.of_append front h)
      -- All that was offered before is what the book holds, and that is what comes last.
      have hlast : ∀ t ∈ offeredFor actor front, t = offer.schedule := by
        intro t ht
        have hheld : (filled front).contains offer.schedule.actor = true :=
          (contains_filled_iff _ front).mpr (hactor ▸ List.ne_nil_of_mem ht)
        have hreported : ((filled front).add offer.schedule offer.origin).2.isOk = false := by
          rw [isOk_add, hheld, Bool.not_true]
        have hkept := (add_fst_eq_self_iff _ _ _).mp (h front offer [] rfl hreported)
        rw [hactor, get?_filled] at hkept
        exact hfront t ht _ (List.mem_of_getLast? hkept)
      intro t ht u hu
      have hsame : ∀ t ∈ offeredFor actor front ++ [offer.schedule], t = offer.schedule := by
        intro t ht
        exact (List.mem_append.mp ht).elim (hlast t) List.mem_singleton.mp
      rw [hsame t ht, hsame u hu]
    · rw [show offeredFor actor [] = [] from rfl, List.append_nil]
      exact ih (ReportsKeep.of_append front h)

theorem reportsKeep_iff : ReportsKeep offers ↔ ∀ first ∈ offers, ∀ second ∈ offers,
    first.schedule.actor = second.schedule.actor → first.schedule = second.schedule := by
  constructor
  · intro h first hfirst second hsecond hactor
    refine h.eq_of_mem second.schedule.actor offers _ ?_ _ ?_
    · exact (mem_offeredFor _ _).mpr ⟨⟨first, hfirst, rfl⟩, hactor⟩
    · exact (mem_offeredFor _ _).mpr ⟨⟨second, hsecond, rfl⟩, rfl⟩
  · rintro h front offer back rfl hreported
    rw [isOk_add, Bool.not_eq_false', contains_filled_iff] at hreported
    rw [add_fst_eq_self_iff, get?_filled]
    obtain ⟨last, hlast⟩ : ∃ last, (offeredFor offer.schedule.actor front).getLast? = some last :=
      ⟨_, List.getLast?_eq_some_getLast hreported⟩
    obtain ⟨⟨earlier, hearlier, rfl⟩, hactor⟩ :=
      (mem_offeredFor _ _).mp (List.mem_of_getLast? hlast)
    rw [hlast, h earlier (List.mem_append_left _ hearlier) offer
      (List.mem_append_right _ List.mem_cons_self) hactor]

/-- However schedules are offered to an empty book, it has as many of them as offers were accepted,
and for each actor the one that was offered last. An offer is reported exactly if there was one for
its actor before; it leaves the book as it was exactly if it brings the schedule offered last. So
all that are reported leave the book as it was exactly if no actor is offered different ones. -/
theorem reports_keep_iff (offers : List Offer) :
    (filled offers).size = (offerAll ∅ offers).1.countP Except.isOk ∧
    (∀ actor, (filled offers).get? actor = (offeredFor actor offers).getLast?) ∧
    (∀ s origin e, ((filled offers).add s origin).2 = .error e ↔
      offeredFor s.actor offers ≠ [] ∧ e = .duplicate s.actor origin) ∧
    (∀ s origin, ((filled offers).add s origin).1 = filled offers ↔
      (offeredFor s.actor offers).getLast? = some s) ∧
    (ReportsKeep offers ↔ ∀ first ∈ offers, ∀ second ∈ offers,
      first.schedule.actor = second.schedule.actor → first.schedule = second.schedule) := by
  refine ⟨?_, fun actor => get?_filled actor offers, ?_, ?_, reportsKeep_iff offers⟩
  · rw [filled, size_offerAll]
    exact Nat.zero_add _
  · intro s origin e
    rw [add_snd_eq_error_iff, contains_filled_iff]
  · intro s origin
    rw [add_fst_eq_self_iff, get?_filled]

/-- Only a table that is offered once more is reported and still there. -/
theorem same_table_again_is_kept :
    let table : Schedule := .blank "baker"
    let offers : List Offer := [⟨table, "a.yaml"⟩, ⟨table, "b.yaml"⟩]
    (offerAll ∅ offers).1 = [.ok (), .error (.duplicate "baker" "b.yaml")] ∧
      (filled offers).size = 1 ∧ ReportsKeep offers := by
  intro table offers
  obtain ⟨hsize, -, -, -, hkeep⟩ := reports_keep_iff offers
  have hall : ∀ offer ∈ offers, offer.schedule = table := by simp [offers]
  refine ⟨rfl, hsize, hkeep.mpr fun first hfirst second hsecond _ => ?_⟩
  rw [hall first hfirst, hall second hsecond]

/-- The second table for the baker is reported, and is the one that the book has from then on. -/
theorem reported_table_replaces_first :
    let row : ScheduleRow := ⟨"bake", none, none, none, none, none, none⟩
    let early : Schedule := ⟨"baker", [⟨360, row, none, [], false⟩]⟩
    let late : Schedule := ⟨"baker", [⟨420, row, none, [], false⟩]⟩
    let book := filled [⟨early, "a.yaml"⟩]
    Schedule.ofRows "baker" (.ofList [("06:00", row)]) = .ok early ∧
      Schedule.ofRows "baker" (.ofList [("07:00", row)]) = .ok late ∧
      book.get? "baker" = some early ∧
      (book.add late "b.yaml").2 = .error (.duplicate "baker" "b.yaml") ∧
      (book.add late "b.yaml").1.get? "baker" = some late ∧ (book.add late "b.yaml").1 ≠ book := by
  intro row early late book
  have hearly : Schedule.ofRows "baker" (.ofList [("06:00", row)]) = .ok early :=
    toOption_eq_some_iff.mp (by decide +kernel)
  have hlate : Schedule.ofRows "baker" (.ofList [("07:00", row)]) = .ok late :=
    toOption_eq_some_iff.mp (by decide +kernel)
  exact ⟨hearly, hlate, by decide +kernel, rfl, by decide +kernel, by decide +kernel⟩

end ScheduleBook

end StoryEngine

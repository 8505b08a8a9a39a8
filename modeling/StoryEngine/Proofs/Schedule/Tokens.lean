import StoryEngine.Proofs.Result
import StoryEngine.Proofs.Text.Joining
import StoryEngine.Proofs.Text.Numerals
import StoryEngine.Schedule.TimeToken

/-! # Time tokens and the clock

A token is two or three written numbers with colons between them. It is read as a minute of the
cycle exactly if hour and minute are on the clock, and the minute tells them and the day. What the
clock shows is a token of the minute of the day.
-/

namespace StoryEngine

set_option autoImplicit false

namespace TimeToken

open Text (trim splitAll)
open Text.Numeral (natBelow? count64 Spells padded)

def mark : String := ":"

structure Fields where
  day : Nat
  hour : Nat
  minute : Nat
deriving DecidableEq

namespace Fields

def minutes (f : Fields) : Nat := f.day * minutesPerDay + f.hour * 60 + f.minute

structure OnClock (f : Fields) : Prop where
  hour_lt : f.hour < 24
  minute_lt : f.minute < 60

/-- Two numbers are an hour and a minute, three have the day in front. -/
def ofNumbers? : List Nat → Option Fields
  | [hour, minute] => some ⟨0, hour, minute⟩
  | [day, hour, minute] => some ⟨day, hour, minute⟩
  | _ => none

variable {f g : Fields}

theorem minutes_inj (hf : f.OnClock) (hg : g.OnClock) : f.minutes = g.minutes ↔ f = g := by
  refine ⟨fun h => ?_, congrArg minutes⟩
  obtain ⟨_, _, _⟩ := f
  obtain ⟨_, _, _⟩ := g
  have := hf.hour_lt
  have := hf.minute_lt
  have := hg.hour_lt
  have := hg.minute_lt
  simp only [minutes, minutesPerDay, mk.injEq] at *
  omega

theorem le_minutes_of_mem {numbers : List Nat} {n : Nat} (h : ofNumbers? numbers = some f)
    (hn : n ∈ numbers) : n ≤ f.minutes := by
  unfold ofNumbers? at h
  split at h
  · cases h
    simp only [List.mem_cons, List.not_mem_nil, or_false] at hn
    simp only [minutes]
    omega
  · cases h
    simp only [List.mem_cons, List.not_mem_nil, or_false] at hn
    simp only [minutes, minutesPerDay]
    omega
  · cases h

end Fields

/-- A token as it may be written, and its fields. A day that is missing counts as zero. -/
inductive Written : String → Fields → Prop where
  | clock {hour minute : String} {h m : Nat} (hhour : Spells hour h) (hminute : Spells minute m) :
      Written (hour ++ mark ++ minute) ⟨0, h, m⟩
  | onDay {day hour minute : String} {d h m : Nat} (hday : Spells day d) (hhour : Spells hour h)
      (hminute : Spells minute m) : Written (day ++ mark ++ hour ++ mark ++ minute) ⟨d, h, m⟩

section

variable {parts : List String} {numbers : List Nat}

theorem not_mem_of_mem_parts (h : List.Forall₂ Spells parts numbers) :
    ∀ part ∈ parts, ':' ∉ part.toList := by
  induction h with
  | nil => nofun
  | cons hn _ ih =>
    exact List.forall_mem_cons.mpr ⟨hn.not_mem (by decide) (by decide) (by decide), ih⟩

theorem splitAll_intercalate (h : List.Forall₂ Spells parts numbers) (hne : parts ≠ []) :
    splitAll mark (mark.intercalate parts) = parts :=
  (Text.splitAll_eq_iff (show mark.toList = [':'] from rfl)).mpr ⟨rfl, hne, not_mem_of_mem_parts h⟩

theorem mapM_natBelow?_eq_some_iff :
    parts.mapM (fun part => natBelow? count64 (trim part)) = some numbers ↔
      List.Forall₂ Spells parts numbers ∧ ∀ n ∈ numbers, n < count64 := by
  simp only [mapM_eq_some_iff, Text.Numeral.natBelow?_trim_eq_some_iff]
  constructor
  · intro h
    refine ⟨h.imp fun _ _ => And.left, ?_⟩
    induction h with
    | nil => nofun
    | cons hn _ ih => exact List.forall_mem_cons.mpr ⟨hn.2, ih⟩
  · rintro ⟨h, hless⟩
    obtain ⟨hlength, h⟩ := List.forall₂_iff_zip.mp h
    exact List.forall₂_iff_zip.mpr
      ⟨hlength, fun hpair => ⟨h hpair, hless _ (List.of_mem_zip hpair).2⟩⟩

end

variable {token : String} {f g : Fields} {time : Nat}

theorem written_iff : Written token f ↔ ∃ numbers,
    List.Forall₂ Spells (splitAll mark token) numbers ∧ Fields.ofNumbers? numbers = some f := by
  constructor
  · rintro (⟨hhour, hminute⟩ | ⟨hday, hhour, hminute⟩)
    · have h := List.Forall₂.cons hhour (.cons hminute .nil)
      exact ⟨_, (splitAll_intercalate h nofun).symm ▸ h, rfl⟩
    · have h := List.Forall₂.cons hday (.cons hhour (.cons hminute .nil))
      exact ⟨_, (splitAll_intercalate h nofun).symm ▸ h, rfl⟩
  · -- The token is its parts joined again, and the numbers tell how many there are.
    rintro ⟨numbers, h, hf⟩
    have htoken : mark.intercalate (splitAll mark token) = token :=
      ((Text.splitAll_eq_iff (show mark.toList = [':'] from rfl)).mp rfl).1
    rw [← htoken]
    generalize splitAll mark token = parts at h
    unfold Fields.ofNumbers? at hf
    split at hf
    · cases hf
      obtain _ | ⟨hhour, _ | ⟨hminute, ⟨⟩⟩⟩ := h
      exact .clock hhour hminute
    · cases hf
      obtain _ | ⟨hday, _ | ⟨hhour, _ | ⟨hminute, ⟨⟩⟩⟩⟩ := h
      exact .onDay hday hhour hminute
    · cases hf

theorem Written.unique (hf : Written token f) (hg : Written token g) : f = g := by
  obtain ⟨numbers, hnumbers, hf⟩ := written_iff.mp hf
  obtain ⟨others, hothers, hg⟩ := written_iff.mp hg
  have hvalue : Relator.RightUnique Spells := fun _ _ _ => Spells.value_unique
  have hsame : numbers = others := hvalue.forall₂ hnumbers hothers
  exact Option.some.inj (hf.symm.trans (hsame ▸ hg))

/-- It makes no difference that the token is trimmed before it is cut. -/
theorem mapM_natBelow?_trim (token : String) :
    (splitAll mark (trim token)).mapM (fun part => natBelow? count64 (trim part)) =
      (splitAll mark token).mapM fun part => natBelow? count64 (trim part) := by
  have hparts := Text.map_trim_splitAll_trim (show mark ≠ "" by decide)
    (Text.forall_mem_of_all_not rfl) token
  have hread := congrArg (List.mapM (natBelow? count64)) hparts
  rwa [List.mapM_map, List.mapM_map] at hread

theorem ofParts_eq_ok_iff :
    ofParts f.day f.hour f.minute = .ok time ↔ f.OnClock ∧ f.minutes = time := by
  unfold ofParts
  split
  · next hhour => exact iff_of_false nofun fun h => Nat.not_lt.mpr hhour h.1.hour_lt
  · next hhour =>
    split
    · next hminute => exact iff_of_false nofun fun h => Nat.not_lt.mpr hminute h.1.minute_lt
    · next hminute =>
      rw [Except.ok.injEq]
      exact (and_iff_right ⟨Nat.not_le.mp hhour, Nat.not_le.mp hminute⟩).symm

theorem parse_eq_ok_iff : parse token = .ok time ↔ ∃ numbers f,
    (splitAll mark token).mapM (fun part => natBelow? count64 (trim part)) = some numbers ∧
      Fields.ofNumbers? numbers = some f ∧ f.OnClock ∧ f.minutes = time := by
  rw [← mapM_natBelow?_trim, parse]
  constructor
  · intro h
    split at h
    · cases h
    · next hour minute hread => exact ⟨_, ⟨0, hour, minute⟩, hread, rfl, ofParts_eq_ok_iff.mp h⟩
    · next day hour minute hread =>
      exact ⟨_, ⟨day, hour, minute⟩, hread, rfl, ofParts_eq_ok_iff.mp h⟩
    · cases h
  · rintro ⟨numbers, f, hread, hf, htime⟩
    have hparts := ofParts_eq_ok_iff.mpr htime
    change (splitAll ":" _).mapM _ = _ at hread
    rw [hread]
    unfold Fields.ofNumbers? at hf
    split at hf
    all_goals cases hf
    all_goals exact hparts

/-- A token is read as a minute that fits exactly if it is written as hour and minute of the clock
with a day, and that is their minute. -/
theorem parse_eq_ok_iff_written (htime : time < count64) :
    parse token = .ok time ↔ ∃ f, Written token f ∧ f.OnClock ∧ f.minutes = time := by
  rw [parse_eq_ok_iff]
  constructor
  · rintro ⟨numbers, f, hread, hf, hclock⟩
    exact ⟨f, written_iff.mpr ⟨numbers, (mapM_natBelow?_eq_some_iff.mp hread).1, hf⟩, hclock⟩
  · rintro ⟨f, hwritten, hclock, rfl⟩
    obtain ⟨numbers, hspells, hf⟩ := written_iff.mp hwritten
    have hless : ∀ n ∈ numbers, n < count64 :=
      fun n hn => Nat.lt_of_le_of_lt (Fields.le_minutes_of_mem hf hn) htime
    exact ⟨numbers, f, mapM_natBelow?_eq_some_iff.mpr ⟨hspells, hless⟩, hf, hclock, rfl⟩

theorem spells_twoDigits (n : Nat) : Spells (GameTime.twoDigits n) n := by
  unfold GameTime.twoDigits
  split
  · exact Text.Numeral.spells_padded 1 n
  · simpa [padded] using Text.Numeral.spells_padded 0 n

theorem written_render (t : GameTime) : Written t.render ⟨0, t.hour, t.minute⟩ := by
  have hrender :
      t.render = GameTime.twoDigits t.hour ++ mark ++ GameTime.twoDigits t.minute := by
    simp [GameTime.render, mark, toString]
  rw [hrender]
  exact .clock (spells_twoDigits t.hour) (spells_twoDigits t.minute)

section

variable (total : Nat)

/-- The fields of the minute of the day. -/
def Fields.ofMinutes : Fields :=
  ⟨0, (GameTime.ofMinutes total).hour, (GameTime.ofMinutes total).minute⟩

theorem Fields.onClock_ofMinutes : (Fields.ofMinutes total).OnClock := by
  constructor
  all_goals
    simp only [Fields.ofMinutes, GameTime.ofMinutes, minutesPerDay]
    omega

theorem Fields.minutes_ofMinutes : (Fields.ofMinutes total).minutes = total % minutesPerDay := by
  simp only [Fields.minutes, Fields.ofMinutes, GameTime.ofMinutes, minutesPerDay]
  omega

end

/-- The clock shows a token of the minute of the day. A day with an hour and a minute of the clock is
read as its minute of the cycle if that fits, whatever zeros are in front of the numbers; nothing
but what is so written, with blanks and plus signs or without a day, is read as such a minute; and
two tokens name the same one exactly if their fields are the same. -/
theorem tokens_and_clock_agree :
    (∀ total, parse (GameTime.ofMinutes total).render = .ok (total % minutesPerDay)) ∧
    (∀ f : Fields, f.OnClock → f.minutes < count64 → ∀ i j k : Nat,
      parse (padded i f.day ++ ":" ++ padded j f.hour ++ ":" ++ padded k f.minute) =
        .ok f.minutes) ∧
    (∀ token time, time < count64 →
      (parse token = .ok time ↔ ∃ f, Written token f ∧ f.OnClock ∧ f.minutes = time)) ∧
    ∀ a b s t, parse a = .ok s → parse b = .ok t → s < count64 → t < count64 →
      ∀ f g, Written a f → Written b g → (s = t ↔ f = g) := by
  refine ⟨fun total => ?_, ?_, fun _ _ => parse_eq_ok_iff_written, ?_⟩
  · have hday : total % minutesPerDay < count64 :=
      (Nat.mod_lt total (show 0 < minutesPerDay by decide)).trans (by decide)
    exact (parse_eq_ok_iff_written hday).mpr ⟨.ofMinutes total, written_render _,
      Fields.onClock_ofMinutes total, Fields.minutes_ofMinutes total⟩
  · intro f hclock htime i j k
    have hwritten := Written.onDay (Text.Numeral.spells_padded i f.day)
      (Text.Numeral.spells_padded j f.hour) (Text.Numeral.spells_padded k f.minute)
    exact (parse_eq_ok_iff_written htime).mpr ⟨f, hwritten, hclock, rfl⟩
  · intro a b s t hs ht hsfits htfits f g hf hg
    obtain ⟨f', hf', hfclock, rfl⟩ := (parse_eq_ok_iff_written hsfits).mp hs
    obtain ⟨g', hg', hgclock, rfl⟩ := (parse_eq_ok_iff_written htfits).mp ht
    rw [hf.unique hf', hg.unique hg']
    exact Fields.minutes_inj hfclock hgclock

theorem half_past_six_in_several_spellings :
    parse (GameTime.ofMinutes 1830).render = .ok 390 ∧
    parse (padded 2 1 ++ ":" ++ padded 1 6 ++ ":" ++ padded 0 30) = .ok 1830 ∧
    (∃ f, Written " 6 : +30 " f ∧ f.OnClock ∧ f.minutes = 390) ∧
    ∀ f g, Written "06:30" f → Written " 0:6:+30" g → f = g := by
  obtain ⟨hclock, hpadded, hread, hsame⟩ := tokens_and_clock_agree
  refine ⟨hclock 1830, hpadded ⟨1, 6, 30⟩ ⟨by decide, by decide⟩ (by decide) 2 1 0, ?_, ?_⟩
  · exact (hread " 6 : +30 " 390 (by decide)).mp rfl
  · intro f g hf hg
    exact (hsame "06:30" " 0:6:+30" 390 390 rfl rfl (by decide) (by decide) f g hf hg).mp rfl

end TimeToken

end StoryEngine

import StoryEngine.Proofs.Text.Pieces
import StoryEngine.Script.Condition

/-! # The grammar of conditions

A token is a test, with `!` in front of it or without. A test is a key of the vocabulary, `=` and a
value that suits the key, and any other text asks for the flag of that name. The parser follows this
grammar but for one slip: a list in which no family is named asks that nothing be equipped, which is
what `none` is for.
-/

namespace StoryEngine

set_option autoImplicit false

open Text (trim asciiLower sameName splitAll)
open Text.Numeral (natBelow? count64)
open Script (fields splitList)

namespace QuestCheck

theorem name_inj {a b : QuestCheck} : a.name = b.name ↔ a = b := by
  cases a <;> cases b <;> decide

end QuestCheck

namespace Predicate

theorem checkNamed?_eq_some_iff {start key : String} {check : QuestCheck} :
    checkNamed? start key = some check ↔ key = start ++ check.name := by
  constructor
  · intro h
    unfold checkNamed? at h
    have hname := List.find?_some h
    exact (beq_iff_eq.mp hname).symm
  · rintro rfl
    have hsame : (fun c : QuestCheck => start ++ c.name == start ++ check.name) =
        fun c => c == check := by
      funext c
      rw [Bool.eq_iff_iff, beq_iff_eq, beq_iff_eq, String.append_right_inj, QuestCheck.name_inj]
    rw [checkNamed?, hsame]
    cases check <;> rfl

theorem pair?_eq_some_iff {value first second : String} :
    pair? value = some (first, second) ↔
      fields value = [first, second] ∧ first ≠ "" ∧ second ≠ "" := by
  unfold pair?
  constructor
  · intro h
    split at h
    · next hfields =>
      split at h
      · cases h
      · next hne =>
        cases h
        exact ⟨hfields, not_or.mp hne⟩
    · cases h
  · rintro ⟨hfields, hfirst, hsecond⟩
    rw [hfields]
    simp [hfirst, hsecond]

/-- What a key in small letters asks with a value that suits it. -/
inductive Asks : String → String → Predicate → Prop
  | lastInput {value : String} (h : value ≠ "") :
    Asks "last_input" value (.lastInput (asciiLower value))
  | talkedTo {value : String} (h : value ≠ "") : Asks "talked_to" value (.talkedTo value)
  | haveItem {value : String} (h : value ≠ "") : Asks "have_item" value (.haveItem value)
  | quest {value : String} (check : QuestCheck) (h : value ≠ "") :
    Asks ("quest_" ++ check.name) value (.quest value check)
  | step {value q s : String} (check : QuestCheck) (h : fields value = [q, s]) (hq : q ≠ "")
    (hs : s ≠ "") : Asks ("step_" ++ check.name) value (.step q s check)
  | hintRevealed {value q s : String} (h : fields value = [q, s]) (hq : q ≠ "") (hs : s ≠ "") :
    Asks "hint_revealed" value (.hintRevealed q s)
  | nothingEquipped {value : String} (h : sameName value "none" = true) :
    Asks "equipped" value (.equipped [])
  | equipped {value : String} (h : sameName value "none" = false)
    (hsome : splitList "|" value ≠ []) : Asks "equipped" value (.equipped (splitList "|" value))
  | direction {value : String} {d : Direction} (h : Direction.parse? value = some d) :
    Asks "direction" value (.direction d)
  | partyHas {value : String} (h : value ≠ "") : Asks "party_has" value (.partyHas value)
  | partySize {value : String} {n : Nat} (h : natBelow? count64 value = some n) :
    Asks "party_size" value (.partySize n)
  | goldAtLeast {value : String} {n : Nat} (h : natBelow? count64 value = some n) :
    Asks "gold_at_least" value (.goldAtLeast n)

variable {key value body : String} {p : Predicate}

theorem fields_empty : fields "" = [""] := rfl

theorem Asks.key_ne_empty (h : Asks key value p) : key ≠ "" := by
  cases h with
  | quest check => cases check <;> decide
  | step check => cases check <;> decide
  | _ => decide

/-- No key has a use for a blank value. -/
theorem Asks.value_ne_empty (h : Asks key value p) : value ≠ "" := by
  rintro rfl
  cases h with
  | lastInput h | talkedTo h | haveItem h | quest _ h | partyHas h => exact h rfl
  | step _ h | hintRevealed h =>
    rw [fields_empty] at h
    cases h
  | nothingEquipped h | direction h | partySize h | goldAtLeast h => cases h
  | equipped _ hsome => exact hsome rfl

theorem Asks.ne_flag (h : Asks key value p) (name : String) : p ≠ .flag name := by
  cases h <;> nofun

theorem parseKey?_of_asks (h : Asks key value p) : parseKey? key value = some p := by
  cases h with
  | lastInput | talkedTo | haveItem | partyHas => rfl
  | quest check => cases check <;> rfl
  | step check h hq hs =>
    have hpair := pair?_eq_some_iff.mpr ⟨h, hq, hs⟩
    cases check <;> exact congrArg (Option.map _) hpair
  | hintRevealed h hq hs => exact congrArg (Option.map _) (pair?_eq_some_iff.mpr ⟨h, hq, hs⟩)
  | nothingEquipped h => simp [parseKey?, parseEquipped, nothingEquipped, h]
  | equipped h hsome => simp [parseKey?, parseEquipped, nothingEquipped, h]
  | direction h => simp [parseKey?, h]
  | partySize h | goldAtLeast h => simp [parseKey?, h]

/-- What is read of a value suits the key, or it is a list in which no family is named. -/
theorem asks_of_parseKey? (h : parseKey? key value = some p) (hvalue : value ≠ "") :
    Asks key value p ∨ key = "equipped" ∧ splitList "|" value = [] ∧ p = .equipped [] := by
  unfold parseKey? at h
  split at h
  · cases h
    exact .inl (.lastInput hvalue)
  · cases h
    exact .inl (.talkedTo hvalue)
  · cases h
    exact .inl (.haveItem hvalue)
  · cases h
    exact .inl (.partyHas hvalue)
  · obtain ⟨n, hn, rfl⟩ := Option.map_eq_some_iff.mp h
    exact .inl (.partySize hn)
  · obtain ⟨n, hn, rfl⟩ := Option.map_eq_some_iff.mp h
    exact .inl (.goldAtLeast hn)
  · obtain ⟨d, hd, rfl⟩ := Option.map_eq_some_iff.mp h
    exact .inl (.direction hd)
  · rw [Option.some.injEq, parseEquipped] at h
    subst h
    cases hnone : sameName value nothingEquipped with
    | true => exact .inl (.nothingEquipped hnone)
    | false =>
      by_cases hlist : splitList "|" value = []
      · exact .inr ⟨rfl, hlist, by simp [hlist]⟩
      · exact .inl (.equipped hnone hlist)
  · obtain ⟨⟨q, s⟩, hpair, rfl⟩ := Option.map_eq_some_iff.mp h
    obtain ⟨hfields, hq, hs⟩ := pair?_eq_some_iff.mp hpair
    exact .inl (.hintRevealed hfields hq hs)
  · unfold parseProgress? at h
    split at h
    · next check hcheck =>
      cases h
      rw [checkNamed?_eq_some_iff.mp hcheck]
      exact .inl (.quest check hvalue)
    · split at h
      · next check hcheck =>
        obtain ⟨⟨q, s⟩, hpair, rfl⟩ := Option.map_eq_some_iff.mp h
        obtain ⟨hfields, hq, hs⟩ := pair?_eq_some_iff.mp hpair
        rw [checkNamed?_eq_some_iff.mp hcheck]
        exact .inl (.step check hfields hq hs)
      · cases h

theorem Asks.of_equipped_nil (h : Asks key value p) (hp : p = .equipped []) :
    key = "equipped" ∧ sameName value "none" = true := by
  cases h with
  | nothingEquipped h => exact ⟨rfl, h⟩
  | equipped _ hsome =>
    rw [Predicate.equipped.injEq] at hp
    exact absurd hp hsome
  | _ => cases hp

/-- A text is a test of the vocabulary if it can be, and the name of a flag otherwise. -/
inductive Reads (body : String) : Predicate → Prop
  | test {key value : String} {p : Predicate} (hkey : Script.IsKeyValue body key value)
    (h : Asks (asciiLower key) value p) : Reads body p
  | flag (h : ∀ key value p, Script.IsKeyValue body key value → ¬Asks (asciiLower key) value p) :
    Reads body (.flag body)

def AsksForNone (body : String) : Prop :=
  ∃ key value, Script.IsKeyValue body key value ∧ asciiLower key = "equipped" ∧
    sameName value "none" = true

/-- The text asks for families, but in the list of them every one is blank. -/
def NamesNoFamily (body : String) : Prop :=
  ∃ key value, Script.IsKeyValue body key value ∧ asciiLower key = "equipped" ∧ value ≠ "" ∧
    ∀ family ∈ splitAll "|" value, trim family = ""

theorem ne_empty_of_equipped (h : asciiLower key = "equipped") : key ≠ "" := by
  rintro rfl
  exact absurd h (by decide)

theorem parse_of_isKeyValue (hkey : Script.IsKeyValue body key value) (hne : key ≠ "")
    (hvalue : value ≠ "") : parse body = (parseKey? (asciiLower key) value).getD (.flag body) := by
  rw [parse, Script.keyValue?_eq_some_iff.mpr ⟨hkey, hne⟩]
  exact if_neg hvalue

theorem parse_of_asks (hkey : Script.IsKeyValue body key value)
    (h : Asks (asciiLower key) value p) : parse body = p := by
  have hne : key ≠ "" := by
    rintro rfl
    exact h.key_ne_empty rfl
  rw [parse_of_isKeyValue hkey hne h.value_ne_empty, parseKey?_of_asks h]
  rfl

theorem parse_of_namesNoFamily (h : NamesNoFamily body) : parse body = .equipped [] := by
  obtain ⟨key, value, hkey, hequipped, hvalue, hblank⟩ := h
  rw [parse_of_isKeyValue hkey (ne_empty_of_equipped hequipped) hvalue, hequipped]
  simp [parseKey?, parseEquipped, Script.splitList_eq_nil_iff.mpr hblank]

theorem parse_of_reads (hlist : ¬NamesNoFamily body) (h : Reads body p) : parse body = p := by
  cases h with
  | test hkey h => exact parse_of_asks hkey h
  | flag h =>
    unfold parse
    split
    · next key value hkv =>
      have hkey := (Script.keyValue?_eq_some_iff.mp hkv).1
      split
      · rfl
      · next hvalue =>
        cases hread : parseKey? (asciiLower key) value with
        | none => rfl
        | some q =>
          rcases asks_of_parseKey? hread hvalue with hasks | ⟨hequipped, hnone, -⟩
          · exact absurd hasks (h key value q hkey)
          · exact absurd ⟨key, value, hkey, hequipped, hvalue,
              Script.splitList_eq_nil_iff.mp hnone⟩ hlist
    · rfl

theorem exists_reads (body : String) : ∃ p, Reads body p := by
  by_cases h : ∃ key value p, Script.IsKeyValue body key value ∧ Asks (asciiLower key) value p
  · obtain ⟨key, value, p, hkey, hasks⟩ := h
    exact ⟨p, .test hkey hasks⟩
  · refine ⟨.flag body, .flag ?_⟩
    intro key value p hkey hasks
    exact h ⟨key, value, p, hkey, hasks⟩

theorem reads_iff_parse_eq (hlist : ¬NamesNoFamily body) : Reads body p ↔ parse body = p := by
  refine ⟨parse_of_reads hlist, ?_⟩
  rintro rfl
  obtain ⟨q, hq⟩ := exists_reads body
  rwa [parse_of_reads hlist hq]

/-- `none` is the name of a family as far as lists go. -/
theorem splitList_ne_nil_of_none (h : sameName value "none" = true) (htrim : trim value = value) :
    splitList "|" value ≠ [] := by
  have hchars := congrArg String.toList ((Text.sameName_iff _ _).mp h)
  rw [Text.toList_asciiLower] at hchars
  have hmark : Text.occursIn "|" value = false := by
    rw [← Bool.not_eq_true]
    intro hin
    have hbar : '|'.toLower ∈ value.toList.map Char.toLower :=
      List.mem_map_of_mem (Text.mem_of_occursIn hin (by decide))
    rw [hchars] at hbar
    exact absurd hbar (by decide)
  have hne : value ≠ "" := by
    rintro rfl
    exact absurd hchars (by decide)
  rw [Script.splitList_of_not_occursIn (by decide) hmark, htrim]
  simp [hne]

theorem not_asksForNone_of_namesNoFamily (h : NamesNoFamily body) : ¬AsksForNone body := by
  obtain ⟨key, value, hkey, hequipped, hvalue, hblank⟩ := h
  rintro ⟨other, text, hother, hsame, hnone⟩
  have hread := Script.keyValue?_eq_some_iff.mpr ⟨hkey, ne_empty_of_equipped hequipped⟩
  have hread' := Script.keyValue?_eq_some_iff.mpr ⟨hother, ne_empty_of_equipped hsame⟩
  cases hread.symm.trans hread'
  obtain ⟨front, rest, -, -, -, rfl⟩ := hkey
  exact splitList_ne_nil_of_none hnone (Text.trim_trim rest)
    (Script.splitList_eq_nil_iff.mpr hblank)

theorem asksForNone_of_reads (h : Reads body p) (hp : p = .equipped []) : AsksForNone body := by
  cases h with
  | test hkey h =>
    obtain ⟨hequipped, hnone⟩ := h.of_equipped_nil hp
    exact ⟨_, _, hkey, hequipped, hnone⟩
  | flag => cases hp

theorem parse_eq_equipped_nil_iff :
    parse body = .equipped [] ↔ AsksForNone body ∨ NamesNoFamily body := by
  constructor
  · intro h
    by_cases hlist : NamesNoFamily body
    · exact .inr hlist
    · exact .inl (asksForNone_of_reads ((reads_iff_parse_eq hlist).mpr h) rfl)
  · rintro (⟨key, value, hkey, hequipped, hnone⟩ | hlist)
    · refine parse_of_asks hkey ?_
      rw [hequipped]
      exact .nothingEquipped hnone
    · exact parse_of_namesNoFamily hlist

/-- The parser and the grammar part ways exactly where a list names no family. -/
theorem forall_reads_iff : (∀ p, Reads body p ↔ parse body = p) ↔ ¬NamesNoFamily body := by
  constructor
  · intro h hlist
    have hreads := (h (.equipped [])).mpr (parse_of_namesNoFamily hlist)
    exact not_asksForNone_of_namesNoFamily hlist (asksForNone_of_reads hreads rfl)
  · intro hlist p
    exact reads_iff_parse_eq hlist

theorem eq_of_parse_eq_flag {name : String} (h : parse body = .flag name) : name = body := by
  have hlist : ¬NamesNoFamily body := by
    intro hlist
    rw [parse_of_namesNoFamily hlist] at h
    cases h
  cases (reads_iff_parse_eq hlist).mpr h with
  | test _ hasks => exact absurd rfl (hasks.ne_flag name)
  | flag => rfl

end Predicate

namespace Condition

def negationMark : String := "!"

/-- Whether a token has the mark of negation in front, and what is left of it without the mark. -/
inductive Splits (raw : String) : Bool → String → Prop
  | negated {rest : String} (h : trim raw = negationMark ++ rest) : Splits raw true (trim rest)
  | plain (h : ∀ rest, trim raw ≠ negationMark ++ rest) : Splits raw false (trim raw)

variable {raw body : String} {negated : Bool}

theorem exists_splits (raw : String) : ∃ negated body, Splits raw negated body := by
  by_cases h : ∃ rest, trim raw = negationMark ++ rest
  · obtain ⟨rest, hrest⟩ := h
    exact ⟨true, trim rest, .negated hrest⟩
  · exact ⟨false, trim raw, .plain (not_exists.mp h)⟩

theorem takeNegation_eq (h : Splits raw negated body) :
    takeNegation (trim raw) = (negated, body) := by
  cases h with
  | negated h =>
    rw [h]
    simp [takeNegation, negationMark]
  | plain h =>
    unfold takeNegation
    split
    · next rest hchars =>
      have hmark : trim raw = negationMark ++ .ofList rest := by
        rw [← String.toList_inj, hchars]
        simp [negationMark]
      exact absurd hmark (h _)
    · rfl

theorem parse?_eq_some_iff (h : Splits raw negated body) {c : Condition} :
    parse? raw = some c ↔ body ≠ "" ∧ c = ⟨negated, .parse body, trim raw⟩ := by
  rw [parse?, takeNegation_eq h]
  by_cases hempty : body = "" <;> simp [hempty, eq_comm]

theorem parse?_eq_none_iff (h : Splits raw negated body) : parse? raw = none ↔ body = "" := by
  rw [Option.eq_none_iff_forall_ne_some]
  constructor
  · intro hnone
    by_contra hne
    exact hnone _ ((parse?_eq_some_iff h).mpr ⟨hne, rfl⟩)
  · intro hempty c hc
    exact ((parse?_eq_some_iff h).mp hc).1 hempty

/-- Nothing is read of a token exactly if nothing is left of it without one mark of negation and
blanks. What is read asks what the grammar says, which is the flag of that name where the text is no
test, except that a list of families without a family asks for what `none` asks for. -/
theorem reads_grammar_iff (raw : String) :
    ∃ negated body, Splits raw negated body ∧ (parse? raw = none ↔ body = "") ∧
      ∀ c, parse? raw = some c → c.negated = negated ∧ c.raw = trim raw ∧
        ((∀ p, Predicate.Reads body p ↔ c.predicate = p) ↔ ¬Predicate.NamesNoFamily body) ∧
        (c.predicate = .equipped [] ↔
          Predicate.AsksForNone body ∨ Predicate.NamesNoFamily body) := by
  obtain ⟨negated, body, hsplits⟩ := exists_splits raw
  refine ⟨negated, body, hsplits, parse?_eq_none_iff hsplits, ?_⟩
  intro c hc
  obtain ⟨-, rfl⟩ := (parse?_eq_some_iff hsplits).mp hc
  exact ⟨rfl, rfl, Predicate.forall_reads_iff, Predicate.parse_eq_equipped_nil_iff⟩

theorem sword_or_staff_is_read :
    let raw := "! Equipped = sword | | staff "
    ∃ body, Splits raw true body ∧ (parse? raw).isSome = true ∧
      Predicate.Reads body (.equipped ["sword", "staff"]) := by
  intro raw
  have hc : parse? raw = some ⟨true, .equipped ["sword", "staff"], trim raw⟩ := by decide +kernel
  obtain ⟨negated, body, hsplits, -, hread⟩ := reads_grammar_iff raw
  obtain ⟨hnegated, -, hgrammar, hnone⟩ := hread _ hc
  have hlist : ¬Predicate.NamesNoFamily body := by
    intro hlist
    exact absurd (hnone.mpr (.inr hlist)) (by decide)
  refine ⟨body, ?_, by rw [hc]; rfl, (hgrammar.mpr hlist _).mpr rfl⟩
  rwa [← hnegated] at hsplits

/-- A bar parts no families, and yet nothing may be equipped. -/
theorem bar_asks_for_none :
    parse? "equipped=|" = some ⟨false, .equipped [], "equipped=|"⟩ ∧
      ¬Predicate.AsksForNone "equipped=|" ∧ ¬Predicate.Reads "equipped=|" (.equipped []) := by
  have hlist : Predicate.NamesNoFamily "equipped=|" :=
    ⟨"equipped", "|", ⟨"equipped", "|", by decide +kernel⟩, by decide +kernel⟩
  have hnone := Predicate.not_asksForNone_of_namesNoFamily hlist
  refine ⟨by decide +kernel, hnone, ?_⟩
  intro hreads
  exact hnone (Predicate.asksForNone_of_reads hreads rfl)

end Condition

end StoryEngine

import StoryEngine.Dialog.Language
import StoryEngine.Proofs.Text.Joining

/-! # Translation word by word

A line is translated word by word, whatever stands in its other words, and a word keeps what stands
around its core. The core can be cut out of the bytes of a word from the first byte of its first
letter or digit to the last byte of its last one, which never cuts through a character.
-/

namespace StoryEngine

set_option autoImplicit false

open Text (isAlphanumeric isUppercase lowerChars cutAll cutFirst)

theorem intercalate_append {α : Type} {sep : List α} {xs ys : List (List α)} (hx : xs ≠ [])
    (hy : ys ≠ []) :
    sep.intercalate (xs ++ ys) = sep.intercalate xs ++ (sep ++ sep.intercalate ys) := by
  obtain ⟨y, ys, rfl⟩ := List.exists_cons_of_ne_nil hy
  induction xs with
  | nil => exact absurd rfl hx
  | cons x xs ih =>
    cases xs with
    | nil => simp [List.intercalate, List.intersperse]
    | cons x' xs =>
      have hrest := ih (List.cons_ne_nil x' xs)
      simp only [List.intercalate, List.cons_append, List.intersperse, List.flatten_cons] at hrest ⊢
      rw [hrest]
      simp

/-- The core of a word reaches from its first letter or digit to its last one. -/
structure Text.HasCore (word front core back : List Char) : Prop where
  whole : word = front ++ (core ++ back)
  front_plain : ∀ c ∈ front, isAlphanumeric c = false
  back_plain : ∀ c ∈ back, isAlphanumeric c = false
  begins : ∃ c rest, core = c :: rest ∧ isAlphanumeric c = true
  ends : ∃ rest c, core = rest ++ [c] ∧ isAlphanumeric c = true

namespace Text

variable {word front core back : List Char}

theorem dropWhile_plain_append (hfront : ∀ c ∈ front, isAlphanumeric c = false) {c : Char}
    (hc : isAlphanumeric c = true) (rest : List Char) :
    (front ++ c :: rest).dropWhile (fun c => !isAlphanumeric c) = c :: rest := by
  rw [List.dropWhile_append_of_pos fun d hd => by simp [hfront d hd], List.dropWhile_cons,
    if_neg (by simp [hc])]

theorem takeWhile_plain_append (hfront : ∀ c ∈ front, isAlphanumeric c = false) {c : Char}
    (hc : isAlphanumeric c = true) (rest : List Char) :
    (front ++ c :: rest).takeWhile (fun c => !isAlphanumeric c) = front := by
  rw [List.takeWhile_append_of_pos fun d hd => by simp [hfront d hd], List.takeWhile_cons,
    if_neg (by simp [hc]), List.append_nil]

theorem HasCore.wordParts_eq (h : HasCore word front core back) :
    Language.wordParts word = (front, core, back) := by
  obtain ⟨c, rest, hbegins, hc⟩ := h.begins
  obtain ⟨before, d, hends, hd⟩ := h.ends
  have hword : word = front ++ c :: (rest ++ back) := by
    rw [h.whole, hbegins, List.cons_append]
  have hrest : c :: (rest ++ back) = core ++ back := by rw [hbegins, List.cons_append]
  have hreverse : (core ++ back).reverse = back.reverse ++ d :: before.reverse := by
    rw [hends, List.reverse_append, List.reverse_append]
    rfl
  have hback : ∀ c ∈ back.reverse, isAlphanumeric c = false :=
    fun c hmem => h.back_plain c (List.mem_reverse.mp hmem)
  have hcore : (d :: before.reverse).reverse = core := by
    rw [hends, List.reverse_cons, List.reverse_reverse]
  rw [Language.wordParts, hword, takeWhile_plain_append h.front_plain hc,
    dropWhile_plain_append h.front_plain hc, hrest, hreverse, dropWhile_plain_append hback hd,
    hcore, List.drop_left]

theorem exists_first {s : List Char} (h : ∃ c ∈ s, isAlphanumeric c = true) :
    ∃ front c rest, s = front ++ c :: rest ∧ isAlphanumeric c = true ∧
      ∀ d ∈ front, isAlphanumeric d = false := by
  obtain ⟨c, hfind⟩ := Option.isSome_iff_exists.mp (List.find?_isSome.mpr h)
  obtain ⟨hc, front, rest, hs, hfront⟩ := List.find?_eq_some_iff_append.mp hfind
  exact ⟨front, c, rest, hs, hc, fun d hd => by simpa using hfront d hd⟩

theorem exists_hasCore (h : ∃ c ∈ word, isAlphanumeric c = true) :
    ∃ front core back, HasCore word front core back := by
  obtain ⟨front, c, rest, rfl, hc, hfront⟩ := exists_first h
  -- The last letter or digit is the first one of the reversed text.
  obtain ⟨tail, d, before, hlast, hd, htail⟩ :=
    exists_first (s := (c :: rest).reverse) ⟨c, by simp, hc⟩
  have hrest : c :: rest = (before.reverse ++ [d]) ++ tail.reverse := by
    have hreverse := congrArg List.reverse hlast
    simpa using hreverse
  refine ⟨front, before.reverse ++ [d], tail.reverse, by rw [hrest], hfront, ?_, ?_, ?_⟩
  · exact fun e he => htail e (List.mem_reverse.mp he)
  · cases hbefore : before.reverse with
    | nil => exact ⟨d, [], rfl, hd⟩
    | cons e more =>
      rw [hbefore] at hrest
      obtain ⟨rfl, -⟩ := List.cons.inj hrest
      exact ⟨c, more ++ [d], rfl, hc⟩
  · exact ⟨before.reverse, d, rfl, hd⟩

/-- The byte at which the first character of a kind begins. -/
def firstByte? (kind : Char → Bool) : List Char → Option Nat
  | [] => none
  | c :: cs => if kind c then some 0 else (firstByte? kind cs).map (c.utf8Size + ·)

/-- The byte at which the last character of a kind begins. -/
def lastByte? (kind : Char → Bool) : List Char → Option Nat
  | [] => none
  | c :: cs =>
    match lastByte? kind cs with
    | some n => some (c.utf8Size + n)
    | none => if kind c then some 0 else none

/-- What stands between two bytes of a text. Characters have to begin at both of them. -/
def slice? (s : String) (start stop : Nat) : Option String :=
  if h : start ≤ stop ∧ (String.Pos.Raw.mk start).IsValid s ∧
      (String.Pos.Raw.mk stop).IsValid s then
    some (s.extract (s.pos ⟨start⟩ h.2.1) (s.pos ⟨stop⟩ h.2.2))
  else none

theorem slice?_eq {s a b c : String} (hs : s = a ++ (b ++ c)) {start stop : Nat}
    (hstart : start = a.utf8ByteSize) (hstop : stop = start + b.utf8ByteSize) :
    slice? s start stop = some b := by
  subst hs hstart hstop
  have hvalid : (String.Pos.Raw.mk a.utf8ByteSize).IsValid (a ++ (b ++ c)) :=
    String.Pos.Raw.isValid_iff_exists_append.mpr ⟨a, b ++ c, rfl, rfl⟩
  have hvalid' : (String.Pos.Raw.mk (a.utf8ByteSize + b.utf8ByteSize)).IsValid (a ++ (b ++ c)) := by
    refine String.Pos.Raw.isValid_iff_exists_append.mpr ⟨a ++ b, c, ?_, ?_⟩
    · rw [String.append_assoc]
    · rw [← String.utf8ByteSize_append]
      rfl
  have hfront : a.toByteArray.extract a.utf8ByteSize (a.utf8ByteSize + b.utf8ByteSize) = .empty :=
    ByteArray.extract_eq_empty_iff.mpr (Nat.min_le_right _ _)
  have hwhole : b.toByteArray.extract 0 b.utf8ByteSize = b.toByteArray :=
    ByteArray.extract_zero_size
  rw [slice?, dif_pos ⟨Nat.le_add_right _ _, hvalid, hvalid'⟩, Option.some.injEq,
    ← String.toByteArray_inj]
  simp [ByteArray.extract_append, hfront, hwhole]

theorem utf8ByteSize_ofList_cons (c : Char) (s : List Char) :
    (String.ofList (c :: s)).utf8ByteSize = c.utf8Size + (String.ofList s).utf8ByteSize := by
  rw [String.ofList_cons, String.utf8ByteSize_append, String.utf8ByteSize_singleton]

theorem firstByte?_append {kind : Char → Bool} {front : List Char}
    (hfront : ∀ c ∈ front, kind c = false) {c : Char} (hc : kind c = true) (rest : List Char) :
    firstByte? kind (front ++ c :: rest) = some (String.ofList front).utf8ByteSize := by
  induction front with
  | nil => simp [firstByte?, hc]
  | cons d front ih =>
    rw [List.forall_mem_cons] at hfront
    rw [List.cons_append, firstByte?, hfront.1, ih hfront.2, utf8ByteSize_ofList_cons]
    rfl

theorem lastByte?_of_plain {kind : Char → Bool} {s : List Char} (h : ∀ c ∈ s, kind c = false) :
    lastByte? kind s = none := by
  induction s with
  | nil => rfl
  | cons c s ih =>
    rw [List.forall_mem_cons] at h
    rw [lastByte?, ih h.2, h.1]
    rfl

theorem lastByte?_append {kind : Char → Bool} {back : List Char}
    (hback : ∀ c ∈ back, kind c = false) {c : Char} (hc : kind c = true) (before : List Char) :
    lastByte? kind (before ++ c :: back) = some (String.ofList before).utf8ByteSize := by
  induction before with
  | nil => simp [lastByte?, lastByte?_of_plain hback, hc]
  | cons d before ih =>
    rw [List.cons_append, lastByte?, ih, utf8ByteSize_ofList_cons]

/-- The byte behind the character that begins at a byte. -/
def endByte? (s : String) (start : Nat) : Option Nat :=
  (slice? s start s.utf8ByteSize).map fun rest =>
    start + (rest.toList.head?.map Char.utf8Size).getD 1

/-- The bytes from the first letter or digit of a text to behind the last one, if it has any. -/
def coreBytes? (s : String) : Option (Nat × Nat) :=
  match firstByte? isAlphanumeric s.toList, lastByte? isAlphanumeric s.toList with
  | some start, some last => (endByte? s last).map (start, ·)
  | _, _ => none

namespace HasCore

variable {word : String} (h : HasCore word.toList front core back)

include h

theorem eq_append : word = .ofList front ++ (.ofList core ++ .ofList back) := by
  rw [← String.toList_inj, h.whole]
  simp

theorem coreBytes?_eq : coreBytes? word =
    some ((String.ofList front).utf8ByteSize,
      (String.ofList front).utf8ByteSize + (String.ofList core).utf8ByteSize) := by
  obtain ⟨c, rest, hbegins, hc⟩ := h.begins
  obtain ⟨before, d, hends, hd⟩ := h.ends
  have hfirst : firstByte? isAlphanumeric word.toList =
      some (String.ofList front).utf8ByteSize := by
    rw [h.whole, hbegins]
    exact firstByte?_append h.front_plain hc _
  have hlast : lastByte? isAlphanumeric word.toList =
      some (String.ofList (front ++ before)).utf8ByteSize := by
    have hsplit : word.toList = (front ++ before) ++ d :: back := by simp [h.whole, hends]
    rw [hsplit]
    exact lastByte?_append h.back_plain hd _
  have hrest : slice? word (String.ofList (front ++ before)).utf8ByteSize word.utf8ByteSize =
      some (.ofList (d :: back)) := by
    refine slice?_eq (c := "") ?_ rfl ?_
    · simp [h.eq_append, hends, ← String.toList_inj]
    · simp [h.eq_append, hends, String.ofList_append, Nat.add_assoc]
  have hend : endByte? word (String.ofList (front ++ before)).utf8ByteSize =
      some ((String.ofList front).utf8ByteSize + (String.ofList core).utf8ByteSize) := by
    rw [endByte?, hrest]
    simp [hends, String.ofList_append, Nat.add_assoc]
  rw [coreBytes?, hfirst, hlast]
  exact congrArg (Option.map _) hend

theorem slice?_front :
    slice? word 0 (String.ofList front).utf8ByteSize = some (.ofList front) :=
  slice?_eq (a := "") (by simpa using h.eq_append) rfl (Nat.zero_add _).symm

theorem slice?_core :
    slice? word (String.ofList front).utf8ByteSize
      ((String.ofList front).utf8ByteSize + (String.ofList core).utf8ByteSize) =
        some (.ofList core) :=
  slice?_eq h.eq_append rfl rfl

theorem slice?_back :
    slice? word ((String.ofList front).utf8ByteSize + (String.ofList core).utf8ByteSize)
      word.utf8ByteSize = some (.ofList back) := by
  refine slice?_eq (a := .ofList (front ++ core)) (c := "") ?_ ?_ ?_
  · simp [← String.toList_inj, h.whole]
  · simp [String.ofList_append]
  · simp [h.eq_append, Nat.add_assoc]

end HasCore

theorem coreBytes?_of_plain {word : String} (h : ∀ c ∈ word.toList, isAlphanumeric c = false) :
    coreBytes? word = none := by
  rw [coreBytes?, lastByte?_of_plain h]
  cases firstByte? isAlphanumeric word.toList <;> rfl

end Text

namespace Language

open Text (HasCore slice? coreBytes?)

variable (language : Language)

/-- A replacement begins with a capital if what it replaces does. -/
def inCaseOf (core foreign : List Char) : List Char :=
  if core.head?.any isUppercase then capitalize foreign else foreign

/-- Translates a word by cutting its bytes; nothing comes out if a cut goes through a character. -/
def translateBytes? (word : String) : Option String :=
  match coreBytes? word with
  | none => some word
  | some (start, stop) => do
    let core ← slice? word start stop
    match language.dictionary.get? (.ofList (lowerChars core.toList)) with
    | none => some word
    | some foreign =>
      let front ← slice? word 0 start
      let back ← slice? word stop word.utf8ByteSize
      some (front ++ (.ofList (inCaseOf core.toList foreign.toList) ++ back))

section

variable {word front core back : List Char}

theorem translateWord_of_hasCore (h : HasCore word front core back) :
    language.translateWord word =
      match language.dictionary.get? (.ofList (lowerChars core)) with
      | none => word
      | some foreign => front ++ (inCaseOf core foreign.toList ++ back) := by
  obtain ⟨c, rest, rfl, -⟩ := h.begins
  rw [translateWord, h.wordParts_eq]
  dsimp only [lookup?]
  cases language.dictionary.get? (.ofList (lowerChars (c :: rest))) with
  | none => rfl
  | some foreign => exact List.append_assoc _ _ _

theorem translateWord_of_plain (h : ∀ c ∈ word, isAlphanumeric c = false) :
    language.translateWord word = word := by
  have hnone : word.dropWhile (fun c => !isAlphanumeric c) = [] :=
    List.dropWhile_eq_nil_iff.mpr fun c hc => by simp [h c hc]
  rw [translateWord, wordParts, hnone]
  rfl

end

theorem translateBytes?_eq (word : String) :
    language.translateBytes? word = some (.ofList (language.translateWord word.toList)) := by
  by_cases hany : ∃ c ∈ word.toList, isAlphanumeric c = true
  · obtain ⟨front, core, back, h⟩ := Text.exists_hasCore hany
    rw [translateBytes?, h.coreBytes?_eq, translateWord_of_hasCore language h]
    dsimp only
    rw [h.slice?_core, Option.bind_eq_bind, Option.bind_some, String.toList_ofList]
    cases language.dictionary.get? (.ofList (lowerChars core)) with
    | none => simp
    | some foreign =>
      dsimp only
      rw [h.slice?_front, h.slice?_back]
      simp
  · have hplain : ∀ c ∈ word.toList, isAlphanumeric c = false := by
      intro c hc
      rw [← Bool.not_eq_true]
      exact fun halnum => hany ⟨c, hc, halnum⟩
    rw [translateBytes?, Text.coreBytes?_of_plain hplain, translateWord_of_plain language hplain]
    simp

theorem translateChars_join (a b : List Char) :
    language.translateChars (a ++ ([' '] ++ b)) =
      language.translateChars a ++ ([' '] ++ language.translateChars b) := by
  have hne (s : List Char) : (cutAll [' '] s).map language.translateWord ≠ [] :=
    fun h => Text.cutAll_ne_nil (by decide) s (List.map_eq_nil_iff.mp h)
  rw [translateChars, Text.cutAll_join (by decide) (Text.endsApart_singleton ' ' a),
    List.map_append, intercalate_append (hne a) (hne b)]
  rfl

theorem translate_join (a b : String) :
    language.translate (a ++ " " ++ b) = language.translate a ++ " " ++ language.translate b := by
  have hjoined : (a ++ " " ++ b).toList = a.toList ++ ([' '] ++ b.toList) := by simp
  rw [translate, hjoined, translateChars_join]
  simp [translate, ← String.toList_inj]

theorem translate_of_word {word : String} (h : ' ' ∉ word.toList) :
    language.translate word = .ofList (language.translateWord word.toList) := by
  have hnone : cutFirst [' '] word.toList = none := by
    rw [Text.cutFirst_eq_none_iff (by decide)]
    exact fun hin => h (hin.subset List.mem_cons_self)
  rw [translate, translateChars, Text.cutAll_eq (by decide), hnone]
  simp

/-- What stands on both sides of a space is translated apart. A word without letters and digits
stays as it is, and so does one whose core in small letters is not in the dictionary. Of any other
word the core is replaced, and what stands around it is kept. The bytes of every word can be cut
accordingly without cutting through a character. -/
theorem translates_word_by_word :
    (∀ a b, language.translate (a ++ " " ++ b) =
      language.translate a ++ " " ++ language.translate b) ∧
    ∀ word : String, ' ' ∉ word.toList →
      language.translateBytes? word = some (language.translate word) ∧
      ((∀ c ∈ word.toList, isAlphanumeric c = false) → language.translate word = word) ∧
      ((∃ c ∈ word.toList, isAlphanumeric c = true) →
        ∃ front core back, HasCore word.toList front core back) ∧
      ∀ front core back, HasCore word.toList front core back →
        language.translate word =
          match language.dictionary.get? (.ofList (lowerChars core)) with
          | none => word
          | some foreign => .ofList (front ++ (inCaseOf core foreign.toList ++ back)) := by
  refine ⟨language.translate_join, fun word hword => ?_⟩
  rw [language.translate_of_word hword]
  refine ⟨language.translateBytes?_eq word, fun hplain => ?_, Text.exists_hasCore, ?_⟩
  · rw [translateWord_of_plain language hplain, String.ofList_toList]
  · intro front core back h
    rw [translateWord_of_hasCore language h]
    cases language.dictionary.get? (.ofList (lowerChars core)) with
    | none => exact String.ofList_toList
    | some foreign => rfl

theorem quoted_word_is_translated :
    let language : Language := ⟨1, .ofList [("ärger", "ork")]⟩
    let word := "«Ärger…»"
    ' ' ∉ word.toList ∧ ' ' ∉ "--".toList ∧ (∀ c ∈ "--".toList, isAlphanumeric c = false) ∧
      (∃ c ∈ word.toList, isAlphanumeric c = true) ∧
      HasCore word.toList ['«'] ['Ä', 'r', 'g', 'e', 'r'] ['…', '»'] ∧
      language.translateBytes? word = some "«Ork…»" ∧
      language.translate ("--" ++ " " ++ word) = "-- «Ork…»" := by
  intro language word
  have hword : ' ' ∉ word.toList := by decide +kernel
  have hdashes : ' ' ∉ "--".toList := by decide +kernel
  have hplain : ∀ c ∈ "--".toList, isAlphanumeric c = false :=
    Text.forall_mem_of_all_not (by decide +kernel)
  have hany : ∃ c ∈ word.toList, isAlphanumeric c = true :=
    ⟨'Ä', by decide +kernel, by decide +kernel⟩
  have hcore : HasCore word.toList ['«'] ['Ä', 'r', 'g', 'e', 'r'] ['…', '»'] :=
    ⟨by decide +kernel, Text.forall_mem_of_all_not (by decide +kernel),
      Text.forall_mem_of_all_not (by decide +kernel), ⟨'Ä', _, rfl, by decide +kernel⟩,
      ⟨['Ä', 'r', 'g', 'e'], 'r', rfl, by decide +kernel⟩⟩
  obtain ⟨hjoin, hwords⟩ := language.translates_word_by_word
  obtain ⟨hbytes, -, -, htranslated⟩ := hwords word hword
  have hork : language.translate word = "«Ork…»" := by
    rw [htranslated _ _ _ hcore]
    decide +kernel
  refine ⟨hword, hdashes, hplain, hany, hcore, ?_, ?_⟩
  · rw [hbytes, hork]
  · rw [hjoin, (hwords "--" hdashes).2.1 hplain, hork]
    decide +kernel

end Language

end StoryEngine

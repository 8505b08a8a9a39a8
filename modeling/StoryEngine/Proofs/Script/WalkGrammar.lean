import StoryEngine.Proofs.Result
import StoryEngine.Script.WalkPath
import StoryEngine.Text.Numeral

/-! # The grammar of walk paths

A path is written as segments one after the other, and reading accepts exactly the texts of this
grammar that stand for at least one step and for no more than a path may have. No segment reads on
into the next one, because none begins with a digit, and the letters of a repeated sequence end
where its count begins. A count that is too large to be held is too large for a path as well.
-/

namespace StoryEngine

set_option autoImplicit false

namespace Direction

variable {c : Char} {d : Direction}

theorem eq_letter_of_toUpper (h : c.toUpper = d.letter) :
    c = d.letter ∨ c = d.letter.toLower := by
  unfold Char.toUpper at h
  split at h
  · next hsmall =>
    have hfirst : 97 ≤ c.toNat := UInt32.le_iff_toNat_le.mp hsmall.1
    have hlast : c.toNat ≤ 122 := UInt32.le_iff_toNat_le.mp hsmall.2
    have hmoved := congrArg (fun u : Char => u.val.toNat) h
    right
    apply Char.ext
    apply UInt32.toNat_inj.mp
    cases d <;> simp [letter, UInt32.toNat_add] at hmoved ⊢ <;> omega
  · exact .inl h

theorem eq_letter_of_ofLetter? (h : ofLetter? c = some d) :
    c = d.letter ∨ c = d.letter.toLower := by
  apply eq_letter_of_toUpper
  unfold ofLetter? at h
  split at h <;> cases h <;> assumption

theorem not_isDigit_of_ofLetter? (h : ofLetter? c = some d) : c.isDigit = false := by
  rcases eq_letter_of_ofLetter? h with rfl | rfl <;> cases d <;> decide

theorem not_isBlank_of_ofLetter? (h : ofLetter? c = some d) : Text.isBlank c = false := by
  rcases eq_letter_of_ofLetter? h with rfl | rfl <;> cases d <;> decide

theorem toLower_ne_a_of_ofLetter? (h : ofLetter? c = some d) : c.toLower ≠ 'a' := by
  rcases eq_letter_of_ofLetter? h with rfl | rfl <;> cases d <;> decide

theorem ofLetter?_of_isDigit (h : c.isDigit = true) : ofLetter? c = none := by
  cases hc : ofLetter? c with
  | none => rfl
  | some d => cases h.symm.trans (not_isDigit_of_ofLetter? hc)

end Direction

namespace WalkPath

open Text.Numeral (digits? digits?_eq_some_iff)

/-- The texts of a segment: a letter, a letter and a count, or a word, letters and a count. -/
inductive Spells : List Char → Segment → Prop where
  | letter {c : Char} {d : Direction} (hc : Direction.ofLetter? c = some d) : Spells [c] ⟨[d], 1⟩
  | counted {c : Char} {d : Direction} {digits : List Char} {n : Nat}
      (hc : Direction.ofLetter? c = some d) (hn : digits? digits = some n) :
      Spells (c :: digits) ⟨[d], n⟩
  | alternate {word letters digits : List Char} {ds : List Direction} {n : Nat}
      (hword : word.map Char.toLower = alternateWord)
      (hletters : letters.mapM Direction.ofLetter? = some ds) (hne : ds ≠ [])
      (hn : digits? digits = some n) : Spells (word ++ (letters ++ digits)) ⟨ds, n⟩

/-- The texts of a sequence of segments. -/
inductive Written : List Char → List Segment → Prop where
  | nil : Written [] []
  | cons {piece rest : List Char} {s : Segment} {segments : List Segment} (hs : Spells piece s)
      (hrest : Written rest segments) : Written (piece ++ rest) (s :: segments)

def expandAll (segments : List Segment) : List Direction := segments.flatMap Segment.expand

/-- A segment as the reader holds it. -/
def Segment.held (s : Segment) : Segment := { s with count := saturate s.count }

def NoDigitAhead (rest : List Char) : Prop := ∀ c, rest.head? = some c → c.isDigit = false

section

variable {c : Char} {cs piece rest letters digits : List Char} {s : Segment}
  {segments : List Segment} {ds : List Direction} {n : Nat}

theorem length_expand (s : Segment) : s.expand.length = s.directions.length * s.count := by
  simp [Segment.expand, Nat.mul_comm]

theorem Spells.directions_ne_nil (h : Spells piece s) : s.directions ≠ [] := by
  cases h with
  | letter | counted => exact List.cons_ne_nil _ _
  | alternate _ _ hne _ => exact hne

theorem begins_of_map_toLower {word : List Char} (h : word.map Char.toLower = alternateWord) :
    ∃ c cs, word = c :: cs ∧ c.toLower = 'a' := by
  cases word with
  | nil => cases h
  | cons c cs => exact ⟨c, cs, rfl, (List.cons.inj h).1⟩

theorem not_isDigit_of_toLower (h : c.toLower = 'a') : c.isDigit = false := by
  cases hdigit : c.isDigit with
  | false => rfl
  | true =>
    have hlast : ¬ 'A'.val ≤ c.val := by
      simp [Char.isDigit, UInt32.le_iff_toNat_le] at hdigit ⊢
      omega
    unfold Char.toLower at h
    rw [dif_neg fun hcapital => hlast hcapital.1] at h
    cases h
    cases hdigit

theorem Spells.begins (h : Spells piece s) :
    ∃ c cs, piece = c :: cs ∧ c.isDigit = false := by
  cases h with
  | letter hc | counted hc _ => exact ⟨_, _, rfl, Direction.not_isDigit_of_ofLetter? hc⟩
  | alternate hword =>
    obtain ⟨c, cs, rfl, hc⟩ := begins_of_map_toLower hword
    exact ⟨c, _, rfl, not_isDigit_of_toLower hc⟩

theorem Written.noDigitAhead (h : Written cs segments) : NoDigitAhead cs := by
  intro c hc
  cases h with
  | nil => cases hc
  | cons hs =>
    obtain ⟨first, cs, rfl, hfirst⟩ := hs.begins
    cases hc
    exact hfirst

theorem takeCount_of_noDigitAhead (h : NoDigitAhead rest) : takeCount rest = (none, rest) := by
  cases rest with
  | nil => rfl
  | cons c cs => simp [takeCount, h c rfl]

theorem takeCount_append (hn : digits? digits = some n) (h : NoDigitAhead rest) :
    takeCount (digits ++ rest) = (some (saturate n), rest) := by
  obtain ⟨hne, hdigits, rfl⟩ := (digits?_eq_some_iff digits n).mp hn
  have htake : (digits ++ rest).takeWhile Char.isDigit = digits := by
    rw [List.takeWhile_append_of_pos hdigits]
    cases rest with
    | nil => simp
    | cons c cs => simp [h c rfl]
  have hdrop : (digits ++ rest).dropWhile Char.isDigit = rest := by
    rw [List.dropWhile_append_of_pos hdigits]
    cases rest with
    | nil => rfl
    | cons c cs => simp [h c rfl]
  rw [takeCount, htake, hdrop, if_neg hne]

theorem takeDirections_append (hletters : letters.mapM Direction.ofLetter? = some ds)
    (hrest : ∀ c, rest.head? = some c → Direction.ofLetter? c = none) :
    takeDirections (letters ++ rest) = (ds, rest) := by
  induction letters generalizing ds with
  | nil =>
    cases hletters
    cases rest with
    | nil => rfl
    | cons c cs => simp [takeDirections, hrest c rfl]
  | cons c cs ih =>
    rw [List.mapM_cons] at hletters
    obtain ⟨d, hd, hletters⟩ := Option.bind_eq_some_iff.mp hletters
    obtain ⟨more, hmore, hletters⟩ := Option.bind_eq_some_iff.mp hletters
    cases hletters
    rw [List.cons_append, takeDirections, hd, ih hmore]

theorem alternateWord_eq : alternateWord = 'a' :: "lternate".toList := by decide

theorem takeSegment_eq_takeLetter (h : c.toLower ≠ 'a') :
    takeSegment c cs = takeLetter c cs := by
  have hword : ¬alternateWord.isPrefixOf ((c :: cs).map Char.toLower) = true := by
    rw [List.isPrefixOf_iff_prefix, alternateWord_eq, List.map_cons, List.cons_prefix_cons]
    exact fun hboth => h hboth.1.symm
  rw [takeSegment, if_neg hword]

theorem takeSegment_eq_takeAlternate {word : List Char}
    (hword : word.map Char.toLower = alternateWord) (h : c :: cs = word ++ rest) :
    takeSegment c cs = takeAlternate rest := by
  have hlength : alternateWord.length = word.length := by rw [← hword, List.length_map]
  have hstarts : alternateWord.isPrefixOf ((c :: cs).map Char.toLower) = true := by
    rw [h, List.map_append, hword, List.isPrefixOf_iff_prefix]
    exact List.prefix_append _ _
  rw [takeSegment, if_pos hstarts, h, hlength, List.drop_left]

theorem digits_begin (hn : digits? digits = some n) :
    ∃ c cs, digits = c :: cs ∧ c.isDigit = true := by
  obtain ⟨hne, hdigits, -⟩ := (digits?_eq_some_iff digits n).mp hn
  obtain ⟨c, cs, rfl⟩ := List.exists_cons_of_ne_nil hne
  exact ⟨c, cs, rfl, hdigits c List.mem_cons_self⟩

theorem takeAlternate_append (hletters : letters.mapM Direction.ofLetter? = some ds)
    (hne : ds ≠ []) (hn : digits? digits = some n) (hrest : NoDigitAhead rest) :
    takeAlternate (letters ++ (digits ++ rest)) = .ok (⟨ds, saturate n⟩, rest) := by
  have hstop : ∀ c, (digits ++ rest).head? = some c → Direction.ofLetter? c = none := by
    obtain ⟨first, more, rfl, hfirst⟩ := digits_begin hn
    intro c hc
    cases hc
    exact Direction.ofLetter?_of_isDigit hfirst
  rw [takeAlternate, takeDirections_append hletters hstop]
  cases ds with
  | nil => exact absurd rfl hne
  | cons d more => simp only [takeCount_append hn hrest]

/-- A segment is read to its end, unless a digit follows it. -/
theorem Spells.takeSegment (hs : Spells piece s) (hrest : NoDigitAhead rest)
    (h : piece ++ rest = c :: cs) : takeSegment c cs = .ok (s.held, rest) := by
  cases hs with
  | letter hc =>
    rw [List.singleton_append] at h
    obtain ⟨rfl, rfl⟩ := List.cons.inj h
    rw [takeSegment_eq_takeLetter (Direction.toLower_ne_a_of_ofLetter? hc), takeLetter, hc]
    simp only [takeCount_of_noDigitAhead hrest]
    rfl
  | counted hc hn =>
    rw [List.cons_append] at h
    obtain ⟨rfl, rfl⟩ := List.cons.inj h
    rw [takeSegment_eq_takeLetter (Direction.toLower_ne_a_of_ofLetter? hc), takeLetter, hc]
    simp only [takeCount_append hn hrest]
    rfl
  | alternate hword hletters hne hn =>
    rw [List.append_assoc, List.append_assoc] at h
    rw [takeSegment_eq_takeAlternate hword h.symm, takeAlternate_append hletters hne hn hrest]
    rfl

theorem takeCount_cases (cs : List Char) :
    takeCount cs = (none, cs) ∨ ∃ digits rest n, cs = digits ++ rest ∧
      digits? digits = some n ∧ takeCount cs = (some (saturate n), rest) := by
  by_cases hdigits : cs.takeWhile Char.isDigit = []
  · left
    have hall := List.takeWhile_append_dropWhile (p := Char.isDigit) (l := cs)
    rw [hdigits, List.nil_append] at hall
    rw [takeCount, if_pos hdigits, hall]
  · right
    refine ⟨cs.takeWhile Char.isDigit, cs.dropWhile Char.isDigit, _,
      List.takeWhile_append_dropWhile.symm, ?_, by rw [takeCount, if_neg hdigits]⟩
    rw [digits?_eq_some_iff]
    exact ⟨hdigits, fun c hc => List.all_eq_true.mp List.all_takeWhile c hc, rfl⟩

theorem takeDirections_sound (cs : List Char) :
    ∃ letters, cs = letters ++ (takeDirections cs).2 ∧
      letters.mapM Direction.ofLetter? = some (takeDirections cs).1 := by
  induction cs with
  | nil => exact ⟨[], rfl, rfl⟩
  | cons c cs ih =>
    obtain ⟨letters, hcs, hletters⟩ := ih
    rw [takeDirections]
    split
    · next d hd =>
      refine ⟨c :: letters, congrArg (c :: ·) hcs, ?_⟩
      rw [List.mapM_cons, hd, hletters]
      rfl
    · exact ⟨[], rfl, rfl⟩

theorem takeAlternate_sound (h : takeAlternate cs = .ok (s, rest)) :
    ∃ letters digits ds n, cs = letters ++ (digits ++ rest) ∧
      letters.mapM Direction.ofLetter? = some ds ∧ ds ≠ [] ∧ digits? digits = some n ∧
      s = ⟨ds, saturate n⟩ := by
  obtain ⟨letters, hcs, hletters⟩ := takeDirections_sound cs
  rw [takeAlternate] at h
  split at h
  · cases h
  · next ds mid hne hmid =>
    rw [hmid] at hcs hletters
    rcases takeCount_cases mid with hnone | ⟨digits, rest, n, rfl, hn, hcount⟩
    · simp only [hnone] at h
      cases h
    · simp only [hcount] at h
      cases h
      exact ⟨letters, digits, ds, n, hcs, hletters, hne, hn, rfl⟩

theorem spells_of_takeSegment (h : takeSegment c cs = .ok (s, rest)) :
    ∃ piece t, c :: cs = piece ++ rest ∧ Spells piece t ∧ s = t.held := by
  rw [takeSegment] at h
  split at h
  · next hstarts =>
    obtain ⟨letters, digits, ds, n, htail, hletters, hne, hn, rfl⟩ := takeAlternate_sound h
    have hword : ((c :: cs).take alternateWord.length).map Char.toLower = alternateWord := by
      rw [List.map_take]
      exact (List.prefix_iff_eq_take.mp (List.isPrefixOf_iff_prefix.mp hstarts)).symm
    refine ⟨_, ⟨ds, n⟩, ?_, .alternate hword hletters hne hn, rfl⟩
    rw [List.append_assoc, List.append_assoc, ← htail, List.take_append_drop]
  · rw [takeLetter] at h
    split at h
    · next d hd =>
      cases h
      rcases takeCount_cases cs with hnone | ⟨digits, rest, n, rfl, hn, hcount⟩
      · rw [hnone]
        exact ⟨[c], ⟨[d], 1⟩, rfl, .letter hd, rfl⟩
      · rw [hcount]
        exact ⟨c :: digits, ⟨[d], n⟩, rfl, .counted hd hn, rfl⟩
    · cases h

/-- Counts and lengths that had to be cut off belong to paths that are too long. -/
theorem fits_held_iff (hne : s.directions ≠ []) (taken : Nat) :
    saturate (taken + s.held.steps) ≤ maxSteps ↔ taken + s.expand.length ≤ maxSteps := by
  have hpos : 0 < s.directions.length := List.length_pos_iff.mpr hne
  rw [length_expand, Segment.steps, Segment.held]
  simp only [saturate, maxSteps]
  rcases Nat.le_total s.count 0xFFFFFFFFFFFFFFFF with hcount | hcount
  · rw [Nat.min_eq_left hcount]
    omega
  · rw [Nat.min_eq_right hcount]
    have hlarge := Nat.le_mul_of_pos_left s.count hpos
    have hheld := Nat.le_mul_of_pos_left 0xFFFFFFFFFFFFFFFF hpos
    omega

theorem held_of_fits (hne : s.directions ≠ []) (h : s.expand.length ≤ maxSteps) :
    s.held = s ∧ s.steps = s.expand.length := by
  have hpos : 0 < s.directions.length := List.length_pos_iff.mpr hne
  rw [length_expand, maxSteps] at h
  have hcount := Nat.le_mul_of_pos_left s.count hpos
  constructor
  · rw [Segment.held, saturate, Nat.min_eq_left (by omega)]
  · rw [length_expand, Segment.steps, saturate, Nat.min_eq_left (by omega)]

theorem readSegments_cons {taken : Nat} (h : takeSegment c cs = .ok (s, rest)) :
    readSegments taken (c :: cs) =
      if saturate (taken + s.steps) > maxSteps then .error .tooLong
      else (readSegments (taken + s.steps) rest).map (s.expand ++ ·) := by
  rw [readSegments]
  split
  · next fault hfault => cases h.symm.trans hfault
  · next hs =>
    cases h.symm.trans hs
    rfl

theorem readSegments_of_written (h : Written cs segments) (taken : Nat)
    (hfits : taken + (expandAll segments).length ≤ maxSteps) :
    readSegments taken cs = .ok (expandAll segments) := by
  induction h generalizing taken with
  | nil => simp [readSegments, expandAll]
  | @cons piece rest s segments hs hrest ih =>
    rw [expandAll, List.flatMap_cons, List.length_append] at hfits
    obtain ⟨c, cs, hpiece⟩ : ∃ c cs, piece ++ rest = c :: cs := by
      obtain ⟨c, cs, rfl, -⟩ := hs.begins
      exact ⟨c, cs ++ rest, rfl⟩
    have hne := hs.directions_ne_nil
    have htake := hs.takeSegment hrest.noDigitAhead hpiece
    obtain ⟨hheld, hsteps⟩ := held_of_fits hne (by omega)
    have hstep : ¬saturate (taken + s.steps) > maxSteps := by
      have := (fits_held_iff hne taken).mpr (by omega)
      rw [hheld] at this
      exact Nat.not_lt.mpr this
    rw [hheld] at htake
    rw [hpiece, readSegments_cons htake, if_neg hstep, hsteps, ih _ (by rw [expandAll]; omega)]
    rfl

theorem written_of_readSegments {taken : Nat} {path : List Direction} (htaken : taken ≤ maxSteps)
    (h : readSegments taken cs = .ok path) :
    ∃ segments, Written cs segments ∧ expandAll segments = path ∧
      taken + path.length ≤ maxSteps := by
  fun_induction readSegments taken cs generalizing path with
  | case1 =>
    cases h
    exact ⟨[], .nil, rfl, htaken⟩
  | case2 => cases h
  | case3 => cases h
  | case4 taken c cs s rest hs _ hstep ih =>
    obtain ⟨others, hothers, rfl⟩ := map_eq_ok_iff.mp h
    obtain ⟨piece, t, hpiece, ht, rfl⟩ := spells_of_takeSegment hs
    have hfits := (fits_held_iff ht.directions_ne_nil taken).mp (Nat.le_of_not_lt hstep)
    obtain ⟨hheld, hsteps⟩ := held_of_fits ht.directions_ne_nil (by omega)
    rw [hheld] at hothers ih ⊢
    rw [hsteps] at hothers ih
    obtain ⟨segments, hsegments, rfl, hlength⟩ := ih hfits hothers
    refine ⟨t :: segments, hpiece ▸ .cons ht hsegments, rfl, ?_⟩
    rw [List.length_append]
    omega

/-- The texts of the grammar are read, as long as their steps fit, and only they. -/
theorem readSegments_eq_ok_iff {taken : Nat} {path : List Direction} (htaken : taken ≤ maxSteps) :
    readSegments taken cs = .ok path ↔ ∃ segments, Written cs segments ∧
      expandAll segments = path ∧ taken + path.length ≤ maxSteps := by
  constructor
  · exact written_of_readSegments htaken
  · rintro ⟨segments, hsegments, rfl, hfits⟩
    exact readSegments_of_written hsegments taken hfits

def withoutBlanks (raw : String) : List Char := raw.toList.filter fun c => !Text.isBlank c

theorem parse_eq_readSegments {raw : String} {path : List Direction} :
    parse raw = .ok path ↔ readSegments 0 (withoutBlanks raw) = .ok path ∧ path ≠ [] := by
  rw [parse, withoutBlanks]
  cases readSegments 0 (raw.toList.filter fun c => !Text.isBlank c) with
  | error fault => exact iff_of_false nofun fun h => nomatch h.1
  | ok steps =>
    cases steps with
    | nil => exact iff_of_false nofun fun h => h.2 (Except.ok.inj h.1).symm
    | cons d more =>
      constructor
      · rintro ⟨⟩
        exact ⟨rfl, List.cons_ne_nil d more⟩
      · exact fun h => h.1

theorem parse_eq_ok_iff {raw : String} {path : List Direction} :
    parse raw = .ok path ↔ ∃ segments, segments ≠ [] ∧ Written (withoutBlanks raw) segments ∧
      expandAll segments = path ∧ 1 ≤ path.length ∧ path.length ≤ maxSteps := by
  rw [parse_eq_readSegments, readSegments_eq_ok_iff (Nat.zero_le maxSteps), Nat.zero_add]
  constructor
  · rintro ⟨⟨segments, hsegments, rfl, hfits⟩, hne⟩
    refine ⟨segments, ?_, hsegments, rfl, List.length_pos_iff.mpr hne, hfits⟩
    rintro rfl
    exact hne rfl
  · rintro ⟨segments, -, hsegments, hpath, hsteps, hfits⟩
    exact ⟨⟨segments, hsegments, hpath, hfits⟩, List.length_pos_iff.mp hsteps⟩

theorem Written.append {more : List Char} {others : List Segment} (h : Written cs segments)
    (hmore : Written more others) : Written (cs ++ more) (segments ++ others) := by
  induction h with
  | nil => exact hmore
  | cons hs _ ih =>
    rw [List.append_assoc]
    exact .cons hs ih

theorem written_of_letters (hletters : letters.mapM Direction.ofLetter? = some ds) :
    Written letters (ds.map fun d => ⟨[d], 1⟩) := by
  induction letters generalizing ds with
  | nil =>
    cases hletters
    exact .nil
  | cons c cs ih =>
    rw [List.mapM_cons] at hletters
    obtain ⟨d, hd, hletters⟩ := Option.bind_eq_some_iff.mp hletters
    obtain ⟨more, hmore, hletters⟩ := Option.bind_eq_some_iff.mp hletters
    cases hletters
    exact .cons (.letter hd) (ih hmore)

theorem expandAll_append (segments others : List Segment) :
    expandAll (segments ++ others) = expandAll segments ++ expandAll others :=
  List.flatMap_append

theorem expandAll_letters (ds : List Direction) :
    expandAll (ds.map fun d => ⟨[d], 1⟩) = ds := by
  simp [expandAll, List.flatMap_map, Segment.expand]

theorem withoutBlanks_letters (hletters : letters.mapM Direction.ofLetter? = some ds) :
    withoutBlanks (String.ofList letters) = letters := by
  rw [withoutBlanks, String.toList_ofList, List.filter_eq_self]
  intro c hc
  obtain ⟨d, hd⟩ := exists_of_mapM_eq_some hletters hc
  rw [Direction.not_isBlank_of_ofLetter? hd]
  rfl

theorem withoutBlanks_append (raw other : String) :
    withoutBlanks (raw ++ other) = withoutBlanks raw ++ withoutBlanks other := by
  rw [withoutBlanks, String.toList_append, List.filter_append]
  rfl

end

/-- A text is read if and only if it is written in segments and expands to a path that is neither
empty nor too long, and it is read as that path. So every such path can be spelled in letters of
either case, and texts that are read can be put together up to the greatest length. -/
theorem parse_exactly_written (raw : String) (path : List Direction) :
    (parse raw = .ok path ↔ ∃ segments, segments ≠ [] ∧ Written (withoutBlanks raw) segments ∧
      expandAll segments = path ∧ 1 ≤ path.length ∧ path.length ≤ maxSteps) ∧
    (∀ letters : List Char, letters.mapM Direction.ofLetter? = some path →
      1 ≤ path.length → path.length ≤ maxSteps → parse (String.ofList letters) = .ok path) ∧
    ∀ other more, parse raw = .ok path → parse other = .ok more →
      path.length + more.length ≤ maxSteps → parse (raw ++ other) = .ok (path ++ more) := by
  refine ⟨parse_eq_ok_iff, ?_, ?_⟩
  · intro letters hletters hsteps hfits
    rw [parse_eq_ok_iff, withoutBlanks_letters hletters]
    have hne : path ≠ [] := List.length_pos_iff.mp hsteps
    exact ⟨path.map fun d => ⟨[d], 1⟩, mt List.map_eq_nil_iff.mp hne,
      written_of_letters hletters, expandAll_letters path, hsteps, hfits⟩
  · intro other more hpath hmore hfits
    obtain ⟨segments, hne, hsegments, rfl, hsteps, -⟩ := parse_eq_ok_iff.mp hpath
    obtain ⟨others, -, hothers, rfl, -, -⟩ := parse_eq_ok_iff.mp hmore
    rw [parse_eq_ok_iff, withoutBlanks_append]
    refine ⟨segments ++ others, ?_, hsegments.append hothers, expandAll_append segments others,
      ?_, ?_⟩
    · exact fun hnil => hne (List.append_eq_nil_iff.mp hnil).1
    · rw [List.length_append]
      omega
    · rw [List.length_append]
      exact hfits

/-- A count of none, blanks within a word, capital letters and leading zeros are all read, and the
path goes on with what is written behind it. -/
theorem guard_walks_to_and_fro :
    let path : List Direction := [.west, .east, .west, .east, .north]
    parse "s0 Alter nateWe02\tN" = .ok path ∧ parse "nnW" = .ok [.north, .north, .west] ∧
      parse ("s0 Alter nateWe02\tN" ++ "nnW") = .ok (path ++ [.north, .north, .west]) := by
  intro path
  have hwritten : Written (withoutBlanks "s0 Alter nateWe02\tN")
      [⟨[.south], 0⟩, ⟨[.west, .east], 2⟩, ⟨[.north], 1⟩] :=
    .cons (@Spells.counted 's' .south ['0'] 0 rfl rfl) (.cons
      (@Spells.alternate "Alternate".toList ['W', 'e'] ['0', '2'] [.west, .east] 2 rfl rfl
        (List.cons_ne_nil _ _) rfl)
      (.cons (@Spells.letter 'N' .north rfl) .nil))
  obtain ⟨hread, -, happend⟩ := parse_exactly_written "s0 Alter nateWe02\tN" path
  have hpath := hread.mpr ⟨_, by decide, hwritten, rfl, by decide, by decide⟩
  have hletters := (parse_exactly_written "nnW" [.north, .north, .west]).2.1 ['n', 'n', 'W'] rfl
    (by decide) (by decide)
  exact ⟨hpath, hletters, happend _ _ hpath hletters (by decide)⟩

end WalkPath

end StoryEngine

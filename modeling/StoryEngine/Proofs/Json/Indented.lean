import StoryEngine.Json.Printer
import StoryEngine.Proofs.Json.Quoted
import StoryEngine.Proofs.Result

/-! # The indented form read back

Reading takes from the front of a text exactly what was written of a value, whatever stands behind
it, as long as that does not make a number longer. The length of the text is enough to bound the
calls.
-/

namespace StoryEngine.Json

set_option autoImplicit false

/-- No number goes on here. -/
def EndsNumber (rest : List Char) : Prop :=
  ∀ c ∈ rest.head?, c.isDigit = false ∧ c ≠ '.' ∧ c ≠ 'e' ∧ c ≠ 'E'

theorem takeDigits_append {digits rest : List Char} (hne : digits ≠ [])
    (hdigits : ∀ c ∈ digits, c.isDigit = true) (hrest : EndsNumber rest) :
    takeDigits (digits ++ rest) = some (digits, rest) := by
  have htake : rest.takeWhile Char.isDigit = [] := by
    cases rest with
    | nil => rfl
    | cons c rest => rw [List.takeWhile_cons, (hrest c rfl).1]; rfl
  have hdrop : rest.dropWhile Char.isDigit = rest := by
    cases rest with
    | nil => rfl
    | cons c rest => rw [List.dropWhile_cons, (hrest c rfl).1]; rfl
  rw [takeDigits, List.takeWhile_append_of_pos hdigits, List.dropWhile_append_of_pos hdigits, htake,
    hdrop, List.append_nil]
  cases digits with
  | nil => exact absurd rfl hne
  | cons c digits => rfl

theorem toDigits_begins (n : Nat) : ∃ c cs, Nat.toDigits 10 n = c :: cs ∧ c.isDigit = true := by
  obtain ⟨c, cs, hcons⟩ := List.exists_cons_of_ne_nil (Nat.toDigits_ne_nil (b := 10) (n := n))
  have hc : c ∈ Nat.toDigits 10 n := hcons ▸ List.mem_cons_self
  exact ⟨c, cs, hcons, Nat.isDigit_of_mem_toDigits (by decide) (by decide) hc⟩

/-- No numeral but zero itself begins with a zero. -/
theorem head?_toDigits_ne {n : Nat} (h : n ≠ 0) : (Nat.toDigits 10 n).head? ≠ some '0' := by
  induction n using Nat.strongRecOn with
  | ind n ih =>
    by_cases hlt : n < 10
    · have hdigit : ∀ n < 10, n ≠ 0 → [Nat.digitChar n].head? ≠ some '0' := by decide
      rw [Nat.toDigits_of_lt_base hlt]
      exact hdigit n hlt h
    · have hge : 10 ≤ n := Nat.le_of_not_lt hlt
      have hfront := ih (n / 10) (by omega) (by omega)
      rw [Nat.toDigits_of_base_le (by decide) hge]
      obtain ⟨c, cs, hcons, _⟩ := toDigits_begins (n / 10)
      rw [hcons] at hfront ⊢
      exact hfront

theorem takeFraction_of_endsNumber {rest : List Char} (hrest : EndsNumber rest) :
    takeFraction rest = some ([], rest) := by
  cases rest with
  | nil => rfl
  | cons c rest =>
    rw [takeFraction]
    intro _ hpoint
    exact (hrest c rfl).2.1 (List.cons.inj hpoint).1

theorem takeExponent_of_endsNumber {rest : List Char} (hrest : EndsNumber rest) :
    takeExponent rest = some (none, rest) := by
  cases rest with
  | nil => rfl
  | cons c rest =>
    obtain ⟨_, _, he, hE⟩ := hrest c rfl
    exact if_neg (not_or.mpr ⟨he, hE⟩)

theorem takeUnsigned_toDigits {minus : Bool} {n : Nat} (hzero : ¬(minus = true ∧ n = 0))
    {rest : List Char} (hrest : EndsNumber rest) :
    takeUnsigned minus (Nat.toDigits 10 n ++ rest) =
      some (.number (if minus then -(n : Int) else n), rest) := by
  have hdigits : takeDigits (Nat.toDigits 10 n ++ rest) = some (Nat.toDigits 10 n, rest) :=
    takeDigits_append Nat.toDigits_ne_nil
      (fun c hc => Nat.isDigit_of_mem_toDigits (by decide) (by decide) hc) hrest
  have hleading : ¬((Nat.toDigits 10 n).head? = some '0' ∧ (Nat.toDigits 10 n).length ≠ 1) := by
    rintro ⟨hhead, hlength⟩
    by_cases hn : n = 0
    · exact hlength (hn ▸ rfl)
    · exact head?_toDigits_ne hn hhead
  have hwhole : ¬(minus = true ∧ (n : Int) = 0) :=
    fun h => hzero ⟨h.1, Int.ofNat_eq_zero.mp h.2⟩
  simp only [takeUnsigned, hdigits, Option.bind_eq_bind, Option.bind_some, if_neg hleading,
    takeFraction_of_endsNumber hrest, takeExponent_of_endsNumber hrest,
    Nat.ofDigitChars_ten_toDigits, Option.pure_def]
  exact if_pos ⟨trivial, trivial, hwhole⟩

theorem toList_toString_ofNat (n : Nat) : (toString (Int.ofNat n)).toList = Nat.toDigits 10 n :=
  Nat.toList_repr

theorem toList_toString_negSucc (n : Nat) :
    (toString (Int.negSucc n)).toList = '-' :: Nat.toDigits 10 (n + 1) := by
  change ("-" ++ (n + 1).repr).toList = _
  rw [String.toList_append, Nat.toList_repr]
  rfl

/-- A digit or the minus sign stands first. -/
theorem toString_begins (n : Int) :
    ∃ c cs, (toString n).toList = c :: cs ∧ (c.isDigit = true ∨ c = '-') := by
  cases n with
  | ofNat n =>
    obtain ⟨c, cs, hcons, hdigit⟩ := toDigits_begins n
    exact ⟨c, cs, (toList_toString_ofNat n).trans hcons, .inl hdigit⟩
  | negSucc n => exact ⟨'-', _, toList_toString_negSucc n, .inr rfl⟩

theorem takeNumber_toString (n : Int) {rest : List Char} (hrest : EndsNumber rest) :
    takeNumber ((toString n).toList ++ rest) = some (.number n, rest) := by
  cases n with
  | ofNat n =>
    have hunsigned := takeUnsigned_toDigits (nofun : ¬(false = true ∧ n = 0)) hrest
    obtain ⟨c, cs, hcons, hdigit⟩ := toDigits_begins n
    rw [toList_toString_ofNat, takeNumber]
    · exact hunsigned
    · intro _ hminus
      rw [hcons] at hminus
      cases hminus
      cases hdigit
  | negSucc n =>
    rw [toList_toString_negSucc, List.cons_append, takeNumber,
      takeUnsigned_toDigits (fun h => Nat.succ_ne_zero n h.2) hrest]
    rfl

mutual

/-- Nothing in it is foreign. -/
def isPlain : Json → Bool
  | null | bool _ | number _ | string _ => true
  | array elements => allPlain elements
  | object members => allMembersPlain members
  | foreign _ _ => false

def allPlain : List Json → Bool
  | [] => true
  | v :: rest => isPlain v && allPlain rest

def allMembersPlain : List (String × Json) → Bool
  | [] => true
  | (_, v) :: rest => isPlain v && allMembersPlain rest

end

theorem allPlain_iff {elements : List Json} :
    allPlain elements = true ↔ ∀ v ∈ elements, v.isPlain = true := by
  induction elements with
  | nil => exact iff_of_true rfl nofun
  | cons v rest ih => rw [allPlain, Bool.and_eq_true, ih, List.forall_mem_cons]

theorem allMembersPlain_iff {members : List (String × Json)} :
    allMembersPlain members = true ↔ ∀ m ∈ members, m.2.isPlain = true := by
  induction members with
  | nil => exact iff_of_true rfl nofun
  | cons m rest ih => rw [allMembersPlain, Bool.and_eq_true, ih, List.forall_mem_cons]

/-- Where a value begins, there is neither a blank nor the end of an array. -/
def BeginsValue (cs : List Char) : Prop :=
  ∃ c rest, cs = c :: rest ∧ isSpace c = false ∧ c ≠ ']'

theorem indentedChars_begins (depth : Nat) {v : Json} (hplain : v.isPlain = true) :
    BeginsValue (indentedChars depth v) := by
  cases v with
  | null => exact ⟨'n', _, rfl, rfl, by decide⟩
  | bool b => cases b <;> exact ⟨_, _, rfl, rfl, by decide⟩
  | number n =>
    obtain ⟨c, cs, hcons, hc⟩ := toString_begins n
    refine ⟨c, cs, hcons, ?_, fun hend => absurd hc (hend ▸ by decide)⟩
    cases hspace : isSpace c with
    | false => rfl
    | true =>
      simp only [isSpace, Bool.or_eq_true, beq_iff_eq] at hspace
      rcases hspace with ((rfl | rfl) | rfl) | rfl <;> exact absurd hc (by decide)
  | string s => exact ⟨'"', _, rfl, rfl, by decide⟩
  | array elements => cases elements <;> exact ⟨'[', _, rfl, rfl, by decide⟩
  | object members => cases members <;> exact ⟨'{', _, rfl, rfl, by decide⟩
  | foreign => cases hplain

theorem BeginsValue.skipSpace {cs : List Char} (h : BeginsValue cs) (rest : List Char) :
    skipSpace (cs ++ rest) = cs ++ rest := by
  obtain ⟨c, cs, rfl, hspace, _⟩ := h
  rw [List.cons_append, Json.skipSpace, List.dropWhile_cons, hspace]
  rfl

theorem skipSpace_newLine (depth : Nat) (rest : List Char) :
    skipSpace (newLine depth ++ rest) = skipSpace rest := by
  refine List.dropWhile_append_of_pos fun c hc => ?_
  rcases List.mem_cons.mp hc with rfl | hc
  · rfl
  · rw [List.eq_of_mem_replicate hc]
    rfl

theorem endsNumber_newLine (depth : Nat) (rest : List Char) :
    EndsNumber (newLine depth ++ rest) := by
  intro c hc
  cases hc
  decide

theorem endsNumber_comma (rest : List Char) : EndsNumber (',' :: rest) := by
  intro c hc
  cases hc
  decide

theorem takeValue_toString (n : Int) (fuel : Nat) {rest : List Char} (hrest : EndsNumber rest) :
    takeValue (fuel + 1) ((toString n).toList ++ rest) = some (.number n, rest) := by
  have hnumber := takeNumber_toString n hrest
  obtain ⟨c, cs, hcons, hc⟩ := toString_begins n
  rw [hcons, List.cons_append] at hnumber ⊢
  rw [takeValue]
  · exact hnumber
  all_goals
    intro _ heq
    cases (List.cons.inj heq).1
    exact absurd hc (by decide)

theorem takeValue_quote (s : String) (fuel : Nat) (rest : List Char) :
    takeValue (fuel + 1) (quote s ++ rest) = some (.string s, rest) := by
  have hstring := takeString_flatMap_escape s rest
  rw [quote, List.cons_append, List.cons_append, List.append_assoc, List.singleton_append,
    takeValue, hstring]
  rfl

theorem indentedElements_cons (depth : Nat) (v w : Json) (elements : List Json) :
    indentedElements depth (v :: w :: elements) =
      newLine depth ++ indentedChars depth v ++ ',' :: indentedElements depth (w :: elements) := by
  rw [indentedElements]
  exact nofun

theorem indentedMembers_cons (depth : Nat) (key : String) (v : Json) (member : String × Json)
    (members : List (String × Json)) :
    indentedMembers depth ((key, v) :: member :: members) =
      newLine depth ++ quote key ++ ':' :: ' ' :: indentedChars depth v ++
        ',' :: indentedMembers depth (member :: members) := by
  rw [indentedMembers]
  exact nofun

theorem indentedChars_array (depth : Nat) (v : Json) (elements : List Json) :
    indentedChars depth (.array (v :: elements)) =
      '[' :: indentedElements (depth + 1) (v :: elements) ++ newLine depth ++ [']'] := by
  rw [indentedChars]
  exact nofun

theorem indentedChars_object (depth : Nat) (member : String × Json)
    (members : List (String × Json)) :
    indentedChars depth (.object (member :: members)) =
      '{' :: indentedMembers (depth + 1) (member :: members) ++ newLine depth ++ ['}'] := by
  rw [indentedChars]
  exact nofun

theorem skipSpace_lastElement (depth : Nat) {v : Json} (hplain : v.isPlain = true)
    (rest : List Char) :
    skipSpace (indentedElements depth [v] ++ rest) = indentedChars depth v ++ rest := by
  rw [indentedElements, List.append_assoc, skipSpace_newLine,
    (indentedChars_begins depth hplain).skipSpace]

theorem skipSpace_element (depth : Nat) {v : Json} (hplain : v.isPlain = true) (w : Json)
    (elements : List Json) (rest : List Char) :
    skipSpace (indentedElements depth (v :: w :: elements) ++ rest) =
      indentedChars depth v ++ ',' :: (indentedElements depth (w :: elements) ++ rest) := by
  rw [indentedElements_cons, List.append_assoc, List.append_assoc, skipSpace_newLine,
    (indentedChars_begins depth hplain).skipSpace, List.cons_append]

theorem skipSpace_lastMember (depth : Nat) (key : String) (v : Json) (rest : List Char) :
    skipSpace (indentedMembers depth [(key, v)] ++ rest) =
      '"' :: (key.toList.flatMap escape ++
        '"' :: ':' :: ' ' :: (indentedChars depth v ++ rest)) := by
  rw [indentedMembers, List.append_assoc, List.append_assoc, skipSpace_newLine, quote,
    List.append_assoc]
  rfl

theorem skipSpace_member (depth : Nat) (key : String) (v : Json) (member : String × Json)
    (members : List (String × Json)) (rest : List Char) :
    skipSpace (indentedMembers depth ((key, v) :: member :: members) ++ rest) =
      '"' :: (key.toList.flatMap escape ++ '"' :: ':' :: ' ' :: (indentedChars depth v ++
        ',' :: (indentedMembers depth (member :: members) ++ rest))) := by
  rw [indentedMembers_cons, List.append_assoc, List.append_assoc, List.append_assoc,
    skipSpace_newLine, quote, List.append_assoc]
  rfl

section

variable {fuel outer : Nat} {v : Json} {cs next rest : List Char}

theorem takeElements_last (hvalue : takeValue fuel cs = some (v, newLine outer ++ ']' :: rest)) :
    takeElements (fuel + 1) cs = some ([v], rest) := by
  have hend : skipSpace (newLine outer ++ ']' :: rest) = ']' :: rest := skipSpace_newLine outer _
  simp only [takeElements, hvalue, Option.bind_eq_bind, Option.bind_some, hend]
  rfl

theorem takeElements_more {elements : List Json}
    (hvalue : takeValue fuel cs = some (v, ',' :: next))
    (hmore : takeElements fuel (skipSpace next) = some (elements, rest)) :
    takeElements (fuel + 1) cs = some (v :: elements, rest) := by
  have hcomma : skipSpace (',' :: next) = ',' :: next := rfl
  simp only [takeElements, hvalue, Option.bind_eq_bind, Option.bind_some, hcomma, hmore]
  rfl

theorem takeMembers_last (key : String) (hspace : skipSpace cs = cs)
    (hvalue : takeValue fuel cs = some (v, newLine outer ++ '}' :: rest)) :
    takeMembers (fuel + 1) ('"' :: (key.toList.flatMap escape ++ '"' :: ':' :: ' ' :: cs)) =
      some ([(some key, v)], rest) := by
  have hcolon : skipSpace (':' :: ' ' :: cs) = ':' :: ' ' :: cs := rfl
  have hvalue' : takeValue fuel (skipSpace (' ' :: cs)) = _ := hspace.symm ▸ hvalue
  have hend : skipSpace (newLine outer ++ '}' :: rest) = '}' :: rest := skipSpace_newLine outer _
  simp only [takeMembers, takeString_flatMap_escape, Option.bind_eq_bind, Option.bind_some, hcolon,
    hvalue', hend]
  rfl

theorem takeMembers_more (key : String) {members : List (Option String × Json)}
    (hspace : skipSpace cs = cs) (hvalue : takeValue fuel cs = some (v, ',' :: next))
    (hmore : takeMembers fuel (skipSpace next) = some (members, rest)) :
    takeMembers (fuel + 1) ('"' :: (key.toList.flatMap escape ++ '"' :: ':' :: ' ' :: cs)) =
      some ((some key, v) :: members, rest) := by
  have hcolon : skipSpace (':' :: ' ' :: cs) = ':' :: ' ' :: cs := rfl
  have hvalue' : takeValue fuel (skipSpace (' ' :: cs)) = _ := hspace.symm ▸ hvalue
  have hcomma : skipSpace (',' :: next) = ',' :: next := rfl
  simp only [takeMembers, takeString_flatMap_escape, Option.bind_eq_bind, Option.bind_some, hcolon,
    hvalue', hcomma, hmore]
  rfl

theorem ofMembers_of_text (source : List Char) (members : List (String × Json)) :
    ofMembers source (members.map fun m => (some m.1, m.2)) = .object members := by
  rw [ofMembers, mapM_map_eq_some]
  exact fun _ _ => rfl

end

theorem takeValue_array {fuel : Nat} {start rest : List Char} {elements : List Json}
    (hend : ∀ more, skipSpace start ≠ ']' :: more)
    (helements : takeElements fuel (skipSpace start) = some (elements, rest)) :
    takeValue (fuel + 1) ('[' :: start) = some (.array elements, rest) := by
  rw [takeValue]
  split
  · next h => exact absurd h (hend _)
  · rw [helements]
    rfl

theorem takeValue_object {fuel : Nat} {start more rest : List Char}
    {members : List (String × Json)} (hbegins : skipSpace start = '"' :: more)
    (hmembers : takeMembers fuel (skipSpace start) =
      some (members.map fun m => (some m.1, m.2), rest)) :
    takeValue (fuel + 1) ('{' :: start) = some (.object members, rest) := by
  rw [takeValue]
  split
  · next h =>
    rw [hbegins] at h
    cases h
  · simp only [hmembers, Option.bind_eq_bind, Option.bind_some, ofMembers_of_text]
    rfl

theorem skipSpace_indentedElements_ne (depth : Nat) {v : Json} (hplain : v.isPlain = true)
    (elements : List Json) (rest more : List Char) :
    skipSpace (indentedElements depth (v :: elements) ++ rest) ≠ ']' :: more := by
  obtain ⟨c, cs, hcons, _, hend⟩ := indentedChars_begins depth hplain
  intro h
  cases elements with
  | nil =>
    rw [skipSpace_lastElement depth hplain, hcons] at h
    exact hend (List.cons.inj h).1
  | cons w elements =>
    rw [skipSpace_element depth hplain, hcons] at h
    exact hend (List.cons.inj h).1

theorem skipSpace_indentedMembers_begins (depth : Nat) (member : String × Json)
    (members : List (String × Json)) (rest : List Char) :
    ∃ more, skipSpace (indentedMembers depth (member :: members) ++ rest) = '"' :: more := by
  obtain ⟨key, v⟩ := member
  cases members with
  | nil => exact ⟨_, skipSpace_lastMember depth key v rest⟩
  | cons next members => exact ⟨_, skipSpace_member depth key v next members rest⟩

mutual

theorem takeValue_indentedChars : ∀ (v : Json), v.isPlain = true → ∀ (depth fuel : Nat)
    (rest : List Char), (indentedChars depth v).length ≤ fuel → EndsNumber rest →
    takeValue fuel (indentedChars depth v ++ rest) = some (v, rest)
  | _, hplain, depth, 0, _, hfuel, _ => by
    obtain ⟨c, cs, hcons, _⟩ := indentedChars_begins depth hplain
    rw [hcons] at hfuel
    cases hfuel
  | .null, _, _, _ + 1, _, _, _ => rfl
  | .bool true, _, _, _ + 1, _, _, _ => rfl
  | .bool false, _, _, _ + 1, _, _, _ => rfl
  | .number n, _, _, fuel + 1, _, _, hrest => takeValue_toString n fuel hrest
  | .string s, _, _, fuel + 1, rest, _, _ => takeValue_quote s fuel rest
  | .array [], _, _, _ + 1, _, _, _ => rfl
  | .array (v :: elements), hplain, depth, fuel + 1, rest, hfuel, _ => by
    rw [indentedChars_array, List.length_append, List.length_append, List.length_cons] at hfuel
    have hv : v.isPlain = true := (Bool.and_eq_true_iff.mp hplain).1
    have helements := takeElements_indentedElements (v :: elements) hplain (List.cons_ne_nil _ _)
      (depth + 1) depth fuel rest (by omega)
    rw [indentedChars_array, List.append_assoc, List.append_assoc]
    exact takeValue_array (skipSpace_indentedElements_ne (depth + 1) hv elements _) helements
  | .object [], _, _, _ + 1, _, _, _ => rfl
  | .object (member :: members), hplain, depth, fuel + 1, rest, hfuel, _ => by
    rw [indentedChars_object, List.length_append, List.length_append, List.length_cons] at hfuel
    have hmembers := takeMembers_indentedMembers (member :: members) hplain
      (List.cons_ne_nil _ _) (depth + 1) depth fuel rest (by omega)
    obtain ⟨more, hbegins⟩ := skipSpace_indentedMembers_begins (depth + 1) member members
      (newLine depth ++ '}' :: rest)
    rw [indentedChars_object, List.append_assoc, List.append_assoc]
    exact takeValue_object hbegins hmembers

theorem takeElements_indentedElements : ∀ (elements : List Json), allPlain elements = true →
    elements ≠ [] → ∀ (depth outer fuel : Nat) (rest : List Char),
    (indentedElements depth elements).length ≤ fuel →
    takeElements fuel
        (skipSpace (indentedElements depth elements ++ (newLine outer ++ ']' :: rest))) =
      some (elements, rest)
  | [], _, hne, _, _, _, _, _ => absurd rfl hne
  | [v], hplain, _, depth, _, fuel, _, hfuel => by
    rw [indentedElements, newLine, List.cons_append, List.length_cons, List.length_append] at hfuel
    have hv : v.isPlain = true := (Bool.and_eq_true_iff.mp hplain).1
    obtain ⟨fuel, rfl⟩ := Nat.exists_eq_add_one_of_ne_zero (fun h : fuel = 0 => by omega)
    rw [skipSpace_lastElement depth hv]
    exact takeElements_last
      (takeValue_indentedChars v hv depth fuel _ (by omega) (endsNumber_newLine _ _))
  | v :: w :: elements, hplain, _, depth, outer, fuel, rest, hfuel => by
    rw [indentedElements_cons, newLine, List.cons_append, List.cons_append, List.length_cons,
      List.length_append, List.length_append, List.length_cons] at hfuel
    obtain ⟨hv, helements⟩ := Bool.and_eq_true_iff.mp hplain
    obtain ⟨fuel, rfl⟩ := Nat.exists_eq_add_one_of_ne_zero (fun h : fuel = 0 => by omega)
    rw [skipSpace_element depth hv]
    exact takeElements_more
      (takeValue_indentedChars v hv depth fuel _ (by omega) (endsNumber_comma _))
      (takeElements_indentedElements (w :: elements) helements (List.cons_ne_nil _ _) depth outer
        fuel rest (by omega))

theorem takeMembers_indentedMembers : ∀ (members : List (String × Json)),
    allMembersPlain members = true → members ≠ [] → ∀ (depth outer fuel : Nat) (rest : List Char),
    (indentedMembers depth members).length ≤ fuel →
    takeMembers fuel
        (skipSpace (indentedMembers depth members ++ (newLine outer ++ '}' :: rest))) =
      some (members.map fun m => (some m.1, m.2), rest)
  | [], _, hne, _, _, _, _, _ => absurd rfl hne
  | [(key, v)], hplain, _, depth, _, fuel, _, hfuel => by
    rw [indentedMembers, newLine, List.cons_append, List.cons_append, List.length_cons,
      List.length_append, List.length_cons, List.length_cons] at hfuel
    have hv : v.isPlain = true := (Bool.and_eq_true_iff.mp hplain).1
    obtain ⟨fuel, rfl⟩ := Nat.exists_eq_add_one_of_ne_zero (fun h : fuel = 0 => by omega)
    rw [skipSpace_lastMember]
    exact takeMembers_last key ((indentedChars_begins depth hv).skipSpace _)
      (takeValue_indentedChars v hv depth fuel _ (by omega) (endsNumber_newLine _ _))
  | (key, v) :: next :: members, hplain, _, depth, outer, fuel, rest, hfuel => by
    rw [indentedMembers_cons, newLine, List.cons_append, List.cons_append, List.cons_append,
      List.length_cons, List.length_append, List.length_append, List.length_cons, List.length_cons,
      List.length_cons] at hfuel
    obtain ⟨hv, hmembers⟩ := Bool.and_eq_true_iff.mp hplain
    obtain ⟨fuel, rfl⟩ := Nat.exists_eq_add_one_of_ne_zero (fun h : fuel = 0 => by omega)
    rw [skipSpace_member]
    exact takeMembers_more key ((indentedChars_begins depth hv).skipSpace _)
      (takeValue_indentedChars v hv depth fuel _ (by omega) (endsNumber_comma _))
      (takeMembers_indentedMembers (next :: members) hmembers (List.cons_ne_nil _ _) depth outer
        fuel rest (by omega))

end

/-- What was written indented is read as itself. -/
theorem parse?_indented {v : Json} (hplain : v.isPlain = true) : parse? v.indented = some v := by
  have hvalue := takeValue_indentedChars v hplain 0 (2 * (indentedChars 0 v).length + 2) []
    (by omega) nofun
  have hspace := (indentedChars_begins 0 hplain).skipSpace []
  rw [List.append_nil] at hvalue hspace
  rw [parse?, indented, String.toList_ofList, parseChars?, hspace, hvalue]
  rfl

end StoryEngine.Json

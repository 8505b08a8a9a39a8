import StoryEngine.Proofs.Result
import StoryEngine.Proofs.World.Handles
import StoryEngine.Proofs.World.Tiles
import StoryEngine.World.Walkers

/-! # Rounds of walkers

The walkers of a round take their turns one after the other, each among the others as they stand by
then. Whoever takes a step finds nobody on the tile, and whoever comes later does not step on it, so
that no two actors who can be seen come to share a tile.
-/

namespace StoryEngine

set_option autoImplicit false

namespace Actor

/-- The tile that a walker is about to step on. -/
def next? (a : Actor) : Option Position := a.path.head?.map a.position.step

/-- A walker after its next step. -/
def strode (a : Actor) : Actor :=
  match a.path with
  | [] => a
  | direction :: _ => World.stepAlong (a.position.step direction) direction a

variable {a : Actor} {p : Position}

theorem next?_eq_some_iff :
    a.next? = some p ↔
      ∃ direction path, a.path = direction :: path ∧ p = a.position.step direction := by
  unfold next?
  cases hpath : a.path with
  | nil => exact iff_of_false nofun fun ⟨_, _, h, _⟩ => nomatch h
  | cons direction path =>
    rw [List.head?_cons, Option.map_some, Option.some.injEq]
    constructor
    · rintro rfl
      exact ⟨direction, path, rfl, rfl⟩
    · rintro ⟨_, _, ⟨⟩, rfl⟩
      rfl

theorem position_strode (h : a.next? = some p) : a.strode.position = p := by
  obtain ⟨direction, path, hpath, rfl⟩ := next?_eq_some_iff.mp h
  simp only [strode, hpath, World.stepAlong]

/-- An actor has gone one tile along its path, onto a passable one, and faces where it has gone. -/
def Steps (map : GridMap) (before after : Actor) : Prop :=
  ∃ direction path, before.path = direction :: path ∧ map.isPassable after.position = true ∧
    after = { before with
      position := before.position.ahead direction 1, facing := direction, path }

variable {map : GridMap} {before after : Actor}

theorem Steps.position_ne (h : before.Steps map after) : after.position ≠ before.position := by
  obtain ⟨direction, path, _, _, rfl⟩ := h
  intro hsame
  rw [← Position.ahead_zero before.position direction, Position.ahead_ahead] at hsame
  cases Position.ahead_inj.mp hsame

theorem steps_strode (hmap : map.Fits) (hnext : a.next? = some p)
    (hpassable : map.isPassable p = true) : a.Steps map a.strode := by
  obtain ⟨direction, path, hpath, rfl⟩ := next?_eq_some_iff.mp hnext
  have hstep := hmap.step_eq (GridMap.inBounds_of_isPassable map _ hpassable)
  refine ⟨direction, path, hpath, ?_, ?_⟩
  · rwa [position_strode hnext]
  · simp only [strode, hpath, World.stepAlong, hstep, List.tail_cons]

end Actor

namespace World

variable {map : GridMap} {w v next : World} {h k : Handle} {a b : Actor} {p : Position}
  {e : ScriptError}

/-- The next step of an actor leads off the map. -/
def leaves (map : GridMap) (w : World) (h : Handle) : Bool :=
  (w.actor? h).any fun a => a.next?.any fun p => !map.inBounds p

/-- An actor can take its next step. -/
def goes (map : GridMap) (w : World) (h : Handle) : Bool :=
  (w.actor? h).any fun a => a.next?.any fun p => map.isPassable p && !w.occupiedByOther h p

/-- The next step of an actor leads off the map, which makes for that error. -/
def LeavesWith (map : GridMap) (w : World) (h : Handle) (e : ScriptError) : Prop :=
  ∃ a p, w.actor? h = some a ∧ a.next? = some p ∧ map.inBounds p = false ∧
    e = .outOfBounds a.name p "" map.name

theorem leaves_iff : w.leaves map h = true ↔ ∃ e, w.LeavesWith map h e := by
  simp only [leaves, Option.any_eq_true, Bool.not_eq_true', LeavesWith]
  constructor
  · rintro ⟨a, ha, p, hnext, hout⟩
    exact ⟨_, a, p, ha, hnext, hout, rfl⟩
  · rintro ⟨_, a, p, ha, hnext, hout, _⟩
    exact ⟨a, ha, p, hnext, hout⟩

theorem goes_iff :
    w.goes map h = true ↔ ∃ a p, w.actor? h = some a ∧ a.next? = some p ∧
      map.isPassable p = true ∧ w.occupiedByOther h p = false := by
  simp only [goes, Option.any_eq_true, Bool.and_eq_true, Bool.not_eq_true', exists_and_left]

theorem stepWalker_of_leaves (hleaves : w.LeavesWith map h e) :
    w.stepWalker map h = (w, .error e) := by
  obtain ⟨a, p, ha, hnext, hout, rfl⟩ := hleaves
  obtain ⟨direction, path, hpath, rfl⟩ := Actor.next?_eq_some_iff.mp hnext
  simp only [stepWalker, ha, hpath, hout, Bool.not_false, if_true]

theorem stepWalker_of_goes (hgoes : w.goes map h = true) :
    w.stepWalker map h = (w.modifyActor h Actor.strode, .ok true) := by
  obtain ⟨a, p, ha, hnext, hpassable, hfree⟩ := goes_iff.mp hgoes
  obtain ⟨direction, path, hpath, rfl⟩ := Actor.next?_eq_some_iff.mp hnext
  have hin := GridMap.inBounds_of_isPassable map _ hpassable
  have hstrode : a.strode = stepAlong (a.position.step direction) direction a := by
    simp only [Actor.strode, hpath]
  simp only [stepWalker, ha, hpath, hin, hpassable, hfree, Bool.not_true, Bool.or_self,
    Bool.false_eq_true, if_false]
  rw [modifyActor, modifyActor, Arena.modify_congr ha hstrode]

theorem stepWalker_of_waits (hstays : w.leaves map h = false) (hwaits : w.goes map h = false) :
    w.stepWalker map h = (w, .ok false) := by
  rw [← Bool.not_eq_true, leaves_iff] at hstays
  rw [← Bool.not_eq_true, goes_iff] at hwaits
  unfold stepWalker
  split
  · rfl
  · next a ha =>
    split
    · rfl
    · next direction path hpath =>
      have hnext := Actor.next?_eq_some_iff.mpr ⟨direction, path, hpath, rfl⟩
      simp only
      split
      · next hout => exact absurd ⟨_, a, _, ha, hnext, by simpa using hout, rfl⟩ hstays
      · split
        · rfl
        · next hfree => exact absurd ⟨a, _, ha, hnext, by simpa using hfree⟩ hwaits

theorem stepEach_cons_of_leaves (rest : List Handle) (hleaves : w.LeavesWith map h e) :
    stepEach map w (h :: rest) = (w, .error e) := by
  rw [stepEach, stepWalker_of_leaves hleaves]

theorem stepEach_cons_of_goes (rest : List Handle) (hgoes : w.goes map h = true) :
    stepEach map w (h :: rest) =
      let result := stepEach map (w.modifyActor h Actor.strode) rest
      (result.1, result.2.map (· + 1)) := by
  rw [stepEach, stepWalker_of_goes hgoes]
  rfl

theorem stepEach_cons_of_waits (rest : List Handle) (hstays : w.leaves map h = false)
    (hwaits : w.goes map h = false) : stepEach map w (h :: rest) = stepEach map w rest := by
  rw [stepEach, stepWalker_of_waits hstays hwaits]
  change ((stepEach map w rest).1, (stepEach map w rest).2.map id) = stepEach map w rest
  rw [Except.map_id]
  rfl

/-- Two actors who can be seen stand on one tile. -/
def ShareTile (w : World) (h k : Handle) : Prop :=
  h ≠ k ∧ ∃ a b, w.actor? h = some a ∧ w.actor? k = some b ∧
    a.hidden = false ∧ b.hidden = false ∧ a.position = b.position

theorem ShareTile.symm (hshare : w.ShareTile h k) : w.ShareTile k h := by
  obtain ⟨hne, a, b, ha, hb, hshown, hshown', hp⟩ := hshare
  exact ⟨hne.symm, b, a, hb, ha, hshown', hshown, hp.symm⟩

theorem ShareTile.of_eq (hshare : next.ShareTile h k) (hh : next.actor? h = w.actor? h)
    (hk : next.actor? k = w.actor? k) : w.ShareTile h k := by
  obtain ⟨hne, a, b, ha, hb, hrest⟩ := hshare
  exact ⟨hne, a, b, hh ▸ ha, hk ▸ hb, hrest⟩

theorem occupiedByOther_of_actor? (hne : k ≠ h) (hb : w.actor? k = some b)
    (hshown : b.hidden = false) : w.occupiedByOther h b.position = true := by
  rw [occupiedByOther, List.any_eq_true]
  exact ⟨(k, b), Arena.mem_toList_iff.mpr hb, by simp [hne, hshown]⟩

/-- Whoever has just taken a step shares its tile with nobody. -/
theorem not_shareTile_strode (hgoes : w.goes map h = true) :
    ¬(w.modifyActor h Actor.strode).ShareTile h k := by
  obtain ⟨a, p, ha, hnext, _, hfree⟩ := goes_iff.mp hgoes
  rintro ⟨hne, after, b, hafter, hb, _, hshown, hp⟩
  rw [actor?_modifyActor, if_pos rfl, ha, Option.map_some, Option.some.injEq] at hafter
  rw [actor?_modifyActor, if_neg hne.symm] at hb
  have hoccupied := occupiedByOther_of_actor? hne.symm hb hshown
  rw [← hp, ← hafter, Actor.position_strode hnext, hfree] at hoccupied
  cases hoccupied

/-- Some actors have taken a step each and share their tiles with nobody, and the others stand as
they did. -/
structure Moved (map : GridMap) (w : World) (movers : List Handle) (next : World) : Prop where
  nodup : movers.Nodup
  look : ∀ h, next.actor? h =
    if h ∈ movers then (w.actor? h).map Actor.strode else w.actor? h
  ahead : ∀ h ∈ movers, ∃ a p, w.actor? h = some a ∧ a.next? = some p ∧
    map.isPassable p = true
  alone : ∀ h ∈ movers, ∀ k, ¬next.ShareTile h k

theorem Moved.nil (map : GridMap) (w : World) : Moved map w [] w where
  nodup := List.nodup_nil
  look _ := (if_neg List.not_mem_nil).symm
  ahead _ hmem := absurd hmem List.not_mem_nil
  alone _ hmem := absurd hmem List.not_mem_nil

variable {movers : List Handle}

theorem Moved.actor?_of_not_mem (hm : Moved map w movers v) (hh : h ∉ movers) :
    v.actor? h = w.actor? h :=
  (hm.look h).trans (if_neg hh)

theorem Moved.goOn (hm : Moved map w movers v) (hh : h ∉ movers) (hgoes : v.goes map h = true) :
    Moved map w (h :: movers) (v.modifyActor h Actor.strode) where
  nodup := List.nodup_cons.mpr ⟨hh, hm.nodup⟩
  look k := by
    rw [actor?_modifyActor, hm.look, hm.look, if_neg hh]
    by_cases hk : k = h
    · rw [if_pos hk, if_pos (hk ▸ List.mem_cons_self), hk]
    · simp only [List.mem_cons, hk, false_or, if_false]
  ahead k hk := by
    rcases List.mem_cons.mp hk with rfl | hk
    · obtain ⟨a, p, ha, hnext, hpassable, _⟩ := goes_iff.mp hgoes
      exact ⟨a, p, hm.actor?_of_not_mem hh ▸ ha, hnext, hpassable⟩
    · exact hm.ahead k hk
  alone k hk j hshare := by
    -- Neither of the two has just stepped, so that they shared the tile before this step.
    have hne : k ≠ h := by
      rintro rfl
      exact not_shareTile_strode hgoes hshare
    have hne' : j ≠ h := by
      rintro rfl
      exact not_shareTile_strode hgoes hshare.symm
    have hk : k ∈ movers := (List.mem_cons.mp hk).resolve_left hne
    refine hm.alone k hk j (hshare.of_eq ?_ ?_)
    · rw [actor?_modifyActor, if_neg hne]
    · rw [actor?_modifyActor, if_neg hne']

/-- Walkers who have not moved yet take their turns. -/
theorem Moved.stepEach (hm : Moved map w movers v) {handles : List Handle}
    (hnodup : handles.Nodup) (hnew : ∀ h ∈ handles, h ∉ movers) :
    ∃ all, Moved map w all (stepEach map v handles).1 ∧ movers <:+ all ∧
      ∀ n, (World.stepEach map v handles).2 = .ok n → all.length = movers.length + n := by
  induction handles generalizing v movers with
  | nil =>
    refine ⟨movers, hm, List.suffix_rfl, ?_⟩
    rintro _ ⟨⟩
    rfl
  | cons h rest ih =>
    obtain ⟨hfresh, hnodup⟩ := List.nodup_cons.mp hnodup
    have hrest : ∀ k ∈ rest, k ∉ movers := fun k hk => hnew k (List.mem_cons_of_mem h hk)
    cases hleaves : v.leaves map h with
    | true =>
      obtain ⟨e, hleaves⟩ := leaves_iff.mp hleaves
      rw [stepEach_cons_of_leaves rest hleaves]
      exact ⟨movers, hm, List.suffix_rfl, nofun⟩
    | false =>
      cases hgoes : v.goes map h with
      | false =>
        rw [stepEach_cons_of_waits rest hleaves hgoes]
        exact ih hm hnodup hrest
      | true =>
        have hnew' : ∀ k ∈ rest, k ∉ h :: movers := fun k hk hmem =>
          (List.mem_cons.mp hmem).elim (fun heq => hfresh (heq ▸ hk)) (hrest k hk)
        obtain ⟨all, hall, hsuffix, hcount⟩ :=
          ih (hm.goOn (hnew h List.mem_cons_self) hgoes) hnodup hnew'
        rw [stepEach_cons_of_goes rest hgoes]
        refine ⟨all, hall, (List.suffix_cons h movers).trans hsuffix, fun n hn => ?_⟩
        obtain ⟨m, hm, rfl⟩ := map_eq_ok_iff.mp hn
        rw [hcount m hm, List.length_cons]
        omega

theorem exists_moved_stepWalkers (map : GridMap) (w : World) :
    ∃ movers, Moved map w movers (w.stepWalkers map).1 ∧
      ∀ n, (w.stepWalkers map).2 = .ok n → movers.length = n := by
  obtain ⟨movers, hm, _, hcount⟩ := (Moved.nil map w).stepEach
    (w.actors.nodup_handlesWhere Actor.isWalking) fun _ _ => List.not_mem_nil
  exact ⟨movers, hm, fun n hn => (hcount n hn).trans (Nat.zero_add n)⟩

/-- Those who stand on another tile afterwards. -/
def displaced (w next : World) : List Handle :=
  (w.actors.toList.filter fun entry =>
    (next.actor? entry.1).any fun b => b.position != entry.2.position).map (·.1)

theorem mem_displaced_iff :
    h ∈ w.displaced next ↔ ∃ a b, w.actor? h = some a ∧ next.actor? h = some b ∧
      b.position ≠ a.position := by
  simp only [displaced, List.mem_map, List.mem_filter, Option.any_eq_true, bne_iff_ne]
  constructor
  · rintro ⟨⟨_, a⟩, ⟨hmem, b, hb, hne⟩, rfl⟩
    exact ⟨a, b, Arena.mem_toList_iff.mp hmem, hb, hne⟩
  · rintro ⟨a, b, ha, hb, hne⟩
    exact ⟨(h, a), ⟨Arena.mem_toList_iff.mpr ha, b, hb, hne⟩, rfl⟩

theorem Moved.length_displaced (hm : Moved map w movers next) (hmap : map.Fits) :
    (w.displaced next).length = movers.length := by
  have hnodup : (w.displaced next).Nodup :=
    w.actors.nodup_handles.sublist (List.filter_sublist.map _)
  refine ((List.perm_ext_iff_of_nodup hnodup hm.nodup).mpr fun h => ?_).length_eq
  rw [mem_displaced_iff]
  constructor
  · rintro ⟨a, b, ha, hb, hne⟩
    by_contra hh
    rw [hm.actor?_of_not_mem hh, ha] at hb
    cases hb
    exact hne rfl
  · intro hh
    obtain ⟨a, p, ha, hnext, hpassable⟩ := hm.ahead h hh
    refine ⟨a, a.strode, ha, ?_, (Actor.steps_strode hmap hnext hpassable).position_ne⟩
    rw [hm.look, if_pos hh, ha, Option.map_some]

/-- After a round, whether or not it fails, no two actors who can be seen share a tile unless they
shared one before, everybody is as before or has gone one tile along its path, and a round that
succeeds counts those who have. -/
theorem walkers_never_collide (map : GridMap) (hmap : map.Fits) (w : World) :
    let next := (w.stepWalkers map).1
    (∀ h k, next.ShareTile h k → w.ShareTile h k) ∧
      (∀ h, next.actor? h = w.actor? h ∨ ∃ before after, w.actor? h = some before ∧
        next.actor? h = some after ∧ before.Steps map after) ∧
      ∀ n, (w.stepWalkers map).2 = .ok n → n = (w.displaced next).length := by
  obtain ⟨movers, hm, hcount⟩ := exists_moved_stepWalkers map w
  refine ⟨fun h k hshare => ?_, fun h => ?_, fun n hn => ?_⟩
  · have hh : h ∉ movers := fun hmem => hm.alone h hmem k hshare
    have hk : k ∉ movers := fun hmem => hm.alone k hmem h hshare.symm
    exact hshare.of_eq (hm.actor?_of_not_mem hh) (hm.actor?_of_not_mem hk)
  · by_cases hh : h ∈ movers
    · obtain ⟨a, p, ha, hnext, hpassable⟩ := hm.ahead h hh
      refine .inr ⟨a, a.strode, ha, ?_, Actor.steps_strode hmap hnext hpassable⟩
      rw [hm.look, if_pos hh, ha, Option.map_some]
    · exact .inl (hm.actor?_of_not_mem hh)
  · rw [hm.length_displaced hmap, hcount n hn]

/-- The hen and the goose wait for each other, the drake takes the tile that the duck leaves, and
the cat goes where the ghost stands unseen, while the ghost waits in front of the post. -/
theorem drake_follows_the_duck :
    let map : GridMap := .blank "yard" 8 8
    let walker : String → Position → List Direction → Actor := fun name p path =>
      { Actor.arriving name "animal" p with path }
    let w := [walker "hen" ⟨1, 1⟩ [.east, .east], walker "goose" ⟨2, 1⟩ [.west],
      walker "duck" ⟨3, 3⟩ [.north], walker "drake" ⟨3, 4⟩ [.north, .east],
      { walker "ghost" ⟨5, 5⟩ [.east] with hidden := true }, walker "post" ⟨6, 5⟩ [],
      walker "cat" ⟨5, 6⟩ [.north]].foldl (fun w a => (w.spawn a).2) (World.blank ∅)
    let next := (w.stepWalkers map).1
    map.Fits ∧ (∀ h k, next.ShareTile h k → w.ShareTile h k) ∧
      (w.stepWalkers map).2 = .ok 3 ∧ (w.displaced next).length = 3 ∧
      next.actor? ⟨3, 0⟩ = some { walker "drake" ⟨3, 3⟩ [.east] with facing := .north } := by
  intro map walker w next
  have hmap : map.Fits := ⟨by decide, by decide⟩
  obtain ⟨hshare, _, hcount⟩ := walkers_never_collide map hmap w
  have hthree : (w.stepWalkers map).2 = .ok 3 := by decide +kernel
  exact ⟨hmap, hshare, hthree, (hcount 3 hthree).symm, by decide +kernel⟩

end World

end StoryEngine

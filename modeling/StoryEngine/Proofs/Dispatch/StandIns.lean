import StoryEngine.Proofs.World.Course
import StoryEngine.Proofs.World.Handles

/-! # Actors behind their stand-ins

A stand-in is found by its name alone, as the first of the living who is called so. Two actors that
are hidden behind stand-ins come back as they were exactly if nobody else is taken for a stand-in,
and neither of the two stand-ins for the other to any effect.
-/

namespace StoryEngine

set_option autoImplicit false

open Text (sameName)

/-- The handle refers to a living actor of that name. -/
def World.Called (w : World) (name : String) (h : Handle) : Prop :=
  ∃ actor, w.actor? h = some actor ∧ sameName actor.name name = true

namespace Arena

variable {arena : Arena} {name : String} {h k : Handle}

theorem eq_of_index_eq {actor other : Actor} (hactor : arena.get? h = some actor)
    (hother : arena.get? k = some other) (hindex : h.index = k.index) : h = k := by
  by_contra hne
  cases (get?_of_index_eq hother hindex hne).symm.trans hactor

end Arena

namespace World

variable {w : World} {name : String} {h k : Handle}

theorem Called.eq_of_index_eq {other : String} (hh : w.Called name h) (hk : w.Called other k)
    (hindex : h.index = k.index) : h = k := by
  obtain ⟨_, hh, _⟩ := hh
  obtain ⟨_, hk, _⟩ := hk
  exact Arena.eq_of_index_eq hh hk hindex

theorem Called.ne (hh : w.Called name h) (hnone : w.actor? k = none) : h ≠ k := by
  obtain ⟨_, hh, _⟩ := hh
  rintro rfl
  cases hnone.symm.trans hh

theorem Called.le_of_found (hk : w.Called name k) (hfound : w.actors.findByName? name = some h) :
    h.index ≤ k.index := by
  obtain ⟨other, hother, hname⟩ := hk
  obtain ⟨⟨_, actor⟩, hfind, rfl⟩ := Option.map_eq_some_iff.mp hfound
  obtain ⟨_, before, after, hsplit, hbefore⟩ := List.find?_eq_some_iff_append.mp hfind
  have hlist := List.pairwise_map.mp (Arena.ascending_handles w.actors)
  have hmem := Arena.mem_toList_iff.mpr hother
  rw [hsplit] at hmem hlist
  rcases List.mem_append.mp hmem with hmem | hmem
  · have hnot : (!sameName other.name name) = true := hbefore (k, other) hmem
    rw [hname] at hnot
    cases hnot
  · rcases List.mem_cons.mp hmem with hself | hlater
    · cases hself
      exact Nat.le_refl _
    · have hrest := (List.pairwise_append.mp hlist).2.1
      exact Nat.le_of_lt ((List.pairwise_cons.mp hrest).1 _ hlater)

theorem forall_called_iff {P : Handle → Prop} :
    (∀ h, w.Called name h → P h) ↔
      ∀ entry ∈ w.actors.toList, sameName entry.2.name name = true → P entry.1 := by
  constructor
  · intro h entry hentry hname
    exact h entry.1 ⟨entry.2, Arena.mem_toList_iff.mp hentry, hname⟩
  · rintro h k ⟨actor, hactor, hname⟩
    exact h (k, actor) (Arena.mem_toList_iff.mpr hactor) hname

theorem Called.exists_found (hk : w.Called name k) :
    ∃ h, w.actors.findByName? name = some h := by
  obtain ⟨actor, hactor, hname⟩ := hk
  have hsome : (w.actors.toList.find? fun e => sameName e.2.name name).isSome = true :=
    List.find?_isSome.mpr ⟨(k, actor), Arena.mem_toList_iff.mpr hactor, hname⟩
  obtain ⟨entry, hentry⟩ := Option.isSome_iff_exists.mp hsome
  exact ⟨entry.1, Option.map_eq_some_iff.mpr ⟨entry, hentry, rfl⟩⟩

end World

namespace Dispatch

/-- The proxy behind which an actor is hidden. -/
def standInOf (actor : Actor) : Actor :=
  { Actor.arriving (standInName actor.name) standInKind actor.position with
    facing := actor.facing }

theorem sameName_standInName (name other : String) :
    sameName (standInName name) (standInName other) = sameName name other := by
  rw [Bool.eq_iff_iff, Text.sameName_iff, Text.sameName_iff, ← String.toList_inj,
    ← String.toList_inj]
  simp [standInName]

variable {place : Place} {scope : Scope} {w v next : World} {h k p q r : Handle}
  {a b actor proxy : Actor}

theorem resolve_master_eq_ok_iff :
    resolve place scope w .master = .ok (h, actor) ↔
      scope.master = some h ∧ w.actor? h = some actor := by
  constructor
  · intro hfound
    refine ⟨?_, actor?_of_resolve hfound⟩
    simp only [resolve] at hfound
    split at hfound
    · next hgiven =>
      cases hfound
      obtain ⟨k, hmaster, hk⟩ := Option.bind_eq_some_iff.mp hgiven
      obtain ⟨_, _, hpair⟩ := Option.map_eq_some_iff.mp hk
      cases hpair
      exact hmaster
    · cases hfound
  · rintro ⟨hmaster, hactor⟩
    simp only [resolve, hmaster, hactor, Option.bind_some, Option.map_some]

/-- Who is called like the stand-in of one is called like that of a namesake. -/
theorem called_congr {name other : String} {z : Handle}
    (hz : w.Called (standInName name) z) (hname : sameName name other = true) :
    w.Called (standInName other) z := by
  obtain ⟨actor, hactor, hcalled⟩ := hz
  rw [← sameName_standInName, Text.sameName_iff] at hname
  rw [Text.sameName_iff, hname, ← Text.sameName_iff] at hcalled
  exact ⟨actor, hactor, hcalled⟩

/-- The actor has come back to the tile of the proxy that its stand-in's name finds. -/
structure Returns (v next : World) (h r : Handle) (actor proxy : Actor) : Prop where
  live : v.actor? h = some actor
  called : v.Called (standInName actor.name) r
  first : ∀ z, v.Called (standInName actor.name) z → r.index ≤ z.index
  standing : v.actor? r = some proxy
  look : ∀ z, next.actor? z = if z = r then none else if z = h then
    some { actor with position := proxy.position, facing := proxy.facing, hidden := false }
    else v.actor? z

theorem returns_of_standInEnd (hmaster : scope.master = some h)
    (hdone : standInEnd place scope v .master = .ok next) :
    ∃ r actor proxy, Returns v next h r actor proxy := by
  obtain ⟨h', actor, r, proxy, hfound, hr, hproxy, rfl⟩ := standInEnd_eq_ok_iff.mp hdone
  obtain ⟨hmaster', hactor⟩ := resolve_master_eq_ok_iff.mp hfound
  cases hmaster.symm.trans hmaster'
  have hne := standIn_ne hfound hr
  refine ⟨r, actor, proxy, hactor, Arena.get?_of_findByName? hr, fun z hz => hz.le_of_found hr,
    hproxy, fun z => ?_⟩
  rw [World.actor?_modifyActor, World.actor?_despawn, World.actor?_despawn, if_neg hne, hactor]
  by_cases hzr : z = r
  · rw [if_pos hzr, if_neg (hzr ▸ hne.symm), if_pos hzr]
  · rw [if_neg hzr, if_neg hzr]
    rfl

theorem exists_returns (place : Place) (hmaster : scope.master = some h)
    (hactor : v.actor? h = some actor) (hcalled : v.Called (standInName actor.name) r) :
    ∃ next s proxy, standInEnd place scope v .master = .ok next ∧
      Returns v next h s actor proxy := by
  obtain ⟨s, hs⟩ := hcalled.exists_found
  obtain ⟨proxy, hproxy, _⟩ := Arena.get?_of_findByName? hs
  have hdone : standInEnd place scope v .master = .ok _ := standInEnd_eq_ok_iff.mpr
    ⟨h, actor, s, proxy, resolve_master_eq_ok_iff.mpr ⟨hmaster, hactor⟩, hs, hproxy, rfl⟩
  obtain ⟨s', actor', proxy', hreturns⟩ := returns_of_standInEnd hmaster hdone
  cases hactor.symm.trans hreturns.live
  exact ⟨_, s', proxy', hdone, hreturns⟩

theorem Returns.ne (hr : Returns v next h r actor proxy) : r ≠ h := by
  rintro rfl
  obtain ⟨found, hfound, hname⟩ := hr.called
  cases hr.live.symm.trans hfound
  rw [not_sameName_standInName] at hname
  cases hname

/-- Only the proxy that is found goes, and nobody is called otherwise. -/
theorem Returns.called_iff (hr : Returns v next h r actor proxy) {name : String} {z : Handle} :
    next.Called name z ↔ z ≠ r ∧ v.Called name z := by
  unfold World.Called
  rw [hr.look]
  by_cases hzr : z = r
  · simp [hzr]
  · by_cases hzh : z = h
    · simp [hzh, hr.ne.symm, hr.live]
    · simp [hzr, hzh]

/-- Two actors of a world are hidden, each with a proxy that was not there before. -/
structure Masks (w v : World) (h k p q : Handle) (a b : Actor) : Prop where
  ne : h ≠ k
  apart : p ≠ q
  left : w.actor? h = some a
  right : w.actor? k = some b
  leftShown : a.hidden = false
  rightShown : b.hidden = false
  leftNew : w.actor? p = none
  rightNew : w.actor? q = none
  look : ∀ z, v.actor? z =
    if z = p then some (standInOf a) else if z = q then some (standInOf b)
    else if z = h then some { a with hidden := true }
    else if z = k then some { b with hidden := true } else w.actor? z

theorem Masks.swap (hm : Masks w v h k p q a b) : Masks w v k h q p b a := by
  refine ⟨hm.ne.symm, hm.apart.symm, hm.right, hm.left, hm.rightShown, hm.leftShown, hm.rightNew,
    hm.leftNew, fun z => (hm.look z).trans ?_⟩
  have hne := hm.ne
  have hapart := hm.apart
  by_cases hp : z = p
  · simp [hp, hapart]
  · by_cases hh : z = h
    · rw [hh] at hp ⊢
      simp [hp, hne]
    · simp [hp, hh]

theorem ne_of_live {z : Handle} (hlive : w.actor? z = some actor) (hnone : w.actor? p = none) :
    z ≠ p := by
  rintro rfl
  cases hnone.symm.trans hlive

theorem Masks.hides (hm : Masks w v h k p q a b) :
    v.actor? h = some { a with hidden := true } := by
  rw [hm.look, if_neg (ne_of_live hm.left hm.leftNew), if_neg (ne_of_live hm.left hm.rightNew),
    if_pos rfl]

theorem Masks.stands (hm : Masks w v h k p q a b) : v.actor? p = some (standInOf a) := by
  rw [hm.look, if_pos rfl]

/-- Hidden actors keep their names, so that the proxies are the only ones new to a name. -/
theorem Masks.called_iff (hm : Masks w v h k p q a b) {name : String} {z : Handle} :
    v.Called name z ↔ w.Called name z ∨
      z = p ∧ sameName (standInName a.name) name = true ∨
      z = q ∧ sameName (standInName b.name) name = true := by
  have hapart := hm.apart
  unfold World.Called
  rw [hm.look]
  by_cases hp : z = p
  · simp [hp, hm.leftNew, hapart, standInOf, Actor.arriving]
  by_cases hq : z = q
  · simp [hq, hm.rightNew, hapart.symm, standInOf, Actor.arriving]
  by_cases hh : z = h
  · rw [hh] at hp hq ⊢
    simp [hp, hq, hm.left]
  by_cases hk : z = k
  · rw [hk] at hp hq hh ⊢
    simp [hp, hq, hh, hm.right]
  · simp [hp, hq, hh, hk]

theorem Masks.called_left (hm : Masks w v h k p q a b) : v.Called (standInName a.name) p :=
  hm.called_iff.mpr (.inr (.inl ⟨rfl, Text.sameName_self _⟩))

/-- The proxies and those who were there before are in different slots. -/
theorem Masks.index_ne (hm : Masks w v h k p q a b) {name : String} {z : Handle}
    (hz : w.Called name z) : p.index ≠ z.index := by
  intro hindex
  have heq := hm.called_left.eq_of_index_eq (hm.called_iff.mpr (.inl hz)) hindex
  obtain ⟨_, hlive, _⟩ := hz
  exact ne_of_live hlive hm.leftNew heq.symm

theorem Masks.proxies_index_ne (hm : Masks w v h k p q a b) : p.index ≠ q.index := fun hindex =>
  hm.apart (hm.called_left.eq_of_index_eq hm.swap.called_left hindex)

theorem Masks.new_of_called (hm : Masks w v h k p q a b) {name : String} {z : Handle}
    (hz : v.Called name z) (hnone : w.actor? z = none) :
    z = p ∧ sameName (standInName a.name) name = true ∨
      z = q ∧ sameName (standInName b.name) name = true :=
  (hm.called_iff.mp hz).resolve_left fun hold => hold.ne hnone rfl

/-- The first to come back takes a proxy and leaves it to the second to take the other one. -/
structure Reverts (w v mid last : World) (h k r s : Handle) (a b c d : Actor) : Prop where
  left : Returns v mid h r { a with hidden := true } c
  right : Returns mid last k s { b with hidden := true } d
  same : ∀ z, last.actor? z = w.actor? z

theorem Masks.reverts (hm : Masks w v h k p q a b) {mid last : World} {r s : Handle}
    {c d : Actor} (hback : Reverts w v mid last h k r s a b c d) :
    (∀ z, w.Called (standInName a.name) z → p.index < z.index) ∧
      (∀ z, w.Called (standInName b.name) z → q.index < z.index) ∧
      (sameName a.name b.name = true →
        p.index < q.index ∨ a.position = b.position ∧ a.facing = b.facing) := by
  have hleft := hback.left
  have hright := hback.right
  have hold {name : String} {z : Handle} (hz : w.Called name z) : v.Called name z :=
    hm.called_iff.mpr (.inl hz)
  -- Who has been taken for a proxy is gone, and so was not there before.
  have hr : w.actor? r = none := by
    have hk : r ≠ k := by
      rintro rfl
      have hlive := hright.live
      rw [hleft.look, if_pos rfl] at hlive
      cases hlive
    rw [← hback.same, hright.look, if_neg hk, hleft.look, if_pos rfl, ite_self]
  have hs : w.actor? s = none := by rw [← hback.same, hright.look, if_pos rfl]
  obtain ⟨hsr, hcalled⟩ := hleft.called_iff.mp hright.called
  rcases hm.new_of_called hleft.called hr with ⟨rfl, _⟩ | ⟨rfl, hname⟩
  · rcases hm.new_of_called hcalled hs with ⟨rfl, _⟩ | ⟨rfl, _⟩
    · exact absurd rfl hsr
    refine ⟨fun z hz => ?_, fun z hz => ?_, fun hname => .inl ?_⟩
    · exact Nat.lt_of_le_of_ne (hleft.first z (hold hz)) (hm.index_ne hz)
    · have hmid : mid.Called _ z := hleft.called_iff.mpr ⟨hz.ne hm.leftNew, hold hz⟩
      exact Nat.lt_of_le_of_ne (hright.first z hmid) (hm.swap.index_ne hz)
    · have hsame : sameName b.name a.name = true := by rwa [Text.sameName_comm]
      have hother : v.Called (standInName a.name) s := called_congr hm.swap.called_left hsame
      exact Nat.lt_of_le_of_ne (hleft.first s hother) hm.proxies_index_ne
  · rcases hm.new_of_called hcalled hs with ⟨rfl, _⟩ | ⟨rfl, _⟩
    case inr => exact absurd rfl hsr
    have hsame : sameName b.name a.name = true := by
      rw [← sameName_standInName]
      exact hname
    have hname : sameName a.name b.name = true := by rwa [Text.sameName_comm]
    refine ⟨fun z hz => ?_, fun z hz => ?_, fun _ => .inr ?_⟩
    · have hmid : mid.Called _ z :=
        hleft.called_iff.mpr ⟨hz.ne hm.rightNew, hold (called_congr hz hname)⟩
      exact Nat.lt_of_le_of_ne (hright.first z hmid) (hm.index_ne hz)
    · have hleftName := called_congr hz hsame
      exact Nat.lt_of_le_of_ne (hleft.first z (hold hleftName)) (hm.swap.index_ne hz)
    · have hself := hback.same h
      rw [hright.look, if_neg (ne_of_live hm.left hm.leftNew), if_neg hm.ne, hleft.look,
        if_neg hleft.ne.symm, if_pos rfl, hm.left] at hself
      cases hleft.standing.symm.trans hm.swap.stands
      have ha := Option.some.inj hself
      exact ⟨(congrArg Actor.position ha).symm, (congrArg Actor.facing ha).symm⟩

/-- The actor is itself again once it is shown on its own tile. -/
theorem shown_eq_self (hshown : a.hidden = false) (hposition : proxy.position = a.position)
    (hfacing : proxy.facing = a.facing) :
    { { a with hidden := true } with
      position := proxy.position, facing := proxy.facing, hidden := false } = a := by
  cases a
  simp_all only

theorem Masks.same_of_returns (hm : Masks w v h k p q a b) {mid last : World} {r s : Handle}
    {c d : Actor} (hleft : Returns v mid h r { a with hidden := true } c)
    (hright : Returns mid last k s { b with hidden := true } d)
    (hproxies : r = p ∧ s = q ∨ r = q ∧ s = p) (hc : c.position = a.position ∧ c.facing = a.facing)
    (hd : d.position = b.position ∧ d.facing = b.facing) (z : Handle) :
    last.actor? z = w.actor? z := by
  have hr : w.actor? r = none := by
    rcases hproxies with ⟨rfl, _⟩ | ⟨rfl, _⟩
    · exact hm.leftNew
    · exact hm.rightNew
  have hs : w.actor? s = none := by
    rcases hproxies with ⟨_, rfl⟩ | ⟨_, rfl⟩
    · exact hm.rightNew
    · exact hm.leftNew
  rw [hright.look]
  split
  · next hz => rw [hz, hs]
  split
  · next hz => rw [hz, hm.right, shown_eq_self hm.rightShown hd.1 hd.2]
  rw [hleft.look]
  split
  · next hz => rw [hz, hr]
  split
  · next hz => rw [hz, hm.left, shown_eq_self hm.leftShown hc.1 hc.2]
  · next hs hk hr hh =>
    have hpq : z ≠ p ∧ z ≠ q := by
      rcases hproxies with ⟨rfl, rfl⟩ | ⟨rfl, rfl⟩
      · exact ⟨hr, hs⟩
      · exact ⟨hs, hr⟩
    rw [hm.look, if_neg hpq.1, if_neg hpq.2, if_neg hh, if_neg hk]

/-- The second to come back takes the proxy that the first has left, if that is the first of its
name. -/
theorem Masks.exists_second (hm : Masks w v h k p q a b) {mid : World} {r s : Handle} {c : Actor}
    (hleft : Returns v mid h r { a with hidden := true } c) (hmaster : scope.master = some k)
    (hproxies : r = p ∧ s = q ∨ r = q ∧ s = p) (hcalled : v.Called (standInName b.name) s)
    (hpast : ∀ z, w.Called (standInName b.name) z → s.index < z.index) :
    ∃ last d, standInEnd place scope mid .master = .ok last ∧
      Returns mid last k s { b with hidden := true } d ∧ v.actor? s = some d := by
  obtain ⟨hkr, hsr, hsh⟩ : k ≠ r ∧ s ≠ r ∧ s ≠ h := by
    rcases hproxies with ⟨rfl, rfl⟩ | ⟨rfl, rfl⟩
    · exact ⟨ne_of_live hm.right hm.leftNew, hm.apart.symm, (ne_of_live hm.left hm.rightNew).symm⟩
    · exact ⟨ne_of_live hm.right hm.rightNew, hm.apart, (ne_of_live hm.left hm.leftNew).symm⟩
  have hk : mid.actor? k = some { b with hidden := true } := by
    rw [hleft.look, if_neg hkr, if_neg hm.ne.symm, hm.swap.hides]
  have hs : mid.Called (standInName b.name) s := hleft.called_iff.mpr ⟨hsr, hcalled⟩
  obtain ⟨last, t, d, hlast, hright⟩ := exists_returns place hmaster hk hs
  have hts := hright.first s hs
  obtain ⟨htr, ht⟩ := hleft.called_iff.mp hright.called
  have hst : t = s := by
    rcases hm.called_iff.mp ht with hold | ⟨rfl, _⟩ | ⟨rfl, _⟩
    · exact absurd hts (Nat.not_le_of_lt (hpast t hold))
    · exact (hproxies.resolve_left fun h => htr h.1.symm).2.symm
    · exact (hproxies.resolve_right fun h => htr h.1.symm).2.symm
  subst hst
  have hstands := hright.standing
  rw [hleft.look, if_neg hsr, if_neg hsh] at hstands
  exact ⟨last, d, hlast, hright, hstands⟩

/-- Both come back one after the other, and all is as it was. -/
def ComeBack (place : Place) (first second : Scope) (w v : World) : Prop :=
  ∃ mid last, standInEnd place first v .master = .ok mid ∧
    standInEnd place second mid .master = .ok last ∧ ∀ z, last.actor? z = w.actor? z

theorem Masks.comeBack_iff (hm : Masks w v h k p q a b) {first second : Scope}
    (hfirst : first.master = some h) (hsecond : second.master = some k) :
    ComeBack place first second w v ↔
      (∀ z, w.Called (standInName a.name) z → p.index < z.index) ∧
      (∀ z, w.Called (standInName b.name) z → q.index < z.index) ∧
      (sameName a.name b.name = true →
        p.index < q.index ∨ a.position = b.position ∧ a.facing = b.facing) := by
  constructor
  · rintro ⟨mid, last, hmid, hlast, hsame⟩
    obtain ⟨r, _, c, hleft⟩ := returns_of_standInEnd hfirst hmid
    obtain ⟨s, b', d, hright⟩ := returns_of_standInEnd hsecond hlast
    cases hm.hides.symm.trans hleft.live
    have hk := hright.live
    rw [hleft.look] at hk
    split at hk
    · cases hk
    · rw [if_neg hm.ne.symm, hm.swap.hides] at hk
      cases hk
      exact hm.reverts ⟨hleft, hright, hsame⟩
  · rintro ⟨hpast, hpast', hapart⟩
    obtain ⟨mid, r, c, hmid, hleft⟩ := exists_returns place hfirst hm.hides hm.called_left
    have hrp := hleft.first p hm.called_left
    rcases hm.called_iff.mp hleft.called with hold | ⟨rfl, _⟩ | ⟨rfl, hname⟩
    · exact absurd hrp (Nat.not_le_of_lt (hpast r hold))
    · obtain ⟨last, d, hlast, hright, hd⟩ := hm.exists_second hleft hsecond (.inl ⟨rfl, rfl⟩)
        hm.swap.called_left hpast'
      cases hleft.standing.symm.trans hm.stands
      cases hd.symm.trans hm.swap.stands
      exact ⟨mid, last, hmid, hlast,
        hm.same_of_returns hleft hright (.inl ⟨rfl, rfl⟩) ⟨rfl, rfl⟩ ⟨rfl, rfl⟩⟩
    · -- The proxies are taken for each other, which does nothing as they stand alike.
      have hsame : sameName b.name a.name = true := by
        rw [← sameName_standInName]
        exact hname
      have hother : sameName a.name b.name = true := by rwa [Text.sameName_comm]
      obtain ⟨last, d, hlast, hright, hd⟩ := hm.exists_second hleft hsecond (.inr ⟨rfl, rfl⟩)
        (called_congr hm.called_left hother) fun z hz => hpast z (called_congr hz hsame)
      cases hleft.standing.symm.trans hm.swap.stands
      cases hd.symm.trans hm.stands
      obtain ⟨hposition, hfacing⟩ := (hapart hother).resolve_left (Nat.not_lt.mpr hrp)
      exact ⟨mid, last, hmid, hlast, hm.same_of_returns hleft hright (.inr ⟨rfl, rfl⟩)
        ⟨hposition.symm, hfacing.symm⟩ ⟨hposition, hfacing⟩⟩

/-- The world with an actor hidden behind its proxy, and the handle of the proxy. -/
def hide (w : World) (h : Handle) (actor : Actor) : Handle × World :=
  (w.modifyActor h fun a => { a with hidden := true }).spawn (standInOf actor)

theorem standIn_master (place : Place) (hmaster : scope.master = some h)
    (hactor : w.actor? h = some actor) : standIn place scope w .master = .ok (hide w h actor).2 :=
  bind_eq_ok_iff.mpr ⟨(h, actor), resolve_master_eq_ok_iff.mpr ⟨hmaster, hactor⟩, rfl⟩

/-- An actor has been hidden, and its proxy was not there before. -/
structure Hides (w next : World) (h p : Handle) (actor : Actor) : Prop where
  free : next.actors.FreeListed
  new : w.actor? p = none
  look : ∀ z, next.actor? z = if z = p then some (standInOf actor)
    else if z = h then some { actor with hidden := true } else w.actor? z

theorem hides_hide (hfree : w.actors.FreeListed) (hactor : w.actor? h = some actor) :
    Hides w (hide w h actor).2 h (hide w h actor).1 actor := by
  have hlook (z : Handle) : (w.modifyActor h fun a => { a with hidden := true }).actor? z =
      if z = h then some { actor with hidden := true } else w.actor? z := by
    rw [World.actor?_modifyActor, hactor]
    rfl
  have hhidden := hfree.modify h fun a => { a with hidden := true }
  have harrival := hhidden.arrival (standInOf actor)
  refine ⟨harrival.freeListed hhidden, ?_, fun z => ?_⟩
  · have hbefore := harrival.get?_self_before
    change (w.modifyActor h fun a => { a with hidden := true }).actor? _ = none at hbefore
    rw [hlook] at hbefore
    split at hbefore
    · cases hbefore
    · exact hbefore
  · rw [← hlook]
    exact harrival.get?_eq z

theorem masks_of_hides {u : World} (hne : h ≠ k) (ha : w.actor? h = some a)
    (hb : w.actor? k = some b) (hshown : a.hidden = false) (hshown' : b.hidden = false)
    (hfirst : Hides w u h p a) (hsecond : Hides u v k q b) : Masks w v h k p q a b := by
  have hnew := hsecond.new
  rw [hfirst.look] at hnew
  split at hnew
  · cases hnew
  next hqp =>
  split at hnew
  · cases hnew
  refine ⟨hne, fun hpq => hqp hpq.symm, ha, hb, hshown, hshown', hfirst.new, hnew, fun z => ?_⟩
  rw [hsecond.look, hfirst.look]
  have hkp := ne_of_live hb hfirst.new
  by_cases hq : z = q
  · rw [if_pos hq, if_neg (hq ▸ hqp), if_pos hq]
  · by_cases hk : z = k
    · rw [hk] at hq ⊢
      simp [hq, hkp, hne.symm]
    · simp [hq, hk]

/-- Carries out actions in order, each for a run of its own, as long as none fails. -/
def performEach (place : Place) (stage : Stage) (acts : List (Scope × Action)) :
    Except ScriptError Stage :=
  acts.foldlM (fun stage act =>
    let (next, result) := perform place act.1 stage act.2
    result.map fun _ => next) stage

/-- The actions succeed, and after them the living are those from before, as they were. -/
def Restores (place : Place) (stage : Stage) (acts : List (Scope × Action)) : Prop :=
  ∃ last, performEach place stage acts = .ok last ∧
    ∀ z, last.world.actor? z = stage.world.actor? z

theorem performEach_nil (place : Place) (stage : Stage) : performEach place stage [] = .ok stage :=
  rfl

theorem performEach_cons {stage : Stage} {action : Action} {result : Except ScriptError World}
    (hperform : perform place scope stage action = attempt stage result)
    (rest : List (Scope × Action)) :
    performEach place stage ((scope, action) :: rest) =
      result >>= fun w => performEach place { stage with world := w } rest := by
  rw [performEach, List.foldlM_cons, hperform]
  cases result <;> rfl

theorem restores_iff_comeBack {stage : Stage} {first second : Scope} (other another : Scope)
    (hfirst : standIn place first stage.world .master = .ok w)
    (hsecond : standIn place second w .master = .ok v) :
    Restores place stage [(first, .standIn .master), (second, .standIn .master),
        (other, .standInEnd .master), (another, .standInEnd .master)] ↔
      ComeBack place other another stage.world v := by
  have hdone (last : Stage) : performEach place stage [(first, .standIn .master),
        (second, .standIn .master), (other, .standInEnd .master),
        (another, .standInEnd .master)] = .ok last ↔
      ∃ mid, standInEnd place other v .master = .ok mid ∧ ∃ next,
        standInEnd place another mid .master = .ok next ∧
          last = { stage with world := next } := by
    rw [performEach_cons rfl, hfirst]
    change performEach place _ _ = _ ↔ _
    rw [performEach_cons rfl, hsecond]
    change performEach place _ _ = _ ↔ _
    rw [performEach_cons rfl, bind_eq_ok_iff]
    refine exists_congr fun mid => and_congr_right fun _ => ?_
    rw [performEach_cons rfl, bind_eq_ok_iff]
    refine exists_congr fun next => and_congr_right fun _ => ?_
    rw [performEach_nil, Except.ok.injEq]
    exact eq_comm
  unfold Restores ComeBack
  simp only [hdone]
  constructor
  · rintro ⟨_, ⟨mid, hmid, next, hnext, rfl⟩, hsame⟩
    exact ⟨mid, next, hmid, hnext, hsame⟩
  · rintro ⟨mid, next, hmid, hnext, hsame⟩
    exact ⟨_, ⟨mid, hmid, next, hnext, rfl⟩, hsame⟩

/-- Two actors who have gone behind stand-ins come back, in whichever order, and all who live are as
they were, exactly if everybody who is called like a stand-in of theirs has a slot after that of the
stand-in, and if namesakes stand on the same tile and face the same way. -/
theorem stand_ins_restore_iff (place : Place) (stage : Stage) (requests : List Arena.Request)
    (hworld : stage.world.actors = (Arena.run requests).1) {first second : Scope}
    (hfirst : first.master = some h) (hsecond : second.master = some k) (hne : h ≠ k)
    (ha : stage.world.actor? h = some a) (hb : stage.world.actor? k = some b)
    (hshown : a.hidden = false) (hshown' : b.hidden = false) :
    let hidden := hide stage.world h a
    let p := hidden.1
    let q := (hide hidden.2 k b).1
    let masks : List (Scope × Action) := [(first, .standIn .master), (second, .standIn .master)]
    (Restores place stage
        (masks ++ [(first, .standInEnd .master), (second, .standInEnd .master)]) ∧
      Restores place stage
        (masks ++ [(second, .standInEnd .master), (first, .standInEnd .master)])) ↔
      (∀ z, stage.world.Called (standInName a.name) z → p.index < z.index) ∧
      (∀ z, stage.world.Called (standInName b.name) z → q.index < z.index) ∧
      (sameName a.name b.name = true → a.position = b.position ∧ a.facing = b.facing) := by
  intro hidden p q masks
  have hfree : stage.world.actors.FreeListed := hworld ▸ Arena.freeListed_run requests
  have hgone := standIn_master place hfirst ha
  have hhides := hides_hide hfree ha
  have hkp := ne_of_live hb hhides.new
  have hk : hidden.2.actor? k = some b := by
    rw [hhides.look, if_neg hkp, if_neg hne.symm, hb]
  have hgone' := standIn_master place hsecond hk
  have hm : Masks stage.world (hide hidden.2 k b).2 h k p q a b :=
    masks_of_hides hne ha hb hshown hshown' hhides (hides_hide hhides.free hk)
  have hforth := (restores_iff_comeBack first second hgone hgone').trans
    (hm.comeBack_iff hfirst hsecond)
  have hback := (restores_iff_comeBack second first hgone hgone').trans
    (hm.swap.comeBack_iff hsecond hfirst)
  refine (and_congr hforth hback).trans ⟨?_, ?_⟩
  · rintro ⟨⟨hpast, hpast', hname⟩, ⟨_, _, hname'⟩⟩
    refine ⟨hpast, hpast', fun hsame => ?_⟩
    rcases hname hsame with hpq | halike
    · rcases hname' (Text.sameName_comm _ _ ▸ hsame) with hqp | halike
      · exact absurd hpq (Nat.lt_asymm hqp)
      · exact ⟨halike.1.symm, halike.2.symm⟩
    · exact halike
  · rintro ⟨hpast, hpast', halike⟩
    refine ⟨⟨hpast, hpast', fun hsame => .inr (halike hsame)⟩, hpast', hpast, fun hsame => .inr ?_⟩
    obtain ⟨hposition, hfacing⟩ := halike (Text.sameName_comm _ _ ▸ hsame)
    exact ⟨hposition.symm, hfacing.symm⟩

/-- The guard and a rock go behind stand-ins, which arrive in slots before that of an old stand-in
of a rock, and both come back. -/
theorem guard_and_rock_come_back :
    let requests : List Arena.Request :=
      [.spawn (.arriving "guard" "npc" ⟨1, 1⟩), .spawn (.arriving "rock" "tile" ⟨3, 3⟩),
        .spawn (.arriving "crate" "tile" ⟨4, 4⟩), .spawn (.arriving "crate" "tile" ⟨5, 4⟩),
        .spawn (.arriving "rock_stand_in" "stand_in" ⟨6, 6⟩), .despawn ⟨2, 0⟩, .despawn ⟨3, 0⟩]
    let w : World := { World.blank ∅ with actors := (Arena.run requests).1 }
    let scope : Nat → Scope := fun i => ⟨"yard", some ⟨i, 0⟩, "yard#1"⟩
    Restores ⟨.blank "yard" 8 8, 0⟩ ⟨w, ∅⟩
      [(scope 0, .standIn .master), (scope 1, .standIn .master),
        (scope 0, .standInEnd .master), (scope 1, .standInEnd .master)] := by
  intro requests w scope
  have hguard : w.actor? ⟨0, 0⟩ = some (.arriving "guard" "npc" ⟨1, 1⟩) := by decide +kernel
  have hrock : w.actor? ⟨1, 0⟩ = some (.arriving "rock" "tile" ⟨3, 3⟩) := by decide +kernel
  have hmaster (i : Nat) : (scope i).master = some ⟨i, 0⟩ := rfl
  refine ((stand_ins_restore_iff _ ⟨w, ∅⟩ requests rfl (hmaster 0) (hmaster 1) (by decide) hguard
    hrock rfl rfl).mpr ⟨?_, ?_, ?_⟩).1
  · rw [World.forall_called_iff]
    decide +kernel
  · rw [World.forall_called_iff]
    decide +kernel
  · decide +kernel

/-- Of two rocks that go behind stand-ins, the one that comes back first comes back on the tile of
the other one. -/
theorem rocks_come_back_swapped :
    let rock : Position → Actor := .arriving "rock" "rock"
    let w := (((World.blank ∅).spawn (rock ⟨1, 1⟩)).2.spawn (rock ⟨3, 3⟩)).2
    let scope : Nat → Scope := fun i => ⟨"yard", some ⟨i, 0⟩, "yard#1"⟩
    let swapped := performEach ⟨.blank "yard" 8 8, 0⟩ ⟨w, ∅⟩
      [(scope 0, .standIn .master), (scope 1, .standIn .master),
        (scope 1, .standInEnd .master), (scope 0, .standInEnd .master)]
    (swapped.toOption.map fun last => last.world.actors.toList) =
      some [(⟨0, 0⟩, rock ⟨3, 3⟩), (⟨1, 0⟩, rock ⟨1, 1⟩)] := by
  decide +kernel

end Dispatch
end StoryEngine

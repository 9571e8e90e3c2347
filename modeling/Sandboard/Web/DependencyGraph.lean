import Mathlib.Data.Finset.Card
import Mathlib.Data.List.Nodup
import Sandboard.Library.Acyclic
import Sandboard.Library.LongestChain
import Sandboard.Model

/-!
# The dependency graph

The graph of the cards on a page ranks each card by the depth of its blockers.  The depth is a
recursion with a memo (`ranks`) and, for each card at which it is started, a set of the cards it
has been at (`visited`), which stops it on a cycle.  The recursion has fuel here, and more fuel
than there are cards is always enough.
-/

namespace Sandboard

open Std

/-- A drawn edge, from a blocker to the card that it blocks. -/
structure GraphEdge where
  source : ItemId
  target : ItemId
  isUnresolved : Bool

/-- The memo of the ranks, and the cards that were visited. -/
structure DepthWalk where
  ranks : ExtTreeMap ItemId ℕ
  visited : List ItemId

namespace DependencyGraph

/-- The cards by their ids. -/
def itemMap (items : List WorkItem) : ExtTreeMap ItemId WorkItem :=
  items.foldl (fun map item => map.insert item.id item) ∅

/-- The loop of `getDepth` over the blockers of a card. -/
def blockersDepth (map : ExtTreeMap ItemId WorkItem)
    (depth : ItemId → DepthWalk → Option (ℕ × DepthWalk)) :
    List ItemId → ℕ → DepthWalk → Option (ℕ × DepthWalk)
  | [], maxB, walk => some (maxB, walk)
  | b :: bs, maxB, walk =>
    if map.contains b then
      match depth b walk with
      | none => none
      | some (d, walk) => blockersDepth map depth bs (max maxB (d + 1)) walk
    else blockersDepth map depth bs maxB walk

/-- Depth of a card, and nothing when the fuel runs out. -/
def getDepth (map : ExtTreeMap ItemId WorkItem) :
    ℕ → ItemId → DepthWalk → Option (ℕ × DepthWalk)
  | 0, _, _ => none
  | fuel + 1, id, walk =>
    match walk.ranks[id]? with
    | some r => some (r, walk)
    | none =>
      if walk.visited.contains id then some (0, walk)
      else
        let walk := { walk with visited := id :: walk.visited }
        match map[id]? with
        | none => some (0, { walk with ranks := walk.ranks.insert id 0 })
        | some item =>
          match blockersDepth map (getDepth map fuel) item.blockedBy 0 walk with
          | none => none
          | some (maxB, walk) => some (maxB, { walk with ranks := walk.ranks.insert id maxB })

/-- The ranks once `getDepth` was called for each card in turn. -/
def ranksFrom (map : ExtTreeMap ItemId WorkItem) (fuel : ℕ) :
    List WorkItem → ExtTreeMap ItemId ℕ → Option (ExtTreeMap ItemId ℕ)
  | [], ranks => some ranks
  | item :: items, ranks =>
    match getDepth map fuel item.id ⟨ranks, []⟩ with
    | none => none
    | some (_, walk) => ranksFrom map fuel items walk.ranks

/-- The rank of every card. -/
def ranks (fuel : ℕ) (items : List WorkItem) : Option (ExtTreeMap ItemId ℕ) :=
  ranksFrom (itemMap items) fuel items ∅

/-- The rank of a card in the layout. -/
def rankOf (ranks : ExtTreeMap ItemId ℕ) (item : WorkItem) : ℕ :=
  (ranks[item.id]?).getD 0

/-- The edges that are drawn. -/
def edges (items : List WorkItem) : List GraphEdge :=
  items.flatMap fun item => item.blockedBy.filterMap fun b =>
    ((itemMap items)[b]?).map fun blocker => ⟨b, item.id, blocker.state != .done⟩

/-- One card of the list blocks another one. -/
def Blocks (items : List WorkItem) (a b : ItemId) : Prop :=
  (∃ x ∈ items, x.id = a) ∧ ∃ y ∈ items, y.id = b ∧ a ∈ y.blockedBy

/-- Two cards of the list with one id are the same card. -/
def OnePerId (items : List WorkItem) : Prop :=
  ∀ x ∈ items, ∀ y ∈ items, x.id = y.id → x = y

/-! ## The recursion ends -/

section Termination

variable {map : ExtTreeMap ItemId WorkItem} {ids : List ItemId}

/-- How many cards are left to visit. -/
def unvisited (ids visited : List ItemId) : ℕ :=
  (ids.toFinset.filter fun i => i ∉ visited).card

lemma unvisited_anti {visited visited' : List ItemId} (h : visited ⊆ visited') :
    unvisited ids visited' ≤ unvisited ids visited :=
  Finset.card_le_card (Finset.monotone_filter_right _ fun _ _ hi hin => hi (h hin))

lemma unvisited_cons_lt {visited : List ItemId} {id : ItemId} (hid : id ∈ ids)
    (hnew : id ∉ visited) : unvisited ids (id :: visited) < unvisited ids visited := by
  apply Finset.card_lt_card
  refine ⟨Finset.monotone_filter_right _ fun _ _ hi hin => hi (List.mem_cons_of_mem _ hin), ?_⟩
  intro hsub
  have hin := hsub (Finset.mem_filter.2 ⟨List.mem_toFinset.2 hid, hnew⟩)
  exact (Finset.mem_filter.1 hin).2 List.mem_cons_self

lemma unvisited_le (visited : List ItemId) : unvisited ids visited ≤ ids.length :=
  Nat.le_trans (Finset.card_filter_le _ _) (List.toFinset_card_le ids)

/-- The loop ends when each of its calls does. -/
lemma blockersDepth_ends {depth : ItemId → DepthWalk → Option (ℕ × DepthWalk)} {bound : ℕ}
    (hdepth : ∀ b walk, map.contains b → unvisited ids walk.visited < bound →
      ∃ d walk', depth b walk = some (d, walk') ∧ walk.visited ⊆ walk'.visited)
    (bs : List ItemId) (maxB : ℕ) (walk : DepthWalk)
    (hwalk : unvisited ids walk.visited < bound) :
    ∃ d walk', blockersDepth map depth bs maxB walk = some (d, walk') ∧
      walk.visited ⊆ walk'.visited := by
  induction bs generalizing maxB walk with
  | nil => exact ⟨maxB, walk, rfl, List.Subset.refl _⟩
  | cons b bs ih =>
    rw [blockersDepth]
    by_cases hb : map.contains b
    · obtain ⟨d, walk', hd, hgrows⟩ := hdepth b walk hb hwalk
      rw [if_pos hb, hd]
      obtain ⟨m, walk'', hm, hgrows'⟩ := ih (max maxB (d + 1)) walk'
        (Nat.lt_of_le_of_lt (unvisited_anti hgrows) hwalk)
      exact ⟨m, walk'', hm, List.Subset.trans hgrows hgrows'⟩
    · rw [if_neg hb]
      exact ih maxB walk hwalk

/-- With more fuel than there are cards left to visit, the depth of a card is found. -/
lemma getDepth_ends (hids : ∀ id, map.contains id → id ∈ ids) (fuel : ℕ) (id : ItemId)
    (walk : DepthWalk) (hid : map.contains id) (hwalk : unvisited ids walk.visited < fuel) :
    ∃ d walk', getDepth map fuel id walk = some (d, walk') ∧ walk.visited ⊆ walk'.visited := by
  induction fuel generalizing id walk with
  | zero => exact absurd hwalk (Nat.not_lt_zero _)
  | succ fuel ih =>
    rw [getDepth]
    cases hrank : walk.ranks[id]? with
    | some r => exact ⟨r, walk, rfl, List.Subset.refl _⟩
    | none =>
      dsimp only
      by_cases hvisited : walk.visited.contains id
      · rw [if_pos hvisited]
        exact ⟨0, walk, rfl, List.Subset.refl _⟩
      · rw [if_neg hvisited]
        have hnew : id ∉ walk.visited := fun h => hvisited (List.contains_iff_mem.2 h)
        cases hitem : map[id]? with
        | none => exact ⟨0, _, rfl, List.subset_cons_self _ _⟩
        | some item =>
          have hleft : unvisited ids (id :: walk.visited) < fuel :=
            Nat.lt_of_lt_of_le (unvisited_cons_lt (hids id hid) hnew) (Nat.le_of_lt_succ hwalk)
          obtain ⟨m, walk', hm, hgrows⟩ := blockersDepth_ends (fun b walk hb hlt => ih b walk hb hlt)
            item.blockedBy 0 { walk with visited := id :: walk.visited } hleft
          dsimp only
          rw [hm]
          exact ⟨m, _, rfl, List.Subset.trans (List.subset_cons_self _ _) hgrows⟩

end Termination

lemma getElem?_itemMap (items : List WorkItem) (id : ItemId) :
    (itemMap items)[id]? = items.reverse.find? fun x => x.id == id := by
  have hfold : ∀ (items : List WorkItem) (map : ExtTreeMap ItemId WorkItem),
      (items.foldl (fun map item => map.insert item.id item) map)[id]? =
        (items.reverse.find? fun x => x.id == id).or map[id]? := by
    intro items
    induction items with
    | nil => exact fun map => (Option.none_or).symm
    | cons x xs ih =>
      intro map
      rw [List.foldl_cons, ih, List.reverse_cons, List.find?_append, Option.or_assoc,
        ExtTreeMap.getElem?_insert]
      congr 1
      by_cases hx : x.id = id
      · rw [if_pos (Std.compare_eq_iff_eq.2 hx), List.find?_cons, beq_iff_eq.2 hx]
        rfl
      · rw [if_neg fun h => hx (Std.compare_eq_iff_eq.1 h), List.find?_cons,
          beq_eq_false_iff_ne.2 hx, List.find?_nil, Option.none_or]
  rw [itemMap, hfold, ExtTreeMap.getElem?_empty, Option.or_none]

lemma contains_itemMap {items : List WorkItem} {id : ItemId} :
    (itemMap items).contains id ↔ ∃ x ∈ items, x.id = id := by
  rw [ExtTreeMap.contains_eq_isSome_getElem?, getElem?_itemMap, List.find?_isSome]
  constructor
  · rintro ⟨x, hx, hid⟩
    exact ⟨x, List.mem_reverse.1 hx, beq_iff_eq.1 hid⟩
  · rintro ⟨x, hx, hid⟩
    exact ⟨x, List.mem_reverse.2 hx, beq_iff_eq.2 hid⟩

lemma ranksFrom_ends {all : List WorkItem} {fuel : ℕ} (hfuel : all.length < fuel)
    {items : List WorkItem} (hsub : items ⊆ all) (ranks : ExtTreeMap ItemId ℕ) :
    (ranksFrom (itemMap all) fuel items ranks).isSome := by
  induction items generalizing ranks with
  | nil => rfl
  | cons item items ih =>
    have hids : ∀ id, (itemMap all).contains id → id ∈ all.map WorkItem.id := by
      intro id hid
      obtain ⟨x, hx, rfl⟩ := contains_itemMap.1 hid
      exact List.mem_map_of_mem hx
    have hwalk : unvisited (all.map WorkItem.id) [] < fuel :=
      Nat.lt_of_le_of_lt (unvisited_le []) (by rwa [List.length_map])
    obtain ⟨d, walk, hd, -⟩ := getDepth_ends hids fuel item.id ⟨ranks, []⟩
      (contains_itemMap.2 ⟨item, hsub List.mem_cons_self, rfl⟩) hwalk
    rw [ranksFrom, hd]
    exact ih (fun x hx => hsub (List.mem_cons_of_mem _ hx)) walk.ranks

/-! ## Ranks are lengths of chains -/

section Ranks

variable {items : List WorkItem} {walk walk' : DepthWalk} {id : ItemId} {d : ℕ}

/-- Each rank in the memo is the length of the longest chain to its card. -/
def Ranked (items : List WorkItem) (ranks : ExtTreeMap ItemId ℕ) : Prop :=
  ∀ (id : ItemId) (r : ℕ), ranks[id]? = some r → ChainTo.Longest (Blocks items) id r

/-- A visited card without a rank is one whose depth is being computed, that is one that the
current card leads to. -/
def InProgress (items : List WorkItem) (walk : DepthWalk) (id : ItemId) : Prop :=
  ∀ v ∈ walk.visited, walk.ranks[v]? = none → Relation.ReflTransGen (Blocks items) id v

/-- What a walk leaves behind: right ranks, the ranks that were there, and no new card in
progress. -/
structure Leaves (items : List WorkItem) (walk walk' : DepthWalk) : Prop where
  ranked : Ranked items walk'.ranks
  ranks : ∀ (v : ItemId) (r : ℕ), walk.ranks[v]? = some r → walk'.ranks[v]? = some r
  visited : ∀ v ∈ walk'.visited, walk'.ranks[v]? = none →
    v ∈ walk.visited ∧ walk.ranks[v]? = none

lemma Leaves.refl (h : Ranked items walk.ranks) : Leaves items walk walk :=
  ⟨h, fun _ _ hr => hr, fun _ hv hnone => ⟨hv, hnone⟩⟩

lemma Leaves.trans {walk'' : DepthWalk} (h : Leaves items walk walk')
    (h' : Leaves items walk' walk'') : Leaves items walk walk'' where
  ranked := h'.ranked
  ranks v r hr := h'.ranks v r (h.ranks v r hr)
  visited v hv hnone :=
    h.visited v (h'.visited v hv hnone).1 (h'.visited v hv hnone).2

lemma InProgress.of_leaves (h : InProgress items walk id) (hleaves : Leaves items walk walk') :
    InProgress items walk' id := by
  intro v hv hnone
  obtain ⟨hv', hnone'⟩ := hleaves.visited v hv hnone
  exact h v hv' hnone'

/-- A bound on the depth is zero, or one more than the depth of a blocker. -/
def Attained (items : List WorkItem) (id : ItemId) (n : ℕ) : Prop :=
  n = 0 ∨ ∃ b m, Blocks items b id ∧ ChainTo.Longest (Blocks items) b m ∧ n = m + 1

/-- The loop over the blockers finds the greatest of their depths. -/
lemma blockersDepth_spec {depth : ItemId → DepthWalk → Option (ℕ × DepthWalk)}
    (hdepth : ∀ b walk d walk', (itemMap items).contains b → Ranked items walk.ranks →
      (∀ v ∈ walk.visited, walk.ranks[v]? = none → Relation.TransGen (Blocks items) b v) →
        depth b walk = some (d, walk') →
          ChainTo.Longest (Blocks items) b d ∧ Leaves items walk walk')
    {bs : List ItemId} {maxB m : ℕ} (hbs : ∀ b ∈ bs, (itemMap items).contains b → Blocks items b id)
    (hranked : Ranked items walk.ranks) (hprogress : InProgress items walk id)
    (hmax : Attained items id maxB)
    (h : blockersDepth (itemMap items) depth bs maxB walk = some (m, walk')) :
    Leaves items walk walk' ∧ Attained items id m ∧ maxB ≤ m ∧
      ∀ b ∈ bs, (itemMap items).contains b →
        ∃ d, ChainTo.Longest (Blocks items) b d ∧ d + 1 ≤ m := by
  induction bs generalizing maxB walk with
  | nil =>
    obtain ⟨rfl, rfl⟩ := Prod.mk.inj (Option.some.inj h)
    exact ⟨.refl hranked, hmax, Nat.le_refl _, nofun⟩
  | cons b bs ih =>
    rw [blockersDepth] at h
    have hrest : ∀ b ∈ bs, (itemMap items).contains b → Blocks items b id :=
      fun b' hb' => hbs b' (List.mem_cons_of_mem _ hb')
    by_cases hb : (itemMap items).contains b
    · rw [if_pos hb] at h
      cases hd : depth b walk with
      | none =>
        rw [hd] at h
        cases h
      | some result =>
        obtain ⟨d, walk₁⟩ := result
        rw [hd] at h
        have hblocks := hbs b List.mem_cons_self hb
        obtain ⟨hlongest, hleaves⟩ := hdepth b walk d walk₁ hb hranked
          (fun v hv hnone => Relation.TransGen.head' hblocks (hprogress v hv hnone)) hd
        have hmax' : Attained items id (max maxB (d + 1)) := by
          rcases Nat.le_total maxB (d + 1) with hle | hle
          · rw [Nat.max_eq_right hle]
            exact Or.inr ⟨b, d, hblocks, hlongest, rfl⟩
          · rw [Nat.max_eq_left hle]
            exact hmax
        obtain ⟨hleaves', hm, hle, hall⟩ := ih hrest hleaves.ranked (hprogress.of_leaves hleaves)
          hmax' h
        refine ⟨hleaves.trans hleaves', hm, Nat.le_trans (Nat.le_max_left _ _) hle, ?_⟩
        intro b' hb' hcontains
        rcases List.mem_cons.1 hb' with rfl | htail
        · exact ⟨d, hlongest, Nat.le_trans (Nat.le_max_right _ _) hle⟩
        · exact hall b' htail hcontains
    · rw [if_neg hb] at h
      obtain ⟨hleaves, hm, hle, hall⟩ := ih hrest hranked hprogress hmax h
      refine ⟨hleaves, hm, hle, fun b' hb' hcontains => ?_⟩
      rcases List.mem_cons.1 hb' with rfl | htail
      · exact absurd hcontains hb
      · exact hall b' htail hcontains

lemma mem_of_getElem?_itemMap {item : WorkItem} (h : (itemMap items)[id]? = some item) :
    item ∈ items ∧ item.id = id := by
  rw [getElem?_itemMap] at h
  have hid := List.find?_some h
  exact ⟨List.mem_reverse.1 (List.mem_of_find?_eq_some h), beq_iff_eq.1 hid⟩

/-- Where an id stands for one card, that card is the one of the map. -/
lemma getElem?_itemMap_of_mem (hdistinct : OnePerId items) {item : WorkItem}
    (hitem : item ∈ items) : (itemMap items)[item.id]? = some item := by
  cases hmap : (itemMap items)[item.id]? with
  | none =>
    have hcontains := contains_itemMap.2 ⟨item, hitem, rfl⟩
    rw [ExtTreeMap.contains_eq_isSome_getElem?, hmap] at hcontains
    cases hcontains
  | some y =>
    obtain ⟨hy, hid⟩ := mem_of_getElem?_itemMap hmap
    rw [hdistinct _ hy _ hitem hid]

/-- On cards without a cycle the guard against cycles never fires, and the depth of a card is the
length of the longest chain to it. -/
lemma getDepth_spec (hdistinct : OnePerId items)
    (hacyclic : Acyclic (Blocks items)) {fuel : ℕ} (hid : (itemMap items).contains id)
    (hranked : Ranked items walk.ranks)
    (hprogress : ∀ v ∈ walk.visited, walk.ranks[v]? = none →
      Relation.TransGen (Blocks items) id v)
    (h : getDepth (itemMap items) fuel id walk = some (d, walk')) :
    ChainTo.Longest (Blocks items) id d ∧ Leaves items walk walk' ∧ walk'.ranks[id]? = some d := by
  induction fuel generalizing id walk d walk' with
  | zero => cases h
  | succ fuel ih =>
    rw [getDepth] at h
    cases hrank : walk.ranks[id]? with
    | some r =>
      rw [hrank] at h
      obtain ⟨rfl, rfl⟩ := Prod.mk.inj (Option.some.inj h)
      exact ⟨hranked id r hrank, .refl hranked, hrank⟩
    | none =>
      rw [hrank] at h
      dsimp only at h
      by_cases hvisited : walk.visited.contains id
      · exact absurd (hprogress id (List.contains_iff_mem.1 hvisited) hrank) (hacyclic id)
      · rw [if_neg hvisited] at h
        cases hitem : (itemMap items)[id]? with
        | none =>
          rw [ExtTreeMap.contains_eq_isSome_getElem?, hitem] at hid
          cases hid
        | some item =>
          rw [hitem] at h
          dsimp only at h
          obtain ⟨hmem, rfl⟩ := mem_of_getElem?_itemMap hitem
          have hblocks : ∀ b ∈ item.blockedBy, (itemMap items).contains b →
              Blocks items b item.id :=
            fun b hb hcontains => ⟨contains_itemMap.1 hcontains, item, hmem, rfl, hb⟩
          have hprogress' : InProgress items
              { walk with visited := item.id :: walk.visited } item.id := by
            intro v hv hnone
            rcases List.mem_cons.1 hv with rfl | hv
            · exact .refl
            · exact (hprogress v hv hnone).to_reflTransGen
          cases hloop : blockersDepth (itemMap items) (getDepth (itemMap items) fuel) item.blockedBy 0
              { walk with visited := item.id :: walk.visited } with
          | none =>
            rw [hloop] at h
            cases h
          | some result =>
            obtain ⟨m, walk₁⟩ := result
            rw [hloop] at h
            obtain ⟨rfl, rfl⟩ := Prod.mk.inj (Option.some.inj h)
            have hranked' : Ranked items
                ({ walk with visited := item.id :: walk.visited } : DepthWalk).ranks := hranked
            obtain ⟨hleaves, hattained, -, hall⟩ := blockersDepth_spec
              (fun b w d w' hb hw hprog hd => ⟨(ih hb hw hprog hd).1, (ih hb hw hprog hd).2.1⟩)
              hblocks hranked' hprogress' (Or.inl rfl) hloop
            have hlongest : ChainTo.Longest (Blocks items) item.id m := by
              refine ChainTo.longest_of_before hattained fun b hb => ?_
              obtain ⟨hin, y, hy, hyid, hby⟩ := hb
              obtain rfl := hdistinct _ hy _ hmem hyid
              exact hall b hby (contains_itemMap.2 hin)
            refine ⟨hlongest, ⟨fun v r hr => ?_, fun v r hr => ?_, fun v hv hnone => ?_⟩,
              ExtTreeMap.getElem?_insert_self⟩
            · dsimp only at hr
              rw [ExtTreeMap.getElem?_insert] at hr
              split at hr
              · rename_i heq
                obtain rfl := Std.compare_eq_iff_eq.1 heq
                exact Option.some.inj hr ▸ hlongest
              · exact hleaves.ranked v r hr
            · dsimp only
              have hne : item.id ≠ v := by
                rintro rfl
                rw [hrank] at hr
                cases hr
              rw [ExtTreeMap.getElem?_insert, if_neg fun heq => hne (Std.compare_eq_iff_eq.1 heq)]
              exact hleaves.ranks v r hr
            · dsimp only at hv hnone
              rw [ExtTreeMap.getElem?_insert] at hnone
              split at hnone
              · cases hnone
              · rename_i hne
                obtain ⟨hmem', hnone'⟩ := hleaves.visited v hv hnone
                rcases List.mem_cons.1 hmem' with rfl | hold
                · exact absurd (Std.compare_eq_iff_eq.2 rfl) hne
                · exact ⟨hold, hnone'⟩

/-- Every card of the list ends up in the memo with the length of its longest chain. -/
lemma ranksFrom_spec {all : List WorkItem} (hdistinct : OnePerId all)
    (hacyclic : Acyclic (Blocks all)) {fuel : ℕ} {ranks ranks' : ExtTreeMap ItemId ℕ}
    (hsub : items ⊆ all) (hranked : Ranked all ranks)
    (h : ranksFrom (itemMap all) fuel items ranks = some ranks') :
    Ranked all ranks' ∧ (∀ (v : ItemId) (r : ℕ), ranks[v]? = some r → ranks'[v]? = some r) ∧
      ∀ x ∈ items, ∃ r, ranks'[x.id]? = some r := by
  induction items generalizing ranks with
  | nil =>
    obtain rfl := Option.some.inj h
    exact ⟨hranked, fun _ _ hr => hr, fun _ hx => absurd hx List.not_mem_nil⟩
  | cons item items ih =>
    rw [ranksFrom] at h
    cases hd : getDepth (itemMap all) fuel item.id ⟨ranks, []⟩ with
    | none =>
      rw [hd] at h
      cases h
    | some result =>
      obtain ⟨d, walk⟩ := result
      rw [hd] at h
      obtain ⟨-, hleaves, hitem⟩ := getDepth_spec hdistinct hacyclic
        (contains_itemMap.2 ⟨item, hsub List.mem_cons_self, rfl⟩) hranked
        (fun _ hv => absurd hv List.not_mem_nil) hd
      obtain ⟨hranked', hkept, hall⟩ := ih (fun x hx => hsub (List.mem_cons_of_mem _ hx))
        hleaves.ranked h
      refine ⟨hranked', fun v r hr => hkept v r (hleaves.ranks v r hr), fun x hx => ?_⟩
      rcases List.mem_cons.1 hx with rfl | htail
      · exact ⟨d, hkept _ d hitem⟩
      · exact hall x htail

end Ranks

/-- A drawn edge is one from a card of the list that blocks another one. -/
lemma mem_edges {items : List WorkItem} {e : GraphEdge} (h : e ∈ edges items) :
    Blocks items e.source e.target := by
  obtain ⟨item, hitem, hedge⟩ := List.mem_flatMap.1 h
  obtain ⟨b, hb, hdrawn⟩ := List.mem_filterMap.1 hedge
  obtain ⟨blocker, hblocker, rfl⟩ := Option.map_eq_some_iff.1 hdrawn
  exact ⟨⟨blocker, mem_of_getElem?_itemMap hblocker⟩, item, hitem, rfl, hb⟩

/-- The layout of any list of cards ends: with more fuel than there are cards every card is
ranked.  Where an id stands for one card and the cards block each other without a cycle, the rank
of a card is the length of the longest chain of blockers in the list that ends at it, and every
drawn edge goes to a higher rank. -/
theorem layout_spec (items : List WorkItem) :
    (∀ fuel, items.length < fuel → (ranks fuel items).isSome) ∧
      (OnePerId items → Acyclic (Blocks items) →
        ∀ fuel ranked, ranks fuel items = some ranked →
          (∀ x ∈ items, ChainTo.Longest (Blocks items) x.id (rankOf ranked x)) ∧
          ∀ e ∈ edges items, ∀ x ∈ items, x.id = e.source → ∀ y ∈ items, y.id = e.target →
            rankOf ranked x < rankOf ranked y) := by
  refine ⟨fun fuel hfuel => ranksFrom_ends hfuel (List.Subset.refl _) ∅, ?_⟩
  intro hdistinct hacyclic fuel ranked h
  have hempty : Ranked items ∅ := by
    intro id r hr
    rw [ExtTreeMap.getElem?_empty] at hr
    cases hr
  obtain ⟨hranked, -, hall⟩ := ranksFrom_spec hdistinct hacyclic (List.Subset.refl _) hempty h
  have hlongest : ∀ x ∈ items, ChainTo.Longest (Blocks items) x.id (rankOf ranked x) := by
    intro x hx
    obtain ⟨r, hr⟩ := hall x hx
    unfold rankOf
    rw [hr]
    exact hranked x.id r hr
  refine ⟨hlongest, fun e he x hx hsource y hy htarget => ?_⟩
  have hblocks := mem_edges he
  rw [← hsource, ← htarget] at hblocks
  exact ChainTo.Longest.lt (hlongest x hx) (hlongest y hy) hblocks

/-- A Backlog card with blockers. -/
def backlogCard (id : ItemId) (blockedBy : List ItemId) : WorkItem where
  id := id
  parent := some 1
  level := none
  title := "Task"
  intent := ""
  definitionOfDone := none
  state := .backlog
  origin := .human
  aboveLine := false
  blockedBy := blockedBy
  blockers := []
  capability := none
  lease := none
  runDeadlineAt := none
  engine := none
  model := none
  progress := 0
  escalation := none
  gates := []
  runFailures := 0
  diffAdded := 0
  diffRemoved := 0
  notes := []
  projectPrompt := none
  sandboxProfileId := none
  autoDispatch := false
  lastBounceReason := none
  lastConflictFiles := []
  environment := none
  conversationId := none
  parked := false
  awaitingDispatch := false
  rebaseRequested := false
  pullRequests := []
  plan := none
  proposal := none
  createdAt := 0
  enteredStateAt := 0
  history := []

/-- A diamond, listed from its end, with a blocker that is not on the page. -/
def diamond : List WorkItem :=
  [backlogCard 5 [3, 4], backlogCard 4 [2, 9], backlogCard 3 [2], backlogCard 2 []]

lemma diamond_acyclic : Acyclic (Blocks diamond) := by
  have hlt : ∀ a b, Blocks diamond a b → a < b := by
    rintro a b ⟨⟨x, hx, rfl⟩, y, hy, rfl, hin⟩
    revert x y
    decide
  have htrans : ∀ a b, Relation.TransGen (Blocks diamond) a b → a < b := by
    intro a b h
    induction h with
    | single hstep => exact hlt _ _ hstep
    | tail _ hstep ih => exact Nat.lt_trans ih (hlt _ _ hstep)
  exact fun a ha => Nat.lt_irrefl a (htrans a a ha)

lemma diamond_onePerId : OnePerId diamond := by
  have hdistinct : (diamond.map WorkItem.id).Nodup := by decide
  exact fun x hx y hy hid => List.inj_on_of_nodup_map hdistinct hx hy hid

/-- The theorem on a diamond. -/
theorem layout_spec_diamond : ∃ ranked, ranks 5 diamond = some ranked ∧
    diamond.map (rankOf ranked) = [2, 1, 1, 0] ∧
      ∀ x ∈ diamond, ChainTo.Longest (Blocks diamond) x.id (rankOf ranked x) := by
  obtain ⟨ranked, h⟩ := Option.isSome_iff_exists.1 ((layout_spec diamond).1 5 (by decide))
  have hvalues : (ranks 5 diamond).map (fun ranked => diamond.map (rankOf ranked)) =
      some [2, 1, 1, 0] := by
    decide +kernel
  rw [h] at hvalues
  exact ⟨ranked, h, Option.some.inj hvalues,
    ((layout_spec diamond).2 diamond_onePerId diamond_acyclic 5 ranked h).1⟩

end DependencyGraph

end Sandboard

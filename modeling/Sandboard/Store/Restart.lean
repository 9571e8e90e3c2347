import Sandboard.Search
import Sandboard.Store.Deletion
import Sandboard.Store.Fulfilling
import Sandboard.Store.OpenBlockers
import Sandboard.Store.RowCodec

/-!
# Restarts

A board is saved as rows, and read back when the program starts again.  What a load gives is the
saved board up to what is never stored: blockers come back in the order of their ids, the stories of
cards that are gone are dropped, and so are the stories without lines.  Whatever was in the database
before makes no difference.  On the way in, the titles and states of old Initial plans are healed;
a board that was loaded is saved and loaded again without any change.
-/

namespace Sandboard

open Std BoardState Text

/-! ## Rows by key -/

section Rows

variable {α β κ : Type} [BEq κ] [LawfulBEq κ] {es : List α} {rows : α → List β} {key : β → κ}
  {f : α → κ}

/-- The rows of one entry are those with its key. -/
lemma filter_flatMap_key (hrows : ∀ e, ∀ r ∈ rows e, key r = f e) (hnodup : (es.map f).Nodup)
    {e : α} (he : e ∈ es) : (es.flatMap rows).filter (fun r => key r == f e) = rows e := by
  induction es with
  | nil => cases he
  | cons e' es ih =>
    rw [List.map_cons, List.nodup_cons] at hnodup
    rw [List.flatMap_cons, List.filter_append]
    rcases List.mem_cons.1 he with rfl | he
    · have hfirst : (rows e).filter (fun r => key r == f e) = rows e :=
        List.filter_eq_self.2 fun r hr => by simp [hrows e r hr]
      have hrest : (es.flatMap rows).filter (fun r => key r == f e) = [] := by
        rw [List.filter_eq_nil_iff]
        intro r hr hkey
        obtain ⟨e', he', hr'⟩ := List.mem_flatMap.1 hr
        apply hnodup.1
        rw [← beq_iff_eq.1 hkey, hrows e' r hr']
        exact List.mem_map_of_mem he'
      rw [hfirst, hrest, List.append_nil]
    · have hfirst : (rows e').filter (fun r => key r == f e) = [] := by
        rw [List.filter_eq_nil_iff]
        intro r hr hkey
        apply hnodup.1
        rw [← hrows e' r hr, beq_iff_eq.1 hkey]
        exact List.mem_map_of_mem he
      rw [hfirst, List.nil_append]
      exact ih hnodup.2 he

/-- No entry, no rows. -/
lemma filter_flatMap_absent (hrows : ∀ e, ∀ r ∈ rows e, key r = f e) {k : κ}
    (hk : k ∉ es.map f) : (es.flatMap rows).filter (fun r => key r == k) = [] := by
  rw [List.filter_eq_nil_iff]
  intro r hr hkey
  obtain ⟨e, he, hr'⟩ := List.mem_flatMap.1 hr
  apply hk
  rw [← beq_iff_eq.1 hkey, hrows e r hr']
  exact List.mem_map_of_mem he

omit [BEq κ] [LawfulBEq κ] in
lemma mapM_eq_ok {ε : Type} {g : α → Except ε β} {h : α → β} (hg : ∀ e ∈ es, g e = .ok (h e)) :
    es.mapM g = .ok (es.map h) := by
  induction es with
  | nil => rfl
  | cons e es ih =>
    rw [List.mapM_cons, hg e List.mem_cons_self,
      ih fun e' he' => hg e' (List.mem_cons_of_mem _ he')]
    rfl

/-- A map is rebuilt from its entries. -/
lemma ofList_toList_map {α β γ : Type} [Ord α] [TransOrd α] [LawfulEqOrd α] [BEq α]
    [LawfulBEqOrd α] (m : ExtTreeMap α β) (f : β → γ) :
    (ExtTreeMap.ofList (m.toList.map fun e => (e.1, f e.2)) : ExtTreeMap α γ) =
      m.map fun _ b => f b := by
  refine ExtTreeMap.ext_getElem? fun k => ?_
  rw [ExtTreeMap.getElem?_map]
  cases hk : m[k]? with
  | none =>
    rw [Option.map_none]
    apply ExtTreeMap.getElem?_ofList_of_contains_eq_false
    rw [List.map_map]
    change (m.toList.map Prod.fst).contains k = false
    rw [ExtTreeMap.map_fst_toList_eq_keys, ExtTreeMap.contains_keys,
      ExtTreeMap.contains_eq_isSome_getElem?, hk, Option.isSome_none]
  | some b =>
    rw [Option.map_some]
    refine ExtTreeMap.getElem?_ofList_of_mem (k := k) ReflCmp.compare_self ?_ ?_
    · rw [List.pairwise_map]
      exact ExtTreeMap.distinct_keys_toList
    · exact List.mem_map.2 ⟨(k, b), ExtTreeMap.mem_toList_iff_getElem?_eq_some.2 hk, rfl⟩

end Rows

/-! ## The board that is stored -/

/-- What the database keeps of a board, next to the settings. -/
structure StoredBoard where
  nextId : ItemId
  items : ExtTreeMap ItemId StoredItem
  stories : ExtTreeMap ItemId (List StoryLine)

namespace StoredBoard

/-- The board in memory. -/
def board (l : StoredBoard) : BoardState :=
  rebuildHotIndexes { BoardState.empty with
    nextId := l.nextId
    items := l.items.map fun _ it => it.toWorkItem
    stories := l.stories }

/-- A card of the board with all its fields. -/
def full (l : StoredBoard) (item : WorkItem) : StoredItem :=
  (l.items[item.id]?).getD ⟨item, none, 0, none, none, none, none⟩

/-- The rows of the cards of the board. -/
def encoding (C : ItemCodec) (l : StoredBoard) : Encoding where
  ItemColumns := ItemColumns
  itemColumns s item := itemToRow C (l.full item) (s.nonRetiredChildCount item.id)
    (s.openBlockerCount item).toNat
  StoryColumns := String × String
  storyColumns line := (C.time.write line.atTime, line.text)

/-- The name of the next id among the settings. -/
def metaNextId : String := "next_id"

/-- The names of the settings, in the order in which they are saved. -/
def metaKeys : List String :=
  ["sandbox_profiles", "openshell_policies", "mcp_servers", "default_sandbox_profile_id",
    "cockpit_sandbox_profile_id", "workspace_binding", "openshell_gateway_endpoint",
    "openshell_auth_mode", "openshell_oidc_config", "openshell_mtls_sealed",
    "openshell_oidc_sealed", "github_app_sealed", "github_app_installation_id", "auth_sealed",
    "auth_allowed_users", "auth_allowed_teams", "agent_runtime", "openshell_providers",
    "openshell_provider_types", "openshell_provider_type_tombstones", "webhook_poll",
    "webhook_poll_tips", "webhook_poll_pr_reviews", "github_repo_access", "cockpit_session"]

/-- What a save sets in `meta`; `settings` has the texts of the settings. -/
def metaEntries (l : StoredBoard) (settings : String → String) : List (String × String) :=
  (metaNextId, toString l.nextId) :: metaKeys.map fun k => (k, settings k)

end StoredBoard

/-- The rows of the database: `items` by id with the parent, and `stories` with their goal, their
position, their instant and their text. -/
structure Rows where
  items : ExtTreeMap ItemId (Option ItemId × ItemColumns)
  itemBlockers : List BlockerRow
  stories : List (ItemId × ℕ × String × String)
  metaValues : ExtTreeMap String String

namespace Rows

variable {C : ItemCodec} {l : StoredBoard}

def toTables (C : ItemCodec) (l : StoredBoard) (r : Rows) : Tables (l.encoding C) where
  items := r.items.map fun _ row => ⟨row.1, row.2⟩
  itemBlockers := r.itemBlockers
  stories := r.stories.map fun row => ⟨row.1, row.2.1, row.2.2⟩
  metaValues := r.metaValues

def ofTables (t : Tables (l.encoding C)) : Rows where
  items := t.items.map fun _ row => (row.parentId, row.columns)
  itemBlockers := t.itemBlockers
  stories := t.stories.map fun row => (row.goalId, row.position, row.columns)
  metaValues := t.metaValues

end Rows

namespace StoredBoard

/-- Replace the rows of the database by those of the board. -/
def save (C : ItemCodec) (l : StoredBoard) (settings : String → String) (r : Rows) :
    Except Constraint Rows :=
  (Tables.saveBoardState l.board (l.metaEntries settings) (r.toTables C l)).map Rows.ofTables

/-! ## Loading -/

/-- The blockers of a card, ordered by id. -/
def loadBlockers (r : Rows) (id : ItemId) : List ItemId :=
  ((r.itemBlockers.filter fun row => row.itemId == id).map BlockerRow.blockerId).mergeSort (· ≤ ·)

/-- The cards, ordered by id. -/
def loadAllItems (C : ItemCodec) (r : Rows) : Except StoreError (List StoredItem) :=
  r.items.toList.mapM fun e => itemFromRow C e.1 e.2.1 e.2.2

/-- Goals first, then positions. -/
def storyOrder (a b : ItemId × ℕ × String × String) : Bool :=
  a.1 < b.1 || (a.1 == b.1 && a.2.1 ≤ b.2.1)

/-- One row of a story is read. -/
def addLine (C : ItemCodec) (stories : ExtTreeMap ItemId (List StoryLine))
    (row : ItemId × ℕ × String × String) :
    Except StoreError (ExtTreeMap ItemId (List StoryLine)) := do
  let atTime ← parseDt C.time "story at" row.2.2.1
  return stories.insert row.1 ((stories[row.1]?).getD [] ++ [⟨atTime, row.2.2.2⟩])

/-- The stories, ordered by goal and position. -/
def loadAllStories (C : ItemCodec) (r : Rows) :
    Except StoreError (ExtTreeMap ItemId (List StoryLine)) :=
  (r.stories.mergeSort storyOrder).foldlM (addLine C) ∅

def getNextId (r : Rows) : Except StoreError ItemId :=
  match r.metaValues[metaNextId]? with
  | some v =>
    match Text.parseU64 v with
    | some n => .ok n
    | none => .error (.parse metaNextId)
  | none => .ok 1

/-- Read the board that is stored. -/
def load (C : ItemCodec) (r : Rows) : Except StoreError StoredBoard := do
  let nextId ← getNextId r
  let items ← loadAllItems C r
  let items := items.map fun it => { it with blockedBy := loadBlockers r it.id }
  let stories ← loadAllStories C r
  return {
    nextId := nextId
    items := ExtTreeMap.ofList (items.map fun it => (it.id, it))
    stories := stories }

end StoredBoard

/-! ## What a load gives -/

/-- The card as it comes back. -/
def StoredItem.restored (it : StoredItem) : StoredItem :=
  { it.stored with blockedBy := it.blockedBy.mergeSort (· ≤ ·) }

namespace StoredBoard

variable {C : ItemCodec} {l : StoredBoard} {settings : String → String} {r r' : Rows}

/-- The board as it comes back. -/
def restored (l : StoredBoard) : StoredBoard where
  nextId := l.nextId
  items := l.items.map fun _ it => it.restored
  stories := l.stories.filter fun k lines => l.items.contains k && !lines.isEmpty

/-- Each card is filed under its id, ids from the next one on are unused, and Tasks are flat. -/
structure Proper (l : StoredBoard) : Prop where
  key : ∀ (k : ItemId) (it : StoredItem), l.items[k]? = some it → it.id = k
  fresh : ∀ (k : ItemId) (it : StoredItem), l.items[k]? = some it → k < l.nextId
  nested : ∀ (k : ItemId) (it : StoredItem) (p : ItemId), l.items[k]? = some it →
    it.parent = some p → ∃ P : StoredItem, l.items[p]? = some P ∧ P.parent = none ∧
      P.level ≠ some "Task"

/-- The texts of the board read back. -/
structure Encoded (C : ItemCodec) (l : StoredBoard) : Prop where
  cards : ∀ (k : ItemId) (it : StoredItem), l.items[k]? = some it → C.Carries it
  lines : ∀ (k : ItemId) (lines : List StoryLine), l.stories[k]? = some lines →
    ∀ line ∈ lines, C.time.Carries line.atTime

lemma board_eq (l : StoredBoard) : l.board.items = l.items.map (fun _ it => it.toWorkItem) ∧
    l.board.nextId = l.nextId ∧ l.board.stories = l.stories := by
  unfold board rebuildHotIndexes
  rw [foldl_indexLinkItem]
  exact ⟨rfl, rfl, rfl⟩

lemma items_board (l : StoredBoard) (k : ItemId) :
    l.board.items[k]? = (l.items[k]?).map StoredItem.toWorkItem := by
  rw [(board_eq l).1, ExtTreeMap.getElem?_map]

namespace Proper

lemma wellFormed (h : l.Proper) : l.board.WellFormed := by
  apply wellFormed_rebuilt
  · intro k i hi
    rw [ExtTreeMap.getElem?_map] at hi
    obtain ⟨it, hit, rfl⟩ := Option.map_eq_some_iff.1 hi
    exact h.key k it hit
  · intro k i hi
    rw [ExtTreeMap.getElem?_map] at hi
    obtain ⟨it, hit, rfl⟩ := Option.map_eq_some_iff.1 hi
    exact h.fresh k it hit

lemma nested_board (h : l.Proper) : l.board.Nested := by
  rw [Nested.iff]
  intro k i p hi hp
  rw [items_board] at hi
  obtain ⟨it, hit, rfl⟩ := Option.map_eq_some_iff.1 hi
  obtain ⟨P, hP, hroot, htask⟩ := h.nested k it p hit hp
  exact ⟨P.toWorkItem, by rw [items_board, hP, Option.map_some], hroot, htask⟩

/-- A card of the board is stored with all its fields. -/
lemma full_eq (h : l.Proper) {k : ItemId} {it : StoredItem} (hit : l.items[k]? = some it) :
    l.full it.toWorkItem = it := by
  unfold full
  rw [h.key k it hit, hit, Option.getD_some]

end Proper

/-- The row of a card. -/
def itemRow (C : ItemCodec) (l : StoredBoard) (it : StoredItem) : Option ItemId × ItemColumns :=
  (it.parent, itemToRow C it (l.board.nonRetiredChildCount it.id)
    (l.board.openBlockerCount it.toWorkItem).toNat)

/-- The rows of a story. -/
def storyRows (C : ItemCodec) (story : ItemId × List StoryLine) :
    List (ItemId × ℕ × String × String) :=
  story.2.zipIdx.map fun line => (story.1, line.2, C.time.write line.1.atTime, line.1.text)

/-- The stories of the cards that are there. -/
def kept (l : StoredBoard) : List (ItemId × List StoryLine) :=
  l.stories.toList.filter fun story => l.items.contains story.1

/-- The rows `r'` are those of the board, with its settings on top of those in `r`. -/
structure Saved (C : ItemCodec) (l : StoredBoard) (settings : String → String) (r r' : Rows) :
    Prop where
  items : r'.items = l.items.map fun _ it => itemRow C l it
  itemBlockers : r'.itemBlockers = l.board.cards.flatMap Tables.blockerRows
  stories : r'.stories = (kept l).flatMap (storyRows C)
  metaValues : r'.metaValues = Tables.metaAfter (l.metaEntries settings) r.metaValues

/-- A save that goes through leaves the rows of the board. -/
lemma saved_of_save (h : l.Proper) (hsave : l.save C settings r = .ok r') :
    Saved C l settings r r' := by
  unfold save at hsave
  cases hrun : Tables.saveBoardState l.board (l.metaEntries settings) (r.toTables C l) with
  | error e =>
    rw [hrun] at hsave
    cases hsave
  | ok t =>
    rw [hrun] at hsave
    cases hsave
    have hsaved := Tables.saved_of_ok h.wellFormed h.nested_board hrun
    refine ⟨ExtTreeMap.ext_getElem? fun k => ?_, hsaved.itemBlockers, ?_, hsaved.metaValues⟩
    · change (t.items.map fun _ row => (row.parentId, row.columns))[k]? = _
      rw [ExtTreeMap.getElem?_map, ExtTreeMap.getElem?_map, hsaved.items, items_board]
      cases hit : l.items[k]? with
      | none => rfl
      | some it =>
        rw [Option.map_some, Option.map_some, Option.map_some, Option.map_some]
        change some (it.parent, itemToRow C (l.full it.toWorkItem) _ _) = some (itemRow C l it)
        rw [h.full_eq hit]
        rfl
    · change t.stories.map (fun row => (row.goalId, row.position, row.columns)) = _
      have hcontains : ∀ k : ItemId, l.board.items.contains k = l.items.contains k := by
        intro k
        rw [ExtTreeMap.contains_eq_isSome_getElem?, ExtTreeMap.contains_eq_isSome_getElem?,
          items_board, Option.isSome_map]
      rw [hsaved.stories, Tables.allStoryRows, List.map_flatMap, (board_eq l).2.2, kept]
      simp only [hcontains]
      refine List.flatMap_congr fun story _ => ?_
      rw [Tables.storyRows, storyRows, List.map_map]
      rfl

/-! ## Loading what was saved -/

lemma metaAfter_of_notMem {entries : List (String × String)} {k : String}
    (hk : k ∉ entries.map Prod.fst) (values : ExtTreeMap String String) :
    (Tables.metaAfter entries values)[k]? = values[k]? := by
  unfold Tables.metaAfter
  induction entries generalizing values with
  | nil => rfl
  | cons e entries ih =>
    rw [List.map_cons, List.mem_cons, not_or] at hk
    rw [List.foldl_cons, ih hk.2, ExtTreeMap.getElem?_insert, if_neg]
    rw [Std.LawfulEqCmp.compare_eq_iff_eq]
    exact Ne.symm hk.1

/-- The rows of one story make up the story. -/
lemma addStory (k : ItemId) {lines : List StoryLine}
    (hlines : ∀ line ∈ lines, C.time.Carries line.atTime) (n : ℕ)
    (stories : ExtTreeMap ItemId (List StoryLine)) :
    ∃ stories', ((lines.zipIdx n).map fun line =>
        (k, line.2, C.time.write line.1.atTime, line.1.text)).foldlM (addLine C) stories =
          .ok stories' ∧
      (lines ≠ [] → stories'[k]? = some ((stories[k]?).getD [] ++ lines)) ∧
      ∀ j, (j = k → lines = []) → stories'[j]? = stories[j]? := by
  induction lines generalizing n stories with
  | nil => exact ⟨stories, rfl, fun h => absurd rfl h, fun _ _ => rfl⟩
  | cons line lines ih =>
    obtain ⟨stories', hrun, hfull, hrest⟩ := ih
      (fun line' hline' => hlines line' (List.mem_cons_of_mem line hline')) (n + 1)
      (stories.insert k ((stories[k]?).getD [] ++ [line]))
    have hline : addLine C stories (k, n, C.time.write line.atTime, line.text) =
        .ok (stories.insert k ((stories[k]?).getD [] ++ [line])) := by
      unfold addLine
      rw [parseDt_write (hlines line List.mem_cons_self)]
      rfl
    refine ⟨stories', ?_, fun _ => ?_, fun j hj => ?_⟩
    · rw [List.zipIdx_cons, List.map_cons, List.foldlM_cons, hline]
      exact hrun
    · by_cases hempty : lines = []
      · rw [hrest k fun _ => hempty, ExtTreeMap.getElem?_insert_self, hempty]
      · rw [hfull hempty, ExtTreeMap.getElem?_insert_self, Option.getD_some, List.append_assoc]
        rfl
    · have hne : j ≠ k := fun heq => absurd (hj heq) (List.cons_ne_nil line lines)
      rw [hrest j fun heq => absurd heq hne, ExtTreeMap.getElem?_insert, if_neg]
      rw [Std.LawfulEqCmp.compare_eq_iff_eq]
      exact Ne.symm hne

/-- The rows of stories of distinct goals make up the stories that have lines. -/
lemma addStories {es : List (ItemId × List StoryLine)}
    (hlines : ∀ e ∈ es, ∀ line ∈ e.2, C.time.Carries line.atTime)
    (hnodup : (es.map Prod.fst).Nodup) {stories : ExtTreeMap ItemId (List StoryLine)}
    (hfree : ∀ e ∈ es, stories[e.1]? = none) :
    ∃ stories', (es.flatMap (storyRows C)).foldlM (addLine C) stories = .ok stories' ∧
      (∀ e ∈ es, e.2 ≠ [] → stories'[e.1]? = some e.2) ∧
      ∀ k, (∀ e ∈ es, e.1 = k → e.2 = []) → stories'[k]? = stories[k]? := by
  induction es generalizing stories with
  | nil =>
    refine ⟨stories, rfl, fun e he => ?_, fun _ _ => rfl⟩
    cases he
  | cons e es ih =>
    rw [List.map_cons, List.nodup_cons] at hnodup
    obtain ⟨stories₁, hrun₁, hfull₁, hrest₁⟩ := addStory e.1 (hlines e List.mem_cons_self) 0 stories
    have hfree₁ : ∀ e' ∈ es, stories₁[e'.1]? = none := by
      intro e' he'
      rw [hrest₁ e'.1 fun heq => absurd (heq ▸ List.mem_map_of_mem he') hnodup.1]
      exact hfree e' (List.mem_cons_of_mem e he')
    obtain ⟨stories₂, hrun₂, hfull₂, hrest₂⟩ := ih
      (fun e' he' => hlines e' (List.mem_cons_of_mem e he')) hnodup.2 hfree₁
    have habsent : ∀ e' ∈ es, e'.1 = e.1 → e'.2 = [] := fun e' he' heq =>
      absurd (heq ▸ List.mem_map_of_mem he') hnodup.1
    refine ⟨stories₂, ?_, fun e' he' hne => ?_, fun k hk => ?_⟩
    · rw [List.flatMap_cons, List.foldlM_append]
      change (((e.2.zipIdx).map _).foldlM (addLine C) stories >>= _) = _
      rw [hrun₁]
      exact hrun₂
    · rcases List.mem_cons.1 he' with rfl | he'
      · rw [hrest₂ e'.1 habsent, hfull₁ hne, hfree e' List.mem_cons_self]
        rfl
      · exact hfull₂ e' he' hne
    · rw [hrest₂ k fun e' he' => hk e' (List.mem_cons_of_mem e he')]
      exact hrest₁ k fun heq => hk e List.mem_cons_self heq.symm

lemma pairwise_zipIdx {α : Type} (xs : List α) (n : ℕ) :
    (xs.zipIdx n).Pairwise fun a b => a.2 < b.2 := by
  induction xs generalizing n with
  | nil => exact List.Pairwise.nil
  | cons x xs ih =>
    rw [List.zipIdx_cons, List.pairwise_cons]
    refine ⟨fun a ha => ?_, ih (n + 1)⟩
    have hle := List.le_snd_of_mem_zipIdx ha
    omega

/-- The rows of the stories are in order. -/
lemma ordered_storyRows (l : StoredBoard) :
    ((kept l).flatMap (storyRows C)).Pairwise fun a b => storyOrder a b = true := by
  rw [List.pairwise_flatMap]
  constructor
  · intro story _
    rw [storyRows, List.pairwise_map]
    refine List.Pairwise.imp (fun {a b} hab => ?_) (pairwise_zipIdx story.2 0)
    simp [storyOrder, hab.le]
  · have hkeys : l.stories.toList.Pairwise fun a b => a.1 < b.1 := by
      refine List.Pairwise.imp (fun {a b} hab => ?_) ExtTreeMap.ordered_keys_toList
      exact compare_lt_iff_lt.1 hab
    refine List.Pairwise.imp (fun {a b} hab => ?_) (hkeys.sublist List.filter_sublist)
    intro x hx y hy
    obtain ⟨_, -, rfl⟩ := List.mem_map.1 hx
    obtain ⟨_, -, rfl⟩ := List.mem_map.1 hy
    simp [storyOrder, hab]

namespace Saved

lemma blockers (h : Saved C l settings r r') (hl : l.Proper) {k : ItemId} {it : StoredItem}
    (hit : l.items[k]? = some it) : loadBlockers r' k = it.blockedBy.mergeSort (· ≤ ·) := by
  have hcard : it.toWorkItem ∈ l.board.cards := by
    rw [mem_cards]
    exact ⟨k, by rw [items_board, hit, Option.map_some]⟩
  have hedges : (l.board.cards.flatMap Tables.blockerRows).filter (fun row => row.itemId == it.id) =
      Tables.blockerRows it.toWorkItem := by
    refine filter_flatMap_key (f := WorkItem.id) (fun e row hrow => ?_)
      hl.wellFormed.nodup_ids hcard
    obtain ⟨bid, -, rfl⟩ := List.mem_map.1 hrow
    rfl
  unfold loadBlockers
  rw [h.itemBlockers, ← hl.key k it hit, hedges, Tables.blockerRows, List.map_map]
  congr 1
  exact List.map_id _

lemma allItems (hC : l.Encoded C) (h : Saved C l settings r r') (hl : l.Proper) :
    loadAllItems C r' = .ok (l.items.toList.map fun e => e.2.stored) := by
  unfold loadAllItems
  rw [h.items, ExtTreeMap.toList_map]
  rw [List.mapM_map]
  refine mapM_eq_ok fun e he => ?_
  have hit : l.items[e.1]? = some e.2 := ExtTreeMap.mem_toList_iff_getElem?_eq_some.1 he
  have hid : e.2.id = e.1 := hl.key e.1 e.2 hit
  change itemFromRow C e.1 e.2.parent (itemToRow C e.2 _ _) = .ok e.2.stored
  rw [← hid]
  exact itemFromRow_itemToRow (hC.cards e.1 e.2 hit) _ _

lemma nextId (h : Saved C l settings r r') (hbound : l.nextId < 2 ^ 64) :
    getNextId r' = .ok l.nextId := by
  have hkeys : metaNextId ∉ (metaKeys.map fun k => (k, settings k)).map Prod.fst := by
    rw [List.map_map]
    change metaNextId ∉ metaKeys.map id
    rw [List.map_id]
    decide
  have hvalue : r'.metaValues[metaNextId]? = some (toString l.nextId) := by
    rw [h.metaValues, metaEntries, Tables.metaAfter, List.foldl_cons]
    rw [← Tables.metaAfter, metaAfter_of_notMem hkeys, ExtTreeMap.getElem?_insert_self]
  unfold getNextId
  rw [hvalue]
  simp only [Text.parseU64_toString hbound]

lemma allStories (hC : l.Encoded C) (h : Saved C l settings r r') :
    loadAllStories C r' = .ok l.restored.stories := by
  have hnodup : ((kept l).map Prod.fst).Nodup := by
    refine List.Nodup.sublist (List.filter_sublist.map Prod.fst) ?_
    rw [ExtTreeMap.map_fst_toList_eq_keys]
    exact ExtTreeMap.nodup_keys
  have hmem : ∀ e : ItemId × List StoryLine, e ∈ kept l ↔
      l.stories[e.1]? = some e.2 ∧ l.items.contains e.1 = true := by
    intro e
    rw [kept, List.mem_filter, ← ExtTreeMap.mem_toList_iff_getElem?_eq_some]
  obtain ⟨stories, hrun, hfull, hrest⟩ := addStories
    (fun e he => hC.lines e.1 e.2 ((hmem e).1 he).1) hnodup fun e _ =>
    (ExtTreeMap.getElem?_empty : (∅ : ExtTreeMap ItemId (List StoryLine))[e.1]? = none)
  unfold loadAllStories
  rw [h.stories, List.mergeSort_of_pairwise (ordered_storyRows l), hrun]
  refine congrArg Except.ok (ExtTreeMap.ext_getElem? fun k => ?_)
  change _ = (l.stories.filter _)[k]?
  rw [ExtTreeMap.getElem?_filter']
  by_cases hlines : ∃ lines, l.stories[k]? = some lines ∧ l.items.contains k = true ∧ lines ≠ []
  · obtain ⟨lines, hstory, hcontains, hne⟩ := hlines
    rw [hfull (k, lines) ((hmem (k, lines)).2 ⟨hstory, hcontains⟩) hne, hstory]
    symm
    simpa [hcontains] using hne
  · rw [hrest k, ExtTreeMap.getElem?_empty]
    · symm
      rw [Option.filter_eq_none_iff]
      intro lines hstory hkeep
      apply hlines
      refine ⟨lines, hstory, ?_⟩
      simpa using hkeep
    · intro e he heq
      subst heq
      obtain ⟨hstory, hcontains⟩ := (hmem e).1 he
      by_contra hne
      exact hlines ⟨e.2, hstory, hcontains, hne⟩

/-- A board that was saved is loaded as it comes back. -/
lemma load (hC : l.Encoded C) (h : Saved C l settings r r') (hl : l.Proper)
    (hbound : l.nextId < 2 ^ 64) : load C r' = .ok l.restored := by
  have hitems : ((l.items.toList.map fun e => e.2.stored).map fun it : StoredItem =>
      { it with blockedBy := loadBlockers r' it.id }).map (fun it => (it.id, it)) =
      l.items.toList.map fun e => (e.1, e.2.restored) := by
    rw [List.map_map, List.map_map]
    refine List.map_congr_left fun e he => ?_
    have hit : l.items[e.1]? = some e.2 := ExtTreeMap.mem_toList_iff_getElem?_eq_some.1 he
    have hid : e.2.id = e.1 := hl.key e.1 e.2 hit
    change (e.2.id, { e.2.stored with blockedBy := loadBlockers r' e.2.id }) = _
    rw [hid, h.blockers hl hit]
    rfl
  unfold StoredBoard.load
  rw [h.nextId hbound, h.allItems hC hl, h.allStories hC]
  change Except.ok _ = _
  rw [hitems, ofList_toList_map]
  rfl

end Saved

end StoredBoard

/-! ## Healing -/

namespace StoredItem

/-- An old Initial plan left in Shaping goes back to Backlog. -/
def heal (it : StoredItem) : StoredItem :=
  let it := it.migrateLegacyPrUrl
  if it.isInitialPlanTask && it.state == .shaping then { it with state := .backlog } else it

end StoredItem

namespace StoredBoard

/-- The cards with the old title of Initial plans, and their new titles. -/
def renameTo (l : StoredBoard) : List (ItemId × String) :=
  ((l.items.toList.map Prod.snd).filter fun i => i.title == initialPlanTitleLegacy).filterMap
    fun i => i.parent.bind fun parent => (l.items[parent]?).map fun P =>
      (i.id, initialPlanTitle P.title)

/-- One card is renamed. -/
def rename (items : ExtTreeMap ItemId StoredItem) (e : ItemId × String) :
    ExtTreeMap ItemId StoredItem :=
  match items[e.1]? with
  | some item => items.insert e.1 { item with title := e.2 }
  | none => items

/-- Apply legacy renames on load. -/
def healLoadedState (l : StoredBoard) : StoredBoard :=
  { l with items := (l.renameTo.foldl rename l.items).map fun _ it => it.heal }

/-- Start the program on the rows of a database. -/
def boot (C : ItemCodec) (r : Rows) : Except StoreError StoredBoard :=
  (load C r).map healLoadedState

/-- The new title of a card. -/
def healedTitle (l : StoredBoard) (it : StoredItem) : String :=
  if it.title = initialPlanTitleLegacy then
    ((it.parent.bind fun p => l.items[p]?).map fun P => initialPlanTitle P.title).getD it.title
  else it.title

/-- A card after the healing. -/
def healed (l : StoredBoard) (it : StoredItem) : StoredItem :=
  StoredItem.heal { it with title := healedTitle l it }

end StoredBoard

namespace StoredBoard

variable {C : ItemCodec} {l : StoredBoard} {settings : String → String} {r r' : Rows}

lemma foldl_rename {es : List (ItemId × String)} (hnodup : (es.map Prod.fst).Nodup)
    (items : ExtTreeMap ItemId StoredItem) (k : ItemId) :
    (es.foldl rename items)[k]? = (items[k]?).map fun it : StoredItem =>
      { it with title := (es.lookup k).getD it.title } := by
  induction es generalizing items with
  | nil =>
    rw [List.foldl_nil]
    cases items[k]? <;> rfl
  | cons e es ih =>
    rw [List.map_cons, List.nodup_cons] at hnodup
    rw [List.foldl_cons, ih hnodup.2, List.lookup_cons]
    have hget : (rename items e)[k]? = (items[k]?).map fun it : StoredItem =>
        if k = e.1 then { it with title := e.2 } else it := by
      unfold rename
      split
      · rename_i item hitem
        rw [ExtTreeMap.getElem?_insert]
        by_cases hk : k = e.1
        · subst hk
          rw [if_pos ReflCmp.compare_self, hitem]
          simp
        · rw [if_neg]
          · simp [hk]
          · rw [Std.LawfulEqCmp.compare_eq_iff_eq]
            exact Ne.symm hk
      · rename_i hitem
        by_cases hk : k = e.1
        · subst hk
          rw [hitem]
          rfl
        · simp [hk]
    rw [hget, Option.map_map]
    by_cases hk : k = e.1
    · subst hk
      have hnone : es.lookup e.1 = none := by
        rw [List.lookup_eq_none_iff]
        intro p hp
        rw [bne_iff_ne, ne_eq]
        intro heq
        apply hnodup.1
        rw [heq]
        exact List.mem_map_of_mem hp
      cases items[e.1]? with
      | none => rfl
      | some it => simp [hnone]
    · have hne : (k == e.1) = false := beq_false_of_ne hk
      cases items[k]? with
      | none => rfl
      | some it => simp [hk, hne]

lemma mem_renameTo {e : ItemId × String} : e ∈ l.renameTo ↔
    ∃ (k : ItemId) (it : StoredItem), l.items[k]? = some it ∧ it.title = initialPlanTitleLegacy ∧
      ∃ (p : ItemId) (P : StoredItem), it.parent = some p ∧ l.items[p]? = some P ∧
        e = (it.id, initialPlanTitle P.title) := by
  unfold renameTo
  simp only [List.mem_filterMap, List.mem_filter, List.mem_map, Option.bind_eq_some_iff,
    Option.map_eq_some_iff, beq_iff_eq]
  constructor
  · rintro ⟨it, ⟨⟨⟨k, it'⟩, hmem, rfl⟩, htitle⟩, p, hp, P, hP, rfl⟩
    exact ⟨k, it', ExtTreeMap.mem_toList_iff_getElem?_eq_some.1 hmem, htitle, p, P, hp, hP, rfl⟩
  · rintro ⟨k, it, hit, htitle, p, P, hp, hP, rfl⟩
    exact ⟨it, ⟨⟨(k, it), ExtTreeMap.mem_toList_iff_getElem?_eq_some.2 hit, rfl⟩, htitle⟩, p, hp, P,
      hP, rfl⟩

lemma nodup_renameTo (hl : l.Proper) : (l.renameTo.map Prod.fst).Nodup := by
  have hids : ((l.items.toList.map Prod.snd).map fun it => it.id).Nodup := by
    have heq : (l.items.toList.map Prod.snd).map (fun it => it.id) =
        l.items.toList.map Prod.fst := by
      rw [List.map_map]
      refine List.map_congr_left fun e he => ?_
      exact hl.key e.1 e.2 (ExtTreeMap.mem_toList_iff_getElem?_eq_some.1 he)
    rw [heq, ExtTreeMap.map_fst_toList_eq_keys]
    exact ExtTreeMap.nodup_keys
  have hnames : ∀ its : List StoredItem, List.Sublist
      ((its.filterMap fun i => i.parent.bind fun parent => (l.items[parent]?).map fun P =>
        (i.id, initialPlanTitle P.title)).map Prod.fst) (its.map fun it => it.id) := by
    intro its
    induction its with
    | nil => exact List.Sublist.slnil
    | cons it its ih =>
      rw [List.filterMap_cons, List.map_cons]
      split
      · exact ih.cons _
      · rename_i e he
        obtain ⟨p, -, he⟩ := Option.bind_eq_some_iff.1 he
        obtain ⟨P, -, rfl⟩ := Option.map_eq_some_iff.1 he
        rw [List.map_cons]
        exact ih.cons_cons _
  exact hids.sublist ((hnames _).trans (List.filter_sublist.map _))

/-- The titles of `renameTo` are those that the cards get. -/
lemma lookup_renameTo (hl : l.Proper) {k : ItemId} {it : StoredItem} (hit : l.items[k]? = some it) :
    (l.renameTo.lookup k).getD it.title = healedTitle l it := by
  have hid : it.id = k := hl.key k it hit
  by_cases hnamed : ∃ e ∈ l.renameTo, e.1 = k
  · obtain ⟨e, he, rfl⟩ := hnamed
    obtain ⟨k', it', hit', htitle, p, P, hp, hP, rfl⟩ := mem_renameTo.1 he
    have hk : k' = it'.id := (hl.key k' it' hit').symm
    obtain rfl : it' = it := by
      rw [hk, hit] at hit'
      exact (Option.some.inj hit').symm
    rw [Board.lookup_of_mem (nodup_renameTo hl) he, healedTitle, if_pos htitle, hp,
      Option.bind_some, hP]
    rfl
  · have hnone : l.renameTo.lookup k = none := by
      rw [List.lookup_eq_none_iff]
      intro e he
      rw [bne_iff_ne, ne_eq]
      intro heq
      exact hnamed ⟨e, he, heq.symm⟩
    rw [hnone, Option.getD_none, healedTitle]
    split
    · rename_i htitle
      cases hparent : it.parent with
      | none => rfl
      | some p =>
        rw [Option.bind_some]
        cases hP : l.items[p]? with
        | none => rfl
        | some P =>
          refine absurd ?_ hnamed
          exact ⟨_, mem_renameTo.2 ⟨k, it, hit, htitle, p, P, hparent, hP, rfl⟩, hid⟩
    · rfl

/-- Every card is healed. -/
lemma items_healLoadedState (hl : l.Proper) (k : ItemId) :
    l.healLoadedState.items[k]? = (l.items[k]?).map (healed l) := by
  change ((l.renameTo.foldl rename l.items).map fun _ it => it.heal)[k]? = _
  rw [ExtTreeMap.getElem?_map, foldl_rename (nodup_renameTo hl)]
  cases hit : l.items[k]? with
  | none => rfl
  | some it =>
    rw [Option.map_some, Option.map_some, Option.map_some, lookup_renameTo hl hit]
    rfl

end StoredBoard

/-! ## Loading what was loaded -/

/-- Normal remotes are normal. -/
lemma RepoConfig.normalized_normalized (r : RepoConfig) :
    r.normalized.normalized = r.normalized := by
  have hbase : (if isBlank (if isBlank r.base then "main" else r.base) then "main"
      else if isBlank r.base then "main" else r.base) =
        if isBlank r.base then "main" else r.base := by
    by_cases hblank : isBlank r.base = true
    · rw [if_pos hblank, ite_self]
    · rw [if_neg hblank, if_neg hblank]
  unfold normalized
  rw [trim_trim, trim_trim, hbase]

/-- Remotes that are usable stay so. -/
lemma RepoConfig.filter_normalized (o : Option RepoConfig) :
    (((o.map RepoConfig.normalized).filter RepoConfig.isComplete).map
        RepoConfig.normalized).filter RepoConfig.isComplete =
      (o.map RepoConfig.normalized).filter RepoConfig.isComplete := by
  cases o with
  | none => rfl
  | some r =>
    rw [Option.map_some, Option.filter_some]
    split
    · rename_i hcomplete
      rw [Option.map_some, normalized_normalized, Option.filter_some, if_pos hcomplete]
    · rfl

namespace StoredItem

/-- A card that came back comes back as it is, under any title and in any state. -/
lemma restored_restored (it : StoredItem) (title : String) (state : State) :
    ({ it.restored with title := title, state := state } : StoredItem).restored =
      { it.restored with title := title, state := state } := by
  have hblockers : (it.blockedBy.mergeSort (· ≤ ·)).mergeSort (· ≤ ·) =
      it.blockedBy.mergeSort (· ≤ ·) := by
    apply List.mergeSort_of_pairwise
    refine List.Pairwise.imp (fun {a b} hab => ?_) (List.pairwise_mergeSort' (· ≤ ·) it.blockedBy)
    exact decide_eq_true hab
  have hrepo : (if it.isProject then none
        else ((if it.isProject then none
          else (it.repo.map RepoConfig.normalized).filter RepoConfig.isComplete).map
            RepoConfig.normalized).filter RepoConfig.isComplete) =
      if it.isProject then none
        else (it.repo.map RepoConfig.normalized).filter RepoConfig.isComplete := by
    split
    · rfl
    · exact RepoConfig.filter_normalized it.repo
  change ({ it.restored with
    title := title
    state := state
    blockedBy := (it.blockedBy.mergeSort (· ≤ ·)).mergeSort (· ≤ ·)
    repo := if it.isProject then none
      else ((if it.isProject then none
        else (it.repo.map RepoConfig.normalized).filter RepoConfig.isComplete).map
          RepoConfig.normalized).filter RepoConfig.isComplete } : StoredItem) = _
  rw [hblockers, hrepo]
  rfl

/-- What the healing changes of a card that came back. -/
lemma heal_restored (it : StoredItem) (title : String) :
    ∃ state, ({ it.restored with title := title } : StoredItem).heal =
        { it.restored with title := title, state := state } ∧
      ({ it.restored with title := title, state := state } : StoredItem).heal =
        { it.restored with title := title, state := state } := by
  have hheal : ∀ state, ({ it.restored with title := title, state := state } : StoredItem).heal =
      if ({ it.restored with title := title, state := state } : StoredItem).isInitialPlanTask &&
          state == .shaping then
        { it.restored with title := title, state := .backlog }
      else { it.restored with title := title, state := state } := fun _ => rfl
  have hown := hheal it.state
  by_cases hshaping : (({ it.restored with title := title, state := it.state } :
      StoredItem).isInitialPlanTask && it.state == .shaping) = true
  · rw [if_pos hshaping] at hown
    refine ⟨.backlog, hown, ?_⟩
    rw [hheal, if_neg]
    rw [Bool.and_eq_true]
    rintro ⟨-, h⟩
    cases h
  · rw [if_neg hshaping] at hown
    exact ⟨it.state, hown, hown⟩

end StoredItem

namespace StoredBoard

variable {C : ItemCodec} {l m : StoredBoard} {settings settings' : String → String}
  {r r' r₁ : Rows}

section Mapped

variable {f : StoredItem → StoredItem} (hnext : m.nextId = l.nextId)
  (hitems : ∀ k : ItemId, m.items[k]? = (l.items[k]?).map f)

include hnext hitems in
/-- Cards may change as long as their ids, parents and levels do not. -/
lemma Proper.mapped (hl : l.Proper)
    (hf : ∀ it, (f it).id = it.id ∧ (f it).parent = it.parent ∧ (f it).level = it.level) :
    m.Proper := by
  refine ⟨fun k j hj => ?_, fun k j hj => ?_, fun k j p hj hp => ?_⟩
  all_goals
    rw [hitems] at hj
    obtain ⟨it, hit, rfl⟩ := Option.map_eq_some_iff.1 hj
  · rw [(hf it).1, hl.key k it hit]
  · rw [hnext]
    exact hl.fresh k it hit
  · rw [(hf it).2.1] at hp
    obtain ⟨P, hP, hroot, htask⟩ := hl.nested k it p hit hp
    refine ⟨f P, by rw [hitems, hP, Option.map_some], ?_, ?_⟩
    · rw [(hf P).2.1, hroot]
    · rw [(hf P).2.2]
      exact htask

include hitems in
/-- Blockers may be reordered. -/
lemma linkable_mapped (hl : l.board.Linkable)
    (hf : ∀ it, (f it).blockedBy.Perm it.blockedBy) : m.board.Linkable := by
  intro k j hj
  rw [items_board, hitems] at hj
  obtain ⟨j', hj', rfl⟩ := Option.map_eq_some_iff.1 hj
  obtain ⟨it, hit, rfl⟩ := Option.map_eq_some_iff.1 hj'
  have hboard : l.board.items[k]? = some it.toWorkItem := by
    rw [items_board, hit, Option.map_some]
  obtain ⟨hnodup, hblockers⟩ := hl k it.toWorkItem hboard
  refine ⟨(hf it).nodup_iff.2 hnodup, fun bid hbid => ?_⟩
  obtain ⟨b, hb⟩ := hblockers bid ((hf it).mem_iff.1 hbid)
  rw [items_board] at hb
  obtain ⟨b', hb', -⟩ := Option.map_eq_some_iff.1 hb
  exact ⟨(f b').toWorkItem, by rw [items_board, hitems, hb', Option.map_some, Option.map_some]⟩

end Mapped

lemma items_restored (l : StoredBoard) (k : ItemId) :
    l.restored.items[k]? = (l.items[k]?).map StoredItem.restored := by
  change (l.items.map fun _ it => it.restored)[k]? = _
  rw [ExtTreeMap.getElem?_map]

lemma Proper.restored (hl : l.Proper) : l.restored.Proper :=
  Proper.mapped (l := l) rfl (items_restored l) hl fun _ => ⟨rfl, rfl, rfl⟩

/-- The board after a restart. -/
def restarted (l : StoredBoard) : StoredBoard :=
  l.restored.healLoadedState

/-- A card after a restart: only its title and its state differ from what came back. -/
lemma healed_restored (l : StoredBoard) (it : StoredItem) :
    ∃ title state, healed l it.restored = { it.restored with title := title, state := state } ∧
      title = healedTitle l it.restored ∧
      ({ it.restored with title := title, state := state } : StoredItem).heal =
        { it.restored with title := title, state := state } := by
  obtain ⟨state, hheal, hagain⟩ := it.heal_restored (healedTitle l it.restored)
  exact ⟨_, state, hheal, rfl, hagain⟩

lemma items_restarted (hl : l.Proper) (k : ItemId) :
    l.restarted.items[k]? = (l.items[k]?).map fun it => healed l.restored it.restored := by
  unfold restarted
  rw [items_healLoadedState hl.restored, items_restored, Option.map_map]
  rfl

lemma Proper.restarted (hl : l.Proper) : l.restarted.Proper := by
  refine Proper.mapped (l := l) rfl (items_restarted hl) hl fun it => ?_
  obtain ⟨title, state, heq, -⟩ := healed_restored l.restored it
  rw [heq]
  exact ⟨rfl, rfl, rfl⟩

lemma linkable_restarted (hl : l.Proper) (h : l.board.Linkable) : l.restarted.board.Linkable := by
  refine linkable_mapped (items_restarted hl) h fun it => ?_
  obtain ⟨title, state, heq, -⟩ := healed_restored l.restored it
  rw [heq]
  exact List.mergeSort_perm it.blockedBy _

/-- Nothing of a board that was loaded is lost in the rows. -/
lemma restored_restarted (hl : l.Proper) : l.restarted.restored = l.restarted := by
  have hitems : l.restarted.restored.items = l.restarted.items := by
    refine ExtTreeMap.ext_getElem? fun k => ?_
    rw [items_restored, items_restarted hl, Option.map_map]
    refine Option.map_congr fun it _ => ?_
    obtain ⟨title, state, heq, -⟩ := healed_restored l.restored it
    rw [Function.comp_apply, heq]
    exact it.restored_restored title state
  have hstories : l.restarted.restored.stories = l.restarted.stories := by
    refine ExtTreeMap.ext_getElem? fun k => ?_
    change ((l.stories.filter fun k lines => l.items.contains k && !lines.isEmpty).filter
      fun k lines => l.restarted.items.contains k && !lines.isEmpty)[k]? =
      (l.stories.filter fun k lines => l.items.contains k && !lines.isEmpty)[k]?
    have hcontains : l.restarted.items.contains k = l.items.contains k := by
      rw [ExtTreeMap.contains_eq_isSome_getElem?, ExtTreeMap.contains_eq_isSome_getElem?,
        items_restarted hl, Option.isSome_map]
    rw [ExtTreeMap.getElem?_filter', hcontains, ExtTreeMap.getElem?_filter', Option.filter_filter]
    simp
  exact congrArg₂ (fun items stories => StoredBoard.mk l.nextId items stories) hitems hstories

lemma initialPlanTitle_ne_legacy (title : String) :
    initialPlanTitle title ≠ initialPlanTitleLegacy := by
  intro h
  have hlength := congrArg String.length h
  unfold initialPlanTitle initialPlanTitleLegacy initialPlanTitlePrefix at hlength
  rw [String.length_append] at hlength
  have hleft : "Initial Plan for ".length = 17 := by decide
  have hright : "Initial plan".length = 12 := by decide
  omega

/-- A healed title is not renamed again. -/
lemma healedTitle_restarted (hl : l.Proper) (it : StoredItem) {title : String} (state : State)
    (htitle : title = healedTitle l.restored it.restored) :
    healedTitle l.restarted { it.restored with title := title, state := state } = title := by
  unfold healedTitle
  by_cases hlegacy : title = initialPlanTitleLegacy
  · rw [if_pos hlegacy]
    change ((it.parent.bind fun p => l.restarted.items[p]?).map fun P =>
      initialPlanTitle P.title).getD title = title
    cases hparent : it.parent with
    | none => rfl
    | some p =>
      rw [Option.bind_some, items_restarted hl]
      cases hP : l.items[p]? with
      | none => rfl
      | some P =>
        -- The parent is there, so the card was renamed.
        exfalso
        have hname : it.title = initialPlanTitleLegacy := by
          by_contra hne
          apply hne
          have hkeep : healedTitle l.restored it.restored = it.title := if_neg hne
          rw [← hlegacy, htitle, hkeep]
        have hrename : healedTitle l.restored it.restored =
            ((it.parent.bind fun p => l.restored.items[p]?).map fun P =>
              initialPlanTitle P.title).getD it.title := if_pos hname
        rw [hrename] at htitle
        rw [hparent, Option.bind_some, items_restored, hP] at htitle
        exact initialPlanTitle_ne_legacy _ (htitle.symm.trans hlegacy)
  · rw [if_neg hlegacy]

/-- Healing twice is healing once. -/
lemma heal_restarted (hl : l.Proper) : l.restarted.healLoadedState = l.restarted := by
  have hitems : l.restarted.healLoadedState.items = l.restarted.items := by
    refine ExtTreeMap.ext_getElem? fun k => ?_
    rw [items_healLoadedState hl.restarted, items_restarted hl, Option.map_map]
    refine Option.map_congr fun it hit => ?_
    obtain ⟨title, state, heq, htitle, hagain⟩ := healed_restored l.restored it
    rw [Function.comp_apply, heq]
    unfold healed
    rw [healedTitle_restarted hl it state htitle]
    exact hagain
  exact congrArg (fun items => { l.restarted with items := items }) hitems

/-! ## Restarting -/

/-- The rows of a saved board boot as the board after a restart. -/
lemma boot_saved (hC : l.Encoded C) (hl : l.Proper) (hbound : l.nextId < 2 ^ 64)
    (hsave : l.save C settings r = .ok r') : boot C r' = .ok l.restarted := by
  unfold boot
  rw [(saved_of_save hl hsave).load hC hl hbound]
  rfl

/-- A save goes through, if no card lists a blocker twice or one that is not there. -/
lemma exists_save (hl : l.Proper) :
    (∃ r', l.save C settings r = .ok r') ↔ l.board.Linkable := by
  rw [← Tables.saveBoardState_accepted_iff hl.wellFormed hl.nested_board (l.metaEntries settings)
    (r.toTables C l)]
  unfold save
  constructor
  · rintro ⟨r', h⟩
    cases hrun : Tables.saveBoardState l.board (l.metaEntries settings) (r.toTables C l) with
    | error e =>
      rw [hrun] at h
      cases h
    | ok t => exact ⟨t, rfl⟩
  · rintro ⟨t, h⟩
    exact ⟨Rows.ofTables t, by rw [h]; rfl⟩

/-- A setting that is saved is found in the rows. -/
lemma metaValues_saved (h : Saved C l settings r r') {k : String} (hk : k ∈ metaKeys) :
    r'.metaValues[k]? = some (settings k) := by
  rw [h.metaValues, metaEntries, Tables.metaAfter, List.foldl_cons, ← Tables.metaAfter]
  have hnodup : metaKeys.Nodup := by decide
  generalize r.metaValues.insert metaNextId (toString l.nextId) = values
  generalize metaKeys = keys at hk hnodup
  induction keys generalizing values with
  | nil => cases hk
  | cons k' keys ih =>
    rw [List.nodup_cons] at hnodup
    rw [List.map_cons, Tables.metaAfter, List.foldl_cons, ← Tables.metaAfter]
    rcases List.mem_cons.1 hk with rfl | hk
    · rw [metaAfter_of_notMem, ExtTreeMap.getElem?_insert_self]
      rw [List.map_map]
      change k ∉ keys.map id
      rw [List.map_id]
      exact hnodup.1
    · exact ih _ hk hnodup.2

/-- The stored board has the cards, the next id and the stories of the board in memory. -/
structure Stores (l : StoredBoard) (s : BoardState) : Prop where
  items : ∀ k : ItemId, (l.items[k]?).map StoredItem.toWorkItem = s.items[k]?
  nextId : l.nextId = s.nextId
  stories : l.stories = s.stories

namespace Stores

variable {s : BoardState}

lemma proper (h : l.Stores s) (hs : s.WellFormed) (hn : s.Nested) : l.Proper := by
  have hcard : ∀ (k : ItemId) (it : StoredItem), l.items[k]? = some it →
      s.items[k]? = some it.toWorkItem := by
    intro k it hit
    rw [← h.items, hit, Option.map_some]
  refine ⟨fun k it hit => ?_, fun k it hit => ?_, fun k it p hit hp => ?_⟩
  · exact hs.key k it.toWorkItem (hcard k it hit)
  · rw [h.nextId]
    exact hs.fresh k it.toWorkItem (hcard k it hit)
  · obtain ⟨P, hP, hroot, htask⟩ := Nested.iff.1 hn k it.toWorkItem p (hcard k it hit) hp
    rw [← h.items] at hP
    obtain ⟨P', hP', rfl⟩ := Option.map_eq_some_iff.1 hP
    exact ⟨P', hP', hroot, htask⟩

end Stores

/-- The texts of what came back are those of the board after the restart. -/
lemma encoded_restarted (hl : l.Proper) (hC : l.restored.Encoded C) : l.restarted.Encoded C := by
  constructor
  · intro k j hj
    rw [items_restarted hl] at hj
    obtain ⟨it, hit, rfl⟩ := Option.map_eq_some_iff.1 hj
    obtain ⟨title, state, heq, -⟩ := healed_restored l.restored it
    have hcarries : C.Carries it.restored :=
      hC.cards k it.restored (by rw [items_restored, hit, Option.map_some])
    rw [heq]
    -- Neither the title nor the state is among the texts.
    exact ⟨hcarries.createdAt, hcarries.enteredStateAt, hcarries.runDeadlineAt, hcarries.origin,
      hcarries.lease, hcarries.escalation, hcarries.gates, hcarries.notes, hcarries.history,
      hcarries.plan, hcarries.proposal, hcarries.extras⟩
  · exact hC.lines

/-- A board of cards without the fields that only rows use. -/
def ofBoard (s : BoardState) : StoredBoard where
  nextId := s.nextId
  items := s.items.map fun _ item => ⟨item, none, 0, none, none, none, none⟩
  stories := s.stories

lemma stores_ofBoard (s : BoardState) : (ofBoard s).Stores s := by
  refine ⟨fun k => ?_, rfl, rfl⟩
  change ((s.items.map fun _ item => _)[k]?).map _ = _
  rw [ExtTreeMap.getElem?_map, Option.map_map]
  cases s.items[k]? <;> rfl

/-- Every card of the list is encoded. -/
lemma encoded_of_forall (hcards : ∀ e ∈ l.items.toList, C.Carries e.2)
    (hlines : ∀ e ∈ l.stories.toList, ∀ line ∈ e.2, C.time.Carries line.atTime) :
    l.Encoded C := by
  constructor
  · intro k it hit
    exact hcards (k, it) (ExtTreeMap.mem_toList_iff_getElem?_eq_some.2 hit)
  · intro k lines hstory
    exact hlines (k, lines) (ExtTreeMap.mem_toList_iff_getElem?_eq_some.2 hstory)

/-- A board without edges can be saved. -/
lemma linkable_of_unblocked (h : ∀ e ∈ l.items.toList, e.2.blockedBy = []) :
    l.board.Linkable := by
  intro k i hi
  rw [items_board] at hi
  obtain ⟨it, hit, rfl⟩ := Option.map_eq_some_iff.1 hi
  have hnone : it.blockedBy = [] := h (k, it) (ExtTreeMap.mem_toList_iff_getElem?_eq_some.2 hit)
  rw [hnone]
  exact ⟨List.nodup_nil, fun bid hbid => absurd hbid List.not_mem_nil⟩

section Unicode

variable [UnicodeTables]

/-- Whatever a run did, and whatever was in the database: if the save of its board goes through,
the program starts again on the board as it comes back, healed, with the settings that were saved,
and a further save and restart change nothing. -/
theorem restart_exact (schema : Schema) (clock : ℕ → ℕ → Time) (saveSucceeds : ℕ → Bool)
    (ops : List Operation) (hstores : l.Stores (Board.reached schema clock saveSucceeds ops))
    (hC : l.Encoded C) (hback : l.restored.Encoded C) (hbound : l.nextId < 2 ^ 64)
    (hsave : l.save C settings r = .ok r') :
    boot C r' = .ok l.restarted ∧ (∀ k ∈ metaKeys, r'.metaValues[k]? = some (settings k)) ∧
      ∀ settings' r₁, ∃ r₂, l.restarted.save C settings' r₁ = .ok r₂ ∧
        boot C r₂ = .ok l.restarted := by
  have hl : l.Proper := hstores.proper (Board.wellFormed_reached _ _ _ _)
    (Board.nested_after (Board.sound_new _ _ _) Nested.empty _)
  have hlinkable : l.board.Linkable := (exists_save hl).1 ⟨r', hsave⟩
  refine ⟨boot_saved hC hl hbound hsave, fun k hk => ?_, fun settings' r₁ => ?_⟩
  · exact metaValues_saved (saved_of_save hl hsave) hk
  · obtain ⟨r₂, hagain⟩ : ∃ r₂, l.restarted.save C settings' r₁ = .ok r₂ :=
      (exists_save hl.restarted).2 (linkable_restarted hl hlinkable)
    have hboot := boot_saved (encoded_restarted hl hback) hl.restarted hbound hagain
    have hsame : l.restarted.restarted = l.restarted := by
      rw [restarted, restored_restarted hl, heal_restarted hl]
    rw [hsame] at hboot
    exact ⟨r₂, hagain, hboot⟩

end Unicode

/-- A run that creates a Project, with the Initial plan of the Project. -/
def plannedRun : List Operation :=
  [.create ⟨none, "Docs", "why", none, .human, false, none⟩]

/-- The texts of the cards of that run. -/
def plannedCodec : ItemCodec where
  time := .table [(0, "1970-01-01T00:00:00+00:00")]
  origin := .table [(.human, "\x7b\"kind\":\"human\"\x7d"),
    (.planner, "\x7b\"kind\":\"planner\"\x7d")]
  lease := .table []
  escalation := .table []
  gates := .table [([], "[]")]
  notes := .table [([], "[]")]
  history := .table [([], "[]"),
    ([⟨0, .draft, .shaping, "operator", some "init plan"⟩,
      ⟨0, .shaping, .backlog, "operator", some "init plan"⟩],
    "[\x7b\"at\":\"1970-01-01T00:00:00Z\",\"from\":\"draft\",\"to\":\"shaping\"," ++
      "\"by\":\"operator\",\"reason\":\"init plan\"\x7d," ++
      "\x7b\"at\":\"1970-01-01T00:00:00Z\",\"from\":\"shaping\",\"to\":\"backlog\"," ++
      "\"by\":\"operator\",\"reason\":\"init plan\"\x7d]")]
  plan := .table []
  proposal := .table []
  extras := .table [(ItemExtras.default,
    "\x7b\"engine\":null,\"model\":null,\"progress\":0.0,\"gate_failures\":0," ++
      "\"run_failures\":0,\"diff_added\":0,\"diff_removed\":0,\"project_prompt\":null," ++
      "\"sandbox_profile_id\":null,\"auto_dispatch\":false,\"last_bounce_reason\":null," ++
      "\"last_conflict_files\":[],\"release_target\":null,\"environment\":null," ++
      "\"conversation_id\":null,\"beads_id\":null,\"github_issue_url\":null," ++
      "\"pull_requests\":[],\"pull_request\":null,\"pr_url\":null,\"repo\":null\x7d")]

set_option maxRecDepth 100000 in
/-- The Project and its Initial plan come back. -/
theorem restart_exact_planned :
    let := asciiTables
    let l := ofBoard (Board.reached Schema.default (fun _ _ => 0) (fun _ => true) plannedRun)
    ∃ r', l.save plannedCodec (fun _ => "") ⟨∅, [], [], ∅⟩ = .ok r' ∧
      boot plannedCodec r' = .ok l.restarted ∧ (∀ k ∈ metaKeys, r'.metaValues[k]? = some "") ∧
        ∀ settings' r₁, ∃ r₂, l.restarted.save plannedCodec settings' r₁ = .ok r₂ ∧
          boot plannedCodec r₂ = .ok l.restarted := by
  intro tables l
  have hl : l.Proper := (stores_ofBoard _).proper (Board.wellFormed_reached _ _ _ _)
    (Board.nested_after (Board.sound_new _ _ _) Nested.empty _)
  obtain ⟨r', hsave⟩ : ∃ r', l.save plannedCodec (fun _ => "") ⟨∅, [], [], ∅⟩ = .ok r' :=
    (exists_save hl).2 (linkable_of_unblocked (by decide +kernel))
  refine ⟨r', hsave, ?_⟩
  have hC : l.Encoded plannedCodec :=
    encoded_of_forall (by decide +kernel) (by decide +kernel)
  have hback : l.restored.Encoded plannedCodec :=
    encoded_of_forall (by decide +kernel) (by decide +kernel)
  exact restart_exact Schema.default (fun _ _ => 0) (fun _ => true) plannedRun (stores_ofBoard _)
    hC hback (by decide +kernel) hsave

end StoredBoard

end Sandboard

import Sandboard.Prose
import Sandboard.Store.Emission
import Sandboard.Store.Nesting

/-!
# What is stamped is read back

A new Project names its clone target in its intent, its Initial plan repeats what the Project names,
and a new Task repeats it where its own prose names none.  `readsBack_iff` says for which Projects
both stamps are read back as the name that was given, and `parse_taskIntent` that the stamp of a Task
never is: the full stop behind it is read as a part of the name.
-/

namespace Sandboard

open Std Text

variable [UnicodeTables]

/-! ## Stamps -/

/-- What the standing line says behind the name. -/
def proseTail : List Char :=
  " into /sandbox/repo for planning and as the default Task clone target.".toList

/-- What the intent of an Initial plan says behind the title of the Project. -/
def planTail (clone : String) : List Char :=
  ("»: write " ++
    ("/sandbox/.sandboard/plan.json (summary + tasks with key, title, intent, " ++
    "definition_of_done, optional blocked_by_keys). In each task's intent and/or DoD, name " ++
    s!"the exact repository to clone (default `{clone}` unless a task targets another repo). " ++
    "Do **not** open a PR. Do not write split.json. Card goes to Review — human Approve " ++
    "creates those Tasks.")).toList

omit [UnicodeTables] in
lemma cloneRepoProseLine_eq (clone : String) :
    cloneRepoProseLine clone =
      String.ofList ("Clone repository: ".toList ++ (clone.toList ++ proseTail)) := by
  refine String.toList_injective ?_
  rw [String.toList_ofList]
  unfold cloneRepoProseLine
  rw [String.toList_append, String.toList_append, String.toList_append, List.append_assoc,
    List.append_assoc]
  rfl

omit [UnicodeTables] in
lemma initialPlanIntent_eq (title clone : String) :
    Board.initialPlanIntent title (some clone) =
      String.ofList ("Clone repository: ".toList ++ (clone.toList ++ (proseTail ++
        (" Propose sibling Tasks for «".toList ++ (title.toList ++ planTail clone))))) := by
  refine String.toList_injective ?_
  rw [String.toList_ofList]
  unfold Board.initialPlanIntent planTail
  simp only [toString, String.toList_append, cloneRepoProseLine_eq, List.append_assoc]
  rw [congrArg (· ++ _) String.toList_ofList]
  simp only [List.append_assoc]

namespace IsOwnerName

variable {owner name : List Char}

omit [UnicodeTables] in
/-- A name of a repository is a word. -/
lemma word (h : IsOwnerName owner name) : owner ++ '/' :: name ≠ [] ∧
    ∀ c ∈ owner ++ '/' :: name, isWhitespace c = false :=
  ⟨List.append_ne_nil_of_right_ne_nil owner (List.cons_ne_nil _ _), fun _ hc => h.not_whitespace hc⟩

/-- The standing line is read as the name in it. -/
lemma parse_proseLine (h : IsOwnerName owner name) :
    cloneRepoFromProse (cloneRepoProseLine (ownerName owner name)) =
      (parseOwnerName (ownerName owner name)).toOption := by
  have hafter : afterBreak proseTail = [] := afterBreak_of_notMem (by decide)
  have hblank : ∀ c, proseTail.head? = some c → isWhitespace c = true :=
    fun c hc => by rw [← Option.some.inj hc]; decide
  rw [cloneRepoProseLine_eq, toList_ownerName,
    cloneRepoFromProse_stamp h.word.1 h.word.2 hblank, hafter]
  exact Option.or_none

/-- A Project names what its given intent names, and else what it is stamped with. -/
lemma parse_projectIntent (h : IsOwnerName owner name) (intent : String) :
    cloneRepoFromProse (Board.stampProjectIntent (ownerName owner name) intent) =
      (cloneRepoFromProse (trim intent)).or
        (parseOwnerName (ownerName owner name)).toOption := by
  unfold Board.stampProjectIntent
  dsimp only
  by_cases hnamed : (cloneRepoFromProse (trim intent)).isSome = true
  · rw [if_pos hnamed]
    obtain ⟨named, hnamed⟩ := Option.isSome_iff_exists.mp hnamed
    rw [hnamed, Option.some_or]
  · rw [if_neg hnamed]
    have hnone : cloneRepoFromProse (trim intent) = none := by
      rwa [Option.not_isSome_iff_eq_none] at hnamed
    rw [hnone, Option.none_or]
    by_cases hempty : (trim intent).isEmpty = true
    · rw [if_pos hempty, h.parse_proseLine]
    · rw [if_neg hempty]
      have htext : s!"{trim intent}\n\n{cloneRepoProseLine (ownerName owner name)}" =
          String.ofList ((trim intent).toList ++ '\n' :: ([] ++ '\n' ::
            (cloneRepoProseLine (ownerName owner name)).toList)) := by
        refine String.toList_injective ?_
        rw [String.toList_ofList]
        simp only [toString, String.toList_append, List.append_assoc]
        rfl
      rw [htext, cloneRepoFromProse_append, cloneRepoFromProse_append, String.ofList_toList,
        String.ofList_toList, hnone, Option.none_or, h.parse_proseLine]
      exact Option.none_or

/-- An Initial plan names what it is stamped with, or else what the title of the Project names
behind a line break. -/
lemma parse_planIntent (h : IsOwnerName owner name) (title : String) :
    cloneRepoFromProse (Board.initialPlanIntent title (some (ownerName owner name))) =
      (parseOwnerName (ownerName owner name)).toOption.or (cloneRepoFromProse
        (String.ofList (afterBreak (title.toList ++ planTail (ownerName owner name))))) := by
  have hblank : ∀ c, (proseTail ++ (" Propose sibling Tasks for «".toList ++
      (title.toList ++ planTail (ownerName owner name)))).head? = some c →
        isWhitespace c = true := fun c hc => by
    rw [← Option.some.inj hc]
    decide
  rw [initialPlanIntent_eq, toList_ownerName,
    cloneRepoFromProse_stamp h.word.1 h.word.2 hblank, afterBreak_append (by decide),
    afterBreak_append (by decide)]
  rfl

end IsOwnerName

/-- The given name does not end in `.git` and the intent names nothing else; or nothing precedes the
`.git` in it, the intent names it, and so does the title behind a line break. -/
def ReadsBack (title intent clone : String) : Prop :=
  (stripSuffix ".git" clone = none ∧
    ∀ named, cloneRepoFromProse (trim intent) = some named → named = clone) ∨
  ((∃ owner, clone = owner ++ "/.git") ∧ cloneRepoFromProse (trim intent) = some clone ∧
    cloneRepoFromProse (String.ofList (afterBreak (title.toList ++ planTail clone))) = some clone)

omit [UnicodeTables] in
/-- A shorter name is another one. -/
lemma ownerName_core_ne (owner core : List Char) :
    ownerName owner core ≠ ownerName owner (core ++ ".git".toList) := by
  intro h
  have hlength := congrArg (fun s : String => s.toList.length) h
  simp only [toList_ownerName, List.length_append, List.length_cons] at hlength
  have hgit : ".git".toList.length = 4 := rfl
  omega

/-- The intents of a Project and of its Initial plan are both read as the given name exactly when
that is read back. -/
lemma readsBack_iff {owner name : List Char} (h : IsOwnerName owner name) (title intent : String) :
    (cloneRepoFromProse (Board.stampProjectIntent (ownerName owner name) intent) =
        some (ownerName owner name) ∧
      cloneRepoFromProse (Board.initialPlanIntent title
        (cloneRepoFromProse (Board.stampProjectIntent (ownerName owner name) intent))) =
          some (ownerName owner name)) ↔
      ReadsBack title intent (ownerName owner name) := by
  have hplan := h.parse_planIntent title
  rw [h.parse_projectIntent]
  rcases IsOwnerName.stripSuffix_git owner name with ⟨hgit, -⟩ | ⟨core, hcore, hgit⟩
  · -- the name is read back where it is stamped, so only the given intent matters
    rw [h.parse_self hgit] at hplan ⊢
    have hread : cloneRepoFromProse (Board.initialPlanIntent title (some (ownerName owner name))) =
        some (ownerName owner name) := hplan.trans (Option.some_or)
    have hmatters : (cloneRepoFromProse (trim intent)).or (some (ownerName owner name)) =
        some (ownerName owner name) ↔
          ∀ named, cloneRepoFromProse (trim intent) = some named → named = ownerName owner name := by
      cases cloneRepoFromProse (trim intent) with
      | none => exact iff_of_true Option.none_or fun named hnamed => nomatch hnamed
      | some named =>
        rw [Option.some_or, Option.some.injEq]
        exact ⟨fun heq other hother => (Option.some.inj hother).symm.trans heq,
          fun hall => hall named rfl⟩
    constructor
    · rintro ⟨hproject, -⟩
      exact Or.inl ⟨hgit, hmatters.mp hproject⟩
    · rintro (⟨-, hall⟩ | ⟨-, hnamed, -⟩)
      · have hproject := hmatters.mpr hall
        exact ⟨hproject, by rw [Except.toOption, hproject]; exact hread⟩
      · rw [hnamed, Option.some_or]
        exact ⟨rfl, hread⟩
  · have hparse := h.parse_git hcore hgit
    have hne : ownerName owner core ≠ ownerName owner name := by
      rw [hcore]
      exact ownerName_core_ne owner core
    rw [hparse] at hplan ⊢
    by_cases hnil : core = []
    · -- the name is not read where it is stamped, so it must be named beside the stamps
      have howner : ∃ o : String, ownerName owner name = o ++ "/.git" := by
        refine ⟨String.ofList owner, String.toList_injective ?_⟩
        rw [toList_ownerName, String.toList_append, String.toList_ofList, hcore, hnil]
        rfl
      rw [if_pos hnil] at hplan ⊢
      rw [Option.or_none]
      rw [Option.none_or] at hplan
      constructor
      · rintro ⟨hproject, hread⟩
        rw [hproject, hplan] at hread
        exact Or.inr ⟨howner, hproject, hread⟩
      · rintro (⟨hnone, -⟩ | ⟨-, hnamed, hread⟩)
        · rw [hgit] at hnone
          cases hnone
        · exact ⟨hnamed, by rw [hnamed, hplan]; exact hread⟩
    · -- the name is read without its `.git` where it is stamped
      rw [if_neg hnil] at hplan ⊢
      refine iff_of_false ?_ ?_
      · rintro ⟨hproject, hread⟩
        rw [hproject, hplan, Option.some_or, Option.some.injEq] at hread
        exact hne hread
      · rintro (⟨hnone, -⟩ | ⟨⟨o, ho⟩, -⟩)
        · rw [hgit] at hnone
          cases hnone
        · have hlist := congrArg String.toList ho
          rw [toList_ownerName, String.toList_append, hcore] at hlist
          have hlast : owner ++ '/' :: core = o.toList ++ ['/'] := by
            have hcancel : (owner ++ '/' :: core) ++ ".git".toList =
                (o.toList ++ ['/']) ++ ".git".toList := by
              rw [List.append_assoc, List.cons_append, hlist, List.append_assoc]
              rfl
            exact List.append_cancel_right hcancel
          obtain ⟨init, last, hconcat⟩ := (List.eq_nil_or_concat core).resolve_left hnil
          have hslash : last = '/' := by
            rw [hconcat, List.concat_eq_append, ← List.cons_append, ← List.append_assoc] at hlast
            exact (List.cons.inj (List.append_inj' hlast rfl).2).1
          have hchar := h.name_chars '/' (by
            rw [hcore, hconcat, hslash, List.concat_eq_append]
            exact List.mem_append_left _ (List.mem_append_right _ (List.mem_singleton_self _)))
          exact absurd hchar (by decide)

/-- What prose names is an owner and a name. -/
lemma isOwnerName_of_prose {text clone : String} (h : cloneRepoFromProse text = some clone) :
    ∃ owner name, IsOwnerName owner name ∧ clone = ownerName owner name := by
  obtain ⟨line, -, hline⟩ := List.exists_of_findSome?_eq_some h
  unfold cloneRepoOfLine at hline
  dsimp only [bind] at hline
  obtain ⟨rest, -, hrest⟩ := Option.bind_eq_some_iff.mp hline
  obtain ⟨token, -, htoken⟩ := Option.bind_eq_some_iff.mp hrest
  cases hparse : parseOwnerName token with
  | error e =>
    rw [hparse] at htoken
    cases htoken
  | ok found =>
    rw [hparse] at htoken
    cases htoken
    exact isOwnerName_of_parse hparse

/-- A Task that is stamped names the name with the full stop. -/
lemma parse_taskIntent {projectIntent intent dod clone : String}
    (hproject : cloneRepoFromProse projectIntent = some clone)
    (hintent : cloneRepoFromProse intent = none) (hdod : cloneRepoFromProse dod = none) :
    cloneRepoFromProse (Board.stampTaskIntent projectIntent intent dod) = some (clone ++ ".") := by
  obtain ⟨owner, name, hname, rfl⟩ := isOwnerName_of_prose hproject
  have hdotted : IsOwnerName owner (name ++ ['.']) := by
    refine ⟨hname.owner_ne_nil, List.append_ne_nil_of_left_ne_nil hname.name_ne_nil _,
      hname.owner_chars, fun c hc => ?_⟩
    rcases List.mem_append.mp hc with hc | hc
    · exact hname.name_chars c hc
    · rw [List.mem_singleton.mp hc]
      decide
  have hdot : ownerName owner (name ++ ['.']) = ownerName owner name ++ "." := by
    refine String.toList_injective ?_
    rw [toList_ownerName, String.toList_append, toList_ownerName, List.append_assoc]
    rfl
  have hread : ∀ rest : List Char, (∀ c, rest.head? = some c → isWhitespace c = true) →
      cloneRepoFromProse (String.ofList ("Clone repository: ".toList ++
        ((owner ++ '/' :: (name ++ ['.'])) ++ rest))) = some (ownerName owner name ++ ".") := by
    intro rest hrest
    have hparse : parseOwnerName (ownerName owner (name ++ ['.'])) =
        .ok (ownerName owner (name ++ ['.'])) := by
      refine hdotted.parse_self ?_
      rcases IsOwnerName.stripSuffix_git owner (name ++ ['.']) with ⟨hgit, -⟩ | ⟨core, hcore, -⟩
      · exact hgit
      · have hlast : (name ++ ['.']).getLast? = (core ++ ".git".toList).getLast? :=
          congrArg List.getLast? hcore
        rw [List.getLast?_append, List.getLast?_append] at hlast
        exact absurd (Option.some.inj hlast) (by decide)
    have hstamp := cloneRepoFromProse_stamp hdotted.word.1 hdotted.word.2 hrest
    rw [hstamp]
    change (parseOwnerName (ownerName owner (name ++ ['.']))).toOption.or _ = _
    rw [hparse, hdot]
    exact Option.some_or
  have hstamp : s!"Clone repository: {ownerName owner name}." =
      String.ofList ("Clone repository: ".toList ++ (owner ++ '/' :: (name ++ ['.']))) := by
    refine String.toList_injective ?_
    rw [String.toList_ofList]
    simp only [toString, String.toList_append, toList_ownerName, List.append_assoc]
    rfl
  unfold Board.stampTaskIntent
  rw [hintent, hdod, hproject, if_neg (by decide)]
  dsimp only
  by_cases hempty : (trim intent).isEmpty = true
  · rw [if_pos hempty, hstamp]
    have hnil := hread [] fun c hc => nomatch hc
    rwa [List.append_nil] at hnil
  · rw [if_neg hempty]
    have hmore := hread (' ' :: (trim intent).toList) fun c hc => by
      rw [← Option.some.inj hc]
      decide
    have htext : ∀ line : String, line = s!"Clone repository: {ownerName owner name}." →
        s!"{line} {trim intent}" = String.ofList ("Clone repository: ".toList ++
          ((owner ++ '/' :: (name ++ ['.'])) ++ ' ' :: (trim intent).toList)) := by
      intro line hline
      rw [hline]
      refine String.toList_injective ?_
      rw [String.toList_ofList]
      simp only [toString, String.toList_append, toList_ownerName, List.append_assoc,
        List.cons_append]
      rfl
    rw [htext _ rfl]
    exact hmore

/-! ## Runs -/

namespace BoardState

omit [UnicodeTables] in
/-- The state has the Project `id` with the given intent, and all its children are Initial plans
with the given one. -/
structure Seeded (s : BoardState) (id : ItemId) (intent planIntent : String) : Prop where
  project : ∃ P, s.items[id]? = some P ∧ P.id = id ∧ P.isProject = true ∧ P.intent = intent
  plan : ∃ (k : ItemId) (i : WorkItem), s.items[k]? = some i ∧ i.parent = some id
  only : ∀ (k : ItemId) (i : WorkItem), s.items[k]? = some i → i.parent = some id →
    i.isInitialPlanTask = true ∧ i.intent = planIntent

namespace Seeded

variable {s s' : BoardState} {id : ItemId} {intent planIntent : String}

omit [UnicodeTables] in
/-- The Initial plan of the Project is one of its children. -/
lemma initialPlanOf (h : s.Seeded id intent planIntent) :
    ∃ i, s.initialPlanOf id = some i ∧ i.intent = planIntent := by
  obtain ⟨k, i, hi, hparent⟩ := h.plan
  have hfound : (s.initialPlanOf id).isSome = true := by
    unfold BoardState.initialPlanOf
    rw [List.find?_isSome]
    refine ⟨i, mem_cards.2 ⟨k, hi⟩, ?_⟩
    rw [hparent, (h.only k i hi hparent).1, beq_self_eq_true, Bool.and_self]
  obtain ⟨found, hfound⟩ := Option.isSome_iff_exists.mp hfound
  refine ⟨found, hfound, ?_⟩
  obtain ⟨key, hkey⟩ := mem_cards.1 (List.mem_of_find?_eq_some hfound)
  have hits := List.find?_some hfound
  rw [Bool.and_eq_true, beq_iff_eq] at hits
  exact (h.only key found hkey hits.1).2

omit [UnicodeTables] in
/-- Only the cards matter. -/
lemma same (h : s.Seeded id intent planIntent) (hsame : s'.items = s.items) :
    s'.Seeded id intent planIntent := by
  obtain ⟨hproject, hplan, honly⟩ := h
  rw [← hsame] at hproject hplan honly
  exact ⟨hproject, hplan, honly⟩

omit [UnicodeTables] in
/-- An edit of the Project that leaves its place and its intent alone. -/
lemma edit (h : s.Seeded id intent planIntent) {f : WorkItem → WorkItem}
    (hf : ∀ i, (f i).id = i.id ∧ (f i).parent = i.parent ∧ (f i).level = i.level ∧
      (f i).intent = i.intent) : (s.editItem id f).Seeded id intent planIntent := by
  obtain ⟨P, hP, hid, hproject, hintent⟩ := h.project
  have hroot : P.parent = none := by
    unfold WorkItem.isProject at hproject
    rw [Bool.and_eq_true, Option.isNone_iff_eq_none] at hproject
    exact hproject.1
  refine ⟨⟨f P, ?_, (hf P).1.trans hid, ?_, (hf P).2.2.2.trans hintent⟩, ?_, fun k i hi hparent => ?_⟩
  · rw [items_editItem_self, hP, Option.map_some]
  · unfold WorkItem.isProject at hproject ⊢
    rwa [(hf P).2.1, (hf P).2.2.1]
  · obtain ⟨k, i, hi, hparent⟩ := h.plan
    refine ⟨k, i, ?_, hparent⟩
    rw [items_editItem_of_ne _ f]
    · exact hi
    · rintro rfl
      rw [hP, Option.some.injEq] at hi
      rw [← hi, hroot] at hparent
      cases hparent
  · by_cases hk : k = id
    · rw [hk, items_editItem_self, hP, Option.map_some, Option.some.injEq] at hi
      rw [← hi, (hf P).2.1, hroot] at hparent
      cases hparent
    · rw [items_editItem_of_ne hk] at hi
      exact h.only k i hi hparent

end Seeded

end BoardState

namespace Board

open BoardState

attribute [local irreducible] stampProjectIntent initialPlanIntent stampTaskIntent

variable {b : Board} {id : ItemId}

omit [UnicodeTables] in
/-- A Project takes Tasks. -/
lemma checkParent_of_isProject {s : BoardState} {P : WorkItem} (hP : s.items[id]? = some P)
    (hproject : P.isProject = true) : checkParent s (some id) = .ok () := by
  unfold WorkItem.isProject at hproject
  rw [Bool.and_eq_true, Option.isNone_iff_eq_none, bne_iff_ne] at hproject
  exact checkParent_some_iff.mpr ⟨P, hP, hproject⟩

omit [UnicodeTables] in
/-- The title of an Initial plan is known by its prefix. -/
lemma titleIsInitialPlan_initialPlanTitle (title : String) :
    titleIsInitialPlan (initialPlanTitle title) = true := by
  unfold titleIsInitialPlan initialPlanTitle startsWith
  rw [String.toList_append, afterPrefix_append, Option.isSome_some, Bool.or_true]

/-- Seeding a Project without children gives it its Initial plan. -/
lemma run_seedInitialPlan {P : WorkItem} (hs : b.state.WellFormed)
    (hP : b.state.items[id]? = some P) (hproject : P.isProject = true)
    (hnone : ∀ (k : ItemId) (i : WorkItem), b.state.items[k]? = some i → i.parent ≠ some id) :
    ∃ item b', (seedInitialPlan id).run b = (.ok item, b') ∧ b'.state.Seeded id P.intent
      (initialPlanIntent P.title (cloneRepoFromProse P.intent)) := by
  let c : NewCard :=
    { parent := some id
      title := initialPlanTitle P.title
      intent := initialPlanIntent P.title (cloneRepoFromProse P.intent)
      definitionOfDone := some (initialPlanDod (cloneRepoFromProse P.intent))
      origin := .planner
      aboveLine := false
      capability := none }
  have hplan : b.state.initialPlanOf id = none := by
    unfold BoardState.initialPlanOf
    rw [List.find?_eq_none]
    intro i hi hmatch
    obtain ⟨k, hk⟩ := mem_cards.1 hi
    rw [Bool.and_eq_true, beq_iff_eq] at hmatch
    exact hnone k i hk hmatch.1
  obtain ⟨created, shaped, queued, b₁, b₂, b₃, t, hcreate, hshaped, hqueued, -, -, hstate⟩ :=
    run_planted (b := b) (c := c) (checkParent_of_isProject hP hproject) rfl "operator"
      (some "init plan")
  obtain ⟨outcome, hattempt⟩ : ∃ r, ((transitionOn created.id .shaping "operator"
      (some "init plan")).attempt : Method String _).run b₁ = (.ok r, b₂) := by
    rw [Locked.run_mapErr] at hshaped
    have hboard := congrArg Prod.snd hshaped
    exact ⟨_, (Locked.run_attempt _ b₁).trans (Prod.ext rfl hboard)⟩
  have hrun : (seedInitialPlan id).run b = (.ok queued, b₃.told id
      s!"Seeded {initialPlanTitle P.title} Task #{queued.id}.") := by
    unfold seedInitialPlan
    rw [Locked.run_bind_ok (run_getOr_some hP _), Locked.run_failIf_bind]
    rw [if_neg (by rw [show (b.state.populateBlockers P).isProject = true from hproject]; decide)]
    rw [Locked.run_bind_ok (run_read _ b), hplan]
    dsimp only
    refine (Locked.run_bind_ok hcreate _).trans ?_
    rw [Locked.run_bind_ok hattempt, Locked.run_bind_ok hqueued]
    rfl
  refine ⟨queued, _, hrun, ?_⟩
  have hitems : ∀ k : ItemId, (b₃.told id
      s!"Seeded {initialPlanTitle P.title} Task #{queued.id}.").state.items[k]? =
        if k = b.state.nextId then
          some (queuedTask b.schema c "operator" (some "init plan") t b.state.nextId)
        else b.state.items[k]? := by
    intro k
    rw [told_items, hstate, items_plantTask]
  have hseed := (hitems b.state.nextId).trans (if_pos rfl)
  refine ⟨⟨P, ?_, hs.key id P hP, hproject, rfl⟩, ⟨_, _, hseed, rfl⟩, fun k i hi hparent => ?_⟩
  · rw [hitems, if_neg (hs.fresh id P hP).ne, hP]
  · rw [hitems] at hi
    split at hi
    · rw [Option.some.injEq] at hi
      rw [← hi]
      refine ⟨?_, rfl⟩
      change (titleIsInitialPlan (initialPlanTitle P.title) || _) = true
      rw [titleIsInitialPlan_initialPlanTitle, Bool.true_or]
    · exact absurd hparent (hnone k i hi)

/-- A Project that has its Initial plan is not seeded again. -/
lemma run_seedInitialPlan_seeded {intent planIntent : String}
    (h : b.state.Seeded id intent planIntent) :
    ∃ item, (seedInitialPlan id).run b = (.ok item, b) := by
  obtain ⟨P, hP, -, hproject, -⟩ := h.project
  obtain ⟨plan, hplan, -⟩ := h.initialPlanOf
  refine ⟨plan, ?_⟩
  unfold seedInitialPlan
  rw [Locked.run_bind_ok (run_getOr_some hP _), Locked.run_failIf_bind,
    if_neg (by rw [show (b.state.populateBlockers P).isProject = true from hproject]; decide),
    Locked.run_bind_ok (run_read _ b), hplan]
  rfl

omit [UnicodeTables] in
lemma toItem_title (c : NewCard) (schema : Schema) (now : Time) (id : ItemId) :
    (c.toItem schema now id).title = c.title := rfl

omit [UnicodeTables] in
lemma toItem_intent (c : NewCard) (schema : Schema) (now : Time) (id : ItemId) :
    (c.toItem schema now id).intent = c.intent := rfl

omit [UnicodeTables] in
/-- Creating a Project inserts it and seeds it. -/
lemma run_createWith (seed : ItemId → Method String WorkItem) {c : NewCard}
    (hcheck : checkParent b.state c.parent = .ok ())
    (hproject : (c.toItem b.schema (b.now 0) b.state.nextId).isProject = true) :
    ∃ item b₁, b₁.state = (insertNew b.schema (b.now 0) c b.state).2 ∧
      item.id = b.state.nextId ∧ (createWith seed c).run b =
        (.ok ((((seed b.state.nextId).run b₁).2.state.items[b.state.nextId]?.map
          ((seed b.state.nextId).run b₁).2.state.populateBlockers).getD item),
            ((seed b.state.nextId).run b₁).2) := by
  have hid : (insertNew b.schema (b.now 0) c b.state).1.id = b.state.nextId := rfl
  have hnew : (insertNew b.schema (b.now 0) c b.state).1.isProject = true := hproject
  obtain ⟨item, s, hr⟩ : ∃ item s, insertNew b.schema (b.now 0) c b.state = (item, s) :=
    ⟨_, _, rfl⟩
  rw [hr] at hid hnew ⊢
  refine ⟨item, (b.stepped s).emitted item, rfl, hid, ?_⟩
  have hret : (Locked.ret (checkParent b.state c.parent) : Method String Unit).run b =
      (.ok (), b) := by
    rw [run_ret, hcheck]
  unfold createWith
  rw [Locked.run_bind_ok (run_read _ b), Locked.run_bind_ok hret,
    Locked.run_bind_ok (run_readSchema b), Locked.run_bind, run_write, hr]
  change ((emit item >>= _ : Method String WorkItem).run (b.stepped s)) = _
  rw [Locked.run_bind_ok (run_emit item _)]
  rw [Locked.run_bind, Locked.run_when, if_pos hnew, Locked.run_bind, Locked.run_attempt,
    Locked.andThen_ok, ← hid]
  rfl

omit [UnicodeTables] in
/-- The project prompt is written beside the intent. -/
lemma run_onSome_updateItem {intent planIntent : String}
    (h : b.state.Seeded id intent planIntent) (o : Option String) :
    ∃ b', (Locked.onSome o fun prompt => do
        let _ ← (updateItem id none none none none (some prompt)).attempt : Method String Unit).run b =
          (.ok (), b') ∧ b'.state.Seeded id intent planIntent := by
  cases o with
  | none => exact ⟨b, rfl, h⟩
  | some prompt =>
    obtain ⟨P, hP, -⟩ := h.project
    obtain ⟨item, b', hrun, hstate⟩ : ∃ item b',
        (updateItem id none none none none (some prompt)).run b = (.ok item, b') ∧
          b'.state = b.state.editItem id (updated none none none none (some prompt)) :=
      ⟨_, _, run_editOr_some hP _ _, rfl⟩
    refine ⟨b', ?_, ?_⟩
    · rw [Locked.onSome_some, Locked.run_bind, Locked.run_attempt, hrun]
      rfl
    · rw [hstate]
      exact h.edit fun i => ⟨rfl, rfl, rfl, rfl⟩

omit [UnicodeTables] in
/-- No card is a child of a new one. -/
lemma not_child_insertNew {s : BoardState} (hs : s.WellFormed) (hn : s.Nested) (schema : Schema)
    (now : Time) {c : NewCard} (hparent : c.parent = none) (k : ItemId) (i : WorkItem)
    (hi : (insertNew schema now c s).2.items[k]? = some i) : i.parent ≠ some s.nextId := by
  intro hchild
  rw [items_insertNew_ite] at hi
  split at hi
  · rw [Option.some.injEq] at hi
    have hroot : i.parent = none := by
      rw [← hi]
      exact hparent
    rw [hroot] at hchild
    cases hchild
  · obtain ⟨P, hP, -⟩ := Nested.iff.mp hn k i s.nextId hi hchild
    exact absurd (hs.fresh _ P hP) (lt_irrefl _)

/-- A Project is created with its intent stamped, and its Initial plan seeded from that. -/
lemma run_createProject (title intent : String) {cloneRepo clone : String} (aboveLine : Bool)
    (projectPrompt : Option String) (hs : b.state.WellFormed) (hn : b.state.Nested)
    (hlevels : b.schema.levels = Schema.default.levels)
    (hclone : parseOwnerName cloneRepo = .ok clone) :
    ∃ item b', (createProject title intent cloneRepo aboveLine projectPrompt).run b =
        (.ok item, b') ∧ item.id = b.state.nextId ∧
      b'.state.Seeded b.state.nextId (stampProjectIntent clone intent) (initialPlanIntent title
        (cloneRepoFromProse (stampProjectIntent clone intent))) := by
  let c : NewCard :=
    { parent := none
      title := title
      intent := stampProjectIntent clone intent
      definitionOfDone := none
      origin := .human
      aboveLine := aboveLine
      capability := none }
  have hlevel : levelFor b.schema none = some "Project" := by
    unfold levelFor Schema.projectLevel
    rw [hlevels]
    rfl
  have hproject : (c.toItem b.schema (b.now 0) b.state.nextId).isProject = true := by
    change (true && (levelFor b.schema none != some "Task")) = true
    rw [hlevel]
    decide
  obtain ⟨item, b₁, hstate₁, hid, hcreate⟩ :=
    run_createWith seedInitialPlan (c := c) (b := b) rfl hproject
  have hP : b₁.state.items[b.state.nextId]? =
      some (c.toItem b.schema (b.now 0) b.state.nextId) := by
    rw [hstate₁, items_insertNew]
  have hs₁ : b₁.state.WellFormed := by
    rw [hstate₁]
    exact hs.insert rfl
  obtain ⟨plan, b₂, hseed, hseeded⟩ := run_seedInitialPlan hs₁ hP hproject fun k i hi => by
    rw [hstate₁] at hi
    exact not_child_insertNew hs hn _ _ rfl k i hi
  rw [toItem_title, toItem_intent] at hseeded
  rw [hseed] at hcreate
  dsimp only at hcreate
  obtain ⟨P, hP₂, hPid, -, -⟩ := hseeded.project
  rw [hP₂, Option.map_some, Option.getD_some] at hcreate
  have hmade : (b₂.state.populateBlockers P).id = b.state.nextId := hPid
  obtain ⟨b₃, hprompt, hseeded₃⟩ := run_onSome_updateItem hseeded
    ((projectPrompt.filter fun p => !isBlank p).map trim)
  obtain ⟨again, hagain⟩ := run_seedInitialPlan_seeded hseeded₃
  obtain ⟨P₃, hP₃, hP₃id, -, -⟩ := hseeded₃.project
  refine ⟨b₃.state.populateBlockers P₃, b₃, ?_, hP₃id, hseeded₃⟩
  have hret : (Locked.ret (parseOwnerName cloneRepo) : Method String String).run b =
      (.ok clone, b) := by
    rw [run_ret, hclone]
  have hattempt : ((seedInitialPlan b.state.nextId).attempt : Method String _).run b₃ =
      (.ok (.ok again), b₃) := by
    rw [Locked.run_attempt, hagain]
  unfold createProject create
  refine (Locked.run_bind_ok hret _).trans ((Locked.run_bind_ok hcreate _).trans ?_)
  rw [hmade]
  refine (Locked.run_bind_ok hprompt _).trans ?_
  rw [Locked.run_bind, hattempt, Locked.andThen_ok, Locked.run_bind_ok (run_get _ b₃), hP₃]
  rfl

/-- A Task is created with its intent stamped. -/
lemma run_createTask {parent : ItemId} (title intent : String) {dod : String}
    (blockedBy : List ItemId) (capability : Option String) (aboveLine : Bool) {P : WorkItem}
    (hP : b.state.items[parent]? = some P) (hproject : P.isProject = true)
    (hdod : (trim dod).isEmpty = false) :
    ∃ item b', (createTask parent title intent dod blockedBy capability aboveLine).run b =
        (.ok item, b') ∧ ∃ task, b'.state.items[item.id]? = some task ∧
          task.intent = stampTaskIntent P.intent intent (trim dod) := by
  let c : NewCard := ⟨some parent, title, stampTaskIntent P.intent intent (trim dod),
    some (trim dod), .human, aboveLine, capability⟩
  obtain ⟨created, shaped, queued, b₁, b₂, b₃, t, hcreate, hshaped, hqueued, -, hid, hstate⟩ :=
    run_planted (b := b) (c := c) (checkParent_of_isProject hP hproject) rfl "human"
      (some "create task")
  have htask : b₃.state.items[b.state.nextId]? =
      some (queuedTask b.schema c "human" (some "create task") t b.state.nextId) := by
    rw [hstate, items_plantTask, if_pos rfl]
  have hlast : ∃ b₄, (Locked.when ((!blockedBy.isEmpty) = true) (setBlockedBy queued.id blockedBy) :
      Method String Unit).run b₃ = (.ok (), b₄) ∧ ∃ task,
        b₄.state.items[b.state.nextId]? = some task ∧ task.id = b.state.nextId ∧
          task.intent = stampTaskIntent P.intent intent (trim dod) := by
    rw [Locked.run_when]
    by_cases hnone : (!blockedBy.isEmpty) = true
    · rw [if_pos hnone, setBlockedBy, hid, run_editIf_wanted htask rfl]
      have hedited : (b₃.state.editItem b.state.nextId (WorkItem.blockedOn blockedBy)).items[
          b.state.nextId]? = some (WorkItem.blockedOn blockedBy
            (queuedTask b.schema c "human" (some "create task") t b.state.nextId)) := by
        rw [items_editItem_self, htask, Option.map_some]
      exact ⟨_, rfl, _, hedited, rfl, rfl⟩
    · rw [if_neg hnone]
      exact ⟨b₃, rfl, _, htask, rfl, rfl⟩
  obtain ⟨b₄, hblock, task, htask₄, htaskId, hintent⟩ := hlast
  refine ⟨b₄.state.populateBlockers task, b₄, ?_, task, ?_, hintent⟩
  · unfold createTask
    rw [Locked.run_bind_ok (run_getOr_some hP _), Locked.run_failIf_bind,
      if_neg (by rw [show (b.state.populateBlockers P).isProject = true from hproject]; decide)]
    dsimp only
    rw [Locked.run_failIf_bind, if_neg (by rw [hdod]; decide)]
    refine (Locked.run_bind_ok hcreate _).trans ?_
    rw [Locked.run_bind_ok hshaped, Locked.run_bind_ok hqueued]
    refine (Locked.run_bind_ok hblock _).trans ?_
    rw [Locked.run_bind_ok (run_get _ b₄), hid, htask₄]
    rfl
  · rw [← htask₄, ← htaskId]
    rfl

/-! ## Round trips -/

/-- The arguments of `create_project`. -/
structure ProjectRequest where
  title : String
  intent : String
  cloneRepo : String
  aboveLine : Bool
  projectPrompt : Option String

/-- The arguments of `create_task`. -/
structure TaskRequest where
  parent : ItemId
  title : String
  intent : String
  definitionOfDone : String
  blockedBy : List ItemId
  capability : Option String
  aboveLine : Bool

/-- An accepted name makes a Project that is read as the name, and so is its Initial plan. -/
def ProjectRequest.RoundTrips (b : Board) (r : ProjectRequest) : Prop :=
  ∀ clone, parseOwnerName r.cloneRepo = .ok clone →
    ∃ item b' project plan, (createProject r.title r.intent r.cloneRepo r.aboveLine
        r.projectPrompt).run b = (.ok item, b') ∧ b'.state.items[item.id]? = some project ∧
      b'.state.initialPlanOf item.id = some plan ∧
      cloneRepoFromProse project.intent = some clone ∧ cloneRepoFromProse plan.intent = some clone

/-- A Task that names no repository itself is read as the repository of its Project. -/
def TaskRequest.RoundTrips (b : Board) (r : TaskRequest) : Prop :=
  ∀ project item b' repo, b.state.items[r.parent]? = some project →
    (createTask r.parent r.title r.intent r.definitionOfDone r.blockedBy r.capability
      r.aboveLine).run b = (.ok item, b') → cloneRepoFromProse r.intent = none →
    cloneRepoFromProse (trim r.definitionOfDone) = none →
    cloneRepoFromProse project.intent = some repo →
      ∃ task, b'.state.items[item.id]? = some task ∧ cloneRepoFromProse task.intent = some repo

/-- The Task is refused, or it names a repository itself, or its Project names none. -/
def TaskRequest.Unstamped (b : Board) (r : TaskRequest) : Prop :=
  ∀ project, b.state.items[r.parent]? = some project → project.isProject = true →
    (trim r.definitionOfDone).isEmpty = false →
      (cloneRepoFromProse r.intent).isSome = true ∨
        (cloneRepoFromProse (trim r.definitionOfDone)).isSome = true ∨
          cloneRepoFromProse project.intent = none

/-- A Project and its Initial plan are read as the given name exactly when that is read back. -/
lemma projectRoundTrips_iff (hs : b.state.WellFormed) (hn : b.state.Nested)
    (hlevels : b.schema.levels = Schema.default.levels) (r : ProjectRequest) :
    r.RoundTrips b ↔
      ∀ clone, parseOwnerName r.cloneRepo = .ok clone → ReadsBack r.title r.intent clone := by
  unfold ProjectRequest.RoundTrips
  refine forall_congr' fun clone => forall_congr' fun hclone => ?_
  obtain ⟨owner, name, hname, rfl⟩ := isOwnerName_of_parse hclone
  obtain ⟨item, b', hrun, hid, hseeded⟩ :=
    run_createProject r.title r.intent r.aboveLine r.projectPrompt hs hn hlevels hclone
  obtain ⟨P, hP, -, -, hintent⟩ := hseeded.project
  obtain ⟨plan, hplan, hplanIntent⟩ := hseeded.initialPlanOf
  rw [← readsBack_iff hname]
  constructor
  · rintro ⟨item', b'', P', plan', hrun', hP', hplan', hread, hreadPlan⟩
    rw [hrun, Prod.mk.injEq, Except.ok.injEq] at hrun'
    obtain ⟨rfl, rfl⟩ := hrun'
    rw [hid, hP, Option.some.injEq] at hP'
    rw [hid, hplan, Option.some.injEq] at hplan'
    rw [← hP', hintent] at hread
    rw [← hplan', hplanIntent] at hreadPlan
    exact ⟨hread, hreadPlan⟩
  · rintro ⟨hread, hreadPlan⟩
    rw [← hid] at hP hplan
    exact ⟨item, b', P, plan, hrun, hP, hplan, by rw [hintent, hread],
      by rw [hplanIntent, hreadPlan]⟩

/-- Only a Project takes a Task, and the Task must say when it is done. -/
lemma createTask_ok {r : TaskRequest} {item : WorkItem} {b' : Board} {project : WorkItem}
    (hP : b.state.items[r.parent]? = some project)
    (hrun : (createTask r.parent r.title r.intent r.definitionOfDone r.blockedBy r.capability
      r.aboveLine).run b = (.ok item, b')) :
    project.isProject = true ∧ (trim r.definitionOfDone).isEmpty = false := by
  unfold createTask at hrun
  rw [Locked.run_bind_ok (run_getOr_some hP _), Locked.run_failIf_bind] at hrun
  split at hrun
  · cases hrun
  · rename_i hproject
    dsimp only at hrun
    rw [Locked.run_failIf_bind] at hrun
    split at hrun
    · cases hrun
    · rename_i hdod
      rw [Bool.not_eq_true, Bool.not_eq_false'] at hproject
      exact ⟨hproject, Bool.eq_false_iff.mpr hdod⟩

/-- No stamped Task is read as the repository of its Project. -/
lemma taskRoundTrips_iff (r : TaskRequest) : r.RoundTrips b ↔ r.Unstamped b := by
  have hdotted : ∀ repo : String, some (repo ++ ".") ≠ some repo := by
    intro repo h
    have hlength := congrArg (fun s : String => s.toList.length) (Option.some.inj h)
    simp only [String.toList_append, List.length_append] at hlength
    have hdot : ".".toList.length = 1 := rfl
    omega
  constructor
  · intro h project hP hproject hdod
    by_contra hstamped
    rw [not_or, not_or, Bool.not_eq_true, Bool.not_eq_true, Option.isSome_eq_false_iff,
      Option.isSome_eq_false_iff, Option.isNone_iff_eq_none, Option.isNone_iff_eq_none] at hstamped
    obtain ⟨hintent, hnone, hnamed⟩ := hstamped
    obtain ⟨repo, hrepo⟩ := Option.ne_none_iff_exists'.mp hnamed
    obtain ⟨item, b', hrun, task, htask, htaskIntent⟩ :=
      run_createTask r.title r.intent r.blockedBy r.capability r.aboveLine hP hproject hdod
    obtain ⟨task', htask', hread⟩ := h project item b' repo hP hrun hintent hnone hrepo
    rw [htask, Option.some.injEq] at htask'
    rw [← htask', htaskIntent, parse_taskIntent hrepo hintent hnone] at hread
    exact hdotted repo hread
  · intro h project item b' repo hP hrun hintent hdod hrepo
    obtain ⟨hproject, hsome⟩ := createTask_ok hP hrun
    rcases h project hP hproject hsome with hnamed | hnamed | hnone
    · rw [hintent] at hnamed
      cases hnamed
    · rw [hdod] at hnamed
      cases hnamed
    · rw [hrepo] at hnone
      cases hnone

/-- No operation writes the schema. -/
lemma schema_exec (b : Board) (op : Operation) : (b.exec op).schema = b.schema :=
  Locked.Sections.invariant (I := fun b' => b'.schema = b.schema)
    (Locked.Sections.mono (fun _ _ h hb => h.trans hb) (structural_method op).emits.keepsSchema) rfl

/-- On every reachable board the clone targets of a new Project and of a new Task are read back
exactly when the name of the Project is read back and the Task is not stamped. -/
theorem roundTrips_iff (repo : RepoConfig) (clock : ℕ → ℕ → Time) (saveSucceeds : ℕ → Bool)
    (ops : List Operation) (p : ProjectRequest) (t : TaskRequest) :
    let b := (Board.new { Schema.default with repo := repo } clock saveSucceeds).after ops
    (p.RoundTrips b ∧ t.RoundTrips b) ↔
      (∀ clone, parseOwnerName p.cloneRepo = .ok clone → ReadsBack p.title p.intent clone) ∧
        t.Unstamped b := by
  intro b
  have hs : b.state.Sound := (sound_new _ _ _).reshaped (reshaped_after _ ops)
  have hn : b.state.Nested := nested_after (sound_new _ _ _) Nested.empty ops
  have hlevels : b.schema.levels = Schema.default.levels :=
    after_invariant (I := fun b => b.schema.levels = Schema.default.levels)
      (fun b op h => (congrArg Schema.levels (schema_exec b op)).trans h) rfl ops
  rw [projectRoundTrips_iff hs.wellFormed hn hlevels p, taskRoundTrips_iff]

/-- A Project of `acme/app`. -/
def docsProject : ProjectRequest where
  title := "Docs"
  intent := ""
  cloneRepo := "acme/app"
  aboveLine := true
  projectPrompt := none

/-- A Task of the first Project, without a clone line. -/
def plainTask : TaskRequest where
  parent := 1
  title := "Guide"
  intent := ""
  definitionOfDone := "Written."
  blockedBy := []
  capability := none
  aboveLine := true

omit [UnicodeTables] in
/-- The first Task of a Project is not read as the repository of the Project. -/
theorem not_roundTrips_plainTask :
    let := asciiTables
    ¬ plainTask.RoundTrips ((Board.new Schema.default (fun _ _ => 0) fun _ => true).after
      [.createProject docsProject.title docsProject.intent docsProject.cloneRepo
        docsProject.aboveLine docsProject.projectPrompt]) := by
  intro tables
  have hclone : parseOwnerName docsProject.cloneRepo = .ok "acme/app" := by decide +kernel
  obtain ⟨item, b', hrun, -, hseeded⟩ :=
    run_createProject (b := Board.new Schema.default (fun _ _ => 0) fun _ => true)
      docsProject.title docsProject.intent docsProject.aboveLine docsProject.projectPrompt .empty
      Nested.empty rfl hclone
  obtain ⟨P, hP, -, hproject, hintent⟩ := hseeded.project
  have hstate : ((Board.new Schema.default (fun _ _ => 0) fun _ => true).after
      [.createProject docsProject.title docsProject.intent docsProject.cloneRepo
        docsProject.aboveLine docsProject.projectPrompt]).state = b'.state := by
    rw [after_cons, after_nil, exec_state rfl, hrun]
  rw [taskRoundTrips_iff]
  intro hunstamped
  rcases hunstamped P (by rw [hstate]; exact hP) hproject (by decide +kernel) with h | h | h
  · exact absurd h (by decide +kernel)
  · exact absurd h (by decide +kernel)
  · rw [hintent] at h
    exact absurd h (by decide +kernel)

end Board

end Sandboard

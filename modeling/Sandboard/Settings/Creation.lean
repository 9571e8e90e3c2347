import Mathlib.Data.Finset.Card
import Mathlib.Order.Interval.Finset.Nat
import Sandboard.Search
import Sandboard.Settings.Catalog

/-!
# Creating catalog entries

An entry that is stored without an id gets a slug of its name as its id, with a number after it
when the slug is taken.  The slug function leaves its results alone (`slugify_slugify`), and the
loop over the numbers finds an id that is not taken whenever there is one (`HasFreeId`), so a
creation that is not refused adds one entry under a new id and leaves the others alone
(`creation_spec`).
-/

namespace Sandboard

open Std Text

/-! ## Slugs -/

/-- A character of a slug. -/
def isSlugChar (c : Char) : Bool := c.isLower || c.isDigit || c == '-'

/-- An id that is not empty, has lower-case letters, digits and hyphens only, and is its own slug:
no hyphen at its ends, and no two in a row. -/
structure WellFormedId (id : String) : Prop where
  nonempty : id ≠ ""
  chars : ∀ c ∈ id.toList, isSlugChar c = true
  slug : slugifySandboxProfileId id = id

/-- A text of slug characters that the slug function goes over without a change. -/
structure IsSlugText (out : List Char) : Prop where
  chars : ∀ c ∈ out, isSlugChar c = true
  steady : out.foldl slugStep ([], false) = (out, false)

/-- A lower-case letter or a digit is kept in a slug as it is. -/
lemma slugStep_kept {c : Char} (hc : c.isLower = true ∨ c.isDigit = true) (out : List Char)
    (pending : Bool) :
    slugStep (out, pending) c =
      ((if pending && !out.isEmpty then out ++ ['-'] else out) ++ [c], false) := by
  have halnum : isAsciiAlphanumeric c = true := by
    unfold isAsciiAlphanumeric Char.isAlphanum
    rw [isAlpha_eq]
    rcases hc with hc | hc <;> simp [hc]
  have hlower : c.toLower = c := by
    rcases hc with hc | hc
    · refine dif_neg fun hupper => ?_
      have hlow : 97 ≤ c.toNat := by
        rw [isLower_eq, Bool.and_eq_true, decide_eq_true_eq] at hc
        exact hc.1
      have hhigh : c.toNat ≤ 90 := hupper.2
      omega
    · exact toLower_of_isDigit hc
  rw [slugStep, if_pos halnum, hlower]

/-- What a letter or a digit leaves in a slug. -/
lemma isLower_or_isDigit_toLower {c : Char} (h : isAsciiAlphanumeric c = true) :
    c.toLower.isLower = true ∨ c.toLower.isDigit = true := by
  by_cases hdigit : c.isDigit = true
  · exact Or.inr (by rwa [toLower_of_isDigit hdigit])
  · left
    have halpha : c.isAlpha = true := by
      unfold isAsciiAlphanumeric Char.isAlphanum at h
      simpa [hdigit] using h
    rw [isLower_eq, Bool.and_eq_true, decide_eq_true_eq, decide_eq_true_eq]
    change 97 ≤ c.toLower.toNat ∧ c.toLower.toNat ≤ 122
    by_cases hupper : c.val ≥ 'A'.val ∧ c.val ≤ 'Z'.val
    · have hlow : 65 ≤ c.toNat := hupper.1
      have hhigh : c.toNat ≤ 90 := hupper.2
      have hval : c.toLower.toNat = c.toNat + 32 := by
        change c.toLower.val.toNat = c.val.toNat + 32
        rw [val_toLower hupper, UInt32.toNat_add]
        exact Nat.mod_eq_of_lt (by change c.toNat + 32 < _; omega)
      omega
    · rw [show c.toLower = c from dif_neg hupper]
      rcases isAlpha_iff.1 halpha with hup | hlow
      · exact absurd ⟨hup.1, hup.2⟩ hupper
      · exact hlow

namespace IsSlugText

variable {out : List Char}

lemma nil : IsSlugText [] := ⟨nofun, rfl⟩

/-- The text with one more letter or digit. -/
lemma push (h : IsSlugText out) {c : Char} (hc : c.isLower = true ∨ c.isDigit = true) :
    IsSlugText (out ++ [c]) where
  chars d hd := by
    rcases List.mem_append.1 hd with hd | hd
    · exact h.chars d hd
    · rw [List.mem_singleton.1 hd]
      rcases hc with hc | hc <;> simp [isSlugChar, hc]
  steady := by
    rw [List.foldl_append, h.steady, List.foldl_cons, List.foldl_nil, slugStep_kept hc]
    rfl

/-- The text with a hyphen and one more letter or digit. -/
lemma hyphen (h : IsSlugText out) (hne : out ≠ []) {c : Char}
    (hc : c.isLower = true ∨ c.isDigit = true) : IsSlugText (out ++ ['-'] ++ [c]) where
  chars d hd := by
    simp only [List.mem_append, List.mem_singleton] at hd
    rcases hd with (hd | rfl) | rfl
    · exact h.chars d hd
    · rfl
    · rcases hc with hc | hc <;> simp [isSlugChar, hc]
  steady := by
    have hhyphen : slugStep (out, false) '-' = (out, true) := rfl
    have hnonempty : out.isEmpty = false := List.isEmpty_eq_false_iff.2 hne
    rw [List.foldl_append, List.foldl_append, h.steady]
    change slugStep (slugStep (out, false) '-') c = _
    rw [hhyphen, slugStep_kept hc, hnonempty]
    rfl

/-- The text with more digits. -/
lemma append_digits (h : IsSlugText out) {ds : List Char} (hds : ∀ c ∈ ds, c.isDigit = true) :
    IsSlugText (out ++ ds) := by
  induction ds generalizing out with
  | nil => rwa [List.append_nil]
  | cons d ds ih =>
    rw [List.append_cons]
    exact ih (h.push (Or.inr (hds d List.mem_cons_self)))
      fun c hc => hds c (List.mem_cons_of_mem _ hc)

/-- A step of the slug function keeps the text. -/
lemma slugStep (h : IsSlugText out) (pending : Bool) (c : Char) :
    IsSlugText (slugStep (out, pending) c).1 := by
  by_cases halnum : isAsciiAlphanumeric c = true
  · have hc := isLower_or_isDigit_toLower halnum
    rw [Sandboard.slugStep, if_pos halnum]
    dsimp only
    split
    · rename_i hdue
      rw [Bool.and_eq_true, Bool.not_eq_true', List.isEmpty_eq_false_iff] at hdue
      exact h.hyphen hdue.2 hc
    · exact h.push hc
  · rw [Sandboard.slugStep, if_neg halnum]
    split <;> exact h

lemma foldl (h : IsSlugText out) (pending : Bool) (cs : List Char) :
    IsSlugText (cs.foldl Sandboard.slugStep (out, pending)).1 := by
  induction cs generalizing out pending with
  | nil => exact h
  | cons c cs ih => exact ih (h.slugStep pending c) _

/-- A text that the slug function leaves alone is its own slug. -/
lemma wellFormedId (h : IsSlugText out) (hne : out ≠ []) : WellFormedId (String.ofList out) where
  nonempty heq := hne (String.ofList_injective heq)
  chars c hc := h.chars c (by rwa [String.toList_ofList] at hc)
  slug := by
    unfold slugifySandboxProfileId
    rw [String.toList_ofList, h.steady]
    dsimp only
    rw [List.isEmpty_eq_false_iff.2 hne]
    rfl

end IsSlugText

/-- The characters of the slug a name without letters and digits gets. -/
lemma isSlugChar_of_mem_profile : ∀ c ∈ "profile".toList, isSlugChar c = true :=
  List.all_eq_true.1 (by decide)

lemma WellFormedId.isSlugText {id : String} (h : WellFormedId id) : IsSlugText id.toList := by
  have hslug := h.slug
  unfold slugifySandboxProfileId at hslug
  dsimp only at hslug
  have htext := IsSlugText.nil.foldl false id.toList
  split at hslug
  · rw [← hslug]
    exact ⟨isSlugChar_of_mem_profile, by decide⟩
  · rw [← hslug, String.toList_ofList]
    exact htext

/-- Every slug is a well-formed id. -/
lemma wellFormedId_slugify (name : String) : WellFormedId (slugifySandboxProfileId name) := by
  unfold slugifySandboxProfileId
  dsimp only
  split
  · exact ⟨by decide, isSlugChar_of_mem_profile, by decide⟩
  · rename_i hne
    exact (IsSlugText.nil.foldl false name.toList).wellFormedId
      (List.isEmpty_eq_false_iff.1 (by simpa using hne))

lemma slugify_slugify (name : String) :
    slugifySandboxProfileId (slugifySandboxProfileId name) = slugifySandboxProfileId name :=
  (wellFormedId_slugify name).slug

/-! ## Numbered ids -/

lemma toList_nthId (base : String) (n : ℕ) :
    (nthId base n).toList = base.toList ++ '-' :: (toString n).toList := by
  change (base ++ "-" ++ toString n).toList = _
  rw [String.toList_append, String.toList_append, List.append_assoc]
  rfl

lemma nthId_injective (base : String) : Function.Injective (nthId base) := by
  intro n m h
  have hlists := congrArg String.toList h
  rw [toList_nthId, toList_nthId, List.append_cancel_left_eq, List.cons.injEq] at hlists
  have hread := readDigits_toString n
  rw [hlists.2, readDigits_toString] at hread
  exact (Option.some.inj hread).symm

lemma nthId_ne (base : String) (n : ℕ) : nthId base n ≠ base := by
  intro h
  have hlength := congrArg (fun s => s.toList.length) h
  simp only [toList_nthId, List.length_append, List.length_cons] at hlength
  omega

lemma WellFormedId.nthId {base : String} (h : WellFormedId base) (n : ℕ) :
    WellFormedId (nthId base n) := by
  have hne : base.toList ≠ [] := fun hnil => h.nonempty (String.toList_injective hnil)
  obtain ⟨d, ds, hdigits⟩ : ∃ d ds, (toString n).toList = d :: ds := by
    refine List.exists_cons_of_ne_nil ?_
    rw [toList_toString_nat]
    exact Nat.toDigits_ne_nil
  have hall : ∀ c ∈ d :: ds, c.isDigit = true := fun c hc =>
    isDigit_of_mem_toString (hdigits ▸ hc)
  have htext : IsSlugText (base.toList ++ ['-'] ++ [d] ++ ds) :=
    (h.isSlugText.hyphen hne (Or.inr (hall d List.mem_cons_self))).append_digits
      fun c hc => hall c (List.mem_cons_of_mem _ hc)
  have hlist : (Sandboard.nthId base n).toList = base.toList ++ ['-'] ++ [d] ++ ds := by
    rw [toList_nthId, hdigits]
    simp
  rw [← hlist] at htext
  have hid := htext.wellFormedId (by rw [hlist]; simp)
  rwa [String.ofList_toList] at hid

/-! ## Free ids -/

section Free

variable {β : Type} {existing : ExtTreeMap String β} {base : String}

/-- Some id that a creation tries is not taken: the slug, or one with a number up to the largest of
32 bits. -/
def HasFreeId (existing : ExtTreeMap String β) (base : String) : Prop :=
  base ∉ existing ∨ ∃ n, 2 ≤ n ∧ n ≤ 4294967295 ∧ nthId base n ∉ existing

/-- What the search finds is not taken. -/
lemma firstFree_eq_some {n fuel : ℕ} {id : String}
    (h : firstFree existing base n fuel = some id) :
    id ∉ existing ∧ ∃ m, n ≤ m ∧ m < n + fuel ∧ id = nthId base m := by
  induction fuel generalizing n with
  | zero => cases h
  | succ fuel ih =>
    rw [firstFree] at h
    split at h
    · obtain ⟨hid, m, hn, hm, hnth⟩ := ih h
      exact ⟨hid, m, by omega, by omega, hnth⟩
    · rename_i hfree
      injection h with h
      exact ⟨h ▸ fun hmem => hfree (ExtTreeMap.mem_iff_contains.1 hmem), n, le_rfl, by omega,
        h.symm⟩

/-- When the search finds nothing, all that it tried is taken. -/
lemma firstFree_eq_none {n fuel : ℕ} (h : firstFree existing base n fuel = none) {m : ℕ}
    (hn : n ≤ m) (hm : m < n + fuel) : nthId base m ∈ existing := by
  induction fuel generalizing n with
  | zero => omega
  | succ fuel ih =>
    rw [firstFree] at h
    split at h
    · rename_i htaken
      rcases Nat.eq_or_lt_of_le hn with rfl | hlt
      · exact ExtTreeMap.mem_iff_contains.2 htaken
      · exact ih h hlt (by omega)
    · cases h

/-- A new id is the slug, or the slug with a number. -/
lemma wellFormedId_allocateUniqueId (hbase : WellFormedId base) :
    WellFormedId (allocateUniqueId existing base) := by
  unfold allocateUniqueId
  split
  · cases hfirst : firstFree existing base 2 4294967293 with
    | none => exact hbase.nthId _
    | some id =>
      obtain ⟨-, m, -, -, rfl⟩ := firstFree_eq_some hfirst
      exact hbase.nthId m
  · exact hbase

/-- The new id of a profile or a policy is not taken exactly when some id is free. -/
lemma allocateUniqueId_notMem_iff :
    allocateUniqueId existing base ∉ existing ↔ HasFreeId existing base := by
  unfold allocateUniqueId
  split
  · rename_i hbase
    rw [← ExtTreeMap.mem_iff_contains] at hbase
    cases hfirst : firstFree existing base 2 4294967293 with
    | none =>
      rw [Option.getD_none]
      constructor
      · exact fun hlast => Or.inr ⟨4294967295, by decide, le_rfl, hlast⟩
      · rintro (hfree | ⟨n, hn, hle, hfree⟩)
        · exact absurd hbase hfree
        · rcases Nat.eq_or_lt_of_le hle with rfl | hlt
          · exact hfree
          · exact absurd (firstFree_eq_none hfirst hn (by omega)) hfree
    | some id =>
      obtain ⟨hid, m, hn, hm, rfl⟩ := firstFree_eq_some hfirst
      exact iff_of_true hid (Or.inr ⟨m, hn, by omega, hid⟩)
  · rename_i hbase
    have hfree : base ∉ existing := fun hmem => hbase (ExtTreeMap.mem_iff_contains.1 hmem)
    exact iff_of_true hfree (Or.inl hfree)

/-- The new id of an MCP server is well formed and not taken. -/
lemma allocateUniqueMcpServerId_eq_ok {id : String} (hbase : WellFormedId base)
    (h : allocateUniqueMcpServerId existing base = .ok id) : WellFormedId id ∧ id ∉ existing := by
  unfold allocateUniqueMcpServerId at h
  split at h
  · split at h
    · rename_i found hfirst
      injection h with h
      subst h
      obtain ⟨hid, m, -, -, rfl⟩ := firstFree_eq_some hfirst
      exact ⟨hbase.nthId m, hid⟩
    · cases h
  · rename_i hfree
    injection h with h
    subst h
    exact ⟨hbase, fun hmem => hfree (ExtTreeMap.mem_iff_contains.1 hmem)⟩

/-- An MCP server gets a new id when some id is free. -/
lemma exists_allocateUniqueMcpServerId (hfree : HasFreeId existing base) :
    ∃ id, allocateUniqueMcpServerId existing base = .ok id := by
  unfold allocateUniqueMcpServerId
  split
  · rename_i hbase
    rw [← ExtTreeMap.mem_iff_contains] at hbase
    cases hfirst : firstFree existing base 2 4294967294 with
    | some id => exact ⟨id, rfl⟩
    | none =>
      rcases hfree with hfree | ⟨n, hn, hle, hfree⟩
      · exact absurd hbase hfree
      · exact absurd (firstFree_eq_none hfirst hn (by omega)) hfree
  · exact ⟨base, rfl⟩

/-- A catalog with fewer entries than ids to try has a free one. -/
lemma hasFreeId_of_size_lt (h : existing.size < 4294967295) : HasFreeId existing base := by
  by_contra hfull
  have hbase : base ∈ existing := by
    by_contra hfree
    exact hfull (Or.inl hfree)
  let tried := insert base ((Finset.Icc 2 4294967295).image (nthId base))
  have htaken : tried ⊆ existing.keys.toFinset := by
    intro id hid
    rw [List.mem_toFinset, ExtTreeMap.mem_keys]
    rcases Finset.mem_insert.1 hid with rfl | hid
    · exact hbase
    · obtain ⟨n, hn, rfl⟩ := Finset.mem_image.1 hid
      obtain ⟨hn, hle⟩ := Finset.mem_Icc.1 hn
      by_contra hfree
      exact hfull (Or.inr ⟨n, hn, hle, hfree⟩)
  have hcard : tried.card = 4294967295 := by
    have hbase' : base ∉ (Finset.Icc 2 4294967295).image (nthId base) := by
      intro hmem
      obtain ⟨n, -, hn⟩ := Finset.mem_image.1 hmem
      exact nthId_ne base n hn
    rw [Finset.card_insert_of_notMem hbase',
      Finset.card_image_of_injective _ (nthId_injective base), Nat.card_Icc]
  have hsize : tried.card ≤ existing.size := by
    rw [← ExtTreeMap.length_keys]
    exact (Finset.card_le_card htaken).trans (List.toFinset_card_le _)
  omega

end Free

/-! ## Creations -/

section Creates

variable {β : Type} {catalog catalog' : ExtTreeMap String β}

/-- One entry was added, under a well-formed id that was not taken; the others were left alone. -/
structure Creates (catalog catalog' : ExtTreeMap String β) (id : String) (stored : β) : Prop where
  wellFormed : WellFormedId id
  fresh : id ∉ catalog
  stored : catalog'[id]? = some stored
  others : ∀ k, k ≠ id → catalog'[k]? = catalog[k]?

/-- What became of a creation: a refused one left the catalog as it was, and another one added its
entry when some id was free. -/
def Created (catalog catalog' : ExtTreeMap String β) (name : String) :
    Except String (String × β) → Prop
  | .error _ => catalog' = catalog
  | .ok (id, stored) =>
    HasFreeId catalog (slugifySandboxProfileId name) → Creates catalog catalog' id stored

lemma creates_insert {id : String} (hid : WellFormedId id) (hfresh : id ∉ catalog) (stored : β) :
    Creates catalog (catalog.insert id stored) id stored where
  wellFormed := hid
  fresh := hfresh
  stored := ExtTreeMap.getElem?_insert_self
  others k hk := by
    rw [ExtTreeMap.getElem?_insert, if_neg]
    rw [Std.compare_eq_iff_eq]
    exact Ne.symm hk

/-- An entry without an id gets a new one. -/
lemma idOrNew_of_isBlank {id : String} (hblank : isBlank id = true) (name : String) :
    idOrNew catalog id name = allocateUniqueId catalog (slugifySandboxProfileId name) := by
  rw [idOrNew, trim_of_isBlank hblank]
  rfl

lemma mcpServerIdOrNew_of_isBlank {id : String} (hblank : isBlank id = true) (name : String) :
    mcpServerIdOrNew catalog id name =
      allocateUniqueMcpServerId catalog (slugifySandboxProfileId name) := by
  rw [mcpServerIdOrNew, trim_of_isBlank hblank]
  rfl

/-- The id of a profile or a policy that is created. -/
lemma creates_idOrNew {id name : String} (hblank : isBlank id = true)
    (hfree : HasFreeId catalog (slugifySandboxProfileId name)) (stored : β) :
    Creates catalog (catalog.insert (idOrNew catalog id name) stored) (idOrNew catalog id name)
      stored := by
  rw [idOrNew_of_isBlank hblank]
  exact creates_insert (wellFormedId_allocateUniqueId (wellFormedId_slugify name))
    (allocateUniqueId_notMem_iff.2 hfree) stored

end Creates

namespace Settings

variable (s : Settings)

/-- A policy without an id. -/
lemma created_policy {policy : OpenShellPolicy} (hblank : isBlank policy.id = true) :
    Created s.openshellPolicies (s.upsertOpenshellPolicy policy).2.openshellPolicies
      (trim policy.name) ((s.upsertOpenshellPolicy policy).1.map fun p => (p.id, p)) := by
  unfold upsertOpenshellPolicy
  split
  · exact rfl
  · split
    · exact rfl
    · exact fun hfree => creates_idOrNew hblank hfree _

lemma policy_accepted_iff (policy : OpenShellPolicy) :
    (∃ stored, (s.upsertOpenshellPolicy policy).1 = .ok stored) ↔
      isBlank policy.name = false ∧ isBlank policy.yaml = false := by
  unfold upsertOpenshellPolicy
  cases hname : isBlank policy.name <;> cases hyaml : isBlank policy.yaml <;> simp

/-- A profile without an id. -/
lemma created_profile {profile : SandboxProfile} (hblank : isBlank profile.id = true) :
    Created s.sandboxProfiles (s.upsertSandboxProfile profile).2.sandboxProfiles
      (trim profile.name) ((s.upsertSandboxProfile profile).1.map fun p => (p.id, p)) := by
  have hseeded : s.ensureShippedMcpServers.sandboxProfiles = s.sandboxProfiles := by
    unfold ensureShippedMcpServers
    dsimp only
    split
    · rfl
    · split <;> rfl
  rw [← hseeded]
  unfold upsertSandboxProfile
  generalize s.ensureShippedMcpServers = s
  dsimp only
  split
  · exact rfl
  · split
    · exact rfl
    · split
      · exact rfl
      · split
        · exact rfl
        · split
          · exact rfl
          · exact fun hfree => creates_idOrNew hblank hfree _

lemma profile_accepted_iff (profile : SandboxProfile) :
    (∃ stored, (s.upsertSandboxProfile profile).1 = .ok stored) ↔
      isBlank profile.name = false ∧ isBlank profile.image = false ∧
        isBlank profile.policyId = false ∧
        trim profile.policyId ∈ s.ensureShippedMcpServers.openshellPolicies ∧
        ∀ mid ∈ normalizedNames profile.mcpServerIds,
          mid ∈ s.ensureShippedMcpServers.mcpServers := by
  unfold upsertSandboxProfile
  generalize s.ensureShippedMcpServers = s
  dsimp only
  rw [isEmpty_trim, ExtTreeMap.mem_iff_contains]
  cases hname : isBlank profile.name with
  | true => simp
  | false =>
    cases himage : isBlank profile.image with
    | true => simp
    | false =>
      cases hid : isBlank profile.policyId with
      | true => simp
      | false =>
        cases hpolicy : s.openshellPolicies.contains (trim profile.policyId) with
        | false => simp
        | true =>
          simp only [Bool.false_eq_true, if_false, Bool.not_true, true_and,
            ExtTreeMap.mem_iff_contains]
          cases hfind : (normalizedNames profile.mcpServerIds).find? fun mid =>
              !s.mcpServers.contains mid with
          | none => simpa using hfind
          | some mid =>
            have hmem := List.mem_of_find?_eq_some hfind
            have hmissing := List.find?_some hfind
            simp only [reduceCtorEq, exists_false, false_iff, not_forall]
            rw [Bool.not_eq_true'] at hmissing
            exact ⟨mid, hmem, by rw [hmissing]; exact Bool.false_ne_true⟩

/-- What a normalized entry is named. -/
lemma normalized_fields {server stored : McpServerDesired} (h : server.normalized = .ok stored) :
    stored.id = trim server.id ∧ stored.name = trim server.name := by
  unfold McpServerDesired.normalized at h
  dsimp only at h
  split at h
  · cases h
  · split at h
    · cases h
    · split at h
      · cases h
      · split at h
        · cases h
        · cases h
          exact ⟨rfl, rfl⟩

/-- An MCP server without an id. -/
lemma created_server [PolicyYaml] {server : McpServerDesired} (hblank : isBlank server.id = true) :
    Created s.mcpServers (s.upsertMcpServer server).2.mcpServers (trim server.name)
      ((s.upsertMcpServer server).1.map fun m => (m.id, m)) := by
  unfold upsertMcpServer
  split
  · exact rfl
  · rename_i stored hstored
    obtain ⟨hid, hname⟩ := normalized_fields hstored
    have hblank' : isBlank stored.id = true := by rwa [hid, isBlank_trim]
    dsimp only
    split
    · exact rfl
    · rw [mcpServerIdOrNew_of_isBlank hblank', hname]
      split
      · exact rfl
      · rename_i id hnew
        obtain ⟨hwell, hfresh⟩ := allocateUniqueMcpServerId_eq_ok (wellFormedId_slugify _) hnew
        exact fun _ => creates_insert hwell hfresh _

/-- The fragment of an entry, when it has one, can be merged. -/
def Merges [yaml : PolicyYaml] (server : McpServerDesired) : Prop :=
  ∀ frag ∈ server.policyFragmentYaml, ∃ merged,
    yaml.mergePolicyFragments "version: 1\nnetwork_policies: \x7b\x7d\n" [frag] = .ok merged

lemma server_accepted_iff [yaml : PolicyYaml] {server : McpServerDesired}
    (hblank : isBlank server.id = true)
    (hfree : HasFreeId s.mcpServers (slugifySandboxProfileId (trim server.name))) :
    (∃ stored, (s.upsertMcpServer server).1 = .ok stored) ↔
      ∃ stored, server.normalized = .ok stored ∧ Merges stored := by
  unfold upsertMcpServer
  cases hstored : server.normalized with
  | error e => simp
  | ok stored =>
    obtain ⟨hid, hname⟩ := normalized_fields hstored
    have hblank' : isBlank stored.id = true := by rwa [hid, isBlank_trim]
    obtain ⟨id, hnew⟩ := exists_allocateUniqueMcpServerId hfree
    rw [← hname] at hnew
    dsimp only
    rw [mcpServerIdOrNew_of_isBlank hblank', hnew]
    cases hfrag : stored.policyFragmentYaml with
    | none => simp [Merges, hfrag]
    | some frag =>
      rw [Option.map_some, Option.getD_some]
      cases hmerge :
          yaml.mergePolicyFragments "version: 1\nnetwork_policies: \x7b\x7d\n" [frag] with
      | error e => simp [Merges, hfrag, hmerge]
      | ok merged => simp [Merges, hfrag, hmerge]

end Settings

/-- The slug function leaves its results alone.  A policy, a profile or an MCP server that is stored
without an id is refused, with its catalog as it was, or adds one entry to its catalog: under a
well-formed id that was not taken, with the other entries left alone, when one of the ids to try is
free, as it is in every catalog with fewer than `2 ^ 32 - 1` entries.  Only the checks of the
request refuse it; a blank name does. -/
theorem creation_spec [PolicyYaml] (s : Settings) :
    (∀ name, slugifySandboxProfileId (slugifySandboxProfileId name) =
      slugifySandboxProfileId name) ∧
    (∀ (β : Type) (catalog : ExtTreeMap String β) (base : String),
      catalog.size < 4294967295 → HasFreeId catalog base) ∧
    (∀ policy : OpenShellPolicy, isBlank policy.id = true →
      Created s.openshellPolicies (s.upsertOpenshellPolicy policy).2.openshellPolicies
        (trim policy.name) ((s.upsertOpenshellPolicy policy).1.map fun p => (p.id, p)) ∧
      ((∃ stored, (s.upsertOpenshellPolicy policy).1 = .ok stored) ↔
        isBlank policy.name = false ∧ isBlank policy.yaml = false)) ∧
    (∀ profile : SandboxProfile, isBlank profile.id = true →
      Created s.sandboxProfiles (s.upsertSandboxProfile profile).2.sandboxProfiles
        (trim profile.name) ((s.upsertSandboxProfile profile).1.map fun p => (p.id, p)) ∧
      ((∃ stored, (s.upsertSandboxProfile profile).1 = .ok stored) ↔
        isBlank profile.name = false ∧ isBlank profile.image = false ∧
          isBlank profile.policyId = false ∧
          trim profile.policyId ∈ s.ensureShippedMcpServers.openshellPolicies ∧
          ∀ mid ∈ normalizedNames profile.mcpServerIds,
            mid ∈ s.ensureShippedMcpServers.mcpServers)) ∧
    ∀ server : McpServerDesired, isBlank server.id = true →
      Created s.mcpServers (s.upsertMcpServer server).2.mcpServers (trim server.name)
        ((s.upsertMcpServer server).1.map fun m => (m.id, m)) ∧
      (HasFreeId s.mcpServers (slugifySandboxProfileId (trim server.name)) →
        ((∃ stored, (s.upsertMcpServer server).1 = .ok stored) ↔
          ∃ stored, server.normalized = .ok stored ∧ Settings.Merges stored)) := by
  refine ⟨slugify_slugify, fun _ _ _ => hasFreeId_of_size_lt, fun policy hblank => ?_,
    fun profile hblank => ?_, fun server hblank => ?_⟩
  · exact ⟨s.created_policy hblank, s.policy_accepted_iff policy⟩
  · exact ⟨s.created_profile hblank, s.profile_accepted_iff profile⟩
  · exact ⟨s.created_server hblank, s.server_accepted_iff hblank⟩

/-- A catalog that holds the id `base` and the ids `base-n` for all numbers below a bound. -/
def crowded {β : Type} (base : String) (entry : β) (bound : ℕ) : ExtTreeMap String β :=
  (List.range bound).foldl (fun catalog n => catalog.insert (nthId base n) entry)
    ((∅ : ExtTreeMap String β).insert base entry)

lemma mem_foldl_insert_nthId {β : Type} {base id : String} {entry : β} {numbers : List ℕ}
    {catalog : ExtTreeMap String β} (h : id ∈ catalog ∨ ∃ n ∈ numbers, id = nthId base n) :
    id ∈ numbers.foldl (fun catalog n => catalog.insert (nthId base n) entry) catalog := by
  induction numbers generalizing catalog with
  | nil => exact h.resolve_right fun ⟨n, hn, _⟩ => by cases hn
  | cons m numbers ih =>
    rw [List.foldl_cons]
    apply ih
    rcases h with hmem | ⟨n, hn, rfl⟩
    · exact Or.inl (ExtTreeMap.mem_insert.2 (Or.inr hmem))
    · rcases List.mem_cons.1 hn with rfl | hn
      · exact Or.inl ExtTreeMap.mem_insert_self
      · exact Or.inr ⟨n, hn, rfl⟩

/-- In the crowded catalog of 32 bits no id is free. -/
lemma not_hasFreeId_crowded {β : Type} (base : String) (entry : β) :
    ¬HasFreeId (crowded base entry 4294967296) base := by
  rintro (hfree | ⟨n, -, hn, hfree⟩)
  · exact hfree (mem_foldl_insert_nthId (Or.inl ExtTreeMap.mem_insert_self))
  · exact hfree (mem_foldl_insert_nthId
      (Or.inr ⟨n, List.mem_range.2 (Nat.lt_succ_of_le hn), rfl⟩))

/-- Where no id is free, the creation of a policy replaces an entry. -/
lemma exists_replaced {catalog : ExtTreeMap String OpenShellPolicy}
    (hfull : ¬HasFreeId catalog "docs") :
    ∃ stored, ({ Settings.empty with openshellPolicies := catalog }.upsertOpenshellPolicy
      ⟨"", "Docs", "version: 1"⟩).1 = .ok stored ∧ stored.id ∈ catalog := by
  have hid : idOrNew catalog "" (trim "Docs") ∈ catalog := by
    rw [idOrNew_of_isBlank (by decide)]
    by_contra hfresh
    have hslug : slugifySandboxProfileId (trim "Docs") = "docs" := by decide
    rw [hslug] at hfresh
    exact hfull (allocateUniqueId_notMem_iff.1 hfresh)
  unfold Settings.upsertOpenshellPolicy
  rw [if_neg (by decide), if_neg (by decide)]
  exact ⟨_, rfl, hid⟩

/-- A creation with the empty name adds no entry, and in a crowded catalog a creation replaces an
entry. -/
theorem not_created_always :
    (¬∃ id stored, Creates Settings.empty.openshellPolicies
      (Settings.empty.upsertOpenshellPolicy ⟨"", "", "version: 1"⟩).2.openshellPolicies id
        stored) ∧
    ∃ stored, ({ Settings.empty with
        openshellPolicies := crowded "docs" ⟨"docs", "Docs", "version: 1"⟩ 4294967296 : Settings
        }.upsertOpenshellPolicy ⟨"", "Docs", "version: 1"⟩).1 = .ok stored ∧
      stored.id ∈ crowded "docs" (⟨"docs", "Docs", "version: 1"⟩ : OpenShellPolicy) 4294967296 := by
  refine ⟨?_, exists_replaced (not_hasFreeId_crowded "docs" _)⟩
  rintro ⟨id, stored, hcreates⟩
  have hstored := hcreates.stored
  rw [Settings.upsertOpenshellPolicy, if_pos (by decide)] at hstored
  have hempty : Settings.empty.openshellPolicies[id]? = none := ExtTreeMap.getElem?_empty
  rw [hempty] at hstored
  cases hstored

end Sandboard

import Sandboard.Library.OrderedMap
import Sandboard.Settings.Rendering

/-!
# Merging the policy fragments of MCP servers

The policy of a sandbox is the policy of its profile with the fragments of its servers merged into
`network_policies`.  A fragment is a whole policy document or a bare map of policies; the code
tells the two apart by their keys and by the kind of the value under `network_policies`.  A
fragment in which that value is not a plain mapping, and which has no key that gives it away as a
document, is taken for a bare map, and `network_policies` itself becomes the name of a policy.
Every other fragment contributes what it should.

The YAML crate is a parameter.  A value is what the code tells apart: a mapping, a tagged value,
`null`, or another one.  A key is a text, a tagged key, or another one, up to the equality of the
crate.
-/

namespace Sandboard

open Text

/-! ## Values -/

/-- The key of an entry. -/
inductive YamlKey (κ : Type) where
  | string (s : String)
  | tagged (tag : String) (key : YamlKey κ)
  | other (key : κ)
  deriving DecidableEq

/-- `Value::as_str`. -/
def YamlKey.asStr {κ : Type} : YamlKey κ → Option String
  | .string s => some s
  | .tagged _ key => key.asStr
  | .other _ => none

/-- A value; booleans, numbers, texts and sequences are plain. -/
inductive YamlValue (κ ν : Type) where
  | null
  | plain (v : ν)
  | mapping (entries : List (YamlKey κ × YamlValue κ ν))
  | tagged (tag : String) (value : YamlValue κ ν)

/-- The entries of a mapping. -/
abbrev Mapping (κ ν : Type) := List (YamlKey κ × YamlValue κ ν)

namespace YamlValue

variable {κ ν : Type}

/-- `Value::as_mapping`. -/
def asMapping : YamlValue κ ν → Option (Mapping κ ν)
  | .mapping entries => some entries
  | .tagged _ value => value.asMapping
  | _ => none

/-- No mapping in the value has a key twice. -/
inductive Distinct : YamlValue κ ν → Prop
  | null : Distinct .null
  | plain (v : ν) : Distinct (.plain v)
  | mapping {entries : Mapping κ ν} : (entries.map Prod.fst).Nodup →
      (∀ e ∈ entries, Distinct e.2) → Distinct (.mapping entries)
  | tagged (tag : String) {value : YamlValue κ ν} : Distinct value → Distinct (.tagged tag value)

lemma Distinct.of_asMapping {value : YamlValue κ ν} (h : value.Distinct) {map : Mapping κ ν}
    (hmap : value.asMapping = some map) : (YamlValue.mapping map).Distinct := by
  induction h with
  | null => simp [asMapping] at hmap
  | plain v => simp [asMapping] at hmap
  | mapping hnd hall =>
    rw [asMapping, Option.some.injEq] at hmap
    rw [← hmap]
    exact Distinct.mapping hnd hall
  | tagged tag _ ih => exact ih hmap

lemma Distinct.nodup {map : Mapping κ ν} (h : (YamlValue.mapping map).Distinct) :
    (map.map Prod.fst).Nodup := by
  cases h with
  | mapping hnd _ => exact hnd

lemma Distinct.forall {map : Mapping κ ν} (h : (YamlValue.mapping map).Distinct) :
    ∀ e ∈ map, e.2.Distinct := by
  cases h with
  | mapping _ hall => exact hall

/-- What is in a value is smaller. -/
lemma sizeOf_lt_of_asMapping {value : YamlValue κ ν} {map : Mapping κ ν}
    (h : value.asMapping = some map) : sizeOf map < sizeOf value := by
  induction value using YamlValue.asMapping.induct with
  | case1 entries =>
    rw [asMapping, Option.some.injEq] at h
    rw [h, mapping.sizeOf_spec]
    omega
  | case2 tag value ih =>
    rw [tagged.sizeOf_spec]
    have := ih h
    omega
  | case3 value hmap htag => simp [asMapping] at h

/-- No mapping is one of its own values. -/
lemma asMapping_ne_of_lookup [DecidableEq κ] {map : Mapping κ ν} {key : YamlKey κ}
    {value : YamlValue κ ν} (h : map.lookup key = some value) : value.asMapping ≠ some map := by
  intro hmap
  obtain ⟨l, r, rfl, -⟩ := List.lookup_eq_some_iff.1 h
  have hlt := sizeOf_lt_of_asMapping hmap
  have hmem : (key, value) ∈ l ++ (key, value) :: r := by simp
  have hlt' := List.sizeOf_lt_of_mem hmem
  rw [Prod.mk.sizeOf_spec] at hlt'
  omega

end YamlValue

/-! ## The merge -/

/-- What the code uses of the YAML crate. -/
structure SerdeYaml (κ ν : Type) where
  /-- `serde_yaml::from_str`. -/
  fromStr : String → Except String (YamlValue κ ν)
  /-- `serde_yaml::to_string`. -/
  toString : YamlValue κ ν → Except String String

/-- The crate refuses a key that comes twice, reads nothing in a blank text, and reads what it has
written. -/
structure SerdeYaml.Lawful {κ ν : Type} (yaml : SerdeYaml κ ν) : Prop where
  distinct : ∀ {text value}, yaml.fromStr text = .ok value → value.Distinct
  blank : ∀ {text value}, isBlank text = true → yaml.fromStr text = .ok value →
    value.asMapping = none
  reads : ∀ {text value}, value.Distinct → yaml.toString value = .ok text →
    yaml.fromStr text = .ok value

section Merge

variable {κ ν : Type} [DecidableEq κ]

/-- The key the policies are under. -/
def networkPoliciesKey : YamlKey κ := .string "network_policies"

/-- The mapping is a bare map of policies: there are keys, and none belongs to a document. -/
def isBarePolicies (map : Mapping κ ν) : Bool :=
  (map.map Prod.fst).all (fun k => k.asStr.any fun s => s != "version" && s != "filesystem_policy")
    && !map.isEmpty

/-- `extract_network_policies`. -/
def extractNetworkPolicies (parsed : YamlValue κ ν) : Except String (Mapping κ ν) :=
  match parsed.asMapping with
  | none => .error "mcp policy fragment must be a YAML mapping"
  | some map =>
    match map.lookup networkPoliciesKey with
    | some (.mapping net) => .ok net
    | _ => if isBarePolicies map then .ok map else .ok []

/-- `merge_network_policies`. -/
def mergeNetworkPolicies (base : YamlValue κ ν) (incoming : Mapping κ ν) :
    Except String (YamlValue κ ν) :=
  match base with
  | .mapping root =>
    let root :=
      if (root.lookup networkPoliciesKey).isNone then
        OrderedMap.insert networkPoliciesKey (.mapping []) root
      else root
    match root.lookup networkPoliciesKey with
    | some (.mapping net) =>
      .ok (.mapping (OrderedMap.insert networkPoliciesKey
        (.mapping (OrderedMap.insertAll net incoming)) root))
    | _ => .error "network_policies must be a mapping"
  | _ => .error "base policy yaml must be a mapping"

/-- The fragments that are not blank, trimmed. -/
def contents (fragments : List String) : List String :=
  (fragments.map trim).filter fun f => !f.isEmpty

namespace SerdeYaml

/-- Merge one fragment. -/
def mergeFragment (yaml : SerdeYaml κ ν) (base : YamlValue κ ν) (raw : String) :
    Except String (YamlValue κ ν) := do
  let parsed ← (yaml.fromStr raw).mapError ("mcp policy fragment: " ++ ·)
  let net ← extractNetworkPolicies parsed
  mergeNetworkPolicies base net

/-- The base policy; a blank one has no entries. -/
def parseBase (yaml : SerdeYaml κ ν) (baseYaml : String) : Except String (YamlValue κ ν) :=
  if (trim baseYaml).isEmpty then .ok (.mapping [])
  else (yaml.fromStr baseYaml).mapError ("base policy yaml: " ++ ·)

/-- `merge_policy_fragments`. -/
def mergePolicyFragments (yaml : SerdeYaml κ ν) (baseYaml : String) (fragments : List String) :
    Except String String :=
  let frags := contents fragments
  if frags.isEmpty then .ok baseYaml
  else do
    let base ← yaml.parseBase baseYaml
    if base.asMapping.isNone then .error "base policy yaml must be a mapping"
    else
      let merged ← frags.foldlM yaml.mergeFragment base
      (yaml.toString merged).mapError ("serialize merged policy: " ++ ·)

end SerdeYaml

/-! ## What a merge should lead to -/

/-- The policies a document should contribute: its `network_policies`, or its own entries when it
does not have that key and is a bare map of policies. -/
def ownPolicies (parsed : YamlValue κ ν) : Mapping κ ν :=
  match parsed.asMapping with
  | none => []
  | some map =>
    match map.lookup networkPoliciesKey with
    | some value => value.asMapping.getD []
    | none => if isBarePolicies map then map else []

/-- A document that the code takes for something else: what is under `network_policies` is not a
plain mapping, and either no key shows that this is a document, or there are policies in it. -/
def IsMistaken (parsed : YamlValue κ ν) : Prop :=
  ∃ map value, parsed.asMapping = some map ∧ map.lookup networkPoliciesKey = some value ∧
    (∀ net, value ≠ .mapping net) ∧
    (isBarePolicies map = true ∨ ∃ net, value.asMapping = some net ∧ net ≠ [])

/-- The policies of a policy mapping. -/
def networkPolicies (root : Mapping κ ν) : Mapping κ ν :=
  match root.lookup networkPoliciesKey with
  | some (.mapping net) => net
  | _ => []

/-- What merging documents into a policy mapping should lead to. -/
structure IsMerged (root : Mapping κ ν) (documents : List (YamlValue κ ν)) (merged : Mapping κ ν) :
    Prop where
  contributes : ∀ parsed ∈ documents, extractNetworkPolicies parsed = .ok (ownPolicies parsed)
  topLevel : ∀ key ≠ networkPoliciesKey, merged.lookup key = root.lookup key
  policies : ∀ name, (networkPolicies merged).lookup name =
    (OrderedMap.lastLookup (documents.map ownPolicies) name).or
      ((networkPolicies root).lookup name)
  noOthers : ∀ name ∈ (networkPolicies merged).map Prod.fst,
    (∃ parsed ∈ documents, name ∈ (ownPolicies parsed).map Prod.fst) ∨
      name ∈ (networkPolicies root).map Prod.fst

namespace SerdeYaml

/-- The policy mapping a text stands for. -/
def root? (yaml : SerdeYaml κ ν) (text : String) : Option (Mapping κ ν) :=
  (yaml.parseBase text).toOption.bind YamlValue.asMapping

/-- The documents among the fragments. -/
def documents (yaml : SerdeYaml κ ν) (fragments : List String) : List (YamlValue κ ν) :=
  (contents fragments).filterMap fun raw => (yaml.fromStr raw).toOption

/-- The text that comes out stands for the merged mapping, and merging again gives it again. -/
def MergesFragments (yaml : SerdeYaml κ ν) (root : Mapping κ ν) (fragments : List String)
    (out : String) : Prop :=
  (∃ merged, yaml.root? out = some merged ∧ IsMerged root (yaml.documents fragments) merged) ∧
    yaml.mergePolicyFragments out fragments = .ok out

end SerdeYaml

/-! ## One fragment -/

/-- The policies the code takes from a mapping. -/
def contribution (map : Mapping κ ν) : Mapping κ ν :=
  match map.lookup networkPoliciesKey with
  | some (.mapping net) => net
  | _ => if isBarePolicies map then map else []

lemma extract_of_asMapping {parsed : YamlValue κ ν} {map : Mapping κ ν}
    (h : parsed.asMapping = some map) :
    extractNetworkPolicies parsed = .ok (contribution map) := by
  unfold extractNetworkPolicies contribution
  rw [h]
  dsimp only
  split
  · rfl
  · split <;> rfl

lemma asMapping_of_extract {parsed : YamlValue κ ν} {net : Mapping κ ν}
    (h : extractNetworkPolicies parsed = .ok net) :
    ∃ map, parsed.asMapping = some map ∧ net = contribution map := by
  cases hmap : parsed.asMapping with
  | none =>
    unfold extractNetworkPolicies at h
    rw [hmap] at h
    cases h
  | some map =>
    rw [extract_of_asMapping hmap] at h
    exact ⟨map, rfl, (Except.ok.inj h).symm⟩

/-- What a fragment contributes has no key twice. -/
lemma distinct_contribution {map : Mapping κ ν} (h : (YamlValue.mapping map).Distinct) :
    (YamlValue.mapping (contribution map)).Distinct := by
  unfold contribution
  split
  · rename_i net hnet
    obtain ⟨l, r, rfl, -⟩ := List.lookup_eq_some_iff.1 hnet
    exact h.forall (networkPoliciesKey, .mapping net) (by simp)
  · split
    · exact h
    · exact YamlValue.Distinct.mapping List.nodup_nil (by simp)

lemma contribution_of_lookup {map : Mapping κ ν} {value : YamlValue κ ν}
    (hvalue : map.lookup networkPoliciesKey = some value) (hnet : ∀ net, value ≠ .mapping net) :
    contribution map = if isBarePolicies map then map else [] := by
  unfold contribution
  rw [hvalue]
  split
  · rename_i net h
    exact absurd (Option.some.inj h) (hnet net)
  · rfl

/-- A mapping whose `network_policies` are not a plain mapping contributes what it should when it
is not taken for a bare map and there are no policies in it. -/
lemma contribution_eq_getD_iff {map : Mapping κ ν} {value : YamlValue κ ν}
    (hvalue : map.lookup networkPoliciesKey = some value) :
    (if isBarePolicies map then map else []) = value.asMapping.getD [] ↔
      ¬isBarePolicies map = true ∧ value.asMapping.getD [] = [] := by
  by_cases hbare : isBarePolicies map = true
  · rw [if_pos hbare]
    refine iff_of_false ?_ fun h => h.1 hbare
    intro h
    cases hin : value.asMapping with
    | none =>
      rw [hin, Option.getD_none] at h
      rw [h] at hvalue
      cases hvalue
    | some net =>
      rw [hin, Option.getD_some] at h
      exact YamlValue.asMapping_ne_of_lookup hvalue (hin.trans (congrArg some h.symm))
  · rw [if_neg hbare]
    exact ⟨fun h => ⟨hbare, h.symm⟩, fun h => h.2.symm⟩

lemma ownPolicies_eq {parsed : YamlValue κ ν} {map : Mapping κ ν}
    (hmap : parsed.asMapping = some map) :
    ownPolicies parsed =
      match map.lookup networkPoliciesKey with
      | some value => value.asMapping.getD []
      | none => if isBarePolicies map then map else [] := by
  unfold ownPolicies
  rw [hmap]

/-- A fragment that is a mapping contributes what it should unless it is mistaken. -/
lemma contribution_eq_ownPolicies_iff {parsed : YamlValue κ ν} {map : Mapping κ ν}
    (hmap : parsed.asMapping = some map) :
    contribution map = ownPolicies parsed ↔ ¬IsMistaken parsed := by
  have hmistaken : IsMistaken parsed ↔ ∃ value, map.lookup networkPoliciesKey = some value ∧
      (∀ net, value ≠ .mapping net) ∧
        (isBarePolicies map = true ∨ ∃ net, value.asMapping = some net ∧ net ≠ []) := by
    unfold IsMistaken
    rw [hmap]
    simp only [Option.some.injEq, exists_eq_left', exists_and_left]
  rw [ownPolicies_eq hmap, hmistaken]
  cases hvalue : map.lookup networkPoliciesKey with
  | none =>
    refine iff_of_true ?_ ?_
    · unfold contribution
      rw [hvalue]
    · rintro ⟨value, h, -⟩
      cases h
  | some value =>
    dsimp only
    simp only [Option.some.injEq, exists_eq_left']
    by_cases hnet : ∃ net, value = .mapping net
    · obtain ⟨net, rfl⟩ := hnet
      refine iff_of_true ?_ fun h => h.1 net rfl
      unfold contribution
      rw [hvalue]
      rfl
    · have hnet' : ∀ net, value ≠ .mapping net := fun net h => hnet ⟨net, h⟩
      rw [contribution_of_lookup hvalue hnet', contribution_eq_getD_iff hvalue, not_and, not_or]
      have hempty : value.asMapping.getD [] = [] ↔
          ¬∃ net, value.asMapping = some net ∧ net ≠ [] := by
        cases value.asMapping <;> simp
      rw [hempty]
      exact ⟨fun h _ => h, fun h => h hnet'⟩

/-! ## One merge -/

/-- The policies that fragments are merged into; there are none when the value under
`network_policies` is not a mapping. -/
def policiesToMerge (root : Mapping κ ν) : Option (Mapping κ ν) :=
  match root.lookup networkPoliciesKey with
  | none => some []
  | some (.mapping net) => some net
  | some _ => none

/-- The policy mapping with other policies. -/
def withPolicies (net root : Mapping κ ν) : Mapping κ ν :=
  OrderedMap.insert networkPoliciesKey (.mapping net) root

lemma lookup_withPolicies (net root : Mapping κ ν) (key : YamlKey κ) :
    (withPolicies net root).lookup key =
      if key = networkPoliciesKey then some (.mapping net) else root.lookup key :=
  OrderedMap.lookup_insert _ _ _ _

@[simp]
lemma networkPolicies_withPolicies (net root : Mapping κ ν) :
    networkPolicies (withPolicies net root) = net := by
  unfold networkPolicies
  rw [lookup_withPolicies, if_pos rfl]

@[simp]
lemma policiesToMerge_withPolicies (net root : Mapping κ ν) :
    policiesToMerge (withPolicies net root) = some net := by
  unfold policiesToMerge
  rw [lookup_withPolicies, if_pos rfl]

lemma networkPolicies_of_policiesToMerge {root net : Mapping κ ν}
    (h : policiesToMerge root = some net) : networkPolicies root = net := by
  unfold policiesToMerge at h
  unfold networkPolicies
  cases hvalue : root.lookup networkPoliciesKey with
  | none =>
    rw [hvalue] at h
    exact Option.some.inj h
  | some value =>
    rw [hvalue] at h
    cases value with
    | mapping net' => exact Option.some.inj h
    | null => cases h
    | plain v => cases h
    | tagged tag value => cases h

lemma distinct_withPolicies {net root : Mapping κ ν} (hnet : (YamlValue.mapping net).Distinct)
    (hroot : (YamlValue.mapping root).Distinct) :
    (YamlValue.mapping (withPolicies net root)).Distinct :=
  YamlValue.Distinct.mapping (OrderedMap.nodup_insert hroot.nodup)
    (OrderedMap.forall_insert hnet hroot.forall)

lemma distinct_networkPolicies {root : Mapping κ ν} (h : (YamlValue.mapping root).Distinct) :
    (YamlValue.mapping (networkPolicies root)).Distinct := by
  unfold networkPolicies
  split
  · rename_i net hnet
    obtain ⟨l, r, rfl, -⟩ := List.lookup_eq_some_iff.1 hnet
    exact h.forall (networkPoliciesKey, .mapping net) (by simp)
  · exact YamlValue.Distinct.mapping List.nodup_nil (by simp)

lemma mergeNetworkPolicies_mapping (root incoming : Mapping κ ν) :
    mergeNetworkPolicies (.mapping root) incoming =
      match policiesToMerge root with
      | some net => .ok (.mapping (withPolicies (OrderedMap.insertAll net incoming) root))
      | none => .error "network_policies must be a mapping" := by
  unfold mergeNetworkPolicies policiesToMerge withPolicies
  dsimp only
  cases hvalue : root.lookup networkPoliciesKey with
  | none =>
    rw [Option.isNone_none, if_pos rfl, OrderedMap.lookup_insert, if_pos rfl]
    dsimp only
    rw [OrderedMap.insert_insert]
  | some value =>
    rw [Option.isNone_some, if_neg Bool.false_ne_true, hvalue]
    cases value <;> rfl

lemma mapping_of_mergeNetworkPolicies {base merged : YamlValue κ ν} {incoming : Mapping κ ν}
    (h : mergeNetworkPolicies base incoming = .ok merged) : ∃ root, base = .mapping root := by
  cases base with
  | mapping root => exact ⟨root, rfl⟩
  | null => cases h
  | plain v => cases h
  | tagged tag value => cases h

namespace SerdeYaml

variable {yaml : SerdeYaml κ ν}

/-! ## All fragments -/

/-- The fragment is a document from which so many policies are taken. -/
def Contributes (yaml : SerdeYaml κ ν) (raw : String) (net : Mapping κ ν) : Prop :=
  ∃ parsed, yaml.fromStr raw = .ok parsed ∧ extractNetworkPolicies parsed = .ok net

lemma Contributes.mergeFragment_eq {raw : String} {net : Mapping κ ν}
    (h : yaml.Contributes raw net) (base : YamlValue κ ν) :
    yaml.mergeFragment base raw = mergeNetworkPolicies base net := by
  obtain ⟨parsed, hparsed, hnet⟩ := h
  unfold mergeFragment
  rw [hparsed]
  change (extractNetworkPolicies parsed >>= fun net => mergeNetworkPolicies base net) = _
  rw [hnet]
  rfl

lemma contributes_of_mergeFragment {base merged : YamlValue κ ν} {raw : String}
    (h : yaml.mergeFragment base raw = .ok merged) :
    ∃ net, yaml.Contributes raw net := by
  unfold mergeFragment at h
  cases hparsed : yaml.fromStr raw with
  | error e =>
    rw [hparsed] at h
    cases h
  | ok parsed =>
    rw [hparsed] at h
    change (extractNetworkPolicies parsed >>= fun net => mergeNetworkPolicies base net) = _ at h
    cases hnet : extractNetworkPolicies parsed with
    | error e =>
      rw [hnet] at h
      cases h
    | ok net => exact ⟨net, parsed, hparsed, hnet⟩

/-- When a merge goes through, every fragment contributes policies. -/
lemma contributes_of_foldlM {frags : List String} {base merged : YamlValue κ ν}
    (h : frags.foldlM yaml.mergeFragment base = .ok merged) :
    ∃ nets, List.Forall₂ yaml.Contributes frags nets := by
  induction frags generalizing base with
  | nil => exact ⟨[], List.Forall₂.nil⟩
  | cons raw frags ih =>
    rw [List.foldlM_cons] at h
    cases hstep : yaml.mergeFragment base raw with
    | error e =>
      rw [hstep] at h
      cases h
    | ok next =>
      rw [hstep] at h
      obtain ⟨net, hnet⟩ := contributes_of_mergeFragment hstep
      obtain ⟨nets, hnets⟩ := ih h
      exact ⟨net :: nets, List.Forall₂.cons hnet hnets⟩

/-- A merge that goes through starts at a mapping whose policies can be merged into. -/
lemma policiesToMerge_of_foldlM {frags : List String} {base merged : YamlValue κ ν}
    (hne : frags ≠ []) (h : frags.foldlM yaml.mergeFragment base = .ok merged) :
    ∃ root net, base = .mapping root ∧ policiesToMerge root = some net := by
  cases frags with
  | nil => exact absurd rfl hne
  | cons raw frags =>
    rw [List.foldlM_cons] at h
    cases hstep : yaml.mergeFragment base raw with
    | error e =>
      rw [hstep] at h
      cases h
    | ok next =>
      obtain ⟨net, hnet⟩ := contributes_of_mergeFragment hstep
      rw [hnet.mergeFragment_eq] at hstep
      obtain ⟨root, rfl⟩ := mapping_of_mergeNetworkPolicies hstep
      rw [mergeNetworkPolicies_mapping] at hstep
      cases hroot : policiesToMerge root with
      | none =>
        rw [hroot] at hstep
        cases hstep
      | some net => exact ⟨root, net, rfl, hroot⟩

/-- What the fragments contribute is merged into the policies, one fragment after another. -/
lemma foldlM_mergeFragment {frags : List String} {nets : List (Mapping κ ν)}
    (hnets : List.Forall₂ yaml.Contributes frags nets) (hne : frags ≠ []) {root net : Mapping κ ν}
    (hroot : policiesToMerge root = some net) :
    frags.foldlM yaml.mergeFragment (.mapping root) =
      .ok (.mapping (withPolicies (OrderedMap.mergeAll net nets) root)) := by
  induction hnets generalizing root net with
  | nil => exact absurd rfl hne
  | @cons raw incoming frags nets hraw hnets ih =>
    rw [List.foldlM_cons, hraw.mergeFragment_eq, mergeNetworkPolicies_mapping, hroot]
    change frags.foldlM yaml.mergeFragment
      (.mapping (withPolicies (OrderedMap.insertAll net incoming) root)) = _
    by_cases hfrags : frags = []
    · subst hfrags
      cases hnets
      rfl
    · rw [ih hfrags (policiesToMerge_withPolicies _ _), OrderedMap.mergeAll_cons]
      unfold withPolicies
      rw [OrderedMap.insert_insert]

/-- The documents are those the policies are taken from. -/
lemma Contributes.documents {frags : List String} {nets : List (Mapping κ ν)}
    (hnets : List.Forall₂ yaml.Contributes frags nets) :
    List.Forall₂ (fun parsed net => extractNetworkPolicies parsed = .ok net)
      (frags.filterMap fun raw => (yaml.fromStr raw).toOption) nets := by
  induction hnets with
  | nil => exact List.Forall₂.nil
  | cons hraw _ ih =>
    obtain ⟨parsed, hparsed, hnet⟩ := hraw
    rw [List.filterMap_cons, hparsed]
    exact List.Forall₂.cons hnet ih

/-- Every document is one that policies are taken from. -/
lemma asMapping_of_documents {documents : List (YamlValue κ ν)} {nets : List (Mapping κ ν)}
    (h : List.Forall₂ (fun parsed net => extractNetworkPolicies parsed = .ok net) documents nets) :
    ∀ parsed ∈ documents, ∃ map, parsed.asMapping = some map := by
  induction h with
  | nil => exact fun parsed hmem => absurd hmem List.not_mem_nil
  | cons hnet _ ih =>
    obtain ⟨map, hmap, -⟩ := asMapping_of_extract hnet
    exact List.forall_mem_cons.2 ⟨⟨map, hmap⟩, ih⟩

/-- Documents that contribute what they should contribute nothing else. -/
lemma eq_map_ownPolicies {documents : List (YamlValue κ ν)} {nets : List (Mapping κ ν)}
    (h : List.Forall₂ (fun parsed net => extractNetworkPolicies parsed = .ok net) documents nets)
    (hown : ∀ parsed ∈ documents, extractNetworkPolicies parsed = .ok (ownPolicies parsed)) :
    nets = documents.map ownPolicies := by
  induction h with
  | nil => rfl
  | cons hnet _ ih =>
    obtain ⟨hhead, htail⟩ := List.forall_mem_cons.1 hown
    rw [List.map_cons, ← ih htail, Except.ok.inj (hnet.symm.trans hhead)]

lemma Contributes.distinct (hyaml : yaml.Lawful) {raw : String} {net : Mapping κ ν}
    (h : yaml.Contributes raw net) : (YamlValue.mapping net).Distinct := by
  obtain ⟨parsed, hparsed, hnet⟩ := h
  obtain ⟨map, hmap, rfl⟩ := asMapping_of_extract hnet
  exact distinct_contribution ((hyaml.distinct hparsed).of_asMapping hmap)

lemma Contributes.all_distinct (hyaml : yaml.Lawful) {frags : List String}
    {nets : List (Mapping κ ν)} (hnets : List.Forall₂ yaml.Contributes frags nets) :
    ∀ net ∈ nets, (YamlValue.mapping net).Distinct := by
  induction hnets with
  | nil => exact fun net h => absurd h List.not_mem_nil
  | cons hraw _ ih => exact List.forall_mem_cons.2 ⟨hraw.distinct hyaml, ih⟩

/-! ## The texts -/

lemma mergePolicyFragments_of_nil {fragments : List String} (h : contents fragments = [])
    (base : String) : yaml.mergePolicyFragments base fragments = .ok base := by
  unfold mergePolicyFragments
  rw [h]
  rfl

lemma mergePolicyFragments_of_mapping {base : String} {root : Mapping κ ν}
    {fragments : List String} (hne : contents fragments ≠ [])
    (hroot : yaml.parseBase base = .ok (.mapping root)) :
    yaml.mergePolicyFragments base fragments =
      ((contents fragments).foldlM yaml.mergeFragment (.mapping root) >>= fun merged =>
        (yaml.toString merged).mapError ("serialize merged policy: " ++ ·)) := by
  unfold mergePolicyFragments
  dsimp only
  rw [if_neg (by simpa using hne), hroot]
  rfl

/-- A merge of fragments that goes through starts at a mapping, and writes what the fragments lead
to. -/
lemma inv_mergePolicyFragments {base : String} {root : Mapping κ ν} {fragments : List String}
    {out : String} (hne : contents fragments ≠ []) (hroot : yaml.root? base = some root)
    (hout : yaml.mergePolicyFragments base fragments = .ok out) :
    ∃ net nets, policiesToMerge root = some net ∧
      List.Forall₂ yaml.Contributes (contents fragments) nets ∧
      yaml.toString (.mapping (withPolicies (OrderedMap.mergeAll net nets) root)) = .ok out := by
  cases hparse : yaml.parseBase base with
  | error e =>
    unfold root? at hroot
    rw [hparse] at hroot
    cases hroot
  | ok value =>
    have hmap : value.asMapping = some root := by
      unfold root? at hroot
      rwa [hparse] at hroot
    have hrun : ((contents fragments).foldlM yaml.mergeFragment value >>= fun merged =>
        (yaml.toString merged).mapError ("serialize merged policy: " ++ ·)) = .ok out := by
      unfold mergePolicyFragments at hout
      dsimp only at hout
      rw [if_neg (by simpa using hne), hparse] at hout
      change (if value.asMapping.isNone then _ else _) = _ at hout
      rwa [hmap, Option.isNone_some, if_neg Bool.false_ne_true] at hout
    cases hfold : (contents fragments).foldlM yaml.mergeFragment value with
    | error e =>
      rw [hfold] at hrun
      cases hrun
    | ok merged =>
      obtain ⟨root', net, rfl, hnet⟩ := policiesToMerge_of_foldlM hne hfold
      rw [YamlValue.asMapping, Option.some.injEq] at hmap
      subst hmap
      obtain ⟨nets, hnets⟩ := contributes_of_foldlM hfold
      rw [foldlM_mergeFragment hnets hne hnet] at hrun
      refine ⟨net, nets, hnet, hnets, ?_⟩
      change (yaml.toString _).mapError _ = _ at hrun
      cases hwrite : yaml.toString
          (.mapping (withPolicies (OrderedMap.mergeAll net nets) root')) with
      | error e =>
        rw [hwrite] at hrun
        cases hrun
      | ok text =>
        rw [hwrite] at hrun
        exact hrun

omit [DecidableEq κ] in
lemma distinct_root (hyaml : yaml.Lawful) {base : String} {root : Mapping κ ν}
    (hroot : yaml.root? base = some root) : (YamlValue.mapping root).Distinct := by
  unfold root? parseBase at hroot
  split at hroot
  · cases hroot
    exact YamlValue.Distinct.mapping List.nodup_nil (by simp)
  · cases hparse : yaml.fromStr base with
    | error e =>
      rw [hparse] at hroot
      cases hroot
    | ok value =>
      rw [hparse] at hroot
      exact (hyaml.distinct hparse).of_asMapping hroot

omit [DecidableEq κ] in
/-- A text that a mapping was written to stands for that mapping. -/
lemma parseBase_of_toString (hyaml : yaml.Lawful) {merged : Mapping κ ν} {out : String}
    (hdist : (YamlValue.mapping merged).Distinct)
    (hwrite : yaml.toString (.mapping merged) = .ok out) :
    yaml.parseBase out = .ok (.mapping merged) := by
  have hread := hyaml.reads hdist hwrite
  have hblank : ¬(trim out).isEmpty = true := by
    rw [isEmpty_trim]
    intro hblank
    cases hyaml.blank hblank hread
  unfold parseBase
  rw [if_neg hblank, hread]
  rfl

/-- Merging fragments that contribute what they should leads to what it should. -/
lemma isMerged_withPolicies {root net : Mapping κ ν} {documents : List (YamlValue κ ν)}
    (hown : ∀ parsed ∈ documents, extractNetworkPolicies parsed = .ok (ownPolicies parsed))
    (hdist : ∀ net ∈ documents.map ownPolicies, (YamlValue.mapping net).Distinct)
    (hroot : policiesToMerge root = some net) :
    IsMerged root documents
      (withPolicies (OrderedMap.mergeAll net (documents.map ownPolicies)) root) where
  contributes := hown
  topLevel key hkey := by rw [lookup_withPolicies, if_neg hkey]
  policies name := by
    rw [networkPolicies_withPolicies, networkPolicies_of_policiesToMerge hroot]
    exact OrderedMap.lookup_mergeAll (fun own hmem => (hdist own hmem).nodup) net name
  noOthers name hname := by
    rw [networkPolicies_withPolicies, OrderedMap.mem_keys_mergeAll] at hname
    rw [networkPolicies_of_policiesToMerge hroot]
    rcases hname with ⟨own, hown, hname⟩ | hname
    · obtain ⟨parsed, hparsed, rfl⟩ := List.mem_map.1 hown
      exact Or.inl ⟨parsed, hparsed, hname⟩
    · exact Or.inr hname

/-- A merge that goes through leads to what it should exactly when no fragment has something else
than a plain mapping under `network_policies` and is taken for a bare map of policies, or loses
policies. -/
theorem mergesFragments_iff (hyaml : yaml.Lawful) {base : String} {root : Mapping κ ν}
    {fragments : List String} {out : String} (hroot : yaml.root? base = some root)
    (hout : yaml.mergePolicyFragments base fragments = .ok out) :
    yaml.MergesFragments root fragments out ↔
      ∀ parsed ∈ yaml.documents fragments, ¬IsMistaken parsed := by
  by_cases hne : contents fragments = []
  · have hdocs : yaml.documents fragments = [] := by
      unfold documents
      rw [hne]
      rfl
    rw [mergePolicyFragments_of_nil hne, Except.ok.injEq] at hout
    subst hout
    unfold MergesFragments
    rw [hdocs]
    refine iff_of_true ⟨⟨root, hroot, ?_⟩, mergePolicyFragments_of_nil hne base⟩ (by simp)
    exact
      { contributes := by simp
        topLevel := fun _ _ => rfl
        policies := fun _ => rfl
        noOthers := fun _ h => Or.inr h }
  obtain ⟨net, nets, hnet, hnets, hwrite⟩ := inv_mergePolicyFragments hne hroot hout
  have hdocs : List.Forall₂ (fun parsed net => extractNetworkPolicies parsed = .ok net)
      (yaml.documents fragments) nets := Contributes.documents hnets
  have hnetsDist := Contributes.all_distinct hyaml hnets
  constructor
  · rintro ⟨⟨merged, -, hmerged⟩, -⟩ parsed hparsed
    have hown := hmerged.contributes parsed hparsed
    obtain ⟨map, hmap, hcontr⟩ := asMapping_of_extract hown
    exact (contribution_eq_ownPolicies_iff hmap).1 hcontr.symm
  · intro hgood
    have hown : ∀ parsed ∈ yaml.documents fragments,
        extractNetworkPolicies parsed = .ok (ownPolicies parsed) := by
      intro parsed hparsed
      obtain ⟨map, hmap⟩ := asMapping_of_documents hdocs parsed hparsed
      rw [extract_of_asMapping hmap,
        (contribution_eq_ownPolicies_iff hmap).2 (hgood parsed hparsed)]
    obtain rfl := eq_map_ownPolicies hdocs hown
    have hrootDist := distinct_root hyaml hroot
    have hnetDist : (YamlValue.mapping net).Distinct := by
      rw [← networkPolicies_of_policiesToMerge hnet]
      exact distinct_networkPolicies hrootDist
    have hmergedDist : (YamlValue.mapping
        (OrderedMap.mergeAll net ((yaml.documents fragments).map ownPolicies))).Distinct :=
      YamlValue.Distinct.mapping (OrderedMap.nodup_mergeAll hnetDist.nodup)
        (OrderedMap.forall_mergeAll (fun own hmem => (hnetsDist own hmem).forall) hnetDist.forall)
    have hparse := parseBase_of_toString hyaml (distinct_withPolicies hmergedDist hrootDist) hwrite
    refine ⟨⟨_, ?_, isMerged_withPolicies hown hnetsDist hnet⟩, ?_⟩
    · unfold root?
      rw [hparse]
      rfl
    · -- The fragments find all they define already there, so the mapping is written once more.
      rw [mergePolicyFragments_of_mapping hne hparse,
        foldlM_mergeFragment hnets hne (policiesToMerge_withPolicies _ _),
        OrderedMap.mergeAll_mergeAll hnetDist.nodup fun own hmem => (hnetsDist own hmem).nodup]
      unfold withPolicies at hwrite ⊢
      rw [OrderedMap.insert_insert]
      change (yaml.toString _).mapError _ = _
      rw [hwrite]
      rfl

end SerdeYaml

end Merge

/-! ## The policy of a sandbox -/

/-- The policy code with the fragment merge. -/
abbrev SerdeYaml.policyYaml {κ ν : Type} [DecidableEq κ] (yaml : SerdeYaml κ ν)
    (seeded : String → String) : PolicyYaml where
  seeded := seeded
  mergePolicyFragments := yaml.mergePolicyFragments

/-- The fragments of the servers a profile attaches. -/
def Settings.policyFragments (s : Settings) (p : SandboxProfile) (forCockpit : Bool) :
    List String :=
  (s.materializedServers p forCockpit).filterMap (·.policyFragmentYaml)

lemma contents_filter_isBlank (fragments : List String) :
    contents (fragments.filter fun f => !isBlank f) = contents fragments := by
  have hkept : ((fun f : String => !f.isEmpty) ∘ trim) = fun f => !isBlank f := by
    funext f
    rw [Function.comp_apply, isEmpty_trim]
  unfold contents
  rw [List.filter_map, List.filter_map, List.filter_filter, hkept]
  simp only [Bool.and_self]

/-- A sandbox is created with the merge of its servers' fragments, and with the policy of the
profile where the merge fails. -/
theorem policy_materializeResolved {κ ν : Type} [DecidableEq κ] (yaml : SerdeYaml κ ν)
    (seeded : String → String) (s : Settings) (p : SandboxProfile) (forCockpit : Bool) :
    letI := yaml.policyYaml seeded
    (s.materializeResolved p forCockpit).policy =
      match
        yaml.mergePolicyFragments (s.policyYamlForProfile p) (s.policyFragments p forCockpit) with
      | .ok merged => merged
      | .error _ => s.policyYamlForProfile p := by
  let := yaml.policyYaml seeded
  have hmerge (base : String) : yaml.mergePolicyFragments base
        ((s.policyFragments p forCockpit).filter fun f => !isBlank f) =
      yaml.mergePolicyFragments base (s.policyFragments p forCockpit) := by
    unfold SerdeYaml.mergePolicyFragments
    rw [contents_filter_isBlank]
  unfold Settings.materializeResolved
  dsimp only
  change (if ((s.policyFragments p forCockpit).filter fun f => !isBlank f).isEmpty then _ else
    match yaml.mergePolicyFragments (s.policyYamlForProfile p)
      ((s.policyFragments p forCockpit).filter fun f => !isBlank f) with
    | .ok y => y
    | .error _ => s.policyYamlForProfile p) = _
  split
  · rename_i hempty
    -- The sandbox keeps the text as it is, and so does the merge.
    have hnil : contents (s.policyFragments p forCockpit) = [] := by
      rw [← contents_filter_isBlank, List.isEmpty_iff.1 hempty]
      rfl
    rw [SerdeYaml.mergePolicyFragments_of_nil hnil]
  · rw [hmerge]

/-! ## A fragment that is mistaken -/

/-- A crate that knows five texts. -/
def sampleYaml : SerdeYaml ℤ ℤ where
  fromStr text :=
    if text = "network_policies: \x7b\x7d\n" then
      .ok (.mapping [(.string "network_policies", .mapping [])])
    else if text = "network_policies:" then .ok (.mapping [(.string "network_policies", .null)])
    else if text = "pypi: \x7b\x7d" then .ok (.mapping [(.string "pypi", .mapping [])])
    else if text = "network_policies:\n  network_policies: null\n" then
      .ok (.mapping [(.string "network_policies", .mapping [(.string "network_policies", .null)])])
    else if text = "network_policies:\n  pypi: \x7b\x7d\n" then
      .ok (.mapping [(.string "network_policies", .mapping [(.string "pypi", .mapping [])])])
    else .error "unknown text"
  toString
    | .mapping [(.string "network_policies", .mapping [])] => .ok "network_policies: \x7b\x7d\n"
    | .mapping [(.string "network_policies", .mapping [(.string "network_policies", .null)])] =>
      .ok "network_policies:\n  network_policies: null\n"
    | .mapping [(.string "network_policies", .mapping [(.string "pypi", .mapping [])])] =>
      .ok "network_policies:\n  pypi: \x7b\x7d\n"
    | _ => .error "unknown value"

lemma distinct_single {κ ν : Type} (key : YamlKey κ) {value : YamlValue κ ν}
    (h : value.Distinct) : (YamlValue.mapping [(key, value)]).Distinct :=
  YamlValue.Distinct.mapping (List.nodup_singleton key) (by simpa using h)

lemma distinct_empty {κ ν : Type} : (YamlValue.mapping ([] : Mapping κ ν)).Distinct :=
  YamlValue.Distinct.mapping List.nodup_nil (by simp)

lemma lawful_sampleYaml : sampleYaml.Lawful where
  distinct := by
    intro text value h
    unfold sampleYaml at h
    dsimp only at h
    split_ifs at h <;> cases h
    · exact distinct_single _ distinct_empty
    · exact distinct_single _ YamlValue.Distinct.null
    · exact distinct_single _ distinct_empty
    · exact distinct_single _ (distinct_single _ YamlValue.Distinct.null)
    · exact distinct_single _ (distinct_single _ distinct_empty)
  blank := by
    intro text value hblank h
    unfold sampleYaml at h
    dsimp only at h
    split_ifs at h <;> rename_i htext
    · exact absurd hblank (by rw [htext]; decide)
    · exact absurd hblank (by rw [htext]; decide)
    · exact absurd hblank (by rw [htext]; decide)
    · exact absurd hblank (by rw [htext]; decide)
    · exact absurd hblank (by rw [htext]; decide)
  reads := by
    intro text value _ h
    unfold sampleYaml at h ⊢
    dsimp only at h ⊢
    split at h
    · cases h
      rfl
    · cases h
      rfl
    · cases h
      rfl
    · cases h

lemma root_sampleYaml :
    sampleYaml.root? "network_policies: \x7b\x7d\n" =
      some [(.string "network_policies", .mapping [])] :=
  rfl

/-- A bare map of policies contributes its entries. -/
theorem mergesFragments_bare :
    sampleYaml.MergesFragments [(.string "network_policies", .mapping [])] ["pypi: \x7b\x7d\n"]
      "network_policies:\n  pypi: \x7b\x7d\n" := by
  have hout : sampleYaml.mergePolicyFragments "network_policies: \x7b\x7d\n"
      ["pypi: \x7b\x7d\n"] = .ok "network_policies:\n  pypi: \x7b\x7d\n" := rfl
  refine (SerdeYaml.mergesFragments_iff lawful_sampleYaml root_sampleYaml hout).2 ?_
  have hdocs : sampleYaml.documents ["pypi: \x7b\x7d\n"] =
      [.mapping [(.string "pypi", .mapping [])]] := rfl
  rw [hdocs]
  refine List.forall_mem_singleton.2 ?_
  rintro ⟨map, value, hmap, hvalue, -⟩
  cases hmap
  cases hvalue

/-- A document with the key `network_policies` and nothing under it becomes a policy of that
name. -/
theorem not_mergesFragments_null :
    sampleYaml.Lawful ∧
      sampleYaml.mergePolicyFragments "network_policies: \x7b\x7d\n" ["network_policies:\n"] =
        .ok "network_policies:\n  network_policies: null\n" ∧
      ¬sampleYaml.MergesFragments [(.string "network_policies", .mapping [])]
        ["network_policies:\n"] "network_policies:\n  network_policies: null\n" := by
  refine ⟨lawful_sampleYaml, rfl, ?_⟩
  rintro ⟨⟨merged, hmerged, his⟩, -⟩
  cases hmerged
  have hname := his.noOthers (.string "network_policies") (by decide)
  have hdocs : sampleYaml.documents ["network_policies:\n"] =
      [.mapping [(.string "network_policies", .null)]] := rfl
  rw [hdocs] at hname
  rcases hname with ⟨parsed, hparsed, hname⟩ | hname
  · rw [List.mem_singleton.1 hparsed] at hname
    exact absurd hname (by decide)
  · exact absurd hname (by decide)

end Sandboard

import Sandboard.Library.Json
import Sandboard.Library.OrderedMap
import Sandboard.Settings.Rendering

/-!
# The configuration files of the engines

Where an injection leaves the servers of a sandbox: a document that is copied for Cursor, Claude
and agy, and the entries that are merged into OpenCode's own file, next to what the operator has
there.  The copies are replaced by every injection.  In OpenCode's file the entries of an earlier
injection stay, and a file with comments, which OpenCode reads and the script does not, is
replaced as a whole.  Clearing leaves Claude's file in the repository and every entry whose id
does not start with the board's prefix, and takes operator entries whose id does.
-/

namespace Sandboard

open Std Text

/-! ## Documents as JSON -/

/-- The entries of an object under a key of a document; none when it is not there. -/
def entriesUnder (key : String) : Option Json → Json.Fields
  | some (.object fields) =>
    match fields.lookup key with
    | some (.object entries) => entries
    | _ => []
  | _ => []

/-! ## Placeholders -/

/-- The environment of the script. -/
abbrev Environ : Type := String → Option String

/-- `[A-Za-z_]`. -/
def isVariableStart (c : Char) : Bool := c.isAlpha || c == '_'

/-- `[A-Za-z0-9_]`. -/
def isVariableChar (c : Char) : Bool := isVariableStart c || c.isDigit

/-- The name of the placeholder at the start of a text. -/
def placeholder : List Char → Option (List Char)
  | '$' :: '\x7b' :: rest =>
    let name := rest.takeWhile isVariableChar
    if (name.head?.any isVariableStart) && (rest.drop name.length).head? == some '\x7d' then
      some name
    else none
  | _ => none

/-- Replace the placeholders of variables that are set; so many characters are part of the last
one. -/
def expandChars (env : Environ) : ℕ → List Char → List Char
  | _, [] => []
  | skip + 1, _ :: cs => expandChars env skip cs
  | 0, c :: cs =>
    match placeholder (c :: cs) with
    | some name =>
      match env (String.ofList name) with
      | some value => value.toList ++ expandChars env (name.length + 2) cs
      | none => c :: expandChars env 0 cs
    | none => c :: expandChars env 0 cs

mutual

/-- Replace the placeholders in the texts of a value. -/
def expand (env : Environ) : Json → Json
  | .atom text => .atom text
  | .string s => .string (String.ofList (expandChars env 0 s.toList))
  | .array items => .array (expandItems env items)
  | .object fields => .object (expandFields env fields)

/-- Replace the placeholders in the items of an array. -/
def expandItems (env : Environ) : List Json → List Json
  | [] => []
  | item :: items => expand env item :: expandItems env items

/-- Replace the placeholders in the fields of an object. -/
def expandFields (env : Environ) : List (String × Json) → List (String × Json)
  | [] => []
  | (key, value) :: fields => (key, expand env value) :: expandFields env fields

end

lemma expandFields_eq (env : Environ) (fields : Json.Fields) :
    expandFields env fields = fields.map fun f => (f.1, expand env f.2) := by
  induction fields with
  | nil => rw [expandFields, List.map_nil]
  | cons f fields ih => rw [expandFields, List.map_cons, ih]

/-! ## The documents -/

/-- The environment of an entry. -/
def envJson (env : Env) : Json :=
  .object (env.toList.map fun (name, value) => (name, .string value))

/-- The entry of a server, with the key its environment is under. -/
def RenderedEntry.json (envKey : String) : RenderedEntry → Json
  | .remote type url authorization env =>
    .object ((type.toList.map fun t => ("type", .string t)) ++ [("url", .string url)] ++
      (authorization.toList.map fun a => ("headers", .object [("Authorization", .string a)])) ++
      (env.toList.map fun env => (envKey, envJson env)))
  | .process type command env cwd =>
    .object ((type.toList.map fun t => ("type", .string t)) ++
      (match command with
        | .split command args =>
          [("command", .string command), ("args", .array (args.map .string))]
        | .joined words => [("command", .array (words.map .string))]) ++
      [(envKey, envJson env)] ++ (cwd.toList.map fun c => ("cwd", .string c)))

/-- The entries of a document. -/
def Document.fields (envKey : String) (doc : Document) : Json.Fields :=
  doc.toList.map fun (id, entry) => (id, entry.json envKey)

/-- `mcp_json_document`. -/
def mcpJsonDocument (tokens : Option OpsMcpTokens) (servers : List McpServerDesired) : Json :=
  .object [("mcpServers", .object (Document.fields "env"
    (injectSandboxMcp tokens servers).mcpJson))]

/-- `opencode_jsonc_document`. -/
def opencodeJsoncDocument (tokens : Option OpsMcpTokens) (servers : List McpServerDesired) :
    Json :=
  .object [("$schema", .string "https://opencode.ai/config.json"),
    ("mcp", .object (Document.fields "environment" (injectSandboxMcp tokens servers).opencode))]

/-! ## Files -/

/-- What a configuration file holds: a JSON document, one with comments or trailing commas, or
something else. -/
inductive ConfigFile where
  | absent
  | json (doc : Json)
  | jsonc (doc : Json)
  | broken

namespace ConfigFile

/-- What `json.loads` reads. -/
def loads : ConfigFile → Option Json
  | .json doc => some doc
  | _ => none

/-- What an engine reads. -/
def reads : ConfigFile → Option Json
  | .json doc => some doc
  | .jsonc doc => some doc
  | _ => none

/-- The entries an engine finds under a key of the file. -/
def entries (file : ConfigFile) (key : String) : Json.Fields := entriesUnder key file.reads

end ConfigFile

/-- The configuration files of the engines in a sandbox. -/
structure McpFiles where
  /-- `/sandbox/.sandboard/mcp/mcp.json` -/
  mcpJson : ConfigFile
  /-- `/sandbox/.sandboard/mcp/claude_mcp.json` -/
  claudeMcp : ConfigFile
  /-- `/sandbox/.cursor/mcp.json` -/
  cursor : ConfigFile
  /-- `/sandbox/repo/.cursor/mcp.json` -/
  repoCursor : ConfigFile
  /-- `/sandbox/repo/.mcp.json` -/
  repoClaude : ConfigFile
  /-- `/sandbox/.gemini/config/mcp_config.json` -/
  agy : ConfigFile
  /-- `/sandbox/.config/opencode/opencode.jsonc` -/
  opencode : ConfigFile

/-- The files of Cursor, Claude and agy. -/
def McpFiles.copies (files : McpFiles) : List ConfigFile :=
  [files.mcpJson, files.claudeMcp, files.cursor, files.repoCursor, files.repoClaude, files.agy]

/-- Add the schema of the fragment to a document without one. -/
def addSchema (frag : Json) (doc : Json.Fields) : Json.Fields :=
  match frag with
  | .object frag =>
    match doc.lookup "$schema", frag.lookup "$schema" with
    | none, some schema => OrderedMap.insert "$schema" schema doc
    | _, _ => doc
  | _ => doc

/-- Merge the entries of a fragment into OpenCode's file. -/
def mergeOpencode (file : ConfigFile) (frag : Json) : ConfigFile :=
  let doc :=
    match file.loads with
    | some (.object doc) => doc
    | _ => []
  let mcp := OrderedMap.insertAll (entriesUnder "mcp" file.loads) (entriesUnder "mcp" (some frag))
  .json (.object (addSchema frag (OrderedMap.insert "mcp" (.object mcp) doc)))

/-- What is injected: the tokens, the servers, and the environment of the script. -/
structure Injection where
  tokens : Option OpsMcpTokens
  servers : List McpServerDesired
  environ : Environ

/-- `inject_sandbox_mcp`, where all files can be written. -/
def Injection.inject (i : Injection) (files : McpFiles) : McpFiles :=
  let mcp := ConfigFile.json (expand i.environ (mcpJsonDocument i.tokens i.servers))
  { mcpJson := mcp
    claudeMcp := mcp
    cursor := mcp
    repoCursor := mcp
    repoClaude := mcp
    agy := mcp
    opencode := mergeOpencode files.opencode
      (expand i.environ (opencodeJsoncDocument i.tokens i.servers)) }

/-- The ids that are taken out of OpenCode's file. -/
def isCatalogKey (id : String) : Bool := startsWith "sandboard-" id || id == "sandboard"

/-- Take the board's entries out of OpenCode's file. -/
def clearOpencode (file : ConfigFile) : ConfigFile :=
  match file.loads with
  | some (.object doc) =>
    match doc.lookup "mcp" with
    | some (.object mcp) =>
      .json (.object (OrderedMap.insert "mcp"
        (.object (mcp.filter fun e => !isCatalogKey e.1)) doc))
    | _ => file
  | _ => file

/-- `clear_cockpit_mcp`. -/
def clearCockpitMcp (files : McpFiles) : McpFiles :=
  { files with
    mcpJson := .absent
    claudeMcp := .absent
    cursor := .absent
    repoCursor := .absent
    agy := .absent
    opencode := clearOpencode files.opencode }

/-! ## What an injection should leave -/

namespace Injection

/-- The entries for Cursor, Claude and agy. -/
def cursorEntries (i : Injection) : Json.Fields :=
  expandFields i.environ (Document.fields "env" (injectSandboxMcp i.tokens i.servers).mcpJson)

/-- The entries for OpenCode. -/
def opencodeEntries (i : Injection) : Json.Fields :=
  expandFields i.environ
    (Document.fields "environment" (injectSandboxMcp i.tokens i.servers).opencode)

/-- The server has an address or a command, so that there is an entry for it. -/
def Injects (i : Injection) (id : String) : Prop :=
  ∃ s ∈ i.servers, s.id = id ∧ (renderOpencodeEntry s i.tokens).isSome = true

end Injection

/-- The entries in OpenCode's file. -/
def McpFiles.opencodeEntries (files : McpFiles) : Json.Fields := files.opencode.entries "mcp"

/-- After two injections the copies hold the second one's entries, and OpenCode's file those
beside the entries from before. -/
structure Replaces (a b : Injection) (files : McpFiles) : Prop where
  opencode : ∀ id, (b.inject (a.inject files)).opencodeEntries.lookup id =
    (b.opencodeEntries.lookup id).or (files.opencodeEntries.lookup id)
  copies : ∀ file ∈ (b.inject (a.inject files)).copies,
    file.entries "mcpServers" = b.cursorEntries

/-- After two injections and a clear no file has an entry that was injected, and OpenCode's file
has the entries from before. -/
structure Clears (a b : Injection) (files : McpFiles) : Prop where
  copies : ∀ file ∈ (clearCockpitMcp (b.inject (a.inject files))).copies,
    ∀ id, a.Injects id ∨ b.Injects id → (file.entries "mcpServers").lookup id = none
  opencode : ∀ id, a.Injects id ∨ b.Injects id →
    (clearCockpitMcp (b.inject (a.inject files))).opencodeEntries.lookup id = none
  untouched : ∀ id v, files.opencodeEntries.lookup id = some v →
    (clearCockpitMcp (b.inject (a.inject files))).opencodeEntries.lookup id = some v

/-- The script can read OpenCode's file, if it is there. -/
def McpFiles.Readable (files : McpFiles) : Prop := files.opencode.loads = files.opencode.reads

/-- What the first injection adds was there before or is added by the second one too, and what is
in a file that the script cannot read is injected. -/
structure MayReplace (a b : Injection) (files : McpFiles) : Prop where
  kept : ∀ id v, a.opencodeEntries.lookup id = some v → ¬b.Injects id →
    files.opencodeEntries.lookup id = some v
  readable : files.Readable ∨
    ∀ id v, files.opencodeEntries.lookup id = some v → a.Injects id ∨ b.Injects id

/-- The second injection has no entry, the first one those with the board's prefix only, and the
operator none of them, in a file that the script can read. -/
structure MayClear (a b : Injection) (files : McpFiles) : Prop where
  nothing : ∀ id, ¬b.Injects id
  ours : ∀ id, a.Injects id → isCatalogKey id = true
  theirs : ∀ id v, files.opencodeEntries.lookup id = some v → isCatalogKey id = false
  readable : files.Readable ∨ files.opencodeEntries = []

/-! ## Documents -/

lemma keys_fields (envKey : String) (doc : Document) :
    (Document.fields envKey doc).map Prod.fst = doc.keys := by
  unfold Document.fields
  rw [List.map_map, ← ExtTreeMap.map_fst_toList_eq_keys]
  rfl

lemma keys_expandFields (env : Environ) (fields : Json.Fields) :
    (expandFields env fields).map Prod.fst = fields.map Prod.fst := by
  rw [expandFields_eq, List.map_map]
  rfl

/-- A document has an entry for each server that has one. -/
lemma mem_document {render : McpServerDesired → Option RenderedEntry}
    {servers : List McpServerDesired} {id : String} :
    id ∈ document render servers ↔ ∃ s ∈ servers, s.id = id ∧ (render s).isSome = true := by
  induction servers using List.reverseRecOn with
  | nil => simp [document]
  | append_singleton servers m ih =>
    have hsplit : (∃ s ∈ servers ++ [m], s.id = id ∧ (render s).isSome = true) ↔
        (∃ s ∈ servers, s.id = id ∧ (render s).isSome = true) ∨
          m.id = id ∧ (render m).isSome = true := by
      simp [or_and_right, exists_or]
    rw [hsplit]
    cases hm : render m with
    | none =>
      have hstep : document render (servers ++ [m]) = document render servers := by
        rw [document, List.foldl_append, List.foldl_cons, hm]
        rfl
      rw [hstep, ih]
      simp
    | some entry =>
      have hstep : document render (servers ++ [m]) =
          (document render servers).insert m.id entry := by
        rw [document, List.foldl_append, List.foldl_cons, hm]
        rfl
      rw [hstep, ExtTreeMap.mem_insert, ih, Std.compare_eq_iff_eq]
      simp [or_comm]

/-- Whether a server has an entry does not depend on the engine. -/
lemma isSome_renderEntry (shape shape' : EntryShape) (s : McpServerDesired)
    (tokens : Option OpsMcpTokens) :
    (renderEntry shape s tokens).isSome = (renderEntry shape' s tokens).isSome := by
  unfold renderEntry
  cases s.transport with
  | http url auth => simp
  | stdio command args cwd => simp

namespace Injection

variable {i a b : Injection} {id : String}

lemma mem_keys_opencodeEntries : id ∈ i.opencodeEntries.map Prod.fst ↔ i.Injects id := by
  unfold opencodeEntries
  rw [keys_expandFields, keys_fields, ExtTreeMap.mem_keys]
  exact mem_document

lemma mem_keys_cursorEntries : id ∈ i.cursorEntries.map Prod.fst ↔ i.Injects id := by
  unfold cursorEntries
  rw [keys_expandFields, keys_fields, ExtTreeMap.mem_keys]
  refine mem_document.trans ?_
  unfold Injects
  have hsame (s : McpServerDesired) : (renderCursorEntry s i.tokens).isSome =
      (renderOpencodeEntry s i.tokens).isSome := isSome_renderEntry _ _ s i.tokens
  simp only [hsame]

lemma nodup_opencodeEntries : (i.opencodeEntries.map Prod.fst).Nodup := by
  unfold opencodeEntries
  rw [keys_expandFields, keys_fields]
  exact ExtTreeMap.nodup_keys

lemma lookup_opencodeEntries_eq_none (h : ¬i.Injects id) : i.opencodeEntries.lookup id = none :=
  OrderedMap.lookup_eq_none_iff.2 fun hmem => h (mem_keys_opencodeEntries.1 hmem)

lemma exists_lookup_opencodeEntries (h : i.Injects id) :
    ∃ v, i.opencodeEntries.lookup id = some v :=
  OrderedMap.exists_lookup_of_mem (mem_keys_opencodeEntries.2 h)

/-! ## One injection -/

lemma entriesUnder_expand_opencode :
    entriesUnder "mcp" (some (expand i.environ (opencodeJsoncDocument i.tokens i.servers))) =
      i.opencodeEntries := by
  unfold opencodeJsoncDocument
  simp only [expand, expandFields, entriesUnder, OrderedMap.lookup_cons_eq]
  rfl

lemma entries_copies {files : McpFiles} :
    ∀ file ∈ (i.inject files).copies, file.entries "mcpServers" = i.cursorEntries := by
  have hdoc : (ConfigFile.json (expand i.environ (mcpJsonDocument i.tokens i.servers))).entries
      "mcpServers" = i.cursorEntries := by
    unfold mcpJsonDocument
    simp only [expand, expandFields, ConfigFile.entries, ConfigFile.reads, entriesUnder,
      OrderedMap.lookup_cons_eq]
    rfl
  intro file hfile
  simp only [McpFiles.copies, inject, List.mem_cons, List.not_mem_nil, or_false, or_self] at hfile
  rw [hfile]
  exact hdoc

lemma entries_repoClaude (i : Injection) (files : McpFiles) :
    (i.inject files).repoClaude.entries "mcpServers" = i.cursorEntries := by
  have hmem : (i.inject files).repoClaude ∈ (i.inject files).copies := by simp [McpFiles.copies]
  exact entries_copies _ hmem

end Injection

lemma lookup_addSchema (frag : Json) (doc : Json.Fields) {key : String} (h : key ≠ "$schema") :
    (addSchema frag doc).lookup key = doc.lookup key := by
  unfold addSchema
  split
  · split
    · rw [OrderedMap.lookup_insert, if_neg h]
    · rfl
  · rfl

lemma entriesUnder_of_lookup {key : String} {fields entries : Json.Fields}
    (h : fields.lookup key = some (.object entries)) :
    entriesUnder key (some (.object fields)) = entries := by
  unfold entriesUnder
  dsimp only
  rw [h]

lemma entries_mergeOpencode (file : ConfigFile) (frag : Json) :
    (mergeOpencode file frag).entries "mcp" =
      OrderedMap.insertAll (entriesUnder "mcp" file.loads) (entriesUnder "mcp" (some frag)) := by
  refine entriesUnder_of_lookup ?_
  rw [lookup_addSchema frag _ (by decide), OrderedMap.lookup_insert, if_pos rfl]

namespace Injection

variable {i a b : Injection} {id : String}

lemma readable_inject (files : McpFiles) : (i.inject files).Readable := rfl

lemma lookup_opencodeEntries_inject (files : McpFiles) (id : String) :
    (i.inject files).opencodeEntries.lookup id =
      (i.opencodeEntries.lookup id).or ((entriesUnder "mcp" files.opencode.loads).lookup id) := by
  unfold McpFiles.opencodeEntries inject
  dsimp only
  rw [entries_mergeOpencode, entriesUnder_expand_opencode,
    OrderedMap.lookup_insertAll nodup_opencodeEntries]

/-- After two injections an entry is from the second one, the first one, or what the script has
read before. -/
lemma lookup_opencodeEntries_twice (files : McpFiles) (id : String) :
    (b.inject (a.inject files)).opencodeEntries.lookup id =
      (b.opencodeEntries.lookup id).or ((a.opencodeEntries.lookup id).or
        ((entriesUnder "mcp" files.opencode.loads).lookup id)) := by
  rw [lookup_opencodeEntries_inject, ← lookup_opencodeEntries_inject files id]
  rfl

end Injection

/-- Entries that are not there are not taken out. -/
lemma lookup_entries_clearOpencode {file : ConfigFile} (h : file.loads = file.reads) (id : String) :
    ((clearOpencode file).entries "mcp").lookup id =
      if isCatalogKey id then none else (file.entries "mcp").lookup id := by
  have hnone (hnil : file.entries "mcp" = []) : (file.entries "mcp").lookup id =
      if isCatalogKey id then none else (file.entries "mcp").lookup id := by
    rw [hnil, List.lookup_nil, ite_self]
  unfold clearOpencode
  split
  · rename_i doc hdoc
    split
    · rename_i mcp hmcp
      have hentries : file.entries "mcp" = mcp := by
        unfold ConfigFile.entries
        rw [← h, hdoc]
        exact entriesUnder_of_lookup hmcp
      have hcleared : (ConfigFile.json (.object (OrderedMap.insert "mcp"
          (.object (mcp.filter fun e => !isCatalogKey e.1)) doc))).entries "mcp" =
            mcp.filter fun e => !isCatalogKey e.1 :=
        entriesUnder_of_lookup (by rw [OrderedMap.lookup_insert, if_pos rfl])
      rw [hcleared, hentries, OrderedMap.lookup_filter (fun id => !isCatalogKey id)]
      cases isCatalogKey id <;> rfl
    · rename_i hmcp
      refine hnone ?_
      unfold ConfigFile.entries entriesUnder
      rw [← h, hdoc]
      dsimp only
      split
      · rename_i entries hentries
        exact absurd hentries (hmcp entries)
      · rfl
  · rename_i hdoc
    refine hnone ?_
    unfold ConfigFile.entries entriesUnder
    rw [← h]
    split
    · rename_i fields hfields
      exact absurd hfields (hdoc fields)
    · rfl

/-- After two injections and a clear, an entry that is left does not have the board's prefix. -/
lemma lookup_opencodeEntries_cleared {a b : Injection} (files : McpFiles) (id : String) :
    (clearCockpitMcp (b.inject (a.inject files))).opencodeEntries.lookup id =
      if isCatalogKey id then none else (b.inject (a.inject files)).opencodeEntries.lookup id :=
  lookup_entries_clearOpencode (Injection.readable_inject (i := b) (a.inject files)) id

/-! ## What the script has read -/

lemma McpFiles.Readable.entriesUnder_loads {files : McpFiles} (h : files.Readable) :
    entriesUnder "mcp" files.opencode.loads = files.opencodeEntries := by
  unfold McpFiles.opencodeEntries ConfigFile.entries
  rw [h]

/-- The script reads nothing from a file that it cannot read. -/
lemma entriesUnder_loads_of_not_readable {files : McpFiles} (h : ¬files.Readable) :
    entriesUnder "mcp" files.opencode.loads = [] := by
  unfold McpFiles.Readable at h
  cases hfile : files.opencode with
  | absent => rfl
  | json doc =>
    rw [hfile] at h
    exact absurd rfl h
  | jsonc doc => rfl
  | broken => rfl

/-! ## Main results -/

section Main

variable {a b : Injection} {files : McpFiles}

lemma Replaces.mayReplace (h : Replaces a b files) : MayReplace a b files where
  kept id v hv hb := by
    have hid := h.opencode id
    rw [Injection.lookup_opencodeEntries_twice, Injection.lookup_opencodeEntries_eq_none hb, hv]
      at hid
    exact hid.symm
  readable := by
    by_cases hread : files.Readable
    · exact Or.inl hread
    · refine Or.inr fun id v hv => ?_
      by_contra hno
      rw [not_or] at hno
      have hid := h.opencode id
      rw [Injection.lookup_opencodeEntries_twice, Injection.lookup_opencodeEntries_eq_none hno.1,
        Injection.lookup_opencodeEntries_eq_none hno.2, entriesUnder_loads_of_not_readable hread,
        hv] at hid
      cases hid

lemma MayReplace.replaces (h : MayReplace a b files) : Replaces a b files where
  opencode id := by
    rw [Injection.lookup_opencodeEntries_twice]
    by_cases hb : b.Injects id
    · obtain ⟨w, hw⟩ := Injection.exists_lookup_opencodeEntries hb
      rw [hw]
      rfl
    rw [Injection.lookup_opencodeEntries_eq_none hb, Option.none_or, Option.none_or]
    by_cases ha : a.Injects id
    · obtain ⟨v, hv⟩ := Injection.exists_lookup_opencodeEntries ha
      rw [hv, h.kept id v hv hb]
      rfl
    rw [Injection.lookup_opencodeEntries_eq_none ha, Option.none_or]
    by_cases hread : files.Readable
    · rw [hread.entriesUnder_loads]
    · rw [entriesUnder_loads_of_not_readable hread]
      cases hv : files.opencodeEntries.lookup id with
      | none => rfl
      | some v =>
        rcases h.readable with hread' | hinj
        · exact absurd hread' hread
        · rcases hinj id v hv with ha' | hb'
          · exact absurd ha' ha
          · exact absurd hb' hb
  copies := Injection.entries_copies

lemma Clears.mayClear (h : Clears a b files) : MayClear a b files := by
  have hnothing : ∀ id, ¬b.Injects id := by
    intro id hb
    -- Claude's file in the repository is left as it was.
    have hleft : (b.inject (a.inject files)).repoClaude ∈
        (clearCockpitMcp (b.inject (a.inject files))).copies := by
      simp [McpFiles.copies, clearCockpitMcp]
    have hgone := h.copies _ hleft id (Or.inr hb)
    rw [Injection.entries_repoClaude] at hgone
    exact OrderedMap.lookup_eq_none_iff.1 hgone (Injection.mem_keys_cursorEntries.2 hb)
  have hours : ∀ id, a.Injects id → isCatalogKey id = true := by
    intro id ha
    by_contra hkey
    have hgone := h.opencode id (Or.inl ha)
    obtain ⟨v, hv⟩ := Injection.exists_lookup_opencodeEntries ha
    rw [lookup_opencodeEntries_cleared, if_neg hkey, Injection.lookup_opencodeEntries_twice,
      Injection.lookup_opencodeEntries_eq_none (hnothing id), hv] at hgone
    cases hgone
  have htheirs : ∀ id v, files.opencodeEntries.lookup id = some v → isCatalogKey id = false := by
    intro id v hv
    by_contra hkey
    have hkept := h.untouched id v hv
    rw [lookup_opencodeEntries_cleared, if_pos (by simpa using hkey)] at hkept
    cases hkept
  refine ⟨hnothing, hours, htheirs, ?_⟩
  by_cases hread : files.Readable
  · exact Or.inl hread
  refine Or.inr (List.eq_nil_iff_forall_not_mem.2 fun e he => ?_)
  obtain ⟨v, hv⟩ := OrderedMap.exists_lookup_of_mem (List.mem_map_of_mem (f := Prod.fst) he)
  have hkey := htheirs e.1 v hv
  have ha : ¬a.Injects e.1 := fun ha => by simp [hours e.1 ha] at hkey
  have hkept := h.untouched e.1 v hv
  rw [lookup_opencodeEntries_cleared, if_neg (by simp [hkey]),
    Injection.lookup_opencodeEntries_twice,
    Injection.lookup_opencodeEntries_eq_none (hnothing e.1),
    Injection.lookup_opencodeEntries_eq_none ha, entriesUnder_loads_of_not_readable hread] at hkept
  cases hkept

lemma MayClear.clears (h : MayClear a b files) : Clears a b files where
  copies file hfile id _ := by
    simp only [McpFiles.copies, clearCockpitMcp, List.mem_cons, List.not_mem_nil, or_false] at hfile
    have hclaude : file = .absent ∨ file = (b.inject (a.inject files)).repoClaude := by tauto
    rcases hclaude with rfl | rfl
    · rfl
    · rw [Injection.entries_repoClaude]
      exact OrderedMap.lookup_eq_none_iff.2 fun hmem =>
        h.nothing id (Injection.mem_keys_cursorEntries.1 hmem)
  opencode id hid := by
    rw [lookup_opencodeEntries_cleared]
    rcases hid with ha | hb
    · rw [if_pos (h.ours id ha)]
    · exact absurd hb (h.nothing id)
  untouched id v hv := by
    have hkey := h.theirs id v hv
    have ha : ¬a.Injects id := fun ha => by simp [h.ours id ha] at hkey
    rw [lookup_opencodeEntries_cleared, if_neg (by simp [hkey]),
      Injection.lookup_opencodeEntries_twice,
      Injection.lookup_opencodeEntries_eq_none (h.nothing id),
      Injection.lookup_opencodeEntries_eq_none ha, Option.none_or, Option.none_or]
    rcases h.readable with hread | hnil
    · rw [hread.entriesUnder_loads, hv]
    · rw [hnil] at hv
      cases hv

/-- Two injections leave what they should exactly when the second one has every new entry of the
first, and the script can read OpenCode's file or finds only entries there that are injected.  A
clear leaves what it should exactly when the second injection has no entry, the first one only
entries with the board's prefix, and the operator none of those, in a file that the script can
read. -/
theorem injection_iff (a b : Injection) (files : McpFiles) :
    (Replaces a b files ↔ MayReplace a b files) ∧ (Clears a b files ↔ MayClear a b files) :=
  ⟨⟨Replaces.mayReplace, MayReplace.replaces⟩, ⟨Clears.mayClear, MayClear.clears⟩⟩

end Main

/-- A server of the catalog. -/
def jiraServer : McpServerDesired where
  id := "jira"
  name := "Jira"
  transport := .http "https://mcp.example.com/v1" .none
  policyFragmentYaml := none
  providerNames := []
  env := ∅
  audience := .both
  shipped := false

/-- The injection of a list of servers without tokens. -/
def plainInjection (servers : List McpServerDesired) : Injection := ⟨none, servers, fun _ => none⟩

/-- A new sandbox, with a file of OpenCode. -/
def freshFiles (opencode : ConfigFile) : McpFiles :=
  ⟨.absent, .absent, .absent, .absent, .absent, .absent, opencode⟩

lemma injects_jira : (plainInjection [jiraServer]).Injects "jira" :=
  ⟨jiraServer, by simp [plainInjection], rfl, rfl⟩

lemma not_injects_nil (id : String) : ¬(plainInjection []).Injects id := by
  rintro ⟨s, hs, -⟩
  simp [plainInjection] at hs

/-- A server that is detached stays in OpenCode's file; an operator's entry in a file with
comments is lost; and Claude's file keeps a server after a clear. -/
theorem not_injection_clean :
    ¬Replaces (plainInjection [jiraServer]) (plainInjection []) (freshFiles .absent) ∧
      ¬Replaces (plainInjection []) (plainInjection [])
        (freshFiles (.jsonc (.object [("mcp", .object [("mine", .object [])])]))) ∧
      ¬Clears (plainInjection []) (plainInjection [jiraServer]) (freshFiles .absent) := by
  refine ⟨fun h => ?_, fun h => ?_, fun h => ?_⟩
  · obtain ⟨v, hv⟩ := Injection.exists_lookup_opencodeEntries injects_jira
    have hid := h.opencode "jira"
    rw [Injection.lookup_opencodeEntries_twice,
      Injection.lookup_opencodeEntries_eq_none (not_injects_nil "jira"), hv] at hid
    cases hid
  · have hid := h.opencode "mine"
    rw [Injection.lookup_opencodeEntries_twice,
      Injection.lookup_opencodeEntries_eq_none (not_injects_nil "mine")] at hid
    cases hid
  · have hleft := h.copies
      ((plainInjection [jiraServer]).inject
        ((plainInjection []).inject (freshFiles .absent))).repoClaude
      (by simp [McpFiles.copies, clearCockpitMcp]) "jira" (Or.inr injects_jira)
    rw [Injection.entries_repoClaude] at hleft
    exact OrderedMap.lookup_eq_none_iff.1 hleft (Injection.mem_keys_cursorEntries.2 injects_jira)

end Sandboard

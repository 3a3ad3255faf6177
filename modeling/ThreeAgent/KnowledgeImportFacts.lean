/-
What the id of a bundle binds.

The exporter derives the id from the task, the sources and their digests; the
importer checks every digest of the manifest and not that the id is derived
from it (`forged_same_id`). `bundles_content_addressed`: where every bundle
given has a derived id, equal ids mean equal evidence, and a destination holds
the evidence of the bundle it was returned for.
-/
import ThreeAgent.KnowledgeExportFacts
import ThreeAgent.Lib.JsonDict

namespace ThreeAgent.KnowledgePlane

open PyText Outcome PyJson

variable {b node : Node} {files entries : List (String × Node)} {name : Option String}

variable {F : Type} [JsonFloat F] {u : Unicode}

/-! ## Evidence -/

def manifestOf (F : Type) [JsonFloat F] (b : Node) : Option (Json F) :=
  b.entries?.bind fun entries => (readManifest entries).toOption

def chunkBytes (b : Node) (file : String) : Option (List UInt8) := do
  let entries ← b.entries?
  let chunks ← entries.lookup "chunks"
  let files ← chunks.entries?
  let node ← files.lookup file
  node.bytes?

/-- Two directories with the same origin task, the same sources and the same chunk files. -/
structure SameEvidence (F : Type) [JsonFloat F] (b b' : Node) : Prop where
  manifest : ∃ m m' : Json F, manifestOf F b = some m ∧ manifestOf F b' = some m' ∧
    m.item "origin_task_id" = m'.item "origin_task_id" ∧ m.item "sources" = m'.item "sources"
  chunks : ∀ file, chunkBytes b file = chunkBytes b' file

theorem SameEvidence.trans {b' b'' : Node} (h : SameEvidence F b b') (h' : SameEvidence F b' b'') :
    SameEvidence F b b'' := by
  obtain ⟨m, m₁, hm, hm₁, horigin, hsources⟩ := h.manifest
  obtain ⟨m₂, m', hm₂, hm', horigin', hsources'⟩ := h'.manifest
  obtain rfl : m₁ = m₂ := Option.some.inj (hm₁.symm.trans hm₂)
  exact ⟨⟨m, m', hm, hm', horigin.trans horigin', hsources.trans hsources'⟩,
    fun file => (h.chunks file).trans (h'.chunks file)⟩

/-- The file and the digest that a row declares. -/
def declaredRow (chunk : Json F) : String × String :=
  (Json.textOr (chunk.get? "file"), Json.textOr (chunk.get? "sha256"))

def declaredOf (source : Json F) : List (String × String) := ((array? (source.get? "chunks")).getD []).map declaredRow

/-- The chunk files that a manifest declares, with their digests. -/
def declaredChunks (m : Json F) : List (String × String) :=
  ((array? (some (m.item "sources"))).getD []).flatMap declaredOf

omit [JsonFloat F] in
theorem array?_item (m : Json F) (key : String) : array? (some (m.item key)) = array? (m.get? key) := by
  rw [Json.item]
  cases m.get? key <;> rfl

/-! ## What was checked of an accepted directory -/

theorem checkChunk_ok {declared : Risk} {acc acc' : ImportTally × List UInt8}
    {chunk : Json F} (h : checkChunk u files declared acc chunk = .ok acc') :
    acc'.1.seen = acc.1.seen ++ [Json.textOr (chunk.get? "file")] ∧
      ∃ raw, (files.lookup (Json.textOr (chunk.get? "file"))).bind Node.bytes? = some raw ∧
        sha256Bytes raw = Json.textOr (chunk.get? "sha256") := by
  simp only [checkChunk, bind_ok, require_ok, exists_const, orRaise_ok, pure_ok] at h
  obtain ⟨-, -, -, raw, hraw, -, hsha, text, -, ⟨value, risk⟩, -, -, rfl⟩ := h
  exact ⟨rfl, raw, hraw, hsha⟩

/-- The declared pairs of a list of rows, as the loop over them has checked them. -/
def Checked (files : List (String × Node)) (seen seen' : List String) (pairs : List (String × String)) : Prop :=
  seen' = seen ++ pairs.map Prod.fst ∧
    ∀ p ∈ pairs, ∃ raw, (files.lookup p.1).bind Node.bytes? = some raw ∧ sha256Bytes raw = p.2

theorem Checked.append {s s' s'' : List String} {ps ps' : List (String × String)}
    (h : Checked files s s' ps) (h' : Checked files s' s'' ps') : Checked files s s'' (ps ++ ps') := by
  refine ⟨by rw [h'.1, h.1, List.map_append, List.append_assoc], ?_⟩
  intro p hp
  rcases List.mem_append.mp hp with hp | hp
  · exact h.2 p hp
  · exact h'.2 p hp

theorem checkSource_ok {tally tally' : ImportTally} {source : Json F}
    (h : checkSource u files tally source = .ok tally') : Checked files tally.seen tally'.seen (declaredOf source) := by
  simp only [checkSource, bind_ok, require_ok, exists_const, orRaise_ok, pure_ok] at h
  obtain ⟨-, -, -, -, declared, -, rows, hrows, -, acc, hfold, -, rfl⟩ := h
  rw [declaredOf, hrows, Option.getD_some]
  have hkept : ∀ done (b : ImportTally × List UInt8) (a : Json F) b',
      Checked files tally.seen b.1.seen (done.map declaredRow) → checkChunk u files declared b a = .ok b' →
      Checked files tally.seen b'.1.seen ((done ++ [a]).map declaredRow) := by
    intro done b a b' hI hcheck
    obtain ⟨hseen, hraw⟩ := checkChunk_ok hcheck
    rw [List.map_append]
    refine hI.append ⟨hseen, ?_⟩
    intro p hp
    obtain rfl := List.mem_singleton.mp hp
    exact hraw
  have hstart : Checked files tally.seen tally.seen (([] : List (Json F)).map declaredRow) :=
    ⟨(List.append_nil _).symm, fun p hp => by cases hp⟩
  exact foldlM_ok hkept hstart hfold

theorem mem_of_lookup {name : String}
    (h : entries.lookup name = some node) : (name, node) ∈ entries := by
  obtain ⟨before, after, rfl, -⟩ := List.lookup_eq_some_iff.mp h
  simp

variable {m : Json F}

theorem validateBundle_declares
    (h : validateBundle u name b = .ok m) : manifestOf F b = some m ∧
      (∀ file raw, chunkBytes b file = some raw → file ∈ (declaredChunks m).map Prod.fst) ∧
      ∀ p ∈ declaredChunks m, ∃ raw, chunkBytes b p.1 = some raw ∧ sha256Bytes raw = p.2 := by
  obtain ⟨entries, hentries, hread, -, hcontents⟩ := validateBundle_ok.mp h
  simp only [checkContents, bind_ok, require_ok, exists_const, orRaise_ok] at hcontents
  obtain ⟨-, files, hfiles, sources, hsources, -, tally, hfold, hnames, hseen⟩ := hcontents
  have hkept : ∀ done (t : ImportTally) (a : Json F) t', Checked files [] t.seen (done.flatMap declaredOf) →
      checkSource u files t a = .ok t' → Checked files [] t'.seen ((done ++ [a]).flatMap declaredOf) := by
    intro done t a t' hI hcheck
    rw [List.flatMap_append, List.flatMap_singleton]
    exact hI.append (checkSource_ok hcheck)
  have hstart : Checked files [] ({} : ImportTally).seen (([] : List (Json F)).flatMap declaredOf) :=
    ⟨rfl, fun p hp => by cases hp⟩
  have hchecked : Checked files [] tally.seen (declaredChunks m) := by
    rw [declaredChunks, array?_item, hsources, Option.getD_some]
    exact foldlM_ok hkept hstart hfold
  have hchunk : ∀ file, chunkBytes b file = (files.lookup file).bind Node.bytes? := by
    intro file
    obtain ⟨chunks, hchunks, hdir⟩ := Option.bind_eq_some_iff.mp hfiles
    simp only [chunkBytes, hentries, hchunks, hdir, Option.bind_eq_bind, Option.bind_some]
  refine ⟨?_, ?_, ?_⟩
  · rw [manifestOf, hentries, Option.bind_some, hread]
    rfl
  · intro file raw hraw
    rw [hchunk] at hraw
    obtain ⟨node, hnode, hbytes⟩ := Option.bind_eq_some_iff.mp hraw
    have hname : file ∈ fileNames files := by
      refine List.mem_map.mpr ⟨(file, node), List.mem_filter.mpr ⟨mem_of_lookup hnode, ?_⟩, rfl⟩
      rw [hbytes]
      rfl
    have := hnames file hname
    rwa [hchecked.1, List.nil_append] at this
  · intro p hp
    obtain ⟨raw, hraw, hsha⟩ := hchecked.2 p hp
    exact ⟨raw, by rw [hchunk, hraw], hsha⟩

/-! ## Equal ids -/

/-- What the id of a bundle with this manifest would be derived from. -/
def identityOf (m : Json F) : Json F :=
  identityJson (m.item "origin_task_id") (m.item "source_count") (m.item "chunk_count") (m.item "sources")

/-- The id of the directory is the one the exporter derives. -/
def DerivedId (F : Type) [JsonFloat F] (b : Node) : Prop :=
  ∀ m : Json F, manifestOf F b = some m → ∃ t, dumpsLax (identityOf m) = some t ∧ bundleIdText m = bundleIdOf t

/-- No two different texts or files of the directories have the same digest. -/
structure CollisionFree (F : Type) [JsonFloat F] (given : List Node) : Prop where
  identity : ∀ b ∈ given, ∀ b' ∈ given, ∀ (m m' : Json F) t t', manifestOf F b = some m → manifestOf F b' = some m' →
    dumpsLax (identityOf m) = some t → dumpsLax (identityOf m') = some t' → bundleIdOf t = bundleIdOf t' → t = t'
  chunks : ∀ b ∈ given, ∀ b' ∈ given, ∀ file file' raw raw', chunkBytes b file = some raw →
    chunkBytes b' file' = some raw' → sha256Bytes raw = sha256Bytes raw' → raw = raw'

theorem manifestOf_some (h : manifestOf F b = some m) : ∃ entries bytes text,
    b.entries? = some entries ∧ (entries.lookup "manifest.json").bind Node.bytes? = some bytes ∧
      Utf8.decode? bytes = some text ∧ loads text = some m := by
  obtain ⟨entries, hentries, hread⟩ := Option.bind_eq_some_iff.mp h
  cases hr : readManifest (F := F) entries with
  | error e =>
    rw [hr] at hread
    cases hread
  | ok m' =>
    rw [hr] at hread
    obtain rfl := Option.some.inj hread
    simp only [readManifest, bind_ok, require_ok, exists_const, orRaise_ok, pure_ok] at hr
    obtain ⟨bytes, hbytes, -, text, htext, m₁, hloads, -, rfl⟩ := hr
    exact ⟨entries, bytes, text, hentries, hbytes, htext, hloads⟩

theorem canonical_manifestOf (h : manifestOf F b = some m) : Canonical m := by
  obtain ⟨-, -, text, -, -, -, hloads⟩ := manifestOf_some h
  exact canonical_loads hloads

omit [JsonFloat F] in
theorem canonical_identityOf (h : Canonical m) : Canonical (identityOf m) := by
  refine canonical_dict ?_
  intro e he
  simp only [List.mem_cons, List.not_mem_nil, or_false] at he
  rcases he with rfl | rfl | rfl | rfl | rfl | rfl | rfl | rfl
  · trivial
  · trivial
  · trivial
  · trivial
  · exact canonical_item h _
  · exact canonical_item h _
  · exact canonical_item h _
  · exact canonical_item h _

omit [JsonFloat F] in
theorem identityOf_inj {m' : Json F} (h : identityOf m = identityOf m') :
    m.item "origin_task_id" = m'.item "origin_task_id" ∧ m.item "sources" = m'.item "sources" := by
  have horigin : ∀ v : Json F, (identityOf v).get? "origin_task_id" = some (v.item "origin_task_id") := by
    intro v
    rw [identityOf, identityJson, get?_dict]
    rfl
  have hsources : ∀ v : Json F, (identityOf v).get? "sources" = some (v.item "sources") := by
    intro v
    rw [identityOf, identityJson, get?_dict]
    rfl
  exact ⟨Option.some.inj ((horigin m).symm.trans ((congrArg (Json.get? · _) h).trans (horigin m'))),
    Option.some.inj ((hsources m).symm.trans ((congrArg (Json.get? · _) h).trans (hsources m')))⟩

theorem sameEvidence_of_id {given : List Node} (hfree : CollisionFree F given) {b' : Node} (hb : b ∈ given)
    (hb' : b' ∈ given) (hderived : DerivedId F b) (hderived' : DerivedId F b') {name' : Option String} {m' : Json F}
    (h : validateBundle u name b = .ok m) (h' : validateBundle u name' b' = .ok m')
    (hid : bundleIdText m = bundleIdText m') : SameEvidence F b b' := by
  obtain ⟨hm, hfiles, hdigests⟩ := validateBundle_declares h
  obtain ⟨hm', hfiles', hdigests'⟩ := validateBundle_declares h'
  obtain ⟨t, ht, hidt⟩ := hderived m hm
  obtain ⟨t', ht', hidt'⟩ := hderived' m' hm'
  have htexts : t = t' := hfree.identity b hb b' hb' m m' t t' hm hm' ht ht' (by rw [← hidt, ← hidt', hid])
  subst htexts
  have hidentity : identityOf m = identityOf m' := dumpsLax_inj (canonical_identityOf (canonical_manifestOf hm))
    (canonical_identityOf (canonical_manifestOf hm')) ht ht'
  obtain ⟨horigin, hsources⟩ := identityOf_inj hidentity
  have hdeclared : declaredChunks m = declaredChunks m' := by rw [declaredChunks, declaredChunks, hsources]
  refine ⟨⟨m, m', hm, hm', horigin, hsources⟩, ?_⟩
  intro file
  -- a declared file has the declared digest on both sides; a file that is not declared is on neither
  by_cases hmem : file ∈ (declaredChunks m).map Prod.fst
  · obtain ⟨p, hp, rfl⟩ := List.mem_map.mp hmem
    obtain ⟨raw, hraw, hsha⟩ := hdigests p hp
    obtain ⟨raw', hraw', hsha'⟩ := hdigests' p (hdeclared ▸ hp)
    rw [hraw, hraw', hfree.chunks b hb b' hb' _ _ raw raw' hraw hraw' (hsha.trans hsha'.symm)]
  · have hnone : ∀ raw, chunkBytes b file ≠ some raw := fun raw hraw => hmem (hfiles file raw hraw)
    have hnone' : ∀ raw, chunkBytes b' file ≠ some raw := fun raw hraw => hmem (hdeclared ▸ hfiles' file raw hraw)
    rw [Option.eq_none_iff_forall_ne_some.mpr hnone, Option.eq_none_iff_forall_ne_some.mpr hnone']

theorem manifest_written {createdAt task identity manifest : String} {chunkCount : Nat} {sources : List ExportedSource}
    (hidentity : canonicalJson (F := F) (identityJson (.str task) (.int sources.length) (.int chunkCount)
      (.arr (sources.map (·.json)))) = .ok identity)
    (hmanifest : manifestText (F := F) createdAt task (bundleIdOf identity) chunkCount sources = .ok manifest) {m : Json F}
    (hm : manifestOf F (bundleNode manifest sources) = some m) : dumpsLax (identityOf m) = some identity ∧
      bundleIdText m = bundleIdOf identity ∧ m.get? "created_at" = some (.str createdAt) := by
  obtain ⟨canonical, -, hloads⟩ := manifestText_ok hmanifest
  obtain ⟨entries, bytes, text, hentries, hbytes, htext, hread⟩ := manifestOf_some hm
  obtain rfl := Option.some.inj hentries
  obtain rfl : Utf8.encode manifest = bytes := Option.some.inj hbytes
  obtain rfl : manifest = text := Option.some.inj ((Utf8.decode?_encode manifest).symm.trans htext)
  obtain rfl := Option.some.inj (hloads.symm.trans hread)
  simp only [canonicalJson, orRaise_ok] at hidentity
  refine ⟨?_, ?_, ?_⟩
  · rw [← hidentity]
    simp only [identityOf, Json.item]
    rw [get?_manifest (by decide), get?_manifest (by decide), get?_manifest (by decide), get?_manifest (by decide)]
    simp only [get?_unhashed]
    rfl
  · rw [bundleIdText, get?_manifest (by decide), get?_unhashed]
    exact textOr_str _
  · rw [get?_manifest (by decide), get?_unhashed]
    rfl

theorem derivedId_written {createdAt task identity manifest : String} {chunkCount : Nat} {sources : List ExportedSource}
    (hidentity : canonicalJson (F := F) (identityJson (.str task) (.int sources.length) (.int chunkCount)
      (.arr (sources.map (·.json)))) = .ok identity)
    (hmanifest : manifestText (F := F) createdAt task (bundleIdOf identity) chunkCount sources = .ok manifest) :
    DerivedId F (bundleNode manifest sources) := by
  intro m hm
  obtain ⟨htext, hid, -⟩ := manifest_written hidentity hmanifest hm
  exact ⟨identity, htext, hid⟩

/-! ## Copies -/

theorem lookup_copied {entries' : List (String × Node)} (h : copyEntries entries = some entries')
    {name : String} (hnode : entries.lookup name = some node) :
    ∃ node', copytree node = some node' ∧ entries'.lookup name = some node' := by
  induction entries generalizing entries' with
  | nil => cases hnode
  | cons e entries ih =>
    obtain ⟨k, n⟩ := e
    simp only [copyEntries, Option.bind_eq_bind, Option.bind_eq_some_iff, Option.some.injEq] at h
    obtain ⟨n', hn', entries₁, hentries, rfl⟩ := h
    cases hk : name == k with
    | true =>
      simp only [List.lookup_cons, hk, Option.some.injEq] at hnode ⊢
      subst hnode
      exact ⟨n', hn', rfl⟩
    | false =>
      simp only [List.lookup_cons, hk] at hnode ⊢
      exact ih hentries hnode

theorem copytree_dir (h : copytree (.dir entries) = some node) :
    ∃ entries', copyEntries entries = some entries' ∧ node = .dir entries' := by
  rw [copytree] at h
  obtain ⟨entries', hentries, rfl⟩ := Option.map_eq_some_iff.mp h
  exact ⟨entries', hentries, rfl⟩

theorem entries?_eq (h : node.entries? = some entries) :
    node = .dir entries := by
  cases node with
  | dir es => exact congrArg Node.dir (Option.some.inj h)
  | file bytes => cases h
  | link target => cases h

theorem bytes?_eq {bytes : List UInt8} (h : node.bytes? = some bytes) : node = .file bytes := by
  cases node with
  | file bs => exact congrArg Node.file (Option.some.inj h)
  | dir entries => cases h
  | link target => cases h

theorem sameEvidence_copy {name' : Option String} {copy : Node} {m' : Json F}
    (h : validateBundle u name b = .ok m) (hcopy : copytree b = some copy) (h' : validateBundle u name' copy = .ok m') :
    SameEvidence F b copy ∧ m = m' := by
  obtain ⟨hm, hfiles, hdigests⟩ := validateBundle_declares h
  obtain ⟨hm', hfiles', hdigests'⟩ := validateBundle_declares h'
  obtain ⟨entries, hentries, hread, -, -⟩ := validateBundle_ok.mp h
  obtain ⟨entries', hentries', hread', -, -⟩ := validateBundle_ok.mp h'
  obtain rfl := entries?_eq hentries
  obtain ⟨entries₁, hcopied, rfl⟩ := copytree_dir hcopy
  obtain rfl := Option.some.inj hentries'
  have hsame : m = m' := by
    simp only [readManifest, bind_ok, require_ok, exists_const, orRaise_ok, pure_ok] at hread hread'
    obtain ⟨bytes, hbytes, -, text, htext, m₁, hloads, -, rfl⟩ := hread
    obtain ⟨bytes', hbytes', -, text', htext', m₂, hloads', -, rfl⟩ := hread'
    obtain ⟨node, hnode, hfile⟩ := Option.bind_eq_some_iff.mp hbytes
    obtain rfl := bytes?_eq hfile
    obtain ⟨node', hnode', hlookup⟩ := lookup_copied hcopied hnode
    rw [copytree, Option.some.injEq] at hnode'
    subst hnode'
    rw [hlookup] at hbytes'
    obtain rfl : bytes = bytes' := Option.some.inj hbytes'
    obtain rfl : text = text' := Option.some.inj (htext.symm.trans htext')
    exact Option.some.inj (hloads.symm.trans hloads')
  subst hsame
  -- a regular file stays what it is
  have hkept : ∀ file raw, chunkBytes (.dir entries) file = some raw → chunkBytes (.dir entries₁) file = some raw := by
    intro file raw hraw
    simp only [chunkBytes, Node.entries?, Option.bind_eq_bind, Option.bind_some, Option.bind_eq_some_iff] at hraw ⊢
    obtain ⟨chunks, hchunks, files, hdir, node, hnode, hbytes⟩ := hraw
    obtain rfl := bytes?_eq hbytes
    obtain rfl := entries?_eq hdir
    obtain ⟨chunks', hchunks', hlookup⟩ := lookup_copied hcopied hchunks
    obtain ⟨files', hcopiedFiles, rfl⟩ := copytree_dir hchunks'
    obtain ⟨node', hnode', hfile⟩ := lookup_copied hcopiedFiles hnode
    rw [copytree, Option.some.injEq] at hnode'
    subst hnode'
    exact ⟨_, hlookup, files', rfl, _, hfile, rfl⟩
  refine ⟨⟨⟨m, m, hm, hm', rfl, rfl⟩, ?_⟩, rfl⟩
  intro file
  cases hraw : chunkBytes (.dir entries) file with
  | some raw => exact (hkept file raw hraw).symm
  | none =>
    cases hraw' : chunkBytes (.dir entries₁) file with
    | none => rfl
    | some raw' =>
      -- a file of the copy is declared, so the directory has it
      obtain ⟨p, hp, rfl⟩ := List.mem_map.mp (hfiles' file raw' hraw')
      obtain ⟨raw, hdeclared, -⟩ := hdigests p hp
      rw [hdeclared] at hraw
      cases hraw

/-! ## Sequences of imports -/

/-- The knowledge root after a call, which leaves it as it was when it raises. -/
def importStep (F : Type) [JsonFloat F] (u : Unicode) (root : PyDict.Dict Node) (given : String × Node) :
    PyDict.Dict Node :=
  match importBundle F u root given.1 given.2 with
  | .ok r => r.2
  | .error _ => root

def importRun (F : Type) [JsonFloat F] (u : Unicode) (given : List (String × Node)) : PyDict.Dict Node :=
  given.foldl (importStep F u) []

/-- Every destination holds the evidence of an accepted directory that was given under its name. -/
def Held (F : Type) [JsonFloat F] (u : Unicode) (given : List (String × Node)) (root : PyDict.Dict Node) : Prop :=
  ∀ name node, PyDict.get? root name = some node → ∃ b, (name, b) ∈ given ∧
    (∃ m : Json F, validateBundle u (some name) b = .ok m) ∧ SameEvidence F b node

theorem Held.mono {given given' : List (String × Node)} {root : PyDict.Dict Node} (h : Held F u given root)
    (hsub : ∀ g ∈ given, g ∈ given') : Held F u given' root := by
  intro name node hget
  obtain ⟨b, hb, haccepted, hsame⟩ := h name node hget
  exact ⟨b, hsub _ hb, haccepted, hsame⟩

theorem Held.import {given : List (String × Node)} {root root' : PyDict.Dict Node} {name dest : String}
    (hroot : Held F u given root) (h : importBundle F u root name b = .ok (dest, root')) :
    Held F u (given ++ [(name, b)]) root' := by
  obtain ⟨rfl, m, hm, hcase⟩ := importBundle_ok h
  have hbefore : Held F u (given ++ [(dest, b)]) root := hroot.mono fun g hg => by simp [hg]
  rcases hcase with ⟨d, -, -, rfl⟩ | ⟨-, copy, hcopy, ⟨m', hm'⟩, rfl⟩
  · exact hbefore
  · intro name node hget
    rw [PyDict.get?_set] at hget
    split at hget
    · rename_i heq
      subst heq
      obtain rfl := Option.some.inj hget
      exact ⟨b, by simp, ⟨m, hm⟩, (sameEvidence_copy hm hcopy hm').1⟩
    · exact hbefore name node hget

theorem held_importRun (given : List (String × Node)) : Held F u given (importRun F u given) := by
  have hempty : Held F u [] [] := fun name node hget => nomatch hget
  have hrun : ∀ (calls done : List (String × Node)) (root : PyDict.Dict Node), Held F u done root →
      Held F u (done ++ calls) (calls.foldl (importStep F u) root) := by
    intro calls
    induction calls with
    | nil =>
      intro done root hroot
      rw [List.append_nil]
      exact hroot
    | cons call calls ih =>
      intro done root hroot
      have hstep : Held F u (done ++ [call]) (importStep F u root call) := by
        unfold importStep
        cases himport : importBundle F u root call.1 call.2 with
        | error e => exact hroot.mono fun g hg => by simp [hg]
        | ok r => exact hroot.import himport
      have := ih (done ++ [call]) _ hstep
      rwa [List.append_assoc, List.singleton_append] at this
  exact hrun given [] [] hempty

/-- Where every directory given has the id that the exporter derives: accepted directories with one id have the same
evidence, and in every sequence of imports a destination that is returned holds the evidence of the directory given. -/
theorem bundles_content_addressed (u : Unicode) (given : List (String × Node))
    (hderived : ∀ g ∈ given, DerivedId F g.2) (hfree : CollisionFree F (given.map Prod.snd)) :
    (∀ g ∈ given, ∀ g' ∈ given, ∀ name name' (m m' : Json F), validateBundle u name g.2 = .ok m →
      validateBundle u name' g'.2 = .ok m' → bundleIdText m = bundleIdText m' → SameEvidence F g.2 g'.2) ∧
    ∀ before name b after, given = before ++ (name, b) :: after → ∀ dest root',
      importBundle F u (importRun F u before) name b = .ok (dest, root') →
      ∃ node, PyDict.get? root' dest = some node ∧ SameEvidence F b node := by
  have hpairs : ∀ g ∈ given, ∀ g' ∈ given, ∀ name name' (m m' : Json F), validateBundle u name g.2 = .ok m →
      validateBundle u name' g'.2 = .ok m' → bundleIdText m = bundleIdText m' → SameEvidence F g.2 g'.2 := by
    intro g hg g' hg' name name' m m' hm hm' hid
    exact sameEvidence_of_id hfree (List.mem_map_of_mem hg) (List.mem_map_of_mem hg') (hderived g hg) (hderived g' hg')
      hm hm' hid
  refine ⟨hpairs, ?_⟩
  rintro before name b after rfl dest root' himport
  have hheld : Held F u (before ++ [(name, b)]) root' := (held_importRun before).import himport
  obtain ⟨rfl, m, hm, hcase⟩ := importBundle_ok himport
  obtain ⟨node, hnode⟩ : ∃ node, PyDict.get? root' dest = some node := by
    rcases hcase with ⟨d, hd, -, rfl⟩ | ⟨-, copy, -, -, rfl⟩
    · exact ⟨d, hd⟩
    · exact ⟨copy, by rw [PyDict.get?_set, if_pos rfl]⟩
  obtain ⟨b₀, hb₀, ⟨m₀, hm₀⟩, hsame⟩ := hheld dest node hnode
  have hids : bundleIdText m = bundleIdText m₀ :=
    ((validateBundle_name.mp hm).2 dest rfl).symm.trans ((validateBundle_name.mp hm₀).2 dest rfl)
  have hgiven : (dest, b₀) ∈ before ++ (dest, b) :: after := by
    rcases List.mem_append.mp hb₀ with h | h
    · simp [h]
    · simp only [List.mem_singleton] at h
      simp [h]
  exact ⟨node, hnode, (hpairs (dest, b) (by simp) (dest, b₀) hgiven _ _ m m₀ hm hm₀ hids).trans hsame⟩

/-! ## Forged ids -/

/-- A source of one chunk, the `count`-th of its bundle. -/
def forgedAt (sourceId : String) (count : Nat) (text : String) : ExportedSource :=
  ⟨sourceId, "Title", "https://example.org/", "2026-01-01T00:00:00+00:00", .low, [chunkFile "S1" count 1 text]⟩

/-- A source of the only chunk. -/
def forgedSource (text : String) : ExportedSource :=
  ⟨"S1", "Title", "https://example.org/", "2026-01-01T00:00:00+00:00", .low, [chunkFile "S1" 1 1 text]⟩

def forgedId : String := "kb_000000000000000000000000"

section Forged

variable {text : String} {bundleId sourceId : String} {count : Nat}

theorem forged_sourceFit : SourceFit asciiTables (forgedAt sourceId count text) := by
  have hurl : validatePublicUrl asciiTables "https://example.org/" = .ok "https://example.org/" := by decide
  exact ⟨⟨_, hurl⟩, by simp [forgedAt]⟩

theorem forged_fit (htext : text.toList.length ≤ 1) : BundleFit asciiTables [forgedSource text] := by
  have hchunks : [forgedSource text].flatMap (·.chunks) = [chunkFile "S1" 1 1 text] := rfl
  have hbytes := Utf8.length_encode_le text.toList
  rw [String.ofList_toList] at hbytes
  refine ⟨by simp, ?_, ?_, ?_, ?_, ?_, ?_⟩
  · rw [List.length_singleton]
    decide
  · intro s hs
    obtain rfl := List.mem_singleton.mp hs
    exact forged_sourceFit
  · rw [hchunks, List.length_singleton]
    decide
  · rw [hchunks]
    have hsize : 4 ≤ maxBundleBytes := by decide
    simp only [List.map_cons, List.map_nil, List.sum_cons, List.sum_nil, ChunkFile.bytes]
    show (Utf8.encode text).length + 0 ≤ maxBundleBytes
    omega
  · intro c hc
    rw [hchunks, List.mem_singleton] at hc
    subst hc
    exact fileName_safe 1 _
  · rw [hchunks]
    exact List.nodup_singleton _

theorem length_bundleIdOf (identity : String) : (bundleIdOf identity).toList.length ≤ 80 := by
  have hre := bundleRe_bundleIdOf identity
  simp only [bundleRe, Bool.and_eq_true, decide_eq_true_eq, List.length_drop] at hre
  omega

theorem length_sha256Bytes (raw : List UInt8) : (sha256Bytes raw).toList.length = 71 := by
  have hdigest : (Sha256.digest (raw.map UInt8.toNat)).length = 64 := by simp [Sha256.digest, Sha256.hexWord_length]
  simp [sha256Bytes, hdigest]

theorem length_str_le {s : String} (h : s.toList.length ≤ 80) {d : Nat} :
    (layoutText .indented spellFloat d (.str s : Json WholeFloat)).length ≤ 482 := by
  have := length_stringText_le s
  rw [layoutText]
  omega

theorem length_gap_le {d : Nat} (h : d ≤ 6) : (Layout.indented.gap d).length ≤ 13 := by
  show ('\n' :: List.replicate (2 * d) ' ').length ≤ 13
  rw [List.length_cons, List.length_replicate]
  omega

theorem length_int_le {n : Nat} (h : n ≤ 2) {d : Nat} :
    (layoutText .indented spellFloat d (.int n : Json WholeFloat)).length ≤ 482 := by
  obtain rfl | rfl | rfl : n = 0 ∨ n = 1 ∨ n = 2 := by omega
  · exact (by decide : (intText 0).length ≤ 482)
  · exact (by decide : (intText 1).length ≤ 482)
  · exact (by decide : (intText 2).length ≤ 482)

theorem forged_chunk_length (hcount : count = 1 ∨ count = 2) (htext : text.toList.length ≤ 2) :
    (layoutText .indented spellFloat 4 ((chunkFile "S1" count 1 text).json : Json WholeFloat)).length ≤ 2100 := by
  have hfile : (chunkFile "S1" count 1 text).file.toList.length ≤ 80 := by
    show (fileName count "S1-c001").toList.length ≤ 80
    rcases hcount with rfl | rfl
    · decide
    · decide
  rw [ChunkFile.json]
  have hkeys : ∀ k ∈ ["chunk_id", "file", "sha256", "chars"], (stringText k).length ≤ 20 := forall_mem_of_all (by decide)
  refine (length_dict_le (n := 20) (m := 482) (g := 13) (fun d' hd' => length_gap_le (by omega)) (Nat.le_refl 1)
    ?_).trans (by simp)
  intro e he
  simp only [List.mem_cons, List.not_mem_nil, or_false] at he
  rcases he with rfl | rfl | rfl | rfl
  · exact ⟨hkeys _ (by simp), length_str_le (by show "S1-c001".toList.length ≤ 80; decide)⟩
  · exact ⟨hkeys _ (by simp), length_str_le hfile⟩
  · exact ⟨hkeys _ (by simp), length_str_le (by rw [length_sha256Bytes]; decide)⟩
  · exact ⟨hkeys _ (by simp), length_int_le htext⟩

theorem forged_source_length (hid : sourceId.toList.length ≤ 80) (hcount : count = 1 ∨ count = 2)
    (htext : text.toList.length ≤ 2) :
    (layoutText .indented spellFloat 2 ((forgedAt sourceId count text).json : Json WholeFloat)).length ≤ 17500 := by
  have hchunks : (layoutText .indented spellFloat 3
      (.arr ((forgedAt sourceId count text).chunks.map (·.json)) : Json WholeFloat)).length ≤ 2140 := by
    have hchunk := forged_chunk_length hcount htext
    have h3 := length_gap_le (d := 3) (by omega)
    have h4 := length_gap_le (d := 4) (by omega)
    simp only [forgedAt, List.map_cons, List.map_nil, layoutText, elemsLayout, List.length_cons, List.length_append,
      List.length_nil, Nat.reduceAdd]
    omega
  rw [ExportedSource.json]
  have hkeys : ∀ k ∈ ["source_id", "title", "url", "retrieved_at", "content_sha256", "trust", "injection_risk", "chunks"],
      (stringText k).length ≤ 20 := forall_mem_of_all (by decide)
  refine (length_dict_le (n := 20) (m := 2140) (g := 13) (fun d' hd' => length_gap_le (by omega)) (Nat.le_refl 1)
    ?_).trans (by simp)
  have hshort : ∀ s : String, s.toList.length ≤ 80 →
      (layoutText .indented spellFloat 3 (.str s : Json WholeFloat)).length ≤ 2140 :=
    fun s hs => (length_str_le hs).trans (by decide)
  intro e he
  simp only [List.mem_cons, List.not_mem_nil, or_false] at he
  rcases he with rfl | rfl | rfl | rfl | rfl | rfl | rfl | rfl
  · exact ⟨hkeys _ (by simp), hshort _ hid⟩
  · exact ⟨hkeys _ (by simp), hshort _ (by show "Title".toList.length ≤ 80; decide)⟩
  · exact ⟨hkeys _ (by simp), hshort _ (by show "https://example.org/".toList.length ≤ 80; decide)⟩
  · exact ⟨hkeys _ (by simp), hshort _ (by show "2026-01-01T00:00:00+00:00".toList.length ≤ 80; decide)⟩
  · exact ⟨hkeys _ (by simp), hshort _ (by rw [length_sha256Bytes]; decide)⟩
  · exact ⟨hkeys _ (by simp), hshort _ (by decide)⟩
  · exact ⟨hkeys _ (by simp), hshort _ (by show "low".toList.length ≤ 80; decide)⟩
  · exact ⟨hkeys _ (by simp), hchunks⟩

/-- One of two sources with a short id and a text of at most two characters. -/
def Forged (s : ExportedSource) : Prop :=
  ∃ sourceId count text, sourceId.toList.length ≤ 80 ∧ (count = 1 ∨ count = 2) ∧ text.toList.length ≤ 2 ∧
    s = forgedAt sourceId count text

theorem forged_manifest {createdAt : String} (htime : createdAt.toList.length ≤ 80) (hid : bundleId.toList.length ≤ 80)
    (sources : List ExportedSource) (hsources : ∀ s ∈ sources, Forged s) (hcount : sources.length ≤ 2) :
    ∃ manifest, manifestText (F := WholeFloat) createdAt "task-1" bundleId sources.length sources = .ok manifest ∧
      (Utf8.encode manifest).length ≤ maxManifestBytes := by
  have hshort : ∀ s ∈ sources, ∀ c ∈ s.chunks, c.text.toList.length < 2 ^ 64 := by
    intro s hs c hc
    obtain ⟨sourceId, count, text, -, -, htext, rfl⟩ := hsources s hs
    obtain rfl := List.mem_singleton.mp hc
    exact lt_of_le_of_lt htext (by decide)
  obtain ⟨-, manifest, hmanifest⟩ := manifestText_written (F := WholeFloat) hshort
    (lt_of_le_of_lt hcount (by decide)) (lt_of_le_of_lt hcount (by decide : 2 < 2 ^ 64))
    createdAt "task-1" bundleId
  refine ⟨manifest, hmanifest, ?_⟩
  simp only [manifestText, bind_ok, orRaise_ok, pure_ok] at hmanifest
  obtain ⟨canonical, -, body, hbody, rfl⟩ := hmanifest
  have hentries := entries_dict (G := WholeFloat) [("schema_version", .str bundleSchema), ("classification", .str "public"),
    ("trust_domain", .str "system:public"), ("direction", .str "inbound_only"),
    ("created_at", .str createdAt), ("origin_task_id", .str "task-1"), ("source_count", .int sources.length),
    ("chunk_count", .int sources.length), ("sources", .arr (sources.map (·.json))), ("bundle_id", .str bundleId)]
  obtain ⟨entries, hdict, hlength, hmem⟩ := hentries
  have hunhashed : (unhashedManifest createdAt "task-1" bundleId sources.length sources : Json WholeFloat) =
      .obj entries := hdict
  have hsources : (layoutText .indented spellFloat 1 (.arr (sources.map (·.json)) : Json WholeFloat)).length ≤
      35080 := by
    have hsource : ∀ s ∈ sources, (layoutText .indented spellFloat 2 (s.json : Json WholeFloat)).length ≤ 17500 := by
      intro s hs
      obtain ⟨sourceId, count, text, hid, hcount, htext, rfl⟩ := hsources s hs
      exact forged_source_length hid hcount htext
    have h1 := length_gap_le (d := 1) (by omega)
    have h2 := length_gap_le (d := 2) (by omega)
    rcases sources with _ | ⟨a, _ | ⟨b, _ | _⟩⟩
    · simp [layoutText]
    · have ha := hsource a (by simp)
      simp only [List.map_cons, List.map_nil, layoutText, elemsLayout, List.length_cons, List.length_append,
        List.length_nil, Nat.reduceAdd]
      omega
    · have ha := hsource a (by simp)
      have hb := hsource b (by simp)
      simp only [List.map_cons, List.map_nil, layoutText, elemsLayout, List.length_cons, List.length_append,
        List.length_nil, Nat.reduceAdd]
      omega
    · simp at hcount
  have hstr : ∀ s : String, s.toList.length ≤ 80 →
      (layoutText .indented spellFloat 1 (.str s : Json WholeFloat)).length ≤ 35080 :=
    fun s hs => (length_str_le hs).trans (by decide)
  have hint : (layoutText .indented spellFloat 1 (.int sources.length : Json WholeFloat)).length ≤ 35080 :=
    (length_int_le hcount).trans (by decide)
  have hkeys : ∀ k ∈ ["schema_version", "classification", "trust_domain", "direction", "created_at", "origin_task_id",
      "source_count", "chunk_count", "sources", "bundle_id", "manifest_sha256"], (stringText k).length ≤ 482 :=
    forall_mem_of_all (by decide)
  have hbound : ∀ e ∈ Json.insertKey "manifest_sha256" (.str (hashText canonical)) entries,
      (stringText e.1).length ≤ 482 ∧ (layoutText .indented spellFloat 1 e.2).length ≤ 35080 := by
    intro e he
    rcases mem_insertKey he with rfl | he
    · refine ⟨hkeys _ (by simp), hstr _ ?_⟩
      rw [← sha256Bytes_encode, length_sha256Bytes]
      decide
    · have hentry := hmem e he
      simp only [List.mem_cons, List.not_mem_nil, or_false] at hentry
      rcases hentry with rfl | rfl | rfl | rfl | rfl | rfl | rfl | rfl | rfl | rfl
      · exact ⟨hkeys _ (by simp), hstr _ (by decide)⟩
      · exact ⟨hkeys _ (by simp), hstr _ (by decide)⟩
      · exact ⟨hkeys _ (by simp), hstr _ (by decide)⟩
      · exact ⟨hkeys _ (by simp), hstr _ (by decide)⟩
      · exact ⟨hkeys _ (by simp), hstr _ htime⟩
      · exact ⟨hkeys _ (by simp), hstr _ (by decide)⟩
      · exact ⟨hkeys _ (by simp), hint⟩
      · exact ⟨hkeys _ (by simp), hint⟩
      · exact ⟨hkeys _ (by simp), hsources⟩
      · exact ⟨hkeys _ (by simp), hstr _ hid⟩
  have hbody : body = String.ofList (layoutText .indented spellFloat 0
      (.obj (Json.insertKey "manifest_sha256" (.str (hashText canonical)) entries) : Json WholeFloat)) := by
    rw [hunhashed] at hbody
    unfold dumpsIndented at hbody
    split at hbody
    · exact (Option.some.inj hbody).symm
    · cases hbody
  have hobj := length_obj_le (d := 0) (g := 13) (fun d' hd' => length_gap_le (by omega)) (Nat.le_refl 1) hbound
  have hcount := length_insertKey_le "manifest_sha256" (.str (hashText canonical)) entries
  have hbytes := Utf8.length_encode_le (body ++ "\n").toList
  simp only [List.length_cons, List.length_nil] at hlength
  rw [String.ofList_toList, String.toList_append, List.length_append, hbody, String.toList_ofList] at hbytes
  have hnl : "\n".toList.length = 1 := rfl
  have hmul := Nat.mul_le_mul_right (482 + 35080 + 13 + 3) hcount
  have hmax : maxManifestBytes = 2097152 := by decide
  rw [hbody]
  omega

theorem word_exportable : Exportable ['a', 'a'] := by
  have hchunks : chunks (String.ofList ['a', 'a']) = ["aa"] := by decide
  refine ⟨⟨List.cons_ne_nil _ _, by decide, by decide⟩, ⟨.low, by decide⟩, ?_, ?_, ?_⟩
  · rw [hchunks]
    decide
  · rw [hchunks]
    decide
  · rw [hchunks]
    decide

theorem word_importable : Importable asciiTables "2026-01-01T00:00:00+00:00" (textPayload ['a', 'a']) := by
  have hnorm : normalizeExternalText asciiTables (String.ofList ['a', 'a']) = .ok ("aa", .low) := by decide
  have hchunks : chunks "aa" = ["aa"] := by decide
  refine ⟨?_, ?_⟩
  · intro rows hrows row hrow value risk hvalue chunk hchunk
    obtain rfl := Except.ok.inj ((textPayload_rows word_exportable).symm.trans hrows)
    rw [List.mem_singleton.mp hrow, textRow_text] at hvalue
    cases hnorm.symm.trans hvalue
    rw [hchunks, List.mem_singleton] at hchunk
    subst hchunk
    exact ⟨"aa", .low, hnorm, Nat.le_refl _⟩
  · intro bundle hbundle
    simp only [composeBundle, bind_ok, require_ok, exists_const, pure_ok] at hbundle
    obtain ⟨rows, hrows, -, -, -, acc, hacc, identity, -, manifest, hmanifest, rfl⟩ := hbundle
    obtain rfl := Except.ok.inj ((textPayload_rows word_exportable).symm.trans hrows)
    have hexported : (exportSources asciiTables "2026-01-01T00:00:00+00:00" (textPayload ['a', 'a'])
        [textRow ['a', 'a']]).toOption.map (fun acc => (acc.1.chunkCount, acc.2)) = some (1, [forgedAt "S1" 1 "aa"]) := by
      decide +kernel
    rw [hacc] at hexported
    obtain ⟨hcount, hsources⟩ := Prod.mk.inj (Option.some.inj hexported)
    have htask : Json.textOr ((textPayload ['a', 'a']).get? "task_id") = "task-1" := by
      rw [textPayload, get?_dict]
      exact textOr_str _
    obtain ⟨manifest', hmanifest', hsize⟩ := forged_manifest
      (show "2026-01-01T00:00:00+00:00".toList.length ≤ 80 by decide) (length_bundleIdOf identity)
      [forgedAt "S1" 1 "aa"] (fun s hs => ⟨"S1", 1, "aa", by decide, .inl rfl, by decide, List.mem_singleton.mp hs⟩) (by simp)
    rw [htask, hcount, hsources] at hmanifest
    rw [hsources]
    cases hmanifest'.symm.trans hmanifest
    exact hsize

/-- A payload with a word is exported, and what is exported is imported. -/
theorem word_imported : ∃ name outbox' node,
    exportResearchPayload asciiTables "2026-01-01T00:00:00+00:00" [] (textPayload ['a', 'a']) = .ok (name, outbox') ∧
    PyDict.get? outbox' name = some node ∧ ∀ root, Accepted WholeFloat asciiTables root →
      ∃ root', importBundle WholeFloat asciiTables root name node = .ok (name, root') := by
  obtain ⟨bundle, hbundle⟩ := textPayload_composed word_exportable "2026-01-01T00:00:00+00:00"
  have hexport : exportResearchPayload asciiTables "2026-01-01T00:00:00+00:00" [] (textPayload ['a', 'a']) =
      .ok (bundle.bundleId, PyDict.set [] bundle.bundleId (bundleNode bundle.manifest bundle.sources)) := by
    simp only [exportResearchPayload, bind_ok, pure_ok, Prod.mk.injEq]
    exact ⟨bundle, hbundle, rfl, rfl⟩
  obtain ⟨node, hnode, himported⟩ := (exported_imports asciiTables).2 [] _ _ _ _
    (fun call hcall => by rw [List.mem_singleton.mp hcall]; exact word_importable) hexport
  exact ⟨_, _, node, hexport, hnode, himported⟩

theorem forged_readable (htext : text.toList.length ≤ 1) (h : text = "a" ∨ text = "b") :
    ∀ s ∈ [forgedSource text], ∀ c ∈ s.chunks, ChunkReadable asciiTables s.risk c.text := by
  intro s hs c hc
  obtain rfl := List.mem_singleton.mp hs
  obtain rfl := List.mem_singleton.mp hc
  refine ⟨text, .low, ?_, Nat.le_refl _⟩
  rcases h with rfl | rfl
  · show normalizeExternalText asciiTables "a" = .ok ("a", .low)
    decide
  · show normalizeExternalText asciiTables "b" = .ok ("b", .low)
    decide

theorem forged_written {sources : List ExportedSource} (hfit : BundleFit asciiTables sources)
    (hread : ∀ s ∈ sources, ∀ c ∈ s.chunks, ChunkReadable asciiTables s.risk c.text)
    (hsources : ∀ s ∈ sources, Forged s) (hcount : sources.length ≤ 2) : ∃ manifest, ∃ m : Json WholeFloat,
    (∀ name, (∀ n ∈ name, n = forgedId) → validateBundle asciiTables name (bundleNode manifest sources) = .ok m) ∧
      loads manifest = some m ∧ bundleIdText m = forgedId ∧ m.get? "sources" = some (.arr (sources.map (·.json))) := by
  obtain ⟨manifest, hmanifest, hsize⟩ := forged_manifest (show "2026-01-01T00:00:00+00:00".toList.length ≤ 80 by decide)
    (show forgedId.toList.length ≤ 80 by decide) sources hsources hcount
  obtain ⟨canonical, -, hloads⟩ := manifestText_ok hmanifest
  refine ⟨manifest, _, fun name hname =>
    (validate_bundleNode hfit (by decide) hname hmanifest).mpr ⟨⟨hsize, hread⟩, hloads⟩, hloads, ?_, ?_⟩
  · rw [bundleIdText, get?_manifest (by decide), get?_unhashed]
    exact textOr_str _
  · rw [get?_manifest (by decide), get?_unhashed]
    rfl

theorem forged_accepted (h : text = "a" ∨ text = "b") : ∃ manifest, ∃ m : Json WholeFloat,
    (∀ name, (∀ n ∈ name, n = forgedId) →
      validateBundle asciiTables name (bundleNode manifest [forgedSource text]) = .ok m) ∧ bundleIdText m = forgedId ∧
    chunkBytes (bundleNode manifest [forgedSource text]) "0001-S1-c001.txt" = some (Utf8.encode text) := by
  have htext : text.toList.length ≤ 1 := by rcases h with rfl | rfl <;> decide
  obtain ⟨manifest, m, hvalid, -, hid, -⟩ := forged_written (forged_fit htext) (forged_readable htext h)
    (fun s hs => ⟨"S1", 1, text, by decide, Or.inl rfl, htext.trans (by decide), List.mem_singleton.mp hs⟩) (by simp)
  have hfile : (chunkFile "S1" 1 1 text).file = "0001-S1-c001.txt" := by
    show fileName 1 "S1-c001" = _
    decide
  have hfiles : [forgedSource text].flatMap (·.chunks) = [chunkFile "S1" 1 1 text] := rfl
  refine ⟨manifest, m, hvalid, hid, ?_⟩
  rw [bundleNode, hfiles, List.map_singleton, hfile]
  rfl

theorem chunkBytes_one {manifest file : String} {raw : List UInt8}
    (h : chunkBytes (bundleNode manifest [forgedSource text]) file = some raw) : raw = Utf8.encode text := by
  have hfiles : [forgedSource text].flatMap (·.chunks) = [chunkFile "S1" 1 1 text] := rfl
  simp only [chunkBytes, bundleNode, hfiles, List.map_singleton, Node.entries?, Option.bind_eq_bind, Option.bind_some,
    Option.bind_eq_some_iff] at h
  obtain ⟨chunks, hchunks, files, hdir, node, hnode, hraw⟩ := h
  obtain rfl := Option.some.inj hchunks
  obtain rfl := Option.some.inj hdir
  rw [List.lookup_cons] at hnode
  split at hnode
  · obtain rfl := Option.some.inj hnode
    exact (Option.some.inj hraw).symm
  · cases hnode

end Forged

theorem written_twice : ∃ (id identity : String) (b b' : Node) (m m' : Json WholeFloat), b ≠ b' ∧
    (∀ c ∈ [b, b'], DerivedId WholeFloat c ∧ (∀ n, manifestOf WholeFloat c = some n → dumpsLax (identityOf n) = some identity) ∧
      ∀ file raw, chunkBytes c file = some raw → raw = Utf8.encode "a") ∧
    validateBundle asciiTables (some id) b = .ok m ∧ validateBundle asciiTables (some id) b' = .ok m' ∧
      bundleIdText m = bundleIdText m' := by
  have hshort : ∀ s ∈ [forgedSource "a"], ∀ c ∈ s.chunks, c.text.toList.length < 2 ^ 64 := by
    intro s hs c hc
    obtain rfl := List.mem_singleton.mp hs
    obtain rfl := List.mem_singleton.mp hc
    exact (by decide : "a".toList.length < 2 ^ 64)
  obtain ⟨identity, hidentity⟩ := (manifestText_written (F := WholeFloat) hshort (by simp) (show 1 < 2 ^ 64 by decide)
    "" "task-1" "").1
  have hone : ∀ s ∈ [forgedSource "a"], Forged s := fun s hs =>
    ⟨"S1", 1, "a", by decide, .inl rfl, by decide, List.mem_singleton.mp hs⟩
  have hwritten : ∀ createdAt : String, createdAt.toList.length ≤ 80 → ∃ manifest, ∃ m : Json WholeFloat,
      DerivedId WholeFloat (bundleNode manifest [forgedSource "a"]) ∧
      (∀ n, manifestOf WholeFloat (bundleNode manifest [forgedSource "a"]) = some n → dumpsLax (identityOf n) = some identity ∧
        bundleIdText n = bundleIdOf identity ∧ n.get? "created_at" = some (.str createdAt)) ∧
      validateBundle asciiTables (some (bundleIdOf identity)) (bundleNode manifest [forgedSource "a"]) = .ok m := by
    intro createdAt htime
    obtain ⟨manifest, hmanifest, hsize⟩ := forged_manifest htime (length_bundleIdOf identity) [forgedSource "a"] hone (by simp)
    obtain ⟨canonical, -, hloads⟩ := manifestText_ok hmanifest
    exact ⟨manifest, _, derivedId_written hidentity hmanifest, fun n hn => manifest_written hidentity hmanifest hn,
      (validate_bundleNode (forged_fit (by decide)) (bundleRe_bundleIdOf identity) (fun n hn => (Option.some.inj hn).symm)
        hmanifest).mpr ⟨⟨hsize, forged_readable (by decide) (.inl rfl)⟩, hloads⟩⟩
  obtain ⟨manifest, m, hderived, hread, hm⟩ := hwritten "2026-01-01T00:00:00+00:00" (by decide)
  obtain ⟨manifest', m', hderived', hread', hm'⟩ := hwritten "2026-01-02T00:00:00+00:00" (by decide)
  obtain ⟨hmanifest, -⟩ := validateBundle_declares hm
  obtain ⟨hmanifest', -⟩ := validateBundle_declares hm'
  obtain ⟨-, hid, hcreated⟩ := hread m hmanifest
  obtain ⟨-, hid', hcreated'⟩ := hread' m' hmanifest'
  refine ⟨bundleIdOf identity, identity, _, _, m, m', ?_, ?_, hm, hm', hid.trans hid'.symm⟩
  · intro hsame
    rw [hsame, hmanifest'] at hmanifest
    obtain rfl := Option.some.inj hmanifest
    rw [hcreated] at hcreated'
    exact absurd hcreated' (by simp)
  · intro c hc
    rcases List.mem_pair.mp hc with rfl | rfl
    · exact ⟨hderived, fun n hn => (hread n hn).1, fun _ _ hraw => chunkBytes_one hraw⟩
    · exact ⟨hderived', fun n hn => (hread' n hn).1, fun _ _ hraw => chunkBytes_one hraw⟩

/-- They have the same evidence. -/
theorem content_addressed_twice : ∃ (id : String) (b b' : Node), b ≠ b' ∧ SameEvidence WholeFloat b b' ∧
    ∀ before name c after, [(id, b), (id, b')] = before ++ (name, c) :: after → ∀ dest root',
      importBundle WholeFloat asciiTables (importRun WholeFloat asciiTables before) name c = .ok (dest, root') →
      ∃ node, PyDict.get? root' dest = some node ∧ SameEvidence WholeFloat c node := by
  obtain ⟨id, identity, b, b', m, m', hne, hboth, hm, hm', hid⟩ := written_twice
  have hderived : ∀ g ∈ [(id, b), (id, b')], DerivedId WholeFloat g.2 := by
    intro g hg
    rcases List.mem_pair.mp hg with rfl | rfl
    · exact (hboth b (by simp)).1
    · exact (hboth b' (by simp)).1
  have hfree : CollisionFree WholeFloat [b, b'] := by
    refine ⟨?_, ?_⟩
    · intro c hc c' hc' n n' t t' hn hn' ht ht' _
      obtain ⟨-, hread, -⟩ := hboth c hc
      obtain ⟨-, hread', -⟩ := hboth c' hc'
      rw [hread n hn] at ht
      rw [hread' n' hn'] at ht'
      exact Option.some.inj (ht.symm.trans ht')
    · intro c hc c' hc' file file' raw raw' hraw hraw' _
      obtain ⟨-, -, hbytes⟩ := hboth c hc
      obtain ⟨-, -, hbytes'⟩ := hboth c' hc'
      rw [hbytes file raw hraw, hbytes' file' raw' hraw']
  obtain ⟨hsame, hruns⟩ := bundles_content_addressed asciiTables [(id, b), (id, b')] hderived hfree
  exact ⟨id, b, b', hne, hsame (id, b) (by simp) (id, b') (by simp) _ _ m m' hm hm' hid, hruns⟩

/-- Two accepted directories with one id and different chunks; the second is imported as the first. -/
theorem forged_same_id : ∃ b b' : Node, ∃ m m' : Json WholeFloat, ∃ root,
    validateBundle asciiTables (some forgedId) b = .ok m ∧ validateBundle asciiTables (some forgedId) b' = .ok m' ∧
    bundleIdText m = bundleIdText m' ∧ ¬ SameEvidence WholeFloat b b' ∧
    importBundle WholeFloat asciiTables [] forgedId b = .ok (forgedId, root) ∧
    importBundle WholeFloat asciiTables root forgedId b' = .ok (forgedId, root) ∧
    PyDict.get? root forgedId = some b := by
  obtain ⟨manifest, m, hm, hid, hbytes⟩ := forged_accepted (.inl rfl : "a" = "a" ∨ "a" = "b")
  obtain ⟨manifest', m', hm', hid', hbytes'⟩ := forged_accepted (.inr rfl : "b" = "a" ∨ "b" = "b")
  have hname : ∀ n ∈ some forgedId, n = forgedId := fun n hn => (Option.some.inj hn).symm
  have hnone : ∀ n ∈ (none : Option String), n = forgedId := fun n hn => nomatch hn
  have hget : PyDict.get? (PyDict.set [] forgedId (bundleNode manifest [forgedSource "a"])) forgedId =
      some (bundleNode manifest [forgedSource "a"]) := by
    rw [PyDict.get?_set, if_pos rfl]
  refine ⟨_, _, m, m', PyDict.set [] forgedId (bundleNode manifest [forgedSource "a"]), hm _ hname, hm' _ hname,
    hid.trans hid'.symm, ?_, ?_, ?_, hget⟩
  · intro hsame
    have := hsame.chunks "0001-S1-c001.txt"
    rw [hbytes, hbytes'] at this
    exact absurd this (by decide)
  · simp only [importBundle, bind_ok]
    refine ⟨m, hm _ hname, ?_⟩
    rw [toStr_bundleId (hm _ hname), hid]
    simp only [PyDict.get?, bind_ok, orRaise_ok, pure_ok]
    exact ⟨_, copytree_bundleNode _ _, m, hm _ hnone, rfl⟩
  · simp only [importBundle, bind_ok]
    refine ⟨m', hm' _ hname, ?_⟩
    rw [toStr_bundleId (hm' _ hname), hid', hget]
    simp only [bind_ok, pure_ok]
    exact ⟨m, hm _ hname, trivial⟩

end ThreeAgent.KnowledgePlane

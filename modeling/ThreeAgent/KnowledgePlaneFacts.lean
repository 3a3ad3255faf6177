/-
What the importer makes of a bundle directory.

`validate_bundleNode`: a directory as the exporter writes it, under any id of
the right shape, is accepted exactly when its manifest is within the bound and
every chunk, taken alone, is readable and classified no higher than its
source. `validateBundle_declares`: an accepted directory has the chunk files
its manifest declares, with the digests declared.
-/
import ThreeAgent.KnowledgePlane

namespace ThreeAgent

variable {bytes : List UInt8} {key : String}

namespace KnowledgePlane

open PyText Outcome PyJson

variable {cs cs' : List ChunkFile} {declared : Risk}

/-! ## Digests -/

theorem sha256Bytes_encode (text : String) : sha256Bytes (Utf8.encode text) = hashText text := by
  rw [sha256Bytes, Utf8.encode, hashText, Sha256.hexdigest, Sha256.utf8, List.map_flatMap]

theorem bundleRe_bundleIdOf (identity : String) : bundleRe (bundleIdOf identity) = true := by
  obtain ⟨hlength, hdigits⟩ := digestPrefix_hashText identity (n := 24) (by omega)
  have hlist : (bundleIdOf identity).toList = "kb_".toList ++ (digestPrefix (hashText identity) 24).toList := by
    rw [bundleIdOf, String.toList_append]
  have hdrop : (bundleIdOf identity).toList.drop 3 = (digestPrefix (hashText identity) 24).toList := by
    rw [hlist]
    rfl
  simp only [bundleRe, Bool.and_eq_true, decide_eq_true_eq, List.all_eq_true, hdrop]
  refine ⟨⟨?_, hlength⟩, hdigits⟩
  rw [startsWith_iff, hlist]
  exact List.prefix_append _ _

/-! ## Fields -/

section Fields

variable {F : Type} (c : ChunkFile) (s : ExportedSource)

theorem ChunkFile.get?_file : (c.json : Json F).get? "file" = some (.str c.file) := by
  rw [ChunkFile.json, get?_dict]
  rfl

theorem ChunkFile.get?_sha256 : (c.json : Json F).get? "sha256" = some (.str (sha256Bytes c.bytes)) := by
  rw [ChunkFile.json, get?_dict]
  rfl

theorem ExportedSource.get?_url : (s.json : Json F).get? "url" = some (.str s.url) := by
  rw [ExportedSource.json, get?_dict]
  rfl

theorem ExportedSource.get?_trust : (s.json : Json F).get? "trust" = some (.str "untrusted_external") := by
  rw [ExportedSource.json, get?_dict]
  rfl

theorem ExportedSource.get?_risk : (s.json : Json F).get? "injection_risk" = some (.str s.risk.text) := by
  rw [ExportedSource.json, get?_dict]
  rfl

theorem ExportedSource.get?_chunks : (s.json : Json F).get? "chunks" = some (.arr (s.chunks.map (·.json))) := by
  rw [ExportedSource.json, get?_dict]
  rfl

theorem ExportedSource.get?_content :
    (s.json : Json F).get? "content_sha256" = some (.str (sha256Bytes s.bytes)) := by
  rw [ExportedSource.json, get?_dict]
  rfl

end Fields

variable {F : Type} [JsonFloat F]

theorem textOr_str (s : String) : Json.textOr (some (.str s : Json F)) = s := by
  by_cases h : s = ""
  · subst h
    rfl
  · simp [Json.textOr, Json.truthy, Json.toStr, h]

theorem Risk.ofText?_text (r : Risk) : Risk.ofText? r.text = some r := by
  cases r <;> rfl

/-! ## A written directory is accepted -/

/-- The chunk, taken alone, is readable text and classified no higher than declared. -/
def ChunkReadable (u : Unicode) (declared : Risk) (text : String) : Prop :=
  ∃ value risk, normalizeExternalText u text = .ok (value, risk) ∧ risk.severity ≤ declared.severity

/-- The counters of the importer after more chunks. -/
def ImportTally.after (t : ImportTally) (cs : List ChunkFile) : ImportTally :=
  ⟨t.seen ++ cs.map ChunkFile.file, t.total + (cs.map fun c => c.bytes.length).sum, t.count + cs.length⟩

variable {r : ImportTally × List UInt8}

/-- What the importer asks of the next chunks, apart from their texts. -/
structure ChunksFit (files : List (String × Node)) (t : ImportTally) (cs : List ChunkFile) : Prop where
  count : t.count + cs.length ≤ maxChunks
  total : t.total + (cs.map fun c => c.bytes.length).sum ≤ maxBundleBytes
  safe : ∀ c ∈ cs, c.file ≠ "" ∧ '/' ∉ c.file.toList ∧ '\\' ∉ c.file.toList
  fresh : ∀ c ∈ cs, c.file ∉ t.seen
  distinct : (cs.map ChunkFile.file).Nodup
  stored : ∀ c ∈ cs, files.lookup c.file = some (.file c.bytes)

section Loops

variable {u : Unicode} {files : List (String × Node)} {t : ImportTally}

theorem ChunksFit.tail {c : ChunkFile} (h : ChunksFit files t (c :: cs)) :
    ChunksFit files (t.after [c]) cs := by
  have hnodup := h.distinct
  rw [List.map_cons, List.nodup_cons] at hnodup
  refine ⟨?_, ?_, fun c' hc' => h.safe c' (by simp [hc']), ?_, hnodup.2, fun c' hc' => h.stored c' (by simp [hc'])⟩
  · have := h.count
    simp only [ImportTally.after, List.length_cons, List.length_nil] at this ⊢
    omega
  · have := h.total
    simp only [ImportTally.after, List.map_cons, List.sum_cons, List.map_nil, List.sum_nil] at this ⊢
    omega
  · intro c' hc'
    simp only [ImportTally.after, List.map_cons, List.map_nil, List.mem_append, List.mem_singleton, not_or]
    refine ⟨h.fresh c' (by simp [hc']), ?_⟩
    intro heq
    exact hnodup.1 (heq ▸ List.mem_map_of_mem hc')

theorem checkChunk_written {c : ChunkFile} (h : ChunksFit files t (c :: cs)) :
    checkChunk u files declared (t, bytes) (c.json : Json F) = .ok r ↔
      ChunkReadable u declared c.text ∧ (t.after [c], bytes ++ c.bytes) = r := by
  have hcount : t.count + 1 ≤ maxChunks := by
    have := h.count
    simp only [List.length_cons] at this
    omega
  have htotal : t.total + c.bytes.length ≤ maxBundleBytes := by
    have := h.total
    simp only [List.map_cons, List.sum_cons] at this
    omega
  obtain ⟨hne, hslash, hback⟩ := h.safe c (by simp)
  have hdecode : Utf8.decode? c.bytes = some c.text := Utf8.decode?_encode c.text
  have hafter : (⟨t.seen ++ [c.file], t.total + c.bytes.length, t.count + 1⟩ : ImportTally) = t.after [c] := by
    simp [ImportTally.after]
  simp only [checkChunk, bind_ok, require_ok, exists_const, ChunkFile.get?_file, ChunkFile.get?_sha256, textOr_str,
    h.stored c (by simp), Option.bind_some, Node.bytes?, Option.some.injEq, pure_ok, orRaise_ok]
  constructor
  · rintro ⟨-, -, -, raw, rfl, -, -, text, htext, ⟨value, risk⟩, hnorm, hsev, rfl⟩
    obtain rfl : c.text = text := Option.some.inj (hdecode.symm.trans htext)
    exact ⟨⟨value, risk, hnorm, hsev⟩, by rw [← hafter]⟩
  · rintro ⟨⟨value, risk, hnorm, hsev⟩, rfl⟩
    exact ⟨hcount, rfl, ⟨hne, hslash, hback, h.fresh c (by simp)⟩, c.bytes, rfl, htotal, rfl, c.text, hdecode,
      (value, risk), hnorm, hsev, by rw [← hafter]⟩

theorem ImportTally.after_after (t : ImportTally) (cs cs' : List ChunkFile) :
    (t.after cs).after cs' = t.after (cs ++ cs') := by
  simp [ImportTally.after, Nat.add_assoc]

theorem checkChunks_written (h : ChunksFit files t cs) :
    (cs.map fun c => (c.json : Json F)).foldlM (checkChunk u files declared) (t, bytes) = .ok r ↔
      (∀ c ∈ cs, ChunkReadable u declared c.text) ∧ (t.after cs, bytes ++ cs.flatMap ChunkFile.bytes) = r := by
  induction cs generalizing t bytes with
  | nil => simp [ImportTally.after]
  | cons c cs ih =>
    simp only [List.map_cons, List.foldlM_cons, bind_ok, checkChunk_written h]
    constructor
    · rintro ⟨_, ⟨hread, rfl⟩, hrest⟩
      obtain ⟨hall, rfl⟩ := (ih h.tail).mp hrest
      refine ⟨?_, ?_⟩
      · intro c' hc'
        rcases List.mem_cons.mp hc' with rfl | hc'
        · exact hread
        · exact hall c' hc'
      · rw [ImportTally.after_after, List.flatMap_cons, List.append_assoc]
        rfl
    · rintro ⟨hall, rfl⟩
      refine ⟨_, ⟨hall c (by simp), rfl⟩, (ih h.tail).mpr ⟨fun c' hc' => hall c' (by simp [hc']), ?_⟩⟩
      rw [ImportTally.after_after, List.flatMap_cons, List.append_assoc]
      rfl

/-- What the importer asks of a source, apart from its chunks. -/
structure SourceFit (u : Unicode) (s : ExportedSource) : Prop where
  url : ∃ value, validatePublicUrl u s.url = .ok value
  chunks_ne : s.chunks ≠ []

theorem checkSource_written {s : ExportedSource} (hs : SourceFit u s) (h : ChunksFit files t s.chunks) {r : ImportTally} :
    checkSource u files t (s.json : Json F) = .ok r ↔
      (∀ c ∈ s.chunks, ChunkReadable u s.risk c.text) ∧ t.after s.chunks = r := by
  obtain ⟨value, hurl⟩ := hs.url
  have hrows : (s.chunks.map fun c => (c.json : Json F)) ≠ [] := by simpa using hs.chunks_ne
  have htrust : ((s.json : Json F).item "trust").isText "untrusted_external" = true := by
    rw [Json.item, ExportedSource.get?_trust]
    rfl
  simp only [checkSource, bind_ok, require_ok, exists_const, ExportedSource.get?_url, textOr_str,
    ExportedSource.get?_risk, Risk.declared?, Risk.ofText?_text, ExportedSource.get?_chunks, array?,
    ExportedSource.get?_content, orRaise_ok, Option.some.injEq, pure_ok, hurl, htrust]
  constructor
  · rintro ⟨-, _, -, -, declared, rfl, rows, rfl, -, r', hfold, -, rfl⟩
    obtain ⟨hall, rfl⟩ := (checkChunks_written h).mp hfold
    exact ⟨hall, rfl⟩
  · rintro ⟨hall, rfl⟩
    have hfold : (s.chunks.map fun c => (c.json : Json F)).foldlM (checkChunk u files s.risk) (t, []) =
        .ok (t.after s.chunks, s.bytes) := (checkChunks_written h).mpr ⟨hall, rfl⟩
    exact ⟨rfl, value, rfl, trivial, s.risk, rfl, _, rfl, hrows, _, hfold, rfl, rfl⟩

/-- What the importer asks of the next sources, apart from the texts of their chunks. -/
structure SourcesFit (u : Unicode) (files : List (String × Node)) (t : ImportTally) (sources : List ExportedSource) :
    Prop where
  source : ∀ s ∈ sources, SourceFit u s
  chunks : ChunksFit files t (sources.flatMap (·.chunks))

theorem ChunksFit.left (h : ChunksFit files t (cs ++ cs')) : ChunksFit files t cs := by
  refine ⟨?_, ?_, fun c hc => h.safe c (by simp [hc]), fun c hc => h.fresh c (by simp [hc]), ?_,
    fun c hc => h.stored c (by simp [hc])⟩
  · have := h.count
    rw [List.length_append] at this
    omega
  · have := h.total
    rw [List.map_append, List.sum_append] at this
    omega
  · have := h.distinct
    rw [List.map_append] at this
    exact (List.nodup_append.mp this).1

theorem ChunksFit.right (h : ChunksFit files t (cs ++ cs')) :
    ChunksFit files (t.after cs) cs' := by
  induction cs generalizing t with
  | nil =>
    have hafter : t.after [] = t := by simp [ImportTally.after]
    rw [hafter]
    exact h
  | cons c cs ih =>
    have := ih (h.tail)
    rwa [ImportTally.after_after] at this

variable {sources : List ExportedSource}

theorem SourcesFit.tail {s : ExportedSource} (h : SourcesFit u files t (s :: sources)) :
    SourcesFit u files (t.after s.chunks) sources := by
  have hchunks := h.chunks
  rw [List.flatMap_cons] at hchunks
  exact ⟨fun s' hs' => h.source s' (by simp [hs']), hchunks.right⟩

theorem checkSources_written (h : SourcesFit u files t sources) {r : ImportTally} :
    (sources.map fun s => (s.json : Json F)).foldlM (checkSource u files) t = .ok r ↔
      (∀ s ∈ sources, ∀ c ∈ s.chunks, ChunkReadable u s.risk c.text) ∧ t.after (sources.flatMap (·.chunks)) = r := by
  induction sources generalizing t with
  | nil => simp [ImportTally.after]
  | cons s sources ih =>
    have hchunks := h.chunks
    rw [List.flatMap_cons] at hchunks
    simp only [List.map_cons, List.foldlM_cons, bind_ok, checkSource_written (h.source s (by simp)) hchunks.left]
    constructor
    · rintro ⟨_, ⟨hread, rfl⟩, hrest⟩
      obtain ⟨hall, rfl⟩ := (ih h.tail).mp hrest
      refine ⟨?_, by rw [ImportTally.after_after, List.flatMap_cons]⟩
      intro s' hs'
      rcases List.mem_cons.mp hs' with rfl | hs'
      · exact hread
      · exact hall s' hs'
    · rintro ⟨hall, rfl⟩
      refine ⟨_, ⟨hall s (by simp), rfl⟩, (ih h.tail).mpr ⟨fun s' hs' => hall s' (by simp [hs']), ?_⟩⟩
      rw [ImportTally.after_after, List.flatMap_cons]

end Loops

/-! ## The manifest of a written directory -/

omit [JsonFloat F] in
theorem canonical_chunk (c : ChunkFile) : Canonical (c.json : Json F) := by
  refine canonical_dict ?_
  intro e he
  simp only [List.mem_cons, List.not_mem_nil, or_false] at he
  rcases he with rfl | rfl | rfl | rfl <;> trivial

omit [JsonFloat F] in
theorem canonical_source (s : ExportedSource) : Canonical (s.json : Json F) := by
  have hchunks : Canonical (.arr (s.chunks.map (·.json)) : Json F) := by
    refine elemsCanonical_iff.mpr ?_
    intro v hv
    obtain ⟨c, -, rfl⟩ := List.mem_map.mp hv
    exact canonical_chunk c
  refine canonical_dict ?_
  intro e he
  simp only [List.mem_cons, List.not_mem_nil, or_false] at he
  rcases he with rfl | rfl | rfl | rfl | rfl | rfl | rfl | rfl <;> trivial

section Manifest

variable (createdAt task bundleId : String) (chunkCount : Nat) (sources : List ExportedSource)

omit [JsonFloat F] in
theorem canonical_unhashed : Canonical (unhashedManifest createdAt task bundleId chunkCount sources : Json F) := by
  have hsources : Canonical (.arr (sources.map (·.json)) : Json F) := by
    refine elemsCanonical_iff.mpr ?_
    intro v hv
    obtain ⟨s, -, rfl⟩ := List.mem_map.mp hv
    exact canonical_source s
  refine canonical_dict ?_
  intro e he
  simp only [List.mem_cons, List.not_mem_nil, or_false] at he
  rcases he with rfl | rfl | rfl | rfl | rfl | rfl | rfl | rfl | rfl | rfl <;> trivial

omit [JsonFloat F] in
theorem get?_unhashed (key : String) : (unhashedManifest createdAt task bundleId chunkCount sources : Json F).get? key =
    [("bundle_id", .str bundleId), ("sources", .arr (sources.map (·.json))), ("chunk_count", .int chunkCount),
      ("source_count", .int sources.length), ("origin_task_id", .str task), ("created_at", .str createdAt),
      ("direction", .str "inbound_only"), ("trust_domain", .str "system:public"), ("classification", .str "public"),
      ("schema_version", .str bundleSchema)].lookup key := by
  rw [unhashedManifest, get?_dict]
  rfl

end Manifest

omit [JsonFloat F] in
theorem dropKey_setKey {v w : Json F} (hv : v.isDict = true) (habsent : v.get? key = none) :
    dropKey (v.setKey key w) key = v := by
  cases v with
  | obj kvs =>
    have hall : ∀ (l : List (String × Json F)), l.lookup key = none →
        (Json.insertKey key w l).filter (fun kv => kv.1 ≠ key) = l := by
      intro l
      induction l with
      | nil => simp [Json.insertKey]
      | cons e l ih =>
        intro hnone
        obtain ⟨k, x⟩ := e
        rw [lookup_cons_ite] at hnone
        have hne : k ≠ key := by
          intro heq
          subst heq
          simp at hnone
        have hrest : l.lookup key = none := by
          rw [if_neg fun heq => hne heq.symm] at hnone
          exact hnone
        have hkeep : l.filter (fun kv => kv.1 ≠ key) = l := by
          rw [List.filter_eq_self]
          intro kv hkv
          rw [decide_eq_true_eq]
          intro heq
          rw [List.lookup_eq_none_iff] at hrest
          have := hrest kv hkv
          simp [heq] at this
        simp only [Json.insertKey]
        split
        · simp only [List.filter_cons, ne_eq, not_true_eq_false, decide_false, hne, not_false_eq_true, decide_true,
            if_true, Bool.false_eq_true, if_false]
          exact congrArg _ hkeep
        · split
          · rename_i heq
            exact absurd heq.symm hne
          · rw [List.filter_cons, if_pos (by simpa using hne), ih hrest]
    exact congrArg Json.obj (hall kvs habsent)
  | _ => cases hv

theorem manifestText_ok {createdAt task bundleId : String} {chunkCount : Nat}
    {manifest : String} (h : manifestText (F := F) createdAt task bundleId chunkCount sources = .ok manifest) :
    ∃ canonical, canonicalJson (unhashedManifest createdAt task bundleId chunkCount sources : Json F) = .ok canonical ∧
      loads manifest = some ((unhashedManifest createdAt task bundleId chunkCount sources : Json F).setKey
        "manifest_sha256" (.str (hashText canonical))) := by
  simp only [manifestText, bind_ok, pure_ok, orRaise_ok] at h
  obtain ⟨canonical, hcanonical, text, htext, rfl⟩ := h
  refine ⟨canonical, hcanonical, ?_⟩
  have hcan := canonical_unhashed (F := F) createdAt task bundleId chunkCount sources
  generalize hfull : (unhashedManifest createdAt task bundleId chunkCount sources : Json F).setKey "manifest_sha256"
    (.str (hashText canonical)) = full at htext ⊢
  have hcanonicalFull : Canonical full := by
    rw [← hfull]
    exact canonical_setKey hcan trivial
  unfold dumpsIndented at htext
  split at htext
  · rename_i hshort
    obtain rfl := Option.some.inj htext
    have hread := loads_layout (l := .indented) hcanonicalFull (spelled_of_shortInts full hshort)
      (forall_mem_of_all (by decide) : ∀ c ∈ ['\n'], isWs c = true) 0
    rw [String.ofList_append] at hread
    exact hread
  · cases htext

/-- What the importer asks of the sources of a bundle, apart from the texts of their chunks. -/
structure BundleFit (u : Unicode) (sources : List ExportedSource) : Prop where
  sources_ne : sources ≠ []
  sources_few : sources.length ≤ maxSources
  source : ∀ s ∈ sources, SourceFit u s
  count : (sources.flatMap (·.chunks)).length ≤ maxChunks
  total : ((sources.flatMap (·.chunks)).map fun c => c.bytes.length).sum ≤ maxBundleBytes
  safe : ∀ c ∈ sources.flatMap (·.chunks), c.file ≠ "" ∧ '/' ∉ c.file.toList ∧ '\\' ∉ c.file.toList
  distinct : ((sources.flatMap (·.chunks)).map ChunkFile.file).Nodup

def chunkNodes (cs : List ChunkFile) : List (String × Node) := cs.map fun c => (c.file, .file c.bytes)

theorem lookup_chunkNodes (h : (cs.map ChunkFile.file).Nodup) {c : ChunkFile} (hc : c ∈ cs) :
    (chunkNodes cs).lookup c.file = some (.file c.bytes) := by
  induction cs with
  | nil => cases hc
  | cons c' cs ih =>
    rw [List.map_cons, List.nodup_cons] at h
    rw [chunkNodes, List.map_cons, List.lookup_cons]
    rcases List.mem_cons.mp hc with rfl | hc
    · simp
    · have hne : (c.file == c'.file) = false := by
        rw [beq_eq_false_iff_ne]
        intro heq
        exact h.1 (heq ▸ List.mem_map_of_mem hc)
      rw [hne]
      exact ih h.2 hc

theorem fileNames_chunkNodes (cs : List ChunkFile) : fileNames (chunkNodes cs) = cs.map ChunkFile.file := by
  have hall : (chunkNodes cs).filter (fun e => e.2.bytes?.isSome) = chunkNodes cs := by
    rw [List.filter_eq_self]
    intro e he
    obtain ⟨c, -, rfl⟩ := List.mem_map.mp he
    rfl
  rw [fileNames, hall, chunkNodes, List.map_map]
  rfl

theorem BundleFit.fits {u : Unicode} (h : BundleFit u sources) :
    SourcesFit u (chunkNodes (sources.flatMap (·.chunks))) {} sources := by
  refine ⟨h.source, ?_, ?_, h.safe, fun c _ => List.not_mem_nil, h.distinct, fun c hc => lookup_chunkNodes h.distinct hc⟩
  · rw [Nat.zero_add]
    exact h.count
  · rw [Nat.zero_add]
    exact h.total

section Written

variable {u : Unicode} {createdAt task bundleId manifest canonical : String} {chunkCount : Nat}
  {sources : List ExportedSource}

omit [JsonFloat F] in
theorem get?_manifest (h : key ≠ "manifest_sha256") :
    ((unhashedManifest createdAt task bundleId chunkCount sources : Json F).setKey "manifest_sha256"
      (.str (hashText canonical))).get? key =
      (unhashedManifest createdAt task bundleId chunkCount sources : Json F).get? key := by
  rw [get?_setKey rfl, if_neg h]

theorem checkManifest_written (hid : bundleRe bundleId = true) {name : Option String}
    (hname : ∀ n ∈ name, n = bundleId)
    (hcanonical : canonicalJson (unhashedManifest createdAt task bundleId chunkCount sources : Json F) = .ok canonical) :
    checkManifest name ((unhashedManifest createdAt task bundleId chunkCount sources : Json F).setKey "manifest_sha256"
      (.str (hashText canonical))) = .ok () := by
  have habsent : (unhashedManifest createdAt task bundleId chunkCount sources : Json F).get? "manifest_sha256" = none := by
    rw [get?_unhashed]
    rfl
  have hdrop := dropKey_setKey (w := .str (hashText canonical)) rfl habsent
  have hself : ((unhashedManifest createdAt task bundleId chunkCount sources : Json F).setKey "manifest_sha256"
      (.str (hashText canonical))).get? "manifest_sha256" = some (.str (hashText canonical)) := by
    rw [get?_setKey rfl, if_pos rfl]
  have hbundle : ((unhashedManifest createdAt task bundleId chunkCount sources : Json F).setKey "manifest_sha256"
      (.str (hashText canonical))).get? "bundle_id" = some (.str bundleId) := by
    rw [get?_manifest (by decide), get?_unhashed]
    rfl
  have hall : name.all (fun n => decide (n = bundleId)) = true := by
    cases name with
    | none => rfl
    | some n => simpa using hname n rfl
  simp only [checkManifest, bind_ok, require_ok, exists_const, hbundle, textOr_str, hdrop, hcanonical, hself]
  refine ⟨?_, ?_, ?_, ?_, hid, hall, canonical, rfl, rfl⟩ <;>
  · rw [Json.item, get?_manifest (by decide), get?_unhashed]
    rfl

theorem checkContents_written (h : BundleFit u sources) {m : Json F}
    (hm : m.get? "sources" = some (.arr (sources.map (·.json)))) (bytes : List UInt8) :
    checkContents u [("chunks", .dir (chunkNodes (sources.flatMap (·.chunks)))), ("manifest.json", .file bytes)] m = .ok () ↔
      ∀ s ∈ sources, ∀ c ∈ s.chunks, ChunkReadable u s.risk c.text := by
  have hne : (sources.map fun s => (s.json : Json F)) ≠ [] := by simpa using h.sources_ne
  have hlen : (sources.map fun s => (s.json : Json F)).length ≤ maxSources := by
    rw [List.length_map]
    exact h.sources_few
  simp only [checkContents, bind_ok, require_ok, exists_const, hm, array?, orRaise_ok, Option.some.injEq]
  constructor
  · rintro ⟨-, files, hfiles, rows, rfl, -, tally, hfold, -⟩
    obtain rfl : chunkNodes (sources.flatMap (·.chunks)) = files := Option.some.inj hfiles
    exact ((checkSources_written h.fits).mp hfold).1
  · intro hall
    have hfold := (checkSources_written (F := F) h.fits).mpr ⟨hall, rfl⟩
    refine ⟨rfl, _, rfl, _, rfl, ⟨hne, hlen⟩, _, hfold, ?_⟩
    rw [fileNames_chunkNodes, ImportTally.after, List.nil_append]
    exact ⟨fun n hn => hn, fun n hn => hn⟩

theorem validate_bundleNode (h : BundleFit u sources) (hid : bundleRe bundleId = true) {name : Option String}
    (hname : ∀ n ∈ name, n = bundleId)
    (hmanifest : manifestText (F := F) createdAt task bundleId chunkCount sources = .ok manifest) {m : Json F} :
    validateBundle u name (bundleNode manifest sources) = .ok m ↔
      ((Utf8.encode manifest).length ≤ maxManifestBytes ∧
        ∀ s ∈ sources, ∀ c ∈ s.chunks, ChunkReadable u s.risk c.text) ∧ loads manifest = some m := by
  obtain ⟨canonical, hcanonical, hloads⟩ := manifestText_ok hmanifest
  have hsources : ((unhashedManifest createdAt task bundleId chunkCount sources : Json F).setKey "manifest_sha256"
      (.str (hashText canonical))).get? "sources" = some (.arr (sources.map (·.json))) := by
    rw [get?_manifest (by decide), get?_unhashed]
    rfl
  have hcontents := checkContents_written h hsources (Utf8.encode manifest)
  have hchecked := checkManifest_written hid hname hcanonical
  simp only [validateBundle, bundleNode, Node.entries?, readManifest, bind_ok, require_ok, exists_const, pure_ok,
    orRaise_ok, Option.some.injEq]
  constructor
  · rintro ⟨entries, rfl, m', ⟨bytes, hbytes, hsize, text, htext, m₁, hm₁, -, rfl⟩, -, -, ⟨⟩, hcheck, rfl⟩
    obtain rfl : Utf8.encode manifest = bytes := Option.some.inj hbytes
    obtain rfl : manifest = text := Option.some.inj ((Utf8.decode?_encode manifest).symm.trans htext)
    rw [hloads] at hm₁
    obtain rfl := Option.some.inj hm₁
    exact ⟨⟨hsize, hcontents.mp hcheck⟩, hloads⟩
  · rintro ⟨⟨hsize, hread⟩, hm⟩
    rw [hloads] at hm
    obtain rfl := Option.some.inj hm
    exact ⟨_, rfl, _, ⟨_, rfl, hsize, _, Utf8.decode?_encode manifest, _, hloads, rfl, rfl⟩, (), hchecked, (),
      hcontents.mpr hread, rfl⟩

end Written

/-! ## Accepted directories and calls of the importer -/

/-- The id that a manifest gives. -/
def bundleIdText (m : Json F) : String := Json.textOr (m.get? "bundle_id")

section Accepted

variable {u : Unicode} {name : Option String} {b : Node} {m : Json F}

theorem validateBundle_ok : validateBundle u name b = .ok m ↔ ∃ entries, b.entries? = some entries ∧
    readManifest entries = .ok m ∧ checkManifest name m = .ok () ∧ checkContents u entries m = .ok () := by
  simp only [validateBundle, bind_ok, orRaise_ok, pure_ok]
  constructor
  · rintro ⟨entries, hentries, m', hread, ⟨⟩, hmanifest, ⟨⟩, hcontents, rfl⟩
    exact ⟨entries, hentries, hread, hmanifest, hcontents⟩
  · rintro ⟨entries, hentries, hread, hmanifest, hcontents⟩
    exact ⟨entries, hentries, m, hread, (), hmanifest, (), hcontents, rfl⟩

theorem checkManifest_name : checkManifest name m = .ok () ↔ checkManifest none m = .ok () ∧ ∀ n ∈ name, n = bundleIdText m := by
  simp only [checkManifest, bind_ok, require_ok, exists_const]
  cases name with
  | none => simp
  | some n =>
    simp only [Option.all_some, Option.all_none, decide_eq_true_eq, Option.mem_def, Option.some.injEq, forall_eq', true_and]
    constructor
    · rintro ⟨h1, h2, h3, h4, h5, h6, h7⟩
      exact ⟨⟨h1, h2, h3, h4, h5, h7⟩, h6⟩
    · rintro ⟨⟨h1, h2, h3, h4, h5, h7⟩, h6⟩
      exact ⟨h1, h2, h3, h4, h5, h6, h7⟩

theorem validateBundle_name : validateBundle u name b = .ok m ↔
    validateBundle u none b = .ok m ∧ ∀ n ∈ name, n = bundleIdText m := by
  rw [validateBundle_ok, validateBundle_ok]
  constructor
  · rintro ⟨entries, hentries, hread, hmanifest, hcontents⟩
    obtain ⟨hnone, hname⟩ := checkManifest_name.mp hmanifest
    exact ⟨⟨entries, hentries, hread, hnone, hcontents⟩, hname⟩
  · rintro ⟨⟨entries, hentries, hread, hnone, hcontents⟩, hname⟩
    exact ⟨entries, hentries, hread, checkManifest_name.mpr ⟨hnone, hname⟩, hcontents⟩

theorem toStr_bundleId (h : validateBundle u name b = .ok m) : (m.item "bundle_id").toStr = bundleIdText m := by
  obtain ⟨entries, -, -, hmanifest, -⟩ := validateBundle_ok.mp h
  have hre : bundleRe (bundleIdText m) = true := by
    simp only [checkManifest, bind_ok, require_ok, exists_const] at hmanifest
    exact hmanifest.2.2.2.2.1
  rw [Json.item]
  rw [bundleIdText] at hre ⊢
  have hempty : bundleRe "" = false := by decide
  cases hget : m.get? "bundle_id" with
  | none =>
    rw [hget, Json.textOr, hempty] at hre
    cases hre
  | some v =>
    rw [hget] at hre
    cases htrue : v.truthy with
    | true => simp [Json.textOr, htrue]
    | false =>
      simp only [Json.textOr, htrue, Bool.false_eq_true, if_false, hempty] at hre

theorem importBundle_ok {root root' : PyDict.Dict Node} {given dest : String}
    (h : importBundle F u root given b = .ok (dest, root')) :
    dest = given ∧ ∃ m : Json F, validateBundle u (some given) b = .ok m ∧
      ((∃ d, PyDict.get? root given = some d ∧ (∃ m' : Json F, validateBundle u (some given) d = .ok m') ∧ root' = root) ∨
        (PyDict.get? root given = none ∧ ∃ copy, copytree b = some copy ∧
          (∃ m' : Json F, validateBundle u none copy = .ok m') ∧ root' = PyDict.set root given copy)) := by
  simp only [importBundle, bind_ok] at h
  obtain ⟨m, hm, h⟩ := h
  have hid : given = bundleIdText m := (validateBundle_name.mp hm).2 given rfl
  rw [toStr_bundleId hm, ← hid] at h
  cases hget : PyDict.get? root given with
  | some d =>
    rw [hget] at h
    simp only [bind_ok, pure_ok, Prod.mk.injEq] at h
    obtain ⟨m', hm', rfl, rfl⟩ := h
    exact ⟨rfl, m, hm, .inl ⟨d, rfl, ⟨m', hm'⟩, rfl⟩⟩
  | none =>
    rw [hget] at h
    simp only [bind_ok, pure_ok, orRaise_ok, Prod.mk.injEq] at h
    obtain ⟨copy, hcopy, m', hm', rfl, rfl⟩ := h
    exact ⟨rfl, m, hm, .inr ⟨rfl, copy, hcopy, ⟨m', hm'⟩, rfl⟩⟩

end Accepted

end KnowledgePlane

end ThreeAgent

/-
From the exporter to the importer: what an export that returns has written,
and when the importer accepts it.

The exporter normalises, classifies and bounds the whole text of a source; the
importer does so for each chunk, and bounds the manifest. `Importable` says on
the payload that both agree: every chunk cut from a normalised text is itself
readable and classified no higher than the text, and the text of the manifest
is within the importer's bound.
-/
import ThreeAgent.KnowledgePlaneFacts
import ThreeAgent.Lib.WholeFloat

namespace ThreeAgent

variable {c : Char} {value chunkId sourceId name : String} {count : Nat}
  {texts : List (Nat × String)}

namespace KnowledgePlane

open PyText Outcome PyJson PyDict

variable {tally : ExportTally} {sources : List ExportedSource} {outbox' : PyDict.Dict Node}

variable {cs : List ChunkFile} {acc : ExportTally × List ChunkFile} {createdAt : String} {outbox : PyDict.Dict Node}

/-! ## Names of the chunk files -/

theorem isSafe_of_isDigit (h : isDigit c = true) : isSafe c = true := by
  rcases isDigit_cases h with rfl | rfl | rfl | rfl | rfl | rfl | rfl | rfl | rfl | rfl <;> decide

variable {n : Nat}

theorem isSafe_padded {width : Nat} (h : c ∈ padded width n) : isSafe c = true := by
  rw [padded, List.mem_append, List.mem_replicate] at h
  rcases h with ⟨-, rfl⟩ | h
  · decide
  · exact isSafe_of_isDigit (toDigits_isDigit c h)

theorem isSafe_collapse {cs : List Char} {inRun : Bool} (h : c ∈ collapse inRun cs) : isSafe c = true := by
  induction cs generalizing inRun with
  | nil => simp [collapse] at h
  | cons d cs ih =>
    rw [collapse] at h
    split at h
    · rename_i hd
      rcases List.mem_cons.mp h with rfl | h
      · exact hd
      · exact ih h
    · split at h
      · exact ih h
      · rcases List.mem_cons.mp h with rfl | h
        · decide
        · exact ih h

theorem isSafe_safeId {fallback : String} (hfallback : ∀ c ∈ fallback.toList, isSafe c = true)
    (h : c ∈ (safeId value fallback).toList) : isSafe c = true := by
  rw [safeId, String.toList_ofList] at h
  have hmem := List.mem_of_mem_take h
  split at hmem
  · exact hfallback c hmem
  · exact isSafe_collapse (stripList_subset hmem)

/-- The name of the `count`-th chunk file of a bundle. -/
def fileName (count : Nat) (chunkId : String) : String :=
  String.ofList (padded 4 count) ++ "-" ++ safeId chunkId "chunk" ++ ".txt"

theorem toList_fileName (count : Nat) (chunkId : String) :
    (fileName count chunkId).toList = padded 4 count ++ ('-' :: (safeId chunkId "chunk").toList ++ ".txt".toList) := by
  simp [fileName, String.toList_append]

theorem isSafe_fileName (h : c ∈ (fileName count chunkId).toList) :
    isSafe c = true := by
  rw [toList_fileName] at h
  simp only [List.mem_append, List.mem_cons] at h
  rcases h with h | (rfl | h) | h
  · exact isSafe_padded h
  · decide
  · exact isSafe_safeId (forall_mem_of_all (by decide)) h
  · exact (forall_mem_of_all (by decide) : ∀ c ∈ ".txt".toList, isSafe c = true) c h

theorem fileName_safe (count : Nat) (chunkId : String) :
    fileName count chunkId ≠ "" ∧ '/' ∉ (fileName count chunkId).toList ∧ '\\' ∉ (fileName count chunkId).toList := by
  refine ⟨?_, fun h => absurd (isSafe_fileName h) (by decide), fun h => absurd (isSafe_fileName h) (by decide)⟩
  intro h
  have hlist := congrArg String.toList h
  rw [toList_fileName] at hlist
  simp at hlist

theorem natOfDigits_padded (n : Nat) : natOfDigits (padded 4 n) = n := by
  have hzeros : ∀ k, (List.replicate k '0').foldl (fun n c => 10 * n + (c.toNat - '0'.toNat)) 0 = 0 := by
    intro k
    induction k with
    | zero => rfl
    | succ k ih => rw [List.replicate_succ, List.foldl_cons]; exact ih
  rw [natOfDigits, padded, List.foldl_append, hzeros]
  exact Nat.ofDigitChars_ten_toDigits

theorem length_padded (h : n ≤ maxChunks) : (padded 4 n).length = 4 := by
  have hle : (Nat.toDigits 10 n).length ≤ 4 := by
    have hlt : n < 10 ^ 4 := lt_of_le_of_lt h (by decide)
    exact (Nat.length_toDigits_le_iff (by decide) (by decide)).mpr hlt
  rw [padded, List.length_append, List.length_replicate]
  omega

theorem fileName_count {count' : Nat} {chunkId' : String} (h : count ≤ maxChunks) (h' : count' ≤ maxChunks)
    (heq : fileName count chunkId = fileName count' chunkId') : count = count' := by
  have hlist := congrArg String.toList heq
  rw [toList_fileName, toList_fileName] at hlist
  have hpadded : padded 4 count = padded 4 count' :=
    (List.append_inj hlist (by rw [length_padded h, length_padded h'])).1
  rw [← natOfDigits_padded count, hpadded, natOfDigits_padded]

/-- Chunk files with the numbers after `n`. -/
def Numbered : Nat → List ChunkFile → Prop
  | _, [] => True
  | n, c :: cs => (∃ chunkId, c.file = fileName (n + 1) chunkId) ∧ Numbered (n + 1) cs

theorem numbered_append {cs' : List ChunkFile} :
    Numbered n (cs ++ cs') ↔ Numbered n cs ∧ Numbered (n + cs.length) cs' := by
  induction cs generalizing n with
  | nil => simp [Numbered]
  | cons c cs ih =>
    rw [List.cons_append, Numbered, Numbered, ih, and_assoc, List.length_cons]
    rw [show n + 1 + cs.length = n + (cs.length + 1) by omega]

theorem Numbered.mem (h : Numbered n cs) {c : ChunkFile} (hc : c ∈ cs) :
    ∃ count chunkId, n < count ∧ count ≤ n + cs.length ∧ c.file = fileName count chunkId := by
  induction cs generalizing n with
  | nil => cases hc
  | cons c' cs ih =>
    obtain ⟨⟨chunkId, hfile⟩, hrest⟩ := h
    rcases List.mem_cons.mp hc with rfl | hc
    · exact ⟨n + 1, chunkId, by omega, by simp, hfile⟩
    · obtain ⟨count, chunkId', hlt, hle, hfile'⟩ := ih hrest hc
      exact ⟨count, chunkId', by omega, by simp only [List.length_cons]; omega, hfile'⟩

theorem Numbered.nodup (h : Numbered n cs) (hfew : n + cs.length ≤ maxChunks) : (cs.map ChunkFile.file).Nodup := by
  induction cs generalizing n with
  | nil => exact List.nodup_nil
  | cons c cs ih =>
    obtain ⟨⟨chunkId, hfile⟩, hrest⟩ := h
    simp only [List.length_cons] at hfew
    rw [List.map_cons, List.nodup_cons]
    refine ⟨?_, ih hrest (by omega)⟩
    intro hmem
    obtain ⟨c', hc', heq⟩ := List.mem_map.mp hmem
    obtain ⟨count, chunkId', hlt, hle, hfile'⟩ := hrest.mem hc'
    rw [hfile', hfile] at heq
    have := fileName_count (by omega) (by omega) heq
    omega

/-! ## The loop over the sources -/

/-- The chunks of one source, as they were written after `tally`. -/
structure Wrote (tally : ExportTally) (texts : List String) (tally' : ExportTally) (cs : List ChunkFile) : Prop where
  texts : cs.map ChunkFile.text = texts
  numbered : Numbered tally.chunkCount cs
  count : tally'.chunkCount = tally.chunkCount + cs.length
  total : tally'.totalBytes = tally.totalBytes + (cs.map fun c => c.bytes.length).sum
  count_le : cs ≠ [] → tally'.chunkCount ≤ maxChunks
  total_le : cs ≠ [] → tally'.totalBytes ≤ maxBundleBytes

theorem addChunk_ok {acc' : ExportTally × List ChunkFile} {indexed : Nat × String}
    (h : addChunk sourceId acc indexed = .ok acc') :
    ∃ c : ChunkFile, acc'.2 = acc.2 ++ [c] ∧ c.text = indexed.2 ∧ acc'.1.chunkCount = acc.1.chunkCount + 1 ∧
      acc'.1.totalBytes = acc.1.totalBytes + c.bytes.length ∧ acc'.1.chunkCount ≤ maxChunks ∧
      acc'.1.totalBytes ≤ maxBundleBytes ∧ ∃ chunkId, c.file = fileName (acc.1.chunkCount + 1) chunkId := by
  simp only [addChunk, bind_ok, require_ok, exists_const, pure_ok] at h
  obtain ⟨hcount, htotal, rfl⟩ := h
  exact ⟨_, rfl, rfl, rfl, rfl, hcount, htotal, _, rfl⟩

theorem addChunks_ok (h : texts.foldlM (addChunk sourceId) (tally, []) = .ok acc) :
    Wrote tally (texts.map Prod.snd) acc.1 acc.2 := by
  have hkept : ∀ done (b : ExportTally × List ChunkFile) (a : Nat × String) b',
      Wrote tally (done.map Prod.snd) b.1 b.2 → addChunk sourceId b a = .ok b' →
      Wrote tally ((done ++ [a]).map Prod.snd) b'.1 b'.2 := by
    intro done b a b' hI hadd
    obtain ⟨c, hwritten, htext, hcount, htotal, hcountLe, htotalLe, chunkId, hfile⟩ := addChunk_ok hadd
    refine ⟨?_, ?_, ?_, ?_, fun _ => hcountLe, fun _ => htotalLe⟩
    · rw [hwritten, List.map_append, List.map_append, hI.texts, List.map_cons, List.map_nil, htext]
      rfl
    · rw [hwritten, numbered_append]
      refine ⟨hI.numbered, ⟨chunkId, ?_⟩, trivial⟩
      rw [hfile, hI.count]
    · rw [hwritten, hcount, hI.count, List.length_append]
      rfl
    · rw [hwritten, htotal, hI.total, List.map_append, List.sum_append, Nat.add_assoc]
      rfl
  have hstart : Wrote tally (([] : List (Nat × String)).map Prod.snd) tally [] :=
    ⟨rfl, trivial, rfl, by simp, fun hne => absurd rfl hne, fun hne => absurd rfl hne⟩
  exact foldlM_ok hkept hstart h

theorem map_snd_enumerated {α : Type} (xs : List α) : (enumerated xs).map Prod.snd = xs := by
  rw [enumerated, List.map_snd_zip]
  rw [List.length_range']

theorem chunks_ne_nil (text : String) : chunks text ≠ [] := by
  have hor : ∀ output : List (List Char), (if output = [] then [text.toList.take maxChunkChars] else output) ≠ [] := by
    intro output
    split
    · simp
    · assumption
  simp only [chunks, ne_eq, List.map_eq_nil_iff]
  exact hor _

theorem strip_strip (s : String) : strip (strip s) = strip s := by
  rw [strip, strip, String.toList_ofList, stripList_stripList]

theorem validatePublicUrl_again {u : Unicode} {url : String} (h : validatePublicUrl u url = .ok value) :
    validatePublicUrl u value = .ok value := by
  have hvalue : value = strip url := by
    simp only [validatePublicUrl, bind_ok, require_ok, exists_const, orRaise_ok, pure_ok] at h
    obtain ⟨_, -, -, _, -, -, -, heq⟩ := h
    exact heq.symm
  have hsame : validatePublicUrl u value = validatePublicUrl u url := by
    rw [validatePublicUrl, validatePublicUrl, hvalue, strip_strip]
  rw [hsame, h]

section Sources

variable {F : Type} [JsonFloat F] {u : Unicode}

/-- A source as it was written from its row. -/
structure FromRow (u : Unicode) (row : Json F) (s : ExportedSource) : Prop where
  url : ∃ value, validatePublicUrl u s.url = .ok value
  text : ∃ value, normalizeExternalText u (Json.textOr (row.get? "extracted_text")) = .ok (value, s.risk) ∧
    s.chunks.map ChunkFile.text = chunks value

/-- What the loop has written of the rows it has passed. -/
structure Exported (u : Unicode) (rows : List (Json F)) (tally : ExportTally) (sources : List ExportedSource) :
    Prop where
  rows : List.Forall₂ (FromRow u) rows sources
  numbered : Numbered 0 (sources.flatMap (·.chunks))
  count : tally.chunkCount = (sources.flatMap (·.chunks)).length
  total : tally.totalBytes = ((sources.flatMap (·.chunks)).map fun c => c.bytes.length).sum
  count_le : tally.chunkCount ≤ maxChunks
  total_le : tally.totalBytes ≤ maxBundleBytes

theorem addSource_ok {retrievedAt : String} {acc acc' : ExportTally × List ExportedSource} {indexed : Nat × Json F}
    (h : addSource u retrievedAt acc indexed = .ok acc') :
    ∃ s texts, acc'.2 = acc.2 ++ [s] ∧ FromRow u indexed.2 s ∧ Wrote acc.1 texts acc'.1 s.chunks ∧ s.chunks ≠ [] := by
  simp only [addSource, bind_ok, pure_ok] at h
  obtain ⟨url, hurl, ⟨text, risk⟩, htext, written, hwritten, rfl⟩ := h
  have hwrote := addChunks_ok hwritten
  rw [map_snd_enumerated] at hwrote
  refine ⟨_, _, rfl, ⟨⟨url, validatePublicUrl_again hurl⟩, text, htext, hwrote.texts⟩, hwrote, ?_⟩
  intro hnil
  have htexts := hwrote.texts
  rw [show written.2 = [] from hnil, List.map_nil] at htexts
  exact chunks_ne_nil text htexts.symm

variable {payload : Json F} {rows : List (Json F)}

theorem exportSources_ok
    {acc : ExportTally × List ExportedSource} (h : exportSources u createdAt payload rows = .ok acc) :
    Exported u rows acc.1 acc.2 := by
  have hkept : ∀ retrievedAt done (b : ExportTally × List ExportedSource) (a : Nat × Json F) b',
      Exported u (done.map Prod.snd) b.1 b.2 → addSource u retrievedAt b a = .ok b' →
      Exported u ((done ++ [a]).map Prod.snd) b'.1 b'.2 := by
    intro retrievedAt done b a b' hI hadd
    obtain ⟨s, texts, hsources, hrow, hwrote, hne⟩ := addSource_ok hadd
    have hflat : b'.2.flatMap (·.chunks) = b.2.flatMap (·.chunks) ++ s.chunks := by
      rw [hsources, List.flatMap_append, List.flatMap_singleton]
    refine ⟨?_, ?_, ?_, ?_, hwrote.count_le hne, hwrote.total_le hne⟩
    · rw [hsources, List.map_append, List.map_cons, List.map_nil]
      exact List.rel_append hI.rows (.cons hrow .nil)
    · rw [hflat, numbered_append, Nat.zero_add, ← hI.count]
      exact ⟨hI.numbered, hwrote.numbered⟩
    · rw [hflat, hwrote.count, hI.count, List.length_append]
    · rw [hflat, hwrote.total, hI.total, List.map_append, List.sum_append]
  have hstart : Exported u (([] : List (Nat × Json F)).map Prod.snd) {} [] :=
    ⟨.nil, trivial, rfl, rfl, Nat.zero_le _, Nat.zero_le _⟩
  have hend := foldlM_ok (hkept _) hstart h
  rwa [List.nil_append, map_snd_enumerated] at hend

theorem Exported.fit
    (h : Exported u rows tally sources) (hne : rows ≠ []) (hfew : rows.length ≤ maxSources) : BundleFit u sources := by
  have hlength := h.rows.length_eq
  have hcount := h.count_le
  rw [h.count] at hcount
  have htotal := h.total_le
  rw [h.total] at htotal
  refine ⟨?_, by omega, ?_, hcount, htotal, ?_, h.numbered.nodup (by omega)⟩
  · intro hnil
    rw [hnil, List.length_nil, List.length_eq_zero_iff] at hlength
    exact hne hlength
  · intro s hs
    obtain ⟨row, -, hrow⟩ := forall₂_mem_right h.rows hs
    obtain ⟨value, -, htexts⟩ := hrow.text
    refine ⟨hrow.url, ?_⟩
    intro hnil
    rw [hnil, List.map_nil] at htexts
    exact chunks_ne_nil value htexts.symm
  · intro c hc
    obtain ⟨count, chunkId, -, -, hfile⟩ := h.numbered.mem hc
    rw [hfile]
    exact fileName_safe count chunkId

/-! ## Importing what was exported -/

/-- Both sides agree on the payload: each chunk cut from a text is readable alone and classified no higher than the
text, and the manifest is within the importer's bound. -/
structure Importable (u : Unicode) (createdAt : String) (payload : Json F) : Prop where
  readable : ∀ rows, sourceRows u payload = .ok rows → ∀ row ∈ rows, ∀ value risk,
    normalizeExternalText u (Json.textOr (row.get? "extracted_text")) = .ok (value, risk) →
    ∀ chunk ∈ chunks value, ChunkReadable u risk chunk
  manifest : ∀ bundle, composeBundle u createdAt payload = .ok bundle →
    (Utf8.encode bundle.manifest).length ≤ maxManifestBytes

theorem sourceRows_few (h : sourceRows u payload = .ok rows) :
    rows.length ≤ maxSources := by
  simp only [sourceRows, bind_ok, pure_ok] at h
  obtain ⟨-, -, all, -, items, -, rejected, -, rfl⟩ := h
  exact List.length_take_le _ _

theorem composeBundle_accepted {bundle : Bundle}
    (h : composeBundle u createdAt payload = .ok bundle) {name : Option String}
    (hname : ∀ n ∈ name, n = bundle.bundleId) :
    (∃ m : Json F, validateBundle u name (bundleNode bundle.manifest bundle.sources) = .ok m) ↔
      Importable u createdAt payload := by
  have hcompose := h
  simp only [composeBundle, bind_ok, require_ok, exists_const, pure_ok] at h
  obtain ⟨rows, hrows, hne, -, -, acc, hacc, identity, -, manifest, hmanifest, rfl⟩ := h
  have hexported := exportSources_ok hacc
  have hfit := hexported.fit hne (sourceRows_few hrows)
  have haccepted : ∀ m, validateBundle u name (bundleNode manifest acc.2) = .ok m ↔ _ := fun m =>
    validate_bundleNode (m := m) hfit (bundleRe_bundleIdOf identity) hname hmanifest
  simp only [haccepted]
  constructor
  · rintro ⟨m, ⟨hsize, hread⟩, -⟩
    refine ⟨?_, ?_⟩
    · intro rows' hrows' row hrow value risk hnorm chunk hchunk
      obtain rfl : rows = rows' := Except.ok.inj (hrows.symm.trans hrows')
      obtain ⟨s, hs, hfrom⟩ := forall₂_mem_left hexported.rows hrow
      obtain ⟨value', hnorm', htexts⟩ := hfrom.text
      rw [hnorm'] at hnorm
      obtain ⟨rfl, rfl⟩ := Prod.mk.inj (Except.ok.inj hnorm)
      rw [← htexts] at hchunk
      obtain ⟨c, hc, rfl⟩ := List.mem_map.mp hchunk
      exact hread s hs c hc
    · intro bundle' hcompose'
      obtain rfl := Except.ok.inj (hcompose.symm.trans hcompose')
      exact hsize
  · intro himport
    obtain ⟨canonical, -, hloads⟩ := manifestText_ok hmanifest
    refine ⟨_, ⟨himport.manifest _ hcompose, ?_⟩, hloads⟩
    intro s hs c hc
    obtain ⟨row, hrow, hfrom⟩ := forall₂_mem_right hexported.rows hs
    obtain ⟨value, hnorm, htexts⟩ := hfrom.text
    refine himport.readable rows hrows row hrow value s.risk hnorm c.text ?_
    rw [← htexts]
    exact List.mem_map_of_mem hc

theorem copytree_bundleNode (manifest : String) (sources : List ExportedSource) :
    copytree (bundleNode manifest sources) = some (bundleNode manifest sources) := by
  have hfiles : ∀ cs : List ChunkFile, copyEntries (chunkNodes cs) = some (chunkNodes cs) := by
    intro cs
    induction cs with
    | nil => rfl
    | cons c cs ih =>
      rw [chunkNodes, List.map_cons, copyEntries, copytree]
      simp only [Option.bind_eq_bind, Option.bind_some]
      rw [← chunkNodes, ih]
      rfl
  have hchunks := hfiles (sources.flatMap (·.chunks))
  rw [chunkNodes] at hchunks
  simp [bundleNode, copytree, copyEntries, hchunks]

/-- Every directory of the place is accepted under its name. -/
def Accepted (F : Type) [JsonFloat F] (u : Unicode) (place : PyDict.Dict Node) : Prop :=
  ∀ name node, PyDict.get? place name = some node → ∃ m : Json F, validateBundle u (some name) node = .ok m

theorem importBundle_of_accepted {root : PyDict.Dict Node} (hroot : Accepted F u root) {node : Node}
    (hcopy : copytree node = some node) {m : Json F} (hm : validateBundle u (some name) node = .ok m) :
    ∃ root', importBundle F u root name node = .ok (name, root') := by
  have hid : name = bundleIdText m := (validateBundle_name.mp hm).2 name rfl
  simp only [importBundle, bind_ok]
  cases hget : get? root name with
  | some d =>
    obtain ⟨m', hm'⟩ := hroot name d hget
    refine ⟨root, m, hm, ?_⟩
    rw [toStr_bundleId hm, ← hid, hget]
    simp only [bind_ok, pure_ok]
    exact ⟨m', hm', trivial⟩
  | none =>
    refine ⟨set root name node, m, hm, ?_⟩
    rw [toStr_bundleId hm, ← hid, hget]
    simp only [bind_ok, pure_ok, orRaise_ok]
    exact ⟨node, hcopy, m, (validateBundle_name.mp hm).1, rfl⟩

theorem exportResearchPayload_ok
    (h : exportResearchPayload u createdAt outbox payload = .ok (name, outbox')) :
    ∃ bundle, composeBundle u createdAt payload = .ok bundle ∧ name = bundle.bundleId ∧
      outbox' = if has outbox name then outbox
        else set outbox name (bundleNode bundle.manifest bundle.sources) := by
  simp only [exportResearchPayload, bind_ok, pure_ok, Prod.mk.injEq] at h
  obtain ⟨bundle, hbundle, rfl, rfl⟩ := h
  exact ⟨bundle, hbundle, rfl, rfl⟩

/-- Every directory of the outbox is accepted under its name, and holds no link. -/
def Sent (F : Type) [JsonFloat F] (u : Unicode) (outbox : PyDict.Dict Node) : Prop :=
  Accepted F u outbox ∧ ∀ name node, PyDict.get? outbox name = some node → copytree node = some node

theorem Sent.export
    (hout : Sent F u outbox) (himport : Importable u createdAt payload)
    (h : exportResearchPayload u createdAt outbox payload = .ok (name, outbox')) :
    Sent F u outbox' ∧ ∃ node, get? outbox' name = some node := by
  obtain ⟨bundle, hbundle, rfl, rfl⟩ := exportResearchPayload_ok h
  cases hhas : has outbox bundle.bundleId with
  | true =>
    rw [if_pos rfl]
    exact ⟨hout, has_iff.mp hhas⟩
  | false =>
    rw [if_neg Bool.false_ne_true]
    refine ⟨⟨?_, ?_⟩, _, by rw [get?_set, if_pos rfl]⟩
    · intro name node hget
      rw [get?_set] at hget
      split at hget
      · rename_i heq
        obtain rfl := Option.some.inj hget
        subst heq
        exact (composeBundle_accepted hbundle (by simp)).mpr himport
      · exact hout.1 name node hget
    · intro name node hget
      rw [get?_set] at hget
      split at hget
      · obtain rfl := Option.some.inj hget
        exact copytree_bundleNode _ _
      · exact hout.2 name node hget

/-- The outbox after a call, which leaves it as it was when it raises. -/
def exportStep (u : Unicode) (outbox : PyDict.Dict Node) (call : String × Json F) : PyDict.Dict Node :=
  match exportResearchPayload u call.1 outbox call.2 with
  | .ok r => r.2
  | .error _ => outbox

def exportRun (u : Unicode) (calls : List (String × Json F)) : PyDict.Dict Node := calls.foldl (exportStep u) []

theorem Sent.step (hout : Sent F u outbox) {call : String × Json F}
    (himport : Importable u call.1 call.2) : Sent F u (exportStep u outbox call) := by
  unfold exportStep
  cases hexport : exportResearchPayload u call.1 outbox call.2 with
  | error e => exact hout
  | ok r => exact (hout.export himport hexport).1

theorem sent_exportRun {calls : List (String × Json F)} (h : ∀ call ∈ calls, Importable u call.1 call.2) :
    Sent F u (exportRun u calls) := by
  have hempty : Sent F u [] := ⟨fun name node hget => (nomatch hget), fun name node hget => (nomatch hget)⟩
  unfold exportRun
  generalize ([] : PyDict.Dict Node) = outbox at hempty
  induction calls generalizing outbox with
  | nil => exact hempty
  | cons call calls ih =>
    exact ih (fun call' hcall' => h call' (by simp [hcall'])) _ (hempty.step (h call (by simp)))

/-- An export into an outbox that has no directory of the same id is imported exactly when both sides agree on the
payload; and in every sequence of exports on which they agree, every directory returned is imported. -/
theorem exported_imports (u : Unicode) :
    (∀ createdAt outbox (payload : Json F) name outbox', exportResearchPayload u createdAt outbox payload = .ok (name, outbox') →
      PyDict.has outbox name = false → ∃ node, PyDict.get? outbox' name = some node ∧ ∀ root, Accepted F u root →
        ((∃ r, importBundle F u root name node = .ok r) ↔ Importable u createdAt payload)) ∧
    ∀ (before : List (String × Json F)) createdAt (payload : Json F) name outbox',
      (∀ call ∈ before ++ [(createdAt, payload)], Importable u call.1 call.2) →
      exportResearchPayload u createdAt (exportRun u before) payload = .ok (name, outbox') →
      ∃ node, PyDict.get? outbox' name = some node ∧ ∀ root, Accepted F u root →
        ∃ root', importBundle F u root name node = .ok (name, root') := by
  refine ⟨?_, ?_⟩
  · intro createdAt outbox payload name outbox' hexport hnew
    obtain ⟨bundle, hbundle, rfl, rfl⟩ := exportResearchPayload_ok hexport
    refine ⟨bundleNode bundle.manifest bundle.sources, ?_, ?_⟩
    · rw [hnew, if_neg Bool.false_ne_true, PyDict.get?_set, if_pos rfl]
    · intro root hroot
      have hiff := composeBundle_accepted hbundle (fun n hn => (Option.some.inj hn).symm : ∀ n ∈ some bundle.bundleId, _)
      rw [← hiff]
      constructor
      · rintro ⟨⟨dest, root'⟩, hr⟩
        obtain ⟨-, m, hm, -⟩ := importBundle_ok hr
        exact ⟨m, hm⟩
      · rintro ⟨m, hm⟩
        obtain ⟨root', hroot'⟩ := importBundle_of_accepted hroot (copytree_bundleNode _ _) hm
        exact ⟨_, hroot'⟩
  · intro before createdAt payload name outbox' hcalls hexport
    have hbefore : Sent F u (exportRun u before) := sent_exportRun fun call hcall => hcalls call (by simp [hcall])
    obtain ⟨hsent, node, hnode⟩ := hbefore.export (hcalls (createdAt, payload) (by simp)) hexport
    obtain ⟨m, hm⟩ := hsent.1 name node hnode
    refine ⟨node, hnode, ?_⟩
    intro root hroot
    exact importBundle_of_accepted hroot (hsent.2 name node hnode) hm

end Sources

/-! ## A source with a long gap -/

theorem writable_chunk {F : Type} [JsonFloat F] {c : ChunkFile} (h : c.text.toList.length < 2 ^ 64) :
    Writable (c.json : Json F) := by
  refine .dict ?_
  intro e he
  simp only [List.mem_cons, List.not_mem_nil, or_false] at he
  rcases he with rfl | rfl | rfl | rfl
  · exact .str _
  · exact .str _
  · exact .str _
  · exact .int (dumpable_int (by simpa using h))

theorem writable_source {F : Type} [JsonFloat F] {s : ExportedSource} (h : ∀ c ∈ s.chunks, c.text.toList.length < 2 ^ 64) :
    Writable (s.json : Json F) := by
  refine .dict ?_
  intro e he
  simp only [List.mem_cons, List.not_mem_nil, or_false] at he
  rcases he with rfl | rfl | rfl | rfl | rfl | rfl | rfl | rfl
  case inr.inr.inr.inr.inr.inr.inr =>
    refine .arr ?_
    intro v hv
    obtain ⟨c, hc, rfl⟩ := List.mem_map.mp hv
    exact writable_chunk (h c hc)
  all_goals exact .str _

theorem manifestText_written {F : Type} [JsonFloat F]
    (h : ∀ s ∈ sources, ∀ c ∈ s.chunks, c.text.toList.length < 2 ^ 64) (hfew : sources.length < 2 ^ 64) {chunkCount : Nat}
    (hcount : chunkCount < 2 ^ 64) (createdAt task bundleId : String) :
    (∃ identity, canonicalJson (F := F) (identityJson (.str task) (.int sources.length) (.int chunkCount)
      (.arr (sources.map (·.json)))) = .ok identity) ∧
    ∃ manifest, manifestText (F := F) createdAt task bundleId chunkCount sources = .ok manifest := by
  have hsources : Writable (.arr (sources.map (·.json)) : Json F) := by
    refine .arr ?_
    intro v hv
    obtain ⟨s, hs, rfl⟩ := List.mem_map.mp hv
    exact writable_source (h s hs)
  have hints : ∀ n : Nat, n < 2 ^ 64 → Writable (.int n : Json F) := fun n hn => .int (dumpable_int (by simpa using hn))
  have hidentity : Writable (identityJson (.str task) (.int sources.length) (.int chunkCount)
      (.arr (sources.map (·.json))) : Json F) := by
    refine .dict ?_
    intro e he
    simp only [List.mem_cons, List.not_mem_nil, or_false] at he
    rcases he with rfl | rfl | rfl | rfl | rfl | rfl | rfl | rfl
    case inr.inr.inr.inr.inr.inr.inr => exact hsources
    case inr.inr.inr.inr.inr.inr.inl => exact hints _ hcount
    case inr.inr.inr.inr.inr.inl => exact hints _ hfew
    all_goals exact .str _
  have hunhashed : Writable (unhashedManifest createdAt task bundleId chunkCount sources : Json F) := by
    refine .dict ?_
    intro e he
    simp only [List.mem_cons, List.not_mem_nil, or_false] at he
    rcases he with rfl | rfl | rfl | rfl | rfl | rfl | rfl | rfl | rfl | rfl
    case inr.inr.inr.inr.inr.inr.inr.inr.inl => exact hsources
    case inr.inr.inr.inr.inr.inr.inr.inl => exact hints _ hcount
    case inr.inr.inr.inr.inr.inr.inl => exact hints _ hfew
    all_goals exact .str _
  obtain ⟨identity, hid⟩ := hidentity.dumpsLax
  obtain ⟨canonical, hcanonical⟩ := hunhashed.dumpsLax
  obtain ⟨text, htext⟩ := (hunhashed.setKey (k := "manifest_sha256") (.str (hashText canonical))).dumpsIndented
  refine ⟨⟨identity, by simp only [canonicalJson, orRaise_ok, hid]⟩, text ++ "\n", ?_⟩
  simp only [manifestText, canonicalJson, bind_ok, orRaise_ok, pure_ok]
  exact ⟨canonical, hcanonical, text, htext, rfl⟩

theorem addChunks_total
    (hcount : acc.1.chunkCount + texts.length ≤ maxChunks)
    (htotal : acc.1.totalBytes + (texts.map fun t => (Utf8.encode t.2).length).sum ≤ maxBundleBytes) :
    ∃ acc', texts.foldlM (addChunk sourceId) acc = .ok acc' := by
  induction texts generalizing acc with
  | nil => exact ⟨acc, rfl⟩
  | cons t texts ih =>
    simp only [List.length_cons, List.map_cons, List.sum_cons] at hcount htotal
    obtain ⟨acc', hacc'⟩ : ∃ acc', texts.foldlM (addChunk sourceId) (⟨acc.1.chunkCount + 1,
        acc.1.totalBytes + (Utf8.encode t.2).length⟩, acc.2 ++ [chunkFile sourceId (acc.1.chunkCount + 1) t.1 t.2]) =
        .ok acc' := ih (by simp only; omega) (by simp only; omega)
    refine ⟨acc', ?_⟩
    simp only [List.foldlM_cons, bind_ok]
    refine ⟨_, ?_, hacc'⟩
    simp only [addChunk, bind_ok, require_ok, exists_const, pure_ok]
    exact ⟨by omega, by simp only [chunkFile, ChunkFile.bytes]; omega, rfl⟩

def asciiTables : Unicode := ⟨id, lower, isAsciiAlnum, fun _ => rfl⟩

theorem normalize_line {u : Unicode} {cs : List Char} (hnfkc : u.nfkc (String.ofList cs) = String.ofList cs)
    (hplain : ∀ c ∈ cs, isZeroWidth c = false ∧ c.toNat ≠ 0 ∧ isLineBreak c = false) (hne : cs ≠ [])
    (hhead : isSpace (cs.head hne) = false) (hlast : isSpace (cs.getLast hne) = false)
    (hlength : cs.length ≤ maxSourceChars) :
    ∃ risk, normalizeExternalText u (String.ofList cs) = .ok (String.ofList cs, risk) := by
  have hvisible : cs.filter (fun c => !isZeroWidth c) = cs := by
    rw [List.filter_eq_self]
    intro c hc
    rw [(hplain c hc).1]
    rfl
  have hnul : cs.filter (fun c => decide (c.toNat ≠ 0)) = cs := by
    rw [List.filter_eq_self]
    intro c hc
    exact decide_eq_true (hplain c hc).2.1
  have hlines : splitlines cs = [cs] := splitlines_of_line (fun c hc => (hplain c hc).2.2) hne
  have hright : rstripList cs = cs := by
    rw [rstripList, List.rdropWhile_eq_self_iff]
    intro h
    simpa using hlast
  have hstrip : stripList isSpace cs = cs := stripList_eq_self hne hhead hlast
  have hjoin : ['\n'].intercalate [cs] = cs := by simp [List.intercalate]
  simp only [normalizeExternalText, hnfkc, String.toList_ofList, hvisible, hnul, hlines, List.map_cons, List.map_nil,
    hright, hjoin, hstrip, bind_ok, require_ok, exists_const, pure_ok, List.take_of_length_le hlength, Prod.mk.injEq]
  exact ⟨_, hne, trivial, rfl⟩

theorem not_readable_blank (n : Nat) (declared : Risk) :
    ¬ ChunkReadable asciiTables declared (String.ofList (List.replicate n ' ')) := by
  rintro ⟨value, risk, hnorm, -⟩
  have hblank : ∀ c ∈ List.replicate n ' ', c = ' ' := fun c hc => List.eq_of_mem_replicate hc
  have hvisible : (List.replicate n ' ').filter (fun c => !isZeroWidth c) = List.replicate n ' ' := by
    rw [List.filter_eq_self]
    intro c hc
    rw [hblank c hc]
    rfl
  have hnul : (List.replicate n ' ').filter (fun c => decide (c.toNat ≠ 0)) = List.replicate n ' ' := by
    rw [List.filter_eq_self]
    intro c hc
    rw [hblank c hc]
    rfl
  have hempty : stripList isSpace (['\n'].intercalate ((splitlines (List.replicate n ' ')).map rstripList)) = [] := by
    cases n with
    | zero => rfl
    | succ n =>
      have hlines : splitlines (List.replicate (n + 1) ' ') = [List.replicate (n + 1) ' '] := by
        refine splitlines_of_line ?_ (by simp)
        intro c hc
        rw [hblank c hc]
        rfl
      have hright : rstripList (List.replicate (n + 1) ' ') = [] := by
        rw [rstripList, List.rdropWhile_eq_nil_iff]
        intro c hc
        rw [hblank c hc]
        rfl
      rw [hlines, List.map_cons, List.map_nil, hright]
      rfl
  have hid : asciiTables.nfkc (String.ofList (List.replicate n ' ')) = String.ofList (List.replicate n ' ') := rfl
  simp only [normalizeExternalText, hid, String.toList_ofList, hvisible, hnul, hempty, bind_ok, require_ok] at hnorm
  obtain ⟨-, hne, -⟩ := hnorm
  exact hne rfl

/-- A word, a gap as long and a last letter. -/
def gapText (n : Nat) : List Char := List.replicate n 'a' ++ (List.replicate n ' ' ++ ['b'])

theorem mem_gapText (h : c ∈ gapText n) : c = 'a' ∨ c = ' ' ∨ c = 'b' := by
  simp only [gapText, List.mem_append, List.mem_replicate, List.mem_singleton] at h
  tauto

theorem length_gapText (n : Nat) : (gapText n).length = 2 * n + 1 := by
  simp only [gapText, List.length_append, List.length_replicate, List.length_singleton]
  omega

theorem gapText_ends (h : 0 < n) : ∃ hne : gapText n ≠ [], isSpace ((gapText n).head hne) = false ∧
    isSpace ((gapText n).getLast hne) = false := by
  obtain ⟨k, rfl⟩ : ∃ k, n = k + 1 := ⟨n - 1, by omega⟩
  have hne : gapText (k + 1) ≠ [] := by simp [gapText]
  refine ⟨hne, ?_, ?_⟩
  · simp only [gapText, List.replicate_succ, List.cons_append, List.head_cons]
    decide
  · have hlast : (gapText (k + 1)).getLast hne = 'b' := by simp [gapText]
    rw [hlast]
    decide

theorem slices_cons {fuel : Nat} {cs : List Char} (h : cs ≠ []) :
    slices n (fuel + 1) cs = cs.take n :: slices n fuel (cs.drop n) := by
  cases cs with
  | nil => exact absurd rfl h
  | cons c cs => rfl

theorem chunks_gapText (hn : n = maxChunkChars) : chunks (String.ofList (gapText n)) =
    [List.replicate n 'a', List.replicate n ' ', ['b']].map String.ofList := by
  have htwo : 2 ≤ n := by
    rw [hn]
    decide
  obtain ⟨hne, hhead, hlast⟩ := gapText_ends (show 0 < n by omega)
  have hline : '\n' ∉ gapText n := by
    intro h
    rcases mem_gapText h with h | h | h <;> exact absurd h (by decide)
  have hstrip : stripList isSpace (gapText n) = gapText n := stripList_eq_self hne hhead hlast
  have hparts : ((splitParagraphs (gapText n)).map (stripList isSpace)).filter (· ≠ []) = [gapText n] := by
    rw [splitParagraphs_of_line hline, List.map_cons, List.map_nil, hstrip]
    simp [hne]
  have hlong : n < (gapText n).length := by
    rw [length_gapText]
    omega
  obtain ⟨fuel, hfuel⟩ : ∃ fuel, (gapText n).length = fuel + 3 := ⟨2 * n - 2, by rw [length_gapText]; omega⟩
  have hslices : slices n (gapText n).length (gapText n) = [List.replicate n 'a', List.replicate n ' ', ['b']] := by
    have hlen : ∀ c : Char, (List.replicate n c).length = n := fun c => List.length_replicate
    have hone : ['b'].length ≤ n := by
      rw [List.length_singleton]
      omega
    rw [hfuel, slices_cons hne]
    rw [gapText, List.take_left' (hlen _), List.drop_left' (hlen _), slices_cons (by simp), List.take_left' (hlen _),
      List.drop_left' (hlen _), slices_cons (by simp), List.drop_eq_nil_of_le hone, List.take_of_length_le hone]
    cases fuel <;> rfl
  have hcut : slices n (gapText n).length (gapText n) ≠ [] := by
    rw [hslices]
    simp
  simp only [chunks, String.toList_ofList, hparts, List.foldl_cons, List.foldl_nil, addParagraph, ← hn, if_pos hlong,
    if_true, List.nil_append, if_neg hcut]
  rw [hslices]

def textRow (text : List Char) : Json WholeFloat :=
  .dict [("source_id", .str "S1"), ("url", .str "https://example.org/"), ("title", .str "Title"),
    ("fetch_status", .str "ok"), ("extracted_text", .str (String.ofList text))]

def textPayload (text : List Char) : Json WholeFloat :=
  .dict [("task_id", .str "task-1"), ("sources", .arr [textRow text])]

def gapPayload (n : Nat) : Json WholeFloat := textPayload (gapText n)

/-- A text of one line that is its own normal form and within the bounds of a bundle. -/
structure Exportable (text : List Char) : Prop where
  ends : ∃ hne : text ≠ [], isSpace (text.head hne) = false ∧ isSpace (text.getLast hne) = false
  normalized : ∃ risk, normalizeExternalText asciiTables (String.ofList text) = .ok (String.ofList text, risk)
  few : (chunks (String.ofList text)).length ≤ maxChunks
  bytes : ((chunks (String.ofList text)).map fun chunk => (Utf8.encode chunk).length).sum ≤ maxBundleBytes
  short : ∀ chunk ∈ chunks (String.ofList text), chunk.toList.length < 2 ^ 64

section Gap

variable {n : Nat} {text : List Char}

theorem textRow_text : Json.textOr ((textRow text).get? "extracted_text") = String.ofList (text) := by
  rw [textRow, get?_dict]
  exact textOr_str _

theorem textRow_url : Json.textOr ((textRow text).get? "url") = "https://example.org/" := by
  rw [textRow, get?_dict]
  exact textOr_str _

theorem textRow_eligible (h : Exportable text) : eligible asciiTables [] [] (textRow text) = true := by
  obtain ⟨hne, hhead, hlast⟩ := h.ends
  have hstrip : strip (String.ofList (text)) ≠ "" := by
    rw [strip, String.toList_ofList, stripList_eq_self hne hhead hlast]
    intro heq
    have := congrArg String.toList heq
    rw [String.toList_ofList] at this
    exact hne this
  have hid : Json.textOr ((textRow text).get? "source_id") = "S1" := by
    rw [textRow, get?_dict]
    exact textOr_str _
  have hstatus : Json.textOr ((textRow text).get? "fetch_status") = "ok" := by
    rw [textRow, get?_dict]
    exact textOr_str _
  have hscheme : startsWith "https://example.org/" "https://" = true := by decide
  have hdict : (textRow text).isDict = true := rfl
  simp only [eligible, hid, textRow_url, hstatus, textRow_text, hscheme, hdict, get?, Bool.or_true, Bool.true_and,
    Bool.not_false, Bool.and_true, List.not_mem_nil, not_false_eq_true, decide_true, decide_eq_true_eq]
  exact hstrip

theorem textPayload_rows (h : Exportable text) : sourceRows asciiTables (textPayload text) = .ok [textRow text] := by
  have hsources : (textPayload text).get? "sources" = some (.arr [textRow text]) := by
    rw [textPayload, get?_dict]
    rfl
  have hassessments : (textPayload text).get? "source_assessments" = none := by
    rw [textPayload, get?_dict]
    rfl
  have hrejected : (textPayload text).get? "rejected_sources" = none := by
    rw [textPayload, get?_dict]
    rfl
  simp only [sourceRows, bind_ok, require_ok, exists_const, orRaise_ok, pure_ok, hsources, hassessments, hrejected,
    iterated, Option.getD_some, array?, Option.some.injEq]
  refine ⟨rfl, [textRow text], rfl, [], rfl, [], rfl, ?_⟩
  have hall : [textRow text].filter (eligible asciiTables [] []) = [textRow text] := by
    rw [List.filter_cons, if_pos (textRow_eligible h)]
    rfl
  exact congrArg (List.take maxSources) hall

theorem Exportable.addChunks (h : Exportable text) (sourceId : String) :
    ∃ acc, (enumerated (chunks (String.ofList text))).foldlM (addChunk sourceId) ({}, []) = .ok acc := by
  have hmap : (enumerated (chunks (String.ofList text))).map (fun t => (Utf8.encode t.2).length) =
      (chunks (String.ofList text)).map fun chunk => (Utf8.encode chunk).length := by
    conv_rhs => rw [← map_snd_enumerated (chunks _), List.map_map]
    rfl
  refine addChunks_total ?_ ?_
  · rw [← List.length_map Prod.snd, map_snd_enumerated, Nat.zero_add]
    exact h.few
  · rw [hmap, Nat.zero_add]
    exact h.bytes

theorem textPayload_composed (h : Exportable text) (createdAt : String) :
    ∃ bundle, composeBundle asciiTables createdAt (textPayload text) = .ok bundle := by
  obtain ⟨risk, hnorm⟩ := h.normalized
  have hurl : validatePublicUrl asciiTables "https://example.org/" = .ok "https://example.org/" := by decide
  have hsource : ∀ retrievedAt, ∃ acc, addSource asciiTables retrievedAt ({}, []) (1, textRow text) = .ok acc := by
    intro retrievedAt
    obtain ⟨acc, hacc⟩ := h.addChunks (safeId (Json.textOr ((textRow text).get? "source_id"))
      ("S" ++ String.ofList (Nat.toDigits 10 1)))
    simp only [addSource, bind_ok, pure_ok, textRow_url, textRow_text]
    exact ⟨_, _, hurl, _, hnorm, _, hacc, rfl⟩
  obtain ⟨acc, hacc⟩ : ∃ acc, exportSources asciiTables createdAt (textPayload text) [textRow text] = .ok acc := by
    obtain ⟨acc, hacc⟩ := hsource (if Json.textOr ((textPayload text).get? "generated_at") = "" then createdAt
      else Json.textOr ((textPayload text).get? "generated_at"))
    refine ⟨acc, ?_⟩
    simp only [exportSources, enumerated, List.length_singleton, List.range'_one, List.zip_cons_cons, List.zip_nil_right,
      List.foldlM_cons, List.foldlM_nil, bind_ok, pure_ok, exists_eq_right]
    exact hacc
  have hrows := textPayload_rows h
  have hexported := exportSources_ok hacc
  -- the chunks are no longer than the whole text
  have hshort : ∀ s ∈ acc.2, ∀ c ∈ s.chunks, c.text.toList.length < 2 ^ 64 := by
    intro s hs c hc
    obtain ⟨row, hrow, hfrom⟩ := forall₂_mem_right hexported.rows hs
    obtain rfl := List.mem_singleton.mp hrow
    obtain ⟨value, hvalue, htexts⟩ := hfrom.text
    rw [textRow_text, hnorm] at hvalue
    obtain ⟨rfl, -⟩ := Prod.mk.inj (Except.ok.inj hvalue)
    exact h.short c.text (htexts ▸ List.mem_map_of_mem hc)
  have hcount : acc.1.chunkCount < 2 ^ 64 := lt_of_le_of_lt hexported.count_le (by decide)
  have hfew : acc.2.length < 2 ^ 64 := by
    rw [← hexported.rows.length_eq, List.length_singleton]
    decide
  have hstaging : Writable (.dict [("task_id", (textPayload text).item "task_id"),
      ("generated_at", (textPayload text).item "generated_at"),
      ("source_urls", .strs ([textRow text].map fun r => (r.item "url").toStr))] : Json WholeFloat) := by
    have htask : (textPayload text).item "task_id" = .str "task-1" := by
      rw [Json.item, textPayload, get?_dict]
      rfl
    have hgenerated : (textPayload text).item "generated_at" = .null := by
      rw [Json.item, textPayload, get?_dict]
      rfl
    refine .dict ?_
    intro e he
    simp only [List.mem_cons, List.not_mem_nil, or_false, htask, hgenerated] at he
    rcases he with rfl | rfl | rfl
    · exact .str _
    · exact ⟨trivial, rfl⟩
    · exact .strs _
  obtain ⟨key, hkey⟩ := hstaging.dumpsLax
  have hwritten := fun bundleId => manifestText_written (F := WholeFloat) hshort hfew hcount createdAt
    (Json.textOr ((textPayload text).get? "task_id")) bundleId
  obtain ⟨identity, hidentity⟩ := (hwritten "").1
  obtain ⟨manifest, hmanifest⟩ := (hwritten (bundleIdOf identity)).2
  simp only [composeBundle, bind_ok, require_ok, exists_const, pure_ok]
  refine ⟨_, [textRow text], hrows, by simp, key, ?_, acc, hacc, identity, hidentity, manifest, hmanifest, rfl⟩
  simp only [canonicalJson, orRaise_ok]
  exact hkey

section

variable (hn : n = maxChunkChars)
include hn

theorem gap_normalized : ∃ risk, normalizeExternalText asciiTables (String.ofList (gapText n)) =
    .ok (String.ofList (gapText n), risk) := by
  obtain ⟨hne, hhead, hlast⟩ := gapText_ends (show 0 < n by rw [hn]; decide)
  refine normalize_line rfl ?_ hne hhead hlast ?_
  · intro c hc
    rcases mem_gapText hc with rfl | rfl | rfl <;> exact ⟨rfl, by decide, rfl⟩
  · rw [length_gapText, hn]
    decide

theorem gap_exportable : Exportable (gapText n) := by
  have hchunks := chunks_gapText hn
  refine ⟨gapText_ends (show 0 < n by rw [hn]; decide), gap_normalized hn, ?_, ?_, ?_⟩
  · rw [hchunks]
    exact (by decide : 3 ≤ maxChunks)
  · have ha := Utf8.length_encode_le (List.replicate n 'a')
    have hblank := Utf8.length_encode_le (List.replicate n ' ')
    have hb := Utf8.length_encode_le ['b']
    rw [List.length_replicate] at ha hblank
    rw [List.length_singleton] at hb
    rw [hchunks]
    simp only [List.map_cons, List.map_nil, List.sum_cons, List.sum_nil]
    -- at most four bytes a character
    have hsize : 4 * n + (4 * n + 4) ≤ maxBundleBytes := by
      rw [hn]
      decide
    omega
  · have hbound : n < 2 ^ 64 := by
      rw [hn]
      decide
    rw [hchunks]
    simp only [List.map_cons, List.map_nil, List.forall_mem_cons, String.toList_ofList, List.length_replicate]
    exact ⟨hbound, hbound, by decide, by simp⟩

theorem gap_not_importable (createdAt : String) :
    ¬ Importable asciiTables createdAt (gapPayload n) := by
  intro himport
  obtain ⟨risk, hnorm⟩ := gap_normalized hn
  refine not_readable_blank n risk (himport.readable _ (textPayload_rows (gap_exportable hn)) (textRow (gapText n))
    (List.mem_singleton.mpr rfl) (String.ofList (gapText n)) risk ?_ _ ?_)
  · rw [textRow_text, hnorm]
  · rw [chunks_gapText hn]
    exact List.mem_map_of_mem (by simp)

end

end Gap

/-- An export that returns a directory which the importer refuses. -/
theorem gap_not_imported : ∃ name outbox' node,
    exportResearchPayload asciiTables "2026-01-01T00:00:00+00:00" [] (gapPayload maxChunkChars) = .ok (name, outbox') ∧
    PyDict.get? outbox' name = some node ∧ ∀ root, ¬ ∃ r, importBundle WholeFloat asciiTables root name node = .ok r := by
  obtain ⟨bundle, hbundle⟩ := textPayload_composed (gap_exportable rfl) "2026-01-01T00:00:00+00:00"
  have hexport : exportResearchPayload asciiTables "2026-01-01T00:00:00+00:00" [] (gapPayload maxChunkChars) =
      .ok (bundle.bundleId, PyDict.set [] bundle.bundleId (bundleNode bundle.manifest bundle.sources)) := by
    simp only [exportResearchPayload, bind_ok, pure_ok, Prod.mk.injEq]
    exact ⟨bundle, hbundle, rfl, rfl⟩
  refine ⟨_, _, bundleNode bundle.manifest bundle.sources, hexport, ?_, ?_⟩
  · rw [PyDict.get?_set, if_pos rfl]
  · rintro root ⟨⟨dest, root'⟩, hr⟩
    obtain ⟨-, m, hm, -⟩ := importBundle_ok hr
    have hname : ∀ n ∈ some bundle.bundleId, n = bundle.bundleId := fun n h => (Option.some.inj h).symm
    exact gap_not_importable rfl _ ((composeBundle_accepted hbundle hname).mp ⟨m, hm⟩)

end KnowledgePlane

end ThreeAgent

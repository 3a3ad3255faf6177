/-
What the search of the public evidence considers. Each row of the map is
joined with the first source of its bundle that has an equal id, and nothing
in an accepted bundle makes the ids of its sources distinct: the search
considers every chunk once just where they are, and then its hits are the
chunks that rank highest.
-/
import ThreeAgent.KnowledgeImportFacts
import ThreeAgent.KnowledgeIndex

namespace ThreeAgent.KnowledgePlane

open PyText Outcome PyJson PyDict Keyed

variable {files : List (String × Node)} {bundle : String × List (String × Node)}

variable {F : Type} [EqFloat F] {u : Unicode}

/-! ## What a bundle holds -/

/-- The manifest of a bundle, where it is read. -/
def manifestIn (F : Type) [EqFloat F] (entries : List (String × Node)) : Option (Json F) :=
  (loadManifest entries).toOption

def sourcesIn (F : Type) [EqFloat F] (entries : List (String × Node)) : List (Json F) :=
  ((manifestIn F entries).bind fun manifest => array? (manifest.get? "sources")).getD []

def filesIn (entries : List (String × Node)) : List (String × Node) :=
  ((entries.lookup "chunks").bind Node.listing?).getD []

def chunksIn (source : Json F) : List (Json F) := (array? (source.get? "chunks")).getD []

def fileOf (chunk : Json F) : String := Json.textOr (chunk.get? "file")

/-- Every chunk of every source of a bundle. -/
def placesIn (F : Type) [EqFloat F] (bundle : String × List (String × Node)) : List (Place F) :=
  (sourcesIn F bundle.2).flatMap fun source => (chunksIn source).map fun chunk =>
    ⟨bundle.1, filesIn bundle.2, source, chunk⟩

/-- Every chunk of every source under a root. -/
def allPlaces (F : Type) [EqFloat F] (root : Dict Node) : List (Place F) := (bundlesOf root).flatMap (placesIn F)

/-- The chunks that the search comes to. -/
def considered (F : Type) [EqFloat F] (root : Dict Node) : Except Raised (List (Place F)) := do
  let rows ← map root
  let places ← rows.mapM (placesOf root)
  return places.flatten

/-- `row.get("source_id") == other.get("source_id")`. -/
def sameId (row other : Json F) : Bool := (row.item "source_id").same (other.item "source_id")

/-- No two sources of a bundle have equal ids, and each id equals itself. -/
def DistinctIds (F : Type) [EqFloat F] (root : Dict Node) : Prop :=
  ∀ bundle ∈ bundlesOf root, (sourcesIn F bundle.2).Pairwise (fun a b => sameId a b = false) ∧
    ∀ source ∈ sourcesIn F bundle.2, sameId source source = true

/-! ## Accepted bundles -/

structure ChunkOk (files : List (String × Node)) (chunk : Json F) : Prop where
  isDict : chunk.isDict = true
  readable : ∃ raw text, (files.lookup (fileOf chunk)).bind Node.bytes? = some raw ∧ Utf8.decode? raw = some text

structure SourceOk (files : List (String × Node)) (source : Json F) : Prop where
  isDict : source.isDict = true
  chunks : ∃ chunks, array? (source.get? "chunks") = some chunks ∧ chunks ≠ [] ∧ ∀ chunk ∈ chunks, ChunkOk files chunk

/-- A bundle whose sources and chunks can be read, each chunk in a file of its own. -/
structure BundleOk (F : Type) [EqFloat F] (entries : List (String × Node)) : Prop where
  manifest : ∃ manifest : Json F, loadManifest entries = .ok manifest ∧ manifest.isDict = true ∧
    array? (manifest.get? "sources") = some (sourcesIn F entries)
  sources : ∀ source ∈ sourcesIn F entries, SourceOk (filesIn entries) source
  files : (((sourcesIn F entries).flatMap chunksIn).map fileOf).Nodup

/-- What the loop over the chunks has checked. -/
structure SeenChunks (files : List (String × Node)) (seen : List String) (chunks : List (Json F)) : Prop where
  nodup : (seen ++ chunks.map fileOf).Nodup
  chunks : ∀ chunk ∈ chunks, ChunkOk files chunk

theorem seenChunks_checkChunk {declared : Risk} {seen : List String} {done : List (Json F)}
    {acc acc' : ImportTally × List UInt8} {chunk : Json F}
    (hseen : acc.1.seen = seen ++ done.map fileOf) (h : SeenChunks files seen done)
    (hcheck : checkChunk u files declared acc chunk = .ok acc') :
    acc'.1.seen = seen ++ (done ++ [chunk]).map fileOf ∧ SeenChunks files seen (done ++ [chunk]) := by
  have hadded := (checkChunk_ok hcheck).1
  simp only [checkChunk, bind_ok, require_ok, exists_const, orRaise_ok, pure_ok] at hcheck
  obtain ⟨-, hdict, ⟨-, -, -, hnew⟩, raw, hraw, -, -, text, htext, -⟩ := hcheck
  have hlist : acc'.1.seen = seen ++ (done ++ [chunk]).map fileOf := by
    rw [hadded, hseen, List.map_append, List.append_assoc]
    rfl
  refine ⟨hlist, ?_, ?_⟩
  · rw [← hlist, hadded]
    refine List.nodup_append.mpr ⟨hseen ▸ h.nodup, List.nodup_singleton _, ?_⟩
    intro a ha b hb heq
    rw [List.mem_singleton.mp hb] at heq
    exact hnew (heq ▸ ha)
  · intro c hc
    rcases List.mem_append.mp hc with hc | hc
    · exact h.chunks c hc
    · rw [List.mem_singleton.mp hc]
      exact ⟨hdict, raw, text, hraw, htext⟩

variable {source : Json F}

theorem sourceOk_checkSource {tally tally' : ImportTally}
    (hnodup : tally.seen.Nodup) (h : checkSource u files tally source = .ok tally') :
    SourceOk files source ∧ tally'.seen = tally.seen ++ (chunksIn source).map fileOf ∧ tally'.seen.Nodup := by
  simp only [checkSource, bind_ok, require_ok, exists_const, orRaise_ok, pure_ok] at h
  obtain ⟨hdict, -, -, -, declared, -, rows, hrows, hne, acc, hfold, -, rfl⟩ := h
  have hkept : ∀ done (b : ImportTally × List UInt8) (a : Json F) b',
      (b.1.seen = tally.seen ++ done.map fileOf ∧ SeenChunks files tally.seen done) → checkChunk u files declared b a = .ok b' →
      (b'.1.seen = tally.seen ++ (done ++ [a]).map fileOf ∧ SeenChunks files tally.seen (done ++ [a])) :=
    fun done b a b' hI hcheck => seenChunks_checkChunk hI.1 hI.2 hcheck
  have hstart : tally.seen = tally.seen ++ ([] : List (Json F)).map fileOf ∧
      SeenChunks files tally.seen ([] : List (Json F)) := by
    rw [List.map_nil, List.append_nil]
    refine ⟨rfl, ?_, List.forall_mem_nil _⟩
    rwa [List.map_nil, List.append_nil]
  obtain ⟨hseen, hchunks⟩ := @foldlM_ok _ _ _ (fun done b => b.1.seen = tally.seen ++ done.map fileOf ∧
    SeenChunks files tally.seen done) _ hkept rows [] (tally, []) acc hstart hfold
  rw [List.nil_append] at hseen hchunks
  have hin : chunksIn source = rows := by rw [chunksIn, hrows, Option.getD_some]
  refine ⟨⟨hdict, rows, hrows, hne, hchunks.chunks⟩, ?_, ?_⟩
  · rw [hin]
    exact hseen
  · rw [hseen]
    exact hchunks.nodup

variable {entries : List (String × Node)}

theorem loadManifest_of_readManifest {m : Json F} (h : readManifest entries = .ok m) :
    loadManifest entries = .ok m ∧ m.isDict = true := by
  simp only [readManifest, bind_ok, orRaise_ok, require_ok, exists_const, pure_ok] at h
  obtain ⟨bytes, hbytes, -, text, htext, manifest, hloads, hdict, rfl⟩ := h
  obtain ⟨node, hnode, hfile⟩ := Option.bind_eq_some_iff.mp hbytes
  have hnode' := bytes?_eq hfile
  subst hnode'
  simp only [loadManifest, hnode, bind_ok, orRaise_ok]
  exact ⟨⟨_, rfl, bytes, rfl, text, htext, hloads⟩, hdict⟩

theorem bundleOk_of_validateBundle {name : Option String} {node : Node} {m : Json F} (h : validateBundle u name node = .ok m) :
    ∃ entries, node.listing? = some entries ∧ BundleOk F entries := by
  obtain ⟨entries, hentries, hread, -, hcontents⟩ := validateBundle_ok.mp h
  obtain ⟨hload, hdict⟩ := loadManifest_of_readManifest hread
  simp only [checkContents, bind_ok, require_ok, exists_const, orRaise_ok] at hcontents
  obtain ⟨-, files, hfiles, sources, hsources, -, tally, hfold, -, -⟩ := hcontents
  have hlisting : ∀ {n : Node} {es : List (String × Node)}, n.entries? = some es → n.listing? = some es := by
    intro n es hn
    rw [entries?_eq hn]
    rfl
  have hfilesIn : filesIn entries = files := by
    obtain ⟨chunks, hchunks, hdir⟩ := Option.bind_eq_some_iff.mp hfiles
    rw [filesIn, hchunks, Option.bind_some, hlisting hdir, Option.getD_some]
  have hsourcesIn : sourcesIn F entries = sources := by
    rw [sourcesIn, manifestIn, hload]
    simp [Except.toOption, hsources]
  have hkept : ∀ done (t : ImportTally) (a : Json F) t',
      (t.seen = (done.flatMap chunksIn).map fileOf ∧ t.seen.Nodup ∧ ∀ s ∈ done, SourceOk files s) →
      checkSource u files t a = .ok t' →
      (t'.seen = ((done ++ [a]).flatMap chunksIn).map fileOf ∧ t'.seen.Nodup ∧ ∀ s ∈ done ++ [a], SourceOk files s) := by
    rintro done t a t' ⟨hseen, hnodup, hdone⟩ hcheck
    obtain ⟨hok, hadded, hnodup'⟩ := sourceOk_checkSource hnodup hcheck
    refine ⟨?_, hnodup', ?_⟩
    · rw [hadded, hseen, List.flatMap_append, List.flatMap_singleton, List.map_append]
    · intro s hs
      rcases List.mem_append.mp hs with hs | hs
      · exact hdone s hs
      · rw [List.mem_singleton.mp hs]
        exact hok
  obtain ⟨hseen, hnodup, hok⟩ := @foldlM_ok _ _ _ (fun done (t : ImportTally) => t.seen = (done.flatMap chunksIn).map fileOf ∧
    t.seen.Nodup ∧ ∀ s ∈ done, SourceOk files s) _ hkept sources [] {} tally ⟨rfl, List.nodup_nil, List.forall_mem_nil _⟩ hfold
  rw [List.nil_append] at hseen hok
  refine ⟨entries, hlisting hentries, ⟨m, hload, hdict, ?_⟩, ?_, ?_⟩
  · rw [hsourcesIn]
    exact hsources
  · rw [hsourcesIn, hfilesIn]
    exact hok
  · rw [hsourcesIn, ← hseen]
    exact hnodup

/-! ## Roots of imports -/

/-- A root whose bundles are accepted. -/
structure Imported (F : Type) [EqFloat F] (root : Dict Node) : Prop where
  nodup : (keys root).Nodup
  bundles : ∀ entry ∈ root, ∃ entries, entry.2.listing? = some entries ∧ BundleOk F entries

variable {root : Dict Node}

theorem Imported.import {root' : Dict Node} {given dest : String} {b : Node} (h : Imported F root)
    (himport : importBundle F u root given b = .ok (dest, root')) : Imported F root' := by
  obtain ⟨rfl, m, hm, hcase⟩ := importBundle_ok himport
  rcases hcase with ⟨d, -, -, rfl⟩ | ⟨hnone, copy, -, ⟨m', hm'⟩, rfl⟩
  · exact h
  · refine ⟨nodup_set h.nodup (has_eq_false.mpr hnone), ?_⟩
    intro entry hentry
    rcases mem_set hentry with rfl | hentry
    · exact bundleOk_of_validateBundle hm'
    · exact h.bundles entry hentry

theorem imported_importRun (given : List (String × Node)) : Imported F (importRun F u given) := by
  have hrun : ∀ (calls : List (String × Node)) (root : Dict Node), Imported F root →
      Imported F (calls.foldl (importStep F u) root) := by
    intro calls
    induction calls with
    | nil => exact fun _ h => h
    | cons call calls ih =>
      intro root hroot
      refine ih _ ?_
      unfold importStep
      cases himport : importBundle F u root call.1 call.2 with
      | error e => exact hroot
      | ok r => exact hroot.import himport
  exact hrun given [] ⟨List.nodup_nil, List.forall_mem_nil _⟩

theorem mem_bundlesOf (h : Imported F root)
    (hb : bundle ∈ bundlesOf root) : BundleOk F bundle.2 ∧ (get? root bundle.1).bind Node.listing? = some bundle.2 := by
  obtain ⟨entry, hentry, hsome⟩ := List.mem_filterMap.mp hb
  have hentry := mem_sortedBy.mp hentry
  obtain ⟨entries, hlisting, hok⟩ := h.bundles entry hentry
  split at hsome
  · rw [hlisting] at hsome
    cases hsome
    refine ⟨hok, ?_⟩
    rw [get?_of_mem h.nodup hentry]
    exact hlisting
  · cases hsome

theorem nodup_bundlesOf (h : (keys root).Nodup) : ((bundlesOf root).map Prod.fst).Nodup := by
  have hsub : List.Sublist ((bundlesOf root).map Prod.fst) ((sortedBy Prod.fst root).map Prod.fst) := by
    rw [bundlesOf]
    induction sortedBy Prod.fst root with
    | nil => exact .slnil
    | cons entry entries ih =>
      rw [List.filterMap_cons, List.map_cons]
      split
      · exact .cons _ ih
      · rename_i bundle hbundle
        split at hbundle
        · obtain ⟨es, -, rfl⟩ := Option.map_eq_some_iff.mp hbundle
          exact .cons_cons _ ih
        · cases hbundle
  exact hsub.nodup ((sortedBy_perm.map Prod.fst).nodup_iff.mpr h)

/-! ## The chunks that the search comes to -/

section Considered

variable {entries : List (String × Node)} {bundleId : String} {root : Dict Node}

omit [EqFloat F] in
theorem getOf_ok {v : Json F} {key : String} {found : Option (Json F)} :
    getOf v key = .ok found ↔ v.isDict = true ∧ v.get? key = found := by
  rw [getOf, bind_unit_ok, require_ok, pure_ok]

omit [EqFloat F] in
theorem iterated_of_array {v : Option (Json F)} {xs : List (Json F)} (h : array? v = some xs) : iterated v = .ok xs := by
  match v, h with
  | some (.arr xs), h =>
    cases h
    rfl

/-- The row of the map for a source. -/
def rowOf (bundleId : String) (source : Json F) : MapRow F where
  bundleId := bundleId
  sourceId := source.item "source_id"
  title := source.item "title"
  url := source.item "url"
  retrievedAt := source.item "retrieved_at"
  contentSha256 := source.item "content_sha256"
  trust := source.item "trust"
  injectionRisk := source.item "injection_risk"
  chunkCount := (chunksIn source).length

theorem mapRow_ok (h : SourceOk files source) : mapRow bundleId source = .ok (rowOf bundleId source) := by
  obtain ⟨chunks, hchunks, -, -⟩ := h.chunks
  simp only [mapRow, bind_ok, getOf_ok, pure_ok]
  refine ⟨_, ⟨h.isDict, rfl⟩, chunks.length, ?_, ?_⟩
  · rcases hget : source.get? "chunks" with _ | _ | _ | _ | _ | _ | xs | _ <;> rw [hget] at hchunks <;> cases hchunks
    rfl
  · rw [rowOf, chunksIn, hchunks, Option.getD_some]

theorem mapBundle_ok (h : BundleOk F entries) :
    mapBundle bundleId entries = .ok ((sourcesIn F entries).map (rowOf bundleId)) := by
  obtain ⟨manifest, hload, hdict, hsources⟩ := h.manifest
  rw [mapBundle, hload]
  simp only [bind_ok, getOf_ok]
  refine ⟨_, ⟨hdict, rfl⟩, _, iterated_of_array hsources, ?_⟩
  refine mapM_ok.mpr (List.forall₂_map_right_iff.mpr (List.forall₂_same.mpr ?_))
  intro source hsource
  exact mapRow_ok (h.sources source hsource)

theorem map_ok (h : Imported F root) :
    map root = .ok ((bundlesOf root).map fun bundle => (sourcesIn F bundle.2).map (rowOf bundle.1)).flatten := by
  simp only [map, bind_ok, pure_ok]
  refine ⟨_, mapM_ok.mpr (List.forall₂_map_right_iff.mpr (List.forall₂_same.mpr ?_)), rfl⟩
  intro bundle hbundle
  exact mapBundle_ok (mem_bundlesOf h hbundle).1

theorem findSource_ok {sourceId : Json F} : ∀ {rows : List (Json F)}, (∀ row ∈ rows, row.isDict = true) →
    findSource sourceId rows = .ok (rows.find? fun row => (row.item "source_id").same sourceId)
  | [], _ => rfl
  | row :: rows, h => by
    obtain ⟨hrow, hrows⟩ := List.forall_mem_cons.mp h
    have hget : getOf row "source_id" = .ok (row.get? "source_id") := getOf_ok.mpr ⟨hrow, rfl⟩
    rw [findSource, hget, List.find?_cons]
    show (if (row.item "source_id").same sourceId = true then _ else findSource sourceId rows) = _
    cases hsame : (row.item "source_id").same sourceId with
    | true => rfl
    | false =>
      rw [if_neg Bool.false_ne_true]
      exact findSource_ok hrows

/-- The chunks of a source of a bundle. -/
def chunkPlaces (bundle : String × List (String × Node)) (source : Json F) : List (Place F) :=
  (chunksIn source).map fun chunk => ⟨bundle.1, filesIn bundle.2, source, chunk⟩

/-- The chunks that the search comes to for a source: those of the first with an equal id. -/
def joinedPlaces (bundle : String × List (String × Node)) (source : Json F) : List (Place F) :=
  ((sourcesIn F bundle.2).find? (sameId · source)).elim [] (chunkPlaces bundle)

theorem placesOf_ok (h : Imported F root) (hbundle : bundle ∈ bundlesOf root)
    (source : Json F) : placesOf root (rowOf bundle.1 source) = .ok (joinedPlaces bundle source) := by
  obtain ⟨hok, hlisting⟩ := mem_bundlesOf h hbundle
  obtain ⟨manifest, hload, hdict, hsources⟩ := hok.manifest
  have hrows : ∀ row ∈ sourcesIn F bundle.2, row.isDict = true := fun row hrow => (hok.sources row hrow).isDict
  have hentries : ((get? root (rowOf bundle.1 source).bundleId).bind Node.listing?).getD [] = bundle.2 := by
    rw [show (rowOf bundle.1 source).bundleId = bundle.1 from rfl, hlisting, Option.getD_some]
  simp only [placesOf, hentries, hload, bind_ok, getOf_ok, Except.ok.injEq, exists_eq_left']
  refine ⟨_, ⟨hdict, rfl⟩, _, iterated_of_array hsources, _, findSource_ok hrows, ?_⟩
  rw [joinedPlaces]
  cases hfind : (sourcesIn F bundle.2).find? (sameId · source) with
  | none =>
    have hfind' : (sourcesIn F bundle.2).find?
        (fun row => (row.item "source_id").same (rowOf bundle.1 source).sourceId) = none := hfind
    rw [hfind']
    rfl
  | some first =>
    have hfind' : (sourcesIn F bundle.2).find?
        (fun row => (row.item "source_id").same (rowOf bundle.1 source).sourceId) = some first :=
      hfind
    have hfirst := hok.sources first (List.mem_of_find?_eq_some hfind)
    obtain ⟨chunks, hchunks, -, -⟩ := hfirst.chunks
    have htruthy : first.truthy = true := by
      rcases first with _ | _ | _ | _ | _ | _ | (_ | _) <;> first | rfl | cases hchunks
    rw [hfind']
    simp only [htruthy, if_pos, bind_ok, pure_ok]
    refine ⟨chunks, iterated_of_array hchunks, ?_⟩
    rw [Option.elim_some, chunkPlaces, chunksIn, hchunks, Option.getD_some]
    rfl

/-- The chunks that the search comes to, one source after another. -/
def joined (F : Type) [EqFloat F] (root : Dict Node) : List (Place F) :=
  (bundlesOf root).flatMap fun bundle => (sourcesIn F bundle.2).flatMap (joinedPlaces bundle)

theorem mapM_rows {β : Type} {f : MapRow F → Except Raised (List β)} {g : String × List (String × Node) → Json F → List β}
    (hf : ∀ bundle ∈ bundlesOf root, ∀ source ∈ sourcesIn F bundle.2, f (rowOf bundle.1 source) = .ok (g bundle source))
    (h : Imported F root) : ∃ rows, map root = .ok rows ∧ ∃ found, rows.mapM f = .ok found ∧
      found.flatten = (bundlesOf root).flatMap fun bundle => (sourcesIn F bundle.2).flatMap (g bundle) := by
  refine ⟨_, map_ok h, ((bundlesOf root).map fun bundle => (sourcesIn F bundle.2).map (g bundle)).flatten, ?_, ?_⟩
  · refine mapM_ok.mpr (List.rel_flatten ?_)
    refine List.forall₂_map_left_iff.mpr (List.forall₂_map_right_iff.mpr (List.forall₂_same.mpr ?_))
    intro bundle hbundle
    refine List.forall₂_map_left_iff.mpr (List.forall₂_map_right_iff.mpr (List.forall₂_same.mpr ?_))
    exact hf bundle hbundle
  · rw [List.flatten_flatten, List.map_map, List.flatMap_def]
    rfl

theorem considered_ok (h : Imported F root) : considered F root = .ok (joined F root) := by
  obtain ⟨rows, hrows, found, hfound, heq⟩ := mapM_rows (fun bundle hbundle source _ => placesOf_ok h hbundle source) h
  simp only [considered, bind_ok, pure_ok]
  exact ⟨rows, hrows, found, hfound, heq⟩

end Considered

/-! ## The hits that are taken -/

section Taken

variable {S : Type}

/-- A hit as it is returned: the found one, with its text or a beginning of it. -/
structure Shows (found hit : EvidenceHit S) : Prop where
  fields : hit = { found with text := hit.text }
  start : hit.text.toList <+: found.text.toList
  readable : hit.text ≠ ""

def charsOf (hits : List (EvidenceHit S)) : Nat := (hits.map fun hit => hit.text.toList.length).sum

/-- What the loop takes of the hits found: a beginning of them, all but the last one whole. -/
structure Takes (maxHits maxChars : Int) (used taken : Nat) (found hits : List (EvidenceHit S)) : Prop where
  shows : List.Forall₂ Shows (found.take hits.length) hits
  whole : hits.dropLast = (found.take hits.length).dropLast
  chars : ((used + charsOf hits : Nat) : Int) ≤ maxChars
  count : ((taken + hits.length : Nat) : Int) ≤ maxHits
  full : hits.length < found.length →
    maxHits ≤ (taken + hits.length : Nat) ∨ maxChars ≤ (used + charsOf hits : Nat)

theorem takes_takeHits {maxHits maxChars : Int} : ∀ {found : List (EvidenceHit S)} {used taken : Nat},
    (∀ hit ∈ found, hit.text ≠ "") → (used : Int) ≤ maxChars → (taken : Int) ≤ maxHits →
      Takes maxHits maxChars used taken found (takeHits maxHits maxChars found used taken)
  | [], used, taken, _, hused, htaken => by
    refine ⟨.nil, rfl, ?_, ?_, ?_⟩
    · simpa [takeHits, charsOf] using hused
    · simpa [takeHits] using htaken
    · intro hlt
      exact absurd hlt (Nat.not_lt_zero _)
  | hit :: found, used, taken, hreadable, hused, htaken => by
    obtain ⟨hhit, hfound⟩ := List.forall_mem_cons.mp hreadable
    rw [takeHits]
    dsimp only
    by_cases hstop : maxChars - used ≤ 0 ∨ maxHits ≤ taken
    · rw [if_pos hstop]
      refine ⟨.nil, rfl, ?_, ?_, ?_⟩
      · simpa [charsOf] using hused
      · simpa using htaken
      · intro _
        simp only [charsOf, List.map_nil, List.sum_nil, List.length_nil, Nat.add_zero]
        omega
    rw [if_neg hstop]
    obtain ⟨n, hn⟩ : ∃ n : Nat, maxChars - used = n := Int.eq_ofNat_of_zero_le (by omega)
    have hlist : hit.text.toList ≠ [] := fun heq => hhit (String.toList_inj.mp heq)
    have htake : hit.text.toList.take n ≠ [] := by
      intro heq
      rcases List.take_eq_nil_iff.mp heq with hzero | hnil
      · omega
      · exact hlist hnil
    rw [hn, Int.toNat_natCast, if_neg fun heq => htake (by simpa using congrArg String.toList heq)]
    have hlen : (String.ofList (hit.text.toList.take n)).toList.length = min n hit.text.toList.length := by
      rw [String.toList_ofList, List.length_take]
    have hrest := @takes_takeHits maxHits maxChars found (used + (String.ofList (hit.text.toList.take n)).toList.length)
      (taken + 1) hfound (by omega) (by omega)
    generalize hhits : takeHits maxHits maxChars found (used + (String.ofList (hit.text.toList.take n)).toList.length)
      (taken + 1) = hits at hrest ⊢
    have hchars : charsOf ({ hit with text := String.ofList (hit.text.toList.take n) } :: hits) =
        (String.ofList (hit.text.toList.take n)).toList.length + charsOf hits := by
      rw [charsOf, List.map_cons, List.sum_cons, charsOf]
    refine ⟨?_, ?_, ?_, ?_, ?_⟩
    · rw [List.length_cons, List.take_succ_cons]
      refine .cons ⟨rfl, ?_, ?_⟩ hrest.shows
      · rw [String.toList_ofList]
        exact List.take_prefix n _
      · exact fun heq => htake (by simpa using congrArg String.toList heq)
    · rw [List.length_cons, List.take_succ_cons]
      -- a hit is cut only where that uses up the characters, and then it is the last
      match hits, hhits, hrest with
      | [], _, _ => rfl
      | first :: hits, hhits, hrest =>
        have hroom : n ≠ min n hit.text.toList.length := by
          intro heq
          match found, hhits with
          | [], hhits => cases hhits
          | next :: found, hhits =>
            rw [takeHits] at hhits
            dsimp only at hhits
            rw [if_pos (Or.inl (by omega))] at hhits
            cases hhits
        have hall : String.ofList (hit.text.toList.take n) = hit.text := by
          rw [List.take_of_length_le (by omega), String.ofList_toList]
        have htaken : found.take (first :: hits).length ≠ [] := by
          intro hnil
          have := hrest.shows.length_eq
          rw [hnil] at this
          cases this
        rw [List.dropLast_cons_of_ne_nil htaken, List.dropLast_cons_of_ne_nil (List.cons_ne_nil _ _), hrest.whole, hall]
    · rw [hchars]
      have := hrest.chars
      omega
    · rw [List.length_cons]
      have := hrest.count
      omega
    · intro hlt
      rw [hchars, List.length_cons]
      rw [List.length_cons, List.length_cons] at hlt
      have := hrest.full (by omega)
      omega

end Taken

variable {root : Dict Node} {S : Type} [PyScore S] {query : List String}

/-! ## What is found in a chunk -/

/-- The hit of a chunk that is read. -/
def found? (u : Unicode) (query : List String) (place : Place F) : Option (EvidenceHit S) :=
  (hitAt u query place).toOption.join

/-- A hit of a chunk, with what it says of the source that contains it. -/
structure FoundAt (u : Unicode) (query : List String) (place : Place F) (found : EvidenceHit S) : Prop where
  hit : hitAt u query place = .ok (some found)
  bundleId : found.bundleId = place.bundleId
  sourceId : found.sourceId = (place.source.item "source_id").toStr
  chunkId : found.chunkId = (place.chunk.item "chunk_id").toStr
  title : found.title = (place.source.item "title").toStr
  url : found.url = (place.source.item "url").toStr
  contentSha256 : found.contentSha256 = (place.source.item "content_sha256").toStr
  injectionRisk : found.injectionRisk = (place.source.item "injection_risk").toStr

theorem terms_empty (hempty : u.nfkc "" = "") : terms u "" = [] := by
  rw [terms, hempty]
  rfl

variable {place : Place F}

theorem hitAt_text (query : List String) {raw : List UInt8} {text : String} (hdict : place.chunk.isDict = true)
    (hraw : (place.files.lookup (fileOf place.chunk)).bind Node.bytes? = some raw) (htext : Utf8.decode? raw = some text) :
    (∃ found : EvidenceHit S, hitAt u query place = .ok (some found)) ∧
        query.filter (· ∈ terms u (String.ofList (universalNewlines text.toList))) ≠ [] ∨
      hitAt (S := S) u query place = .ok none ∧
        query.filter (· ∈ terms u (String.ofList (universalNewlines text.toList))) = [] := by
  have hget : getOf place.chunk "file" = .ok (place.chunk.get? "file") := getOf_ok.mpr ⟨hdict, rfl⟩
  have hraw' : (place.files.lookup (Json.textOr (place.chunk.get? "file"))).bind Node.bytes? = some raw := hraw
  simp only [hitAt, hget, hraw', bind_ok, Except.ok.injEq, exists_eq_left', orRaise_ok, htext, Option.some.injEq]
  split
  · rename_i hoverlap
    exact Or.inr ⟨rfl, hoverlap⟩
  · rename_i hoverlap
    exact Or.inl ⟨⟨_, rfl⟩, hoverlap⟩

theorem hitAt_returns (query : List String) (h : ChunkOk place.files place.chunk) :
    hitAt (S := S) u query place = .ok (found? u query place) := by
  obtain ⟨raw, text, hraw, htext⟩ := h.readable
  have hreturns : ∃ o, hitAt (S := S) u query place = .ok o := by
    rcases hitAt_text (S := S) query h.isDict hraw htext with ⟨⟨found, hfound⟩, -⟩ | ⟨hnone, -⟩
    · exact ⟨_, hfound⟩
    · exact ⟨_, hnone⟩
  obtain ⟨o, ho⟩ := hreturns
  rw [found?, ho]
  rfl

variable {found : EvidenceHit S}

theorem foundAt_of_hitAt (h : hitAt u query place = .ok (some found)) :
    FoundAt u query place found := by
  have hfound := h
  simp only [hitAt, bind_ok] at h
  obtain ⟨file, -, h⟩ := h
  split at h
  · cases h
  · simp only [bind_ok] at h
    obtain ⟨decoded, -, h⟩ := h
    split at h
    · cases h
    · cases h
      exact ⟨hfound, rfl, rfl, rfl, rfl, rfl, rfl, rfl⟩

theorem text_ne_of_hitAt (hempty : u.nfkc "" = "")
    (h : hitAt u query place = .ok (some found)) : found.text ≠ "" := by
  simp only [hitAt, bind_ok] at h
  obtain ⟨file, -, h⟩ := h
  split at h
  · cases h
  · simp only [bind_ok] at h
    obtain ⟨decoded, -, h⟩ := h
    split at h
    · cases h
    · rename_i hoverlap
      cases h
      intro htext
      refine hoverlap (List.filter_eq_nil_iff.mpr fun word _ => ?_)
      dsimp only at htext
      rw [htext, terms_empty hempty]
      simp

theorem hitAt_idle : hitAt u [] place ≠ .ok (some found) := by
  intro h
  simp only [hitAt, bind_ok] at h
  obtain ⟨file, -, h⟩ := h
  split at h
  · cases h
  · simp only [bind_ok] at h
    obtain ⟨decoded, -, h⟩ := h
    rw [if_pos List.filter_nil] at h
    cases h

/-! ## All chunks -/

theorem chunkOk_of_mem (h : Imported F root) (hplace : place ∈ allPlaces F root) :
    ChunkOk place.files place.chunk := by
  obtain ⟨bundle, hbundle, hplace⟩ := List.mem_flatMap.mp hplace
  obtain ⟨source, hsource, hplace⟩ := List.mem_flatMap.mp hplace
  obtain ⟨chunk, hchunk, rfl⟩ := List.mem_map.mp hplace
  obtain ⟨chunks, hchunks, -, hok⟩ := ((mem_bundlesOf h hbundle).1.sources source hsource).chunks
  rw [chunksIn, hchunks, Option.getD_some] at hchunk
  exact hok chunk hchunk

theorem joinedPlaces_subset (hplace : place ∈ joinedPlaces bundle source) : ∃ first ∈ sourcesIn F bundle.2,
      (sourcesIn F bundle.2).find? (sameId · source) = some first ∧ place ∈ chunkPlaces bundle first := by
  rw [joinedPlaces] at hplace
  cases hfind : (sourcesIn F bundle.2).find? (sameId · source) with
  | none =>
    rw [hfind] at hplace
    cases hplace
  | some first =>
    rw [hfind] at hplace
    exact ⟨first, List.mem_of_find?_eq_some hfind, rfl, hplace⟩

theorem joined_subset : joined F root ⊆ allPlaces F root := by
  intro place hplace
  obtain ⟨bundle, hbundle, hplace⟩ := List.mem_flatMap.mp hplace
  obtain ⟨source, hsource, hplace⟩ := List.mem_flatMap.mp hplace
  obtain ⟨first, hfirst, -, hplace⟩ := joinedPlaces_subset hplace
  exact List.mem_flatMap.mpr ⟨bundle, hbundle, List.mem_flatMap.mpr ⟨first, hfirst, hplace⟩⟩

theorem nodup_allPlaces (h : Imported F root) : (allPlaces F root).Nodup := by
  refine List.nodup_flatMap.mpr ⟨?_, ?_⟩
  · intro bundle hbundle
    have hfiles : (placesIn F bundle).map (fun place => fileOf place.chunk) =
        ((sourcesIn F bundle.2).flatMap chunksIn).map fileOf := by
      rw [placesIn, List.map_flatMap, List.map_flatMap]
      refine congrArg (List.flatMap · (sourcesIn F bundle.2)) (funext fun source => ?_)
      rw [List.map_map]
      rfl
    exact List.Nodup.of_map _ (hfiles ▸ (mem_bundlesOf h hbundle).1.files)
  · refine (List.pairwise_map.mp (nodup_bundlesOf (h.nodup))).imp fun {a b} hne => ?_
    intro place ha hb
    obtain ⟨_, -, ha⟩ := List.mem_flatMap.mp ha
    obtain ⟨_, -, rfl⟩ := List.mem_map.mp ha
    obtain ⟨_, -, hb⟩ := List.mem_flatMap.mp hb
    obtain ⟨_, -, heq⟩ := List.mem_map.mp hb
    exact hne (congrArg Place.bundleId heq).symm

theorem nodup_sourcesIn (h : BundleOk F entries) : (sourcesIn F entries).Nodup := by
  have hfiles := List.Nodup.of_map _ h.files
  obtain ⟨-, hdisjoint⟩ := List.nodup_flatMap.mp hfiles
  refine List.Pairwise.imp_of_mem ?_ hdisjoint
  intro a b ha _ hdisj heq
  obtain ⟨chunks, hchunks, hne, -⟩ := (h.sources a ha).chunks
  have hin : chunksIn a = chunks := by rw [chunksIn, hchunks, Option.getD_some]
  obtain ⟨chunk, hchunk⟩ := List.exists_mem_of_ne_nil _ (hin ▸ hne : chunksIn a ≠ [])
  exact hdisj hchunk (heq ▸ hchunk)

theorem joined_of_distinctIds (h : Imported F root) (hids : DistinctIds F root) : joined F root = allPlaces F root := by
  refine List.flatMap_congr fun bundle hbundle => List.flatMap_congr fun source hsource => ?_
  have hself := (find?_self_iff (p := sameId) (nodup_sourcesIn (mem_bundlesOf h hbundle).1)).mpr (hids bundle hbundle)
  rw [joinedPlaces, hself source hsource]
  rfl

theorem distinctIds_of_joined (h : Imported F root) (hall : allPlaces F root ⊆ joined F root) : DistinctIds F root := by
  intro bundle hbundle
  have hok := (mem_bundlesOf h hbundle).1
  have hnodup := nodup_sourcesIn hok
  refine (find?_self_iff (p := sameId) hnodup).mp
    (find?_self_of_surjective (p := sameId) (fun _ _ hsame => Json.same_right hsame) hnodup ?_)
  intro source hsource
  obtain ⟨chunks, hchunks, hne, -⟩ := (hok.sources source hsource).chunks
  have hin : chunksIn source = chunks := by rw [chunksIn, hchunks, Option.getD_some]
  obtain ⟨chunk, hchunk⟩ := List.exists_mem_of_ne_nil _ (hin ▸ hne : chunksIn source ≠ [])
  have hplace : (⟨bundle.1, filesIn bundle.2, source, chunk⟩ : Place F) ∈ allPlaces F root :=
    List.mem_flatMap.mpr ⟨bundle, hbundle, List.mem_flatMap.mpr ⟨source, hsource, List.mem_map_of_mem hchunk⟩⟩
  -- a row of the same bundle brings the search to this chunk
  obtain ⟨bundle', hbundle', hplace⟩ := List.mem_flatMap.mp (hall hplace)
  obtain ⟨other, hother, hplace⟩ := List.mem_flatMap.mp hplace
  obtain ⟨first, hfirst, hfind, hplace⟩ := joinedPlaces_subset hplace
  obtain ⟨chunk', -, heq⟩ := List.mem_map.mp hplace
  have hname : bundle'.1 = bundle.1 := congrArg Place.bundleId heq
  have hsame : bundle' = bundle := List.inj_on_of_nodup_map (nodup_bundlesOf h.nodup) hbundle' hbundle hname
  have hfirst' : first = source := congrArg Place.source heq
  subst hsame hfirst'
  exact ⟨other, hother, hfind⟩

/-! ## The search -/

/-- Calls that return nothing without a look at the root. -/
def Idle (u : Unicode) (query : String) (maxHits maxChars : Int) : Prop := terms u query = [] ∨ maxHits ≤ 0 ∨ maxChars ≤ 0

theorem candidates_ok (query : List String) (h : Imported F root) : ∃ rows : List (MapRow F), map root = .ok rows ∧
    candidates (S := S) u root query rows = .ok ((joined F root).filterMap (found? u query)) := by
  have hrow : ∀ bundle ∈ bundlesOf root, ∀ source ∈ sourcesIn F bundle.2,
      (do
        let places ← placesOf root (rowOf bundle.1 source)
        let hits ← places.mapM (hitAt (S := S) u query)
        return hits.filterMap id) = .ok ((joinedPlaces bundle source).filterMap (found? u query)) := by
    intro bundle hbundle source hsource
    simp only [bind_ok, pure_ok]
    refine ⟨_, placesOf_ok h hbundle source, (joinedPlaces bundle source).map (found? u query), ?_, ?_⟩
    · refine mapM_ok.mpr (List.forall₂_map_right_iff.mpr (List.forall₂_same.mpr ?_))
      intro place hplace
      refine hitAt_returns query (chunkOk_of_mem h (joined_subset ?_))
      exact List.mem_flatMap.mpr ⟨bundle, hbundle, List.mem_flatMap.mpr ⟨source, hsource, hplace⟩⟩
    · rw [List.filterMap_map, Function.id_comp]
  obtain ⟨rows, hrows, found, hfound, heq⟩ := mapM_rows (f := fun row => do
      let places ← placesOf root row
      let hits ← places.mapM (hitAt (S := S) u query)
      return hits.filterMap id)
    (g := fun bundle source => (joinedPlaces bundle source).filterMap (found? u query)) hrow h
  refine ⟨rows, hrows, ?_⟩
  simp only [candidates, bind_ok, pure_ok]
  refine ⟨found, hfound, ?_⟩
  rw [heq, joined, List.filterMap_flatMap]
  simp only [List.filterMap_flatMap]

/-- What is found in chunks, the best first. -/
def ranked (S : Type) [PyScore S] (u : Unicode) (query : List String) (places : List (Place F)) : List (EvidenceHit S) :=
  sortedBy hitKey (places.filterMap (found? u query))

theorem search_ok (h : Imported F root) (query : String) {maxHits maxChars : Int} (hidle : ¬ Idle u query maxHits maxChars) :
    search (S := S) u root (map (F := F) root) query maxHits maxChars =
      .ok (takeHits maxHits maxChars (ranked S u (terms u query) (joined F root)) 0 0) := by
  obtain ⟨rows, hrows, hfound⟩ := candidates_ok (S := S) (u := u) (terms u query) h
  unfold Idle at hidle
  rw [search, if_neg hidle, hrows]
  simp only [bind_ok, pure_ok, Except.ok.injEq, exists_eq_left']
  exact ⟨_, hfound, rfl⟩

/-- The best of what is found in chunks. `taken` are the chunks and `found` what is found there. -/
structure Best (u : Unicode) (root : Dict Node) (query : List String) (maxHits maxChars : Int)
    (taken : List (Place F)) (found hits : List (EvidenceHit S)) : Prop where
  distinct : taken.Nodup
  within : taken ⊆ allPlaces F root
  foundAt : List.Forall₂ (FoundAt u query) taken found
  order : found.Pairwise fun a b => hitKey a ≤ hitKey b
  shows : List.Forall₂ Shows found hits
  whole : hits.dropLast = found.dropLast
  chars : charsOf hits ≤ maxChars.toNat
  count : hits.length ≤ maxHits.toNat
  leftOut : ∀ place ∈ allPlaces F root, place ∉ taken → ∀ other, FoundAt u query place other →
    (∀ hit ∈ found, hitKey hit ≤ hitKey other) ∧ (maxHits.toNat ≤ hits.length ∨ maxChars.toNat ≤ charsOf hits)

theorem best_idle {query : String} {maxHits maxChars : Int} (hidle : Idle u query maxHits maxChars) :
    Best (F := F) (S := S) u root (terms u query) maxHits maxChars [] [] [] where
  distinct := List.nodup_nil
  within := List.nil_subset _
  foundAt := .nil
  order := .nil
  shows := .nil
  whole := rfl
  chars := Nat.zero_le _
  count := Nat.zero_le _
  leftOut place _ _ other hother := by
    refine ⟨List.forall_mem_nil _, ?_⟩
    rcases hidle with hterms | hhits | hchars
    · exact absurd (hterms ▸ hother.hit) hitAt_idle
    · exact Or.inl (by rw [Int.toNat_of_nonpos hhits]; exact Nat.zero_le _)
    · exact Or.inr (by rw [Int.toNat_of_nonpos hchars]; exact Nat.zero_le _)

theorem best_takeHits (hempty : u.nfkc "" = "") {places : List (Place F)} (hperm : places.Perm (allPlaces F root))
    (hnodup : (allPlaces F root).Nodup) (hread : ∀ place ∈ allPlaces F root, ChunkOk place.files place.chunk)
    {maxHits maxChars : Int} (hhits : 0 ≤ maxHits) (hchars : 0 ≤ maxChars) :
    ∃ (taken : List (Place F)) (found : List (EvidenceHit S)), Best u root query maxHits maxChars taken found
      (takeHits maxHits maxChars (ranked S u query places) 0 0) := by
  -- the hits with the chunks they were found in, ranked
  obtain ⟨pairs, hpairs⟩ : ∃ pairs : List (Place F × EvidenceHit S), pairs =
      places.filterMap fun place => (found? u query place).map (Prod.mk place) := ⟨_, rfl⟩
  have hmem : ∀ pair, pair ∈ pairs ↔ pair.1 ∈ places ∧ found? u query pair.1 = some pair.2 := by
    intro pair
    rw [hpairs, List.mem_filterMap]
    refine ⟨?_, fun ⟨hplace, hfound⟩ => ⟨pair.1, hplace, by rw [hfound]; rfl⟩⟩
    rintro ⟨place, hplace, hsome⟩
    obtain ⟨found, hfound, rfl⟩ := Option.map_eq_some_iff.mp hsome
    exact ⟨hplace, hfound⟩
  have hsnd : pairs.map Prod.snd = places.filterMap (found? u query) := by
    rw [hpairs, List.map_filterMap]
    refine List.filterMap_congr fun place _ => ?_
    rw [Option.map_map]
    exact Option.map_id_apply
  have hfst : pairs.map Prod.fst = places.filter fun place => (found? (S := S) u query place).isSome := by
    rw [hpairs, List.map_filterMap, ← List.filterMap_eq_filter]
    refine List.filterMap_congr fun place _ => ?_
    cases hfound : found? (S := S) u query place with
    | none => simp [Option.guard, hfound]
    | some found => simp [Option.guard, hfound]
  obtain ⟨sorted, hsorted⟩ : ∃ sorted, sorted = sortedBy (fun pair : Place F × EvidenceHit S => hitKey pair.2) pairs := ⟨_, rfl⟩
  have hranked : ranked S u query places = sorted.map Prod.snd := by
    rw [ranked, hsorted, ← hsnd]
    exact (List.map_insertionSort _ _ Prod.snd pairs fun _ _ _ _ => Iff.rfl).symm
  have hsmem : ∀ pair, pair ∈ sorted ↔ pair.1 ∈ allPlaces F root ∧ found? u query pair.1 = some pair.2 := by
    intro pair
    rw [hsorted, mem_sortedBy, hmem, hperm.mem_iff]
  have hsnodup : (sorted.map Prod.fst).Nodup := by
    rw [hsorted, (sortedBy_perm.map Prod.fst).nodup_iff, hfst]
    exact (hperm.nodup_iff.mpr hnodup).filter _
  have horder : sorted.Pairwise fun a b => hitKey a.2 ≤ hitKey b.2 := by
    rw [hsorted]
    exact sortedBy_pairwise
  have hhit : ∀ pair ∈ sorted, hitAt u query pair.1 = .ok (some pair.2) := by
    intro pair hpair
    obtain ⟨hplace, hfound⟩ := (hsmem pair).mp hpair
    rw [hitAt_returns query (hread _ hplace), hfound]
  have htakes : Takes maxHits maxChars 0 0 (ranked S u query places) (takeHits maxHits maxChars (ranked S u query places) 0 0) :=
    takes_takeHits ?_ (by simpa using hchars) (by simpa using hhits)
  · generalize takeHits maxHits maxChars (ranked S u query places) 0 0 = hits at htakes ⊢
    obtain ⟨hshows, hwhole, hsum, hcount, hfull⟩ := htakes
    rw [hranked, ← List.map_take] at hshows hwhole
    rw [Nat.zero_add] at hsum hcount
    rw [hranked, List.length_map, Nat.zero_add, Nat.zero_add] at hfull
    have hpart : sorted.take hits.length ⊆ sorted := List.take_subset _ _
    refine ⟨(sorted.take hits.length).map Prod.fst, (sorted.take hits.length).map Prod.snd, ?_, ?_, ?_, ?_, hshows,
      hwhole, ?_, ?_, ?_⟩
    · exact hsnodup.sublist ((List.take_sublist _ _).map Prod.fst)
    · intro place hplace
      obtain ⟨pair, hpair, rfl⟩ := List.mem_map.mp hplace
      exact ((hsmem pair).mp (hpart hpair)).1
    · refine List.forall₂_map_left_iff.mpr (List.forall₂_map_right_iff.mpr (List.forall₂_same.mpr ?_))
      intro pair hpair
      exact foundAt_of_hitAt (hhit pair (hpart hpair))
    · exact List.pairwise_map.mpr (horder.sublist (List.take_sublist _ _))
    · omega
    · omega
    · intro place hplace hnot other hother
      have hpair : (place, other) ∈ sorted := by
        refine (hsmem _).mpr ⟨hplace, ?_⟩
        have hreturns := hitAt_returns (S := S) (u := u) query (hread place hplace)
        rw [hother.hit] at hreturns
        exact (Except.ok.inj hreturns).symm
      have hsplit := List.take_append_drop hits.length sorted
      have hdrop : (place, other) ∈ sorted.drop hits.length := by
        rw [← hsplit] at hpair
        exact (List.mem_append.mp hpair).resolve_left fun htaken => hnot (List.mem_map_of_mem htaken)
      refine ⟨?_, ?_⟩
      · intro hit hmemhit
        obtain ⟨pair, hpair, rfl⟩ := List.mem_map.mp hmemhit
        rw [← hsplit] at horder
        exact (List.pairwise_append.mp horder).2.2 pair hpair _ hdrop
      · have hlt : hits.length < sorted.length := by
          by_contra hle
          rw [List.drop_eq_nil_of_le (by omega)] at hdrop
          cases hdrop
        have := hfull hlt
        omega
  · intro hit hmemhit
    rw [hranked] at hmemhit
    obtain ⟨pair, hpair, rfl⟩ := List.mem_map.mp hmemhit
    exact text_ne_of_hitAt hempty (hhit pair hpair)

/-- The search comes to every chunk once, and its hits are the best of what is found there. -/
structure Searches (F : Type) [EqFloat F] (S : Type) [PyScore S] (u : Unicode) (root : Dict Node) (query : String)
    (maxHits maxChars : Int) : Prop where
  considers : ¬ Idle u query maxHits maxChars → ∃ places, considered F root = .ok places ∧
    places.Perm (allPlaces F root) ∧ places.Nodup ∧ search (S := S) u root (map (F := F) root) query maxHits maxChars =
      .ok (takeHits maxHits maxChars (ranked S u (terms u query) places) 0 0)
  returns : ∃ hits, search (S := S) u root (map (F := F) root) query maxHits maxChars = .ok hits ∧
    ∃ taken found, Best (F := F) u root (terms u query) maxHits maxChars taken found hits

/-- The search is complete just where it looks at nothing, or no two sources of a bundle have equal ids. -/
theorem searches_chunks (hempty : u.nfkc "" = "") (given : List (String × Node)) (query : String) (maxHits maxChars : Int) :
    Searches F S u (importRun F u given) query maxHits maxChars ↔
      Idle u query maxHits maxChars ∨ DistinctIds F (importRun F u given) := by
  have himported := imported_importRun (F := F) (u := u) given
  refine ⟨fun h => ?_, fun h => ⟨fun hidle => ?_, ?_⟩⟩
  · by_cases hidle : Idle u query maxHits maxChars
    · exact Or.inl hidle
    · obtain ⟨places, hplaces, hperm, -, -⟩ := h.considers hidle
      rw [considered_ok himported] at hplaces
      cases hplaces
      exact Or.inr (distinctIds_of_joined himported hperm.symm.subset)
  · have hjoined := joined_of_distinctIds himported (h.resolve_left hidle)
    refine ⟨_, considered_ok himported, ?_, ?_, search_ok himported query hidle⟩
    · rw [hjoined]
    · rw [hjoined]
      exact nodup_allPlaces himported
  · by_cases hidle : Idle u query maxHits maxChars
    · refine ⟨[], ?_, [], [], best_idle hidle⟩
      unfold Idle at hidle
      rw [search, if_pos hidle]
      rfl
    · have hjoined := joined_of_distinctIds himported (h.resolve_left hidle)
      refine ⟨_, search_ok himported query hidle, ?_⟩
      rw [hjoined]
      unfold Idle at hidle
      exact best_takeHits hempty (List.Perm.refl _) (nodup_allPlaces himported) (fun place => chunkOk_of_mem himported)
        (by omega) (by omega)

/-! ## Two sources with one id -/

instance : PyScore ℚ where
  ratio a b := a / b
  ofNat n := n
  mul a b := a * b
  add a b := a + b

/-- Two sources whose texts share no word, the second with a given id. -/
def twins (sourceId : String) : List ExportedSource := [forgedAt "S1" 1 "aa", forgedAt sourceId 2 "bb"]

theorem twins_files : (chunkFile "S1" 1 1 "aa").file = "0001-S1-c001.txt" ∧
    (chunkFile "S1" 2 1 "bb").file = "0002-S1-c001.txt" := by
  refine ⟨?_, ?_⟩
  · show fileName 1 "S1-c001" = _
    decide
  · show fileName 2 "S1-c001" = _
    decide

theorem fileOf_json (c : ChunkFile) : fileOf (c.json : Json WholeFloat) = c.file := by
  have hget : (c.json : Json WholeFloat).get? "file" = some (.str c.file) := by
    rw [ChunkFile.json, get?_dict]
    rfl
  rw [fileOf, hget]
  exact textOr_str _

theorem twins_fit : BundleFit asciiTables (twins sourceId) := by
  have hbytes : (Utf8.encode "aa").length = 2 ∧ (Utf8.encode "bb").length = 2 := by decide
  have hsize : 4 ≤ maxBundleBytes := by decide
  refine ⟨List.cons_ne_nil _ _, (by decide : 2 ≤ maxSources), ?_, (by decide : 2 ≤ maxChunks), ?_, ?_, ?_⟩
  · intro s hs
    rcases List.mem_pair.mp hs with rfl | rfl
    · exact forged_sourceFit
    · exact forged_sourceFit
  · show (Utf8.encode "aa").length + ((Utf8.encode "bb").length + 0) ≤ maxBundleBytes
    omega
  · intro c hc
    rcases List.mem_pair.mp hc with rfl | rfl
    · exact fileName_safe 1 _
    · exact fileName_safe 2 _
  · show [(chunkFile "S1" 1 1 "aa").file, (chunkFile "S1" 2 1 "bb").file].Nodup
    rw [twins_files.1, twins_files.2]
    decide

def twinEntries (sourceId : String) (manifest : List UInt8) : List (String × Node) :=
  [("chunks", .dir (chunkNodes ((twins sourceId).flatMap (·.chunks)))), ("manifest.json", .file manifest)]

theorem twins_imported (hshort : sourceId.toList.length ≤ 80) : ∃ given manifest,
    bundlesOf (importRun WholeFloat asciiTables given) = [(forgedId, twinEntries sourceId manifest)] ∧
      sourcesIn WholeFloat (twinEntries sourceId manifest) = (twins sourceId).map (·.json) := by
  have hread : ∀ s ∈ twins sourceId, ∀ c ∈ s.chunks, ChunkReadable asciiTables s.risk c.text := by
    intro s hs c hc
    rcases List.mem_pair.mp hs with rfl | rfl
    · rw [List.mem_singleton.mp hc]
      exact ⟨"aa", .low, by decide, Nat.le_refl _⟩
    · rw [List.mem_singleton.mp hc]
      exact ⟨"bb", .low, by decide, Nat.le_refl _⟩
  have hforged : ∀ s ∈ twins sourceId, Forged s := by
    intro s hs
    rcases List.mem_pair.mp hs with rfl | rfl
    · exact ⟨"S1", 1, "aa", by decide, Or.inl rfl, by decide, rfl⟩
    · exact ⟨sourceId, 2, "bb", hshort, Or.inr rfl, by decide, rfl⟩
  obtain ⟨manifest, m, hvalid, hloads, hid, hsources⟩ := forged_written twins_fit hread hforged (Nat.le_refl 2)
  have hname : ∀ n ∈ some forgedId, n = forgedId := fun n hn => (Option.some.inj hn).symm
  have hnone : ∀ n ∈ (none : Option String), n = forgedId := fun n hn => nomatch hn
  have himport : importBundle WholeFloat asciiTables [] forgedId (bundleNode manifest (twins sourceId)) =
      .ok (forgedId, [(forgedId, bundleNode manifest (twins sourceId))]) := by
    simp only [importBundle, bind_ok]
    refine ⟨m, hvalid _ hname, ?_⟩
    rw [toStr_bundleId (hvalid _ hname), hid]
    simp only [PyDict.get?, bind_ok, orRaise_ok, pure_ok]
    exact ⟨_, copytree_bundleNode _ _, m, hvalid _ hnone, rfl⟩
  have hrun : importRun WholeFloat asciiTables [(forgedId, bundleNode manifest (twins sourceId))] =
      [(forgedId, bundleNode manifest (twins sourceId))] := by
    simp only [importRun, List.foldl_cons, List.foldl_nil, importStep, himport]
  have hlisting : (bundleNode manifest (twins sourceId)).listing? =
      some (twinEntries sourceId (Utf8.encode manifest)) := rfl
  have hload : loadManifest (F := WholeFloat) (twinEntries sourceId (Utf8.encode manifest)) = .ok m := by
    simp only [loadManifest, bind_ok, orRaise_ok]
    exact ⟨_, rfl, _, rfl, manifest, Utf8.decode?_encode manifest, hloads⟩
  refine ⟨[(forgedId, bundleNode manifest (twins sourceId))], Utf8.encode manifest, ?_, ?_⟩
  · rw [hrun, bundlesOf]
    show (List.filterMap _ [(forgedId, bundleNode manifest (twins sourceId))]) = _
    rw [List.filterMap_cons, if_pos (show bundleRe forgedId = true by decide), hlisting]
    rfl
  · rw [sourcesIn, manifestIn, hload]
    show (array? (m.get? "sources")).getD [] = _
    rw [hsources]
    rfl

/-- A root of two sources with different ids is searched in full. -/
theorem searches_chunks_two : ∃ given manifest, bundlesOf (importRun WholeFloat asciiTables given) =
      [(forgedId, twinEntries "S2" manifest)] ∧
    Searches WholeFloat ℚ asciiTables (importRun WholeFloat asciiTables given) "bb" 5 20000 := by
  obtain ⟨given, manifest, hbundles, hsources⟩ := twins_imported (by decide : "S2".toList.length ≤ 80)
  refine ⟨given, manifest, hbundles, (searches_chunks rfl given "bb" 5 20000).mpr (Or.inr ?_)⟩
  intro bundle hbundle
  rw [hbundles] at hbundle
  obtain rfl := List.mem_singleton.mp hbundle
  rw [hsources]
  refine ⟨List.pairwise_pair.mpr rfl, ?_⟩
  intro source hsource
  rcases List.mem_pair.mp hsource with rfl | rfl
  · rfl
  · rfl

/-- The place of the chunk that is the `count`-th of the bundle. -/
def twinAt (entries : List (String × Node)) (count : Nat) (text : String) : Place WholeFloat :=
  ⟨forgedId, filesIn entries, (forgedAt "S1" count text).json, (chunkFile "S1" count 1 text).json⟩

theorem twins_joined (hbundles : bundlesOf root = [(forgedId, entries)])
    (hsources : sourcesIn WholeFloat entries = (twins "S1").map (·.json)) :
    joined WholeFloat root = [twinAt entries 1 "aa", twinAt entries 1 "aa"] := by
  have hfirst : ∀ source ∈ (twins "S1").map fun s => (s.json : Json WholeFloat), joinedPlaces (forgedId, entries) source =
      [twinAt entries 1 "aa"] := by
    intro source hsource
    have hsame : sameId ((forgedAt "S1" 1 "aa").json : Json WholeFloat) source = true := by
      rcases List.mem_pair.mp hsource with rfl | rfl
      · rfl
      · rfl
    rw [joinedPlaces, hsources, twins, List.map_cons, List.find?_cons, hsame]
    rfl
  rw [joined, hbundles, List.flatMap_singleton, hsources, twins, List.map_cons, List.map_singleton, List.flatMap_cons,
    List.flatMap_singleton, hfirst _ (by simp [twins]), hfirst _ (by simp [twins])]
  rfl

/-- With both, no word of the second one is found, although a chunk has it: the search comes twice to the first. -/
theorem twin_not_found : ∃ given, search (S := ℚ) asciiTables (importRun WholeFloat asciiTables given)
      (map (F := WholeFloat) (importRun WholeFloat asciiTables given)) "bb" 5 20000 = .ok [] ∧
    ¬ Searches WholeFloat ℚ asciiTables (importRun WholeFloat asciiTables given) "bb" 5 20000 := by
  obtain ⟨given, manifest, hbundles, hsources⟩ := twins_imported (by decide : "S1".toList.length ≤ 80)
  have himported := imported_importRun (F := WholeFloat) (u := asciiTables) given
  have hidle : ¬ Idle asciiTables "bb" 5 20000 := by
    unfold Idle
    decide
  obtain ⟨entries, hentries⟩ : ∃ entries, entries = twinEntries "S1" manifest := ⟨_, rfl⟩
  rw [← hentries] at hbundles hsources
  have hjoined := twins_joined hbundles hsources
  have hfiles : filesIn entries = [("0001-S1-c001.txt", .file (Utf8.encode "aa")),
      ("0002-S1-c001.txt", .file (Utf8.encode "bb"))] := by
    rw [hentries]
    show [((chunkFile "S1" 1 1 "aa").file, Node.file _), ((chunkFile "S1" 2 1 "bb").file, Node.file _)] = _
    rw [twins_files.1, twins_files.2]
    rfl
  have hraw : ((twinAt entries 1 "aa").files.lookup (fileOf (twinAt entries 1 "aa").chunk)).bind Node.bytes? =
        some (Utf8.encode "aa") ∧
      ((twinAt entries 2 "bb").files.lookup (fileOf (twinAt entries 2 "bb").chunk)).bind Node.bytes? =
        some (Utf8.encode "bb") := by
    simp only [twinAt, fileOf_json, twins_files, hfiles]
    exact ⟨rfl, rfl⟩
  have hnone : found? (S := ℚ) asciiTables ["bb"] (twinAt entries 1 "aa") = none := by
    rcases hitAt_text (u := asciiTables) (S := ℚ) ["bb"] rfl hraw.1 (Utf8.decode?_encode "aa") with
      ⟨-, hne⟩ | ⟨hhit, -⟩
    · exact absurd (by decide) hne
    · rw [found?, hhit]
      rfl
  have hother : ∃ other : EvidenceHit ℚ, FoundAt asciiTables ["bb"] (twinAt entries 2 "bb") other := by
    rcases hitAt_text (u := asciiTables) (S := ℚ) ["bb"] rfl hraw.2 (Utf8.decode?_encode "bb") with
      ⟨⟨other, hhit⟩, -⟩ | ⟨-, hnil⟩
    · exact ⟨other, foundAt_of_hitAt hhit⟩
    · exact absurd hnil (by decide)
  have hterms : terms asciiTables "bb" = ["bb"] := by decide
  have hsearch : search (S := ℚ) asciiTables (importRun WholeFloat asciiTables given)
      (map (F := WholeFloat) (importRun WholeFloat asciiTables given)) "bb" 5 20000 = .ok [] := by
    rw [search_ok himported "bb" hidle, hjoined, hterms, ranked, List.filterMap_cons_none hnone, List.filterMap_cons_none hnone]
    rfl
  refine ⟨given, hsearch, fun h => ?_⟩
  obtain ⟨hits, hhits, taken, found, hbest⟩ := h.returns
  rw [hsearch] at hhits
  cases hhits
  have hfound : found = [] := List.forall₂_nil_right_iff.mp hbest.shows
  subst hfound
  have htaken : taken = [] := List.forall₂_nil_right_iff.mp hbest.foundAt
  subst htaken
  obtain ⟨other, hother⟩ := hother
  rw [← hterms] at hother
  have hplace : twinAt entries 2 "bb" ∈
      allPlaces WholeFloat (importRun WholeFloat asciiTables given) := by
    rw [allPlaces, hbundles, List.flatMap_singleton, placesIn]
    refine List.mem_flatMap.mpr ⟨(forgedAt "S1" 2 "bb").json, ?_, List.mem_map.mpr ⟨(chunkFile "S1" 2 1 "bb").json, ?_, rfl⟩⟩
    · rw [hsources]
      exact List.mem_map_of_mem (by simp [twins])
    · exact List.mem_singleton_self _
  have hfull := (hbest.leftOut _ hplace (List.not_mem_nil) other hother).2
  revert hfull
  decide

end ThreeAgent.KnowledgePlane

/-
Public evidence bundles (`knowledge_plane.py`): `PublicEvidenceExporter`,
which writes the accepted sources of a research payload as a directory of
text chunks with a manifest, and `InboundKnowledgeImporter`, which validates
such a directory and copies it into the knowledge root.

A directory is a tree of files, directories and links. Permissions are not
part of it, nor are the staging directories of a process: a call that fails
leaves no destination. The Unicode tables are a parameter (`Unicode`). Reading
a manifest as text translates line ends, which in a JSON text are white space.
-/
import ThreeAgent.Checks
import ThreeAgent.Lib.Dict
import ThreeAgent.Lib.JsonFloat
import ThreeAgent.Lib.Regex
import ThreeAgent.Lib.Url
import ThreeAgent.Lib.Utf8

namespace ThreeAgent.KnowledgePlane

open PyText Outcome PyJson

/-- What is read of the Unicode database. -/
structure Unicode where
  /-- `unicodedata.normalize("NFKC", text)`. -/
  nfkc : String → String
  casefold : String → String
  /-- `c.isalnum()`. -/
  isAlnum : Char → Bool
  nfkc_nfkc : ∀ text, nfkc (nfkc text) = nfkc text

/-- `\w`. -/
def Unicode.isWord (u : Unicode) (c : Char) : Bool := u.isAlnum c || c = '_'

/-- What stands under a name. -/
inductive Node where
  | file (bytes : List UInt8)
  | dir (entries : List (String × Node))
  /-- A symbolic link, with what it leads to. -/
  | link (target : Option Node)

/-- The bytes of a regular file. -/
def Node.bytes? : Node → Option (List UInt8)
  | .file bytes => some bytes
  | _ => none

/-- The entries of a real directory. -/
def Node.entries? : Node → Option (List (String × Node))
  | .dir entries => some entries
  | _ => none

def bundleSchema : String := "workspace-public-evidence/v1"

def maxBundleBytes : Nat := 32 * 1024 * 1024

def maxManifestBytes : Nat := 2 * 1024 * 1024

def maxSourceChars : Nat := 200000

def maxChunkChars : Nat := 8000

def maxSources : Nat := 32

def maxChunks : Nat := 256

def refused (message : String) : Raised := ⟨.knowledgePlaneError, message⟩

/-- `f"sha256:{_sha256_bytes(raw)}"`. -/
def sha256Bytes (raw : List UInt8) : String := "sha256:" ++ String.ofList (Sha256.digest (raw.map UInt8.toNat))

/-! ## Texts -/

inductive Risk where
  | low
  | medium
  | high
  deriving DecidableEq, Repr

def Risk.text : Risk → String
  | .low => "low"
  | .medium => "medium"
  | .high => "high"

def Risk.severity : Risk → Nat
  | .low => 0
  | .medium => 1
  | .high => 2

def Risk.ofText? (s : String) : Option Risk :=
  if s = "low" then some .low else if s = "medium" then some .medium else if s = "high" then some .high else none

/-- `_INJECTION_PATTERNS`. -/
def injectionPatterns : List Regex.Pattern :=
  let spaces := Regex.Pattern.plus .space
  let blanks := Regex.Pattern.star .space
  let colon := Regex.Pattern.one (· = ':')
  [.seq .boundary (.seq (.word "ignore") (.seq spaces (.seq (.opt (.seq (.word "all") spaces))
      (.seq (.word "previous") (.seq spaces (.seq (.word "instruction") (.seq (.opt (.word "s")) .boundary))))))),
    .seq .boundary (.seq (.word "system") (.seq blanks (.seq colon blanks))),
    .seq .boundary (.seq (.word "developer") (.seq blanks (.seq colon blanks))),
    .seq .boundary (.seq (.word "you") (.seq spaces (.seq (.word "are") (.seq spaces (.seq (.word "now") .boundary))))),
    .seq .boundary (.seq (.word "do") (.seq spaces (.seq (.word "not") (.seq spaces (.seq (.word "follow")
      (.seq spaces (.seq (.opt (.seq (.word "the") spaces)) (.seq (.words ["system", "developer", "user"])
        .boundary))))))))]

/-- `_ZERO_WIDTH`. -/
def isZeroWidth (c : Char) : Bool := c.toNat ∈ [0x200B, 0x200C, 0x200D, 0x2060, 0xFEFF]

/-- `_normalize_external_text`. -/
def normalizeExternalText (u : Unicode) (text : String) : Except Raised (String × Risk) := do
  let value := (u.nfkc text).toList
  let hidden := (value.filter isZeroWidth).length
  let value := (value.filter fun c => !isZeroWidth c).filter fun c => c.toNat ≠ 0
  let value := stripList isSpace (['\n'].intercalate ((splitlines value).map rstripList))
  require (value ≠ []) (refused "public evidence source has no readable text")
  let value := value.take maxSourceChars
  let found := (injectionPatterns.filter fun p => Regex.search u.isWord p value).length
  let risk := if 2 ≤ found ∨ 8 ≤ hidden then Risk.high else if found ≠ 0 ∨ hidden ≠ 0 then .medium else .low
  return (String.ofList value, risk)

/-- `[paragraph[start : start + n] for start in range(0, len(paragraph), n)]`; the fuel is the length. -/
def slices (n : Nat) : Nat → List Char → List (List Char)
  | 0, _ => []
  | _ + 1, [] => []
  | fuel + 1, c :: cs => (c :: cs).take n :: slices n fuel ((c :: cs).drop n)

/-- One paragraph in the loop of `_chunks`: the output, and the chunk that is being filled. -/
def addParagraph (acc : List (List Char) × List Char) (paragraph : List Char) : List (List Char) × List Char :=
  let (output, current) := acc
  if maxChunkChars < paragraph.length then
    let output := if current = [] then output else output ++ [current]
    (output ++ slices maxChunkChars paragraph.length paragraph, [])
  else
    let candidate := if current = [] then paragraph else current ++ '\n' :: '\n' :: paragraph
    if candidate.length ≤ maxChunkChars then (output, candidate) else (output ++ [current], paragraph)

/-- `_chunks`. -/
def chunks (text : String) : List String :=
  let paragraphs := ((splitParagraphs text.toList).map (stripList isSpace)).filter (· ≠ [])
  let (output, current) := paragraphs.foldl addParagraph ([], [])
  let output := if current = [] then output else output ++ [current]
  (if output = [] then [text.toList.take maxChunkChars] else output).map String.ofList

/-! ## Names and addresses -/

/-- A character of `[a-zA-Z0-9_.-]`. -/
def isSafe (c : Char) : Bool := isAsciiAlnum c || c ∈ ['_', '.', '-']

/-- `_SAFE_ID_RE.sub("-", text)`: each run of other characters becomes one hyphen. -/
def collapse : Bool → List Char → List Char
  | _, [] => []
  | inRun, c :: cs =>
    if isSafe c then c :: collapse false cs else if inRun then collapse true cs else '-' :: collapse true cs

/-- `_safe_id`. -/
def safeId (value fallback : String) : String :=
  let normalized := stripList (fun c => c = '.' || c = '-') (collapse false (strip value).toList)
  String.ofList ((if normalized = [] then fallback.toList else normalized).take 80)

/-- `f"{n:0{width}d}"`. -/
def padded (width n : Nat) : List Char := List.replicate (width - (Nat.toDigits 10 n).length) '0' ++ Nat.toDigits 10 n

/-- `_validate_public_url`. -/
def validatePublicUrl (u : Unicode) (url : String) : Except Raised String := do
  let value := strip url
  let parsed ← orRaise (Url.urlsplit u.nfkc value) ⟨.valueError, "Invalid URL"⟩
  let notPublic := refused ("source URL must be public http(s): '" ++ value ++ "'")
  require (parsed.scheme ∈ ["http", "https"]) notPublic
  let hostname ← orRaise parsed.hostname notPublic
  let host := u.casefold hostname
  require (host ∉ ["localhost", "localhost.localdomain"] ∧ endsWith host ".local" = false)
    (refused "local/private source URLs cannot enter the public knowledge plane")
  let bare := String.ofList (stripList (fun c => c = '[' || c = ']') host.toList)
  require ((IpAddress.ipAddress bare).all (fun a => !(IpAddress.isPrivate a || IpAddress.isLoopback a ||
      IpAddress.isLinkLocal a || IpAddress.isMulticast a || IpAddress.isReserved a || IpAddress.isUnspecified a)) = true)
    (refused "private/non-public IP source URLs cannot enter the public knowledge plane")
  return value

section Runtime

variable {F : Type} [JsonFloat F]

/-- `_canonical_json`, as text. -/
def canonicalJson (v : Json F) : Except Raised String :=
  orRaise (dumpsLax v) ⟨.valueError, "Exceeds the limit for integer string conversion"⟩

/-- `value` if `isinstance(value, list)`. -/
def array? : Option (Json F) → Option (List (Json F))
  | some (.arr xs) => some xs
  | _ => none

/-! ## The exporter -/

/-- `for x in payload.get(key, [])`. -/
def iterated (v : Option (Json F)) : Except Raised (List (Json F)) :=
  match v with
  | none => .ok []
  | some (.arr xs) => .ok xs
  | some (.str s) => .ok (s.toList.map fun c => .str (String.singleton c))
  | some (.obj kvs) => .ok (kvs.map fun kv => .str kv.1)
  | some v => .error ⟨.typeError, "'" ++ v.typeName ++ "' object is not iterable"⟩

/-- The assessments by source, the last one of each. -/
def assessmentsOf (items : List (Json F)) : PyDict.Dict (Json F) :=
  items.foldl (fun d item =>
    match item.get? "source_id" with
    | some v => if v.truthy then PyDict.set d v.toStr item else d
    | none => d) []

/-- Whether a row goes into the bundle. -/
def eligible (u : Unicode) (assessments : PyDict.Dict (Json F)) (rejected : List String) (row : Json F) : Bool :=
  let sourceId := Json.textOr (row.get? "source_id")
  let url := Json.textOr (row.get? "url")
  let outOfScope := match PyDict.get? assessments sourceId with
    | none => false
    | some a =>
      (match a.get? "scope_match" with | some (.bool false) => true | _ => false) ||
        u.casefold (Json.textOr (a.get? "relevance")) = "low"
  row.isDict && (startsWith url "http://" || startsWith url "https://") && decide (sourceId ∉ rejected) &&
    !outOfScope && decide (Json.textOr (row.get? "fetch_status") = "ok") &&
    decide (strip (Json.textOr (row.get? "extracted_text")) ≠ "")

/-- `_source_rows`. -/
def sourceRows (u : Unicode) (payload : Json F) : Except Raised (List (Json F)) := do
  require (payload.isDict = true) ⟨.attributeError, "'" ++ payload.typeName ++ "' object has no attribute 'get'"⟩
  let rows ← orRaise (array? (some ((payload.get? "sources").getD (.arr []))))
    (refused "research payload sources must be an array")
  let items ← iterated (payload.get? "source_assessments")
  let rejected ← iterated (payload.get? "rejected_sources")
  return (rows.filter (eligible u (assessmentsOf items) (rejected.map Json.toStr))).take maxSources

/-- A chunk as it is written. -/
structure ChunkFile where
  chunkId : String
  file : String
  text : String
  deriving DecidableEq, Repr

def ChunkFile.bytes (c : ChunkFile) : List UInt8 := Utf8.encode c.text

/-- The row of a chunk in the manifest. -/
def ChunkFile.json (c : ChunkFile) : Json F :=
  .dict [("chunk_id", .str c.chunkId), ("file", .str c.file), ("sha256", .str (sha256Bytes c.bytes)),
    ("chars", .int c.text.toList.length)]

/-- The chunk that is the `index`-th of its source and the `count`-th of the bundle. -/
def chunkFile (sourceId : String) (count index : Nat) (text : String) : ChunkFile :=
  let chunkId := sourceId ++ "-c" ++ String.ofList (padded 3 index)
  ⟨chunkId, String.ofList (padded 4 count) ++ "-" ++ safeId chunkId "chunk" ++ ".txt", text⟩

/-- A source as it is written. -/
structure ExportedSource where
  sourceId : String
  title : String
  url : String
  retrievedAt : String
  risk : Risk
  chunks : List ChunkFile
  deriving DecidableEq, Repr

/-- `source_bytes`. -/
def ExportedSource.bytes (s : ExportedSource) : List UInt8 := s.chunks.flatMap ChunkFile.bytes

/-- The entry of a source in the manifest. -/
def ExportedSource.json (s : ExportedSource) : Json F :=
  .dict [("source_id", .str s.sourceId), ("title", .str s.title), ("url", .str s.url),
    ("retrieved_at", .str s.retrievedAt), ("content_sha256", .str (sha256Bytes s.bytes)),
    ("trust", .str "untrusted_external"), ("injection_risk", .str s.risk.text), ("chunks", .arr (s.chunks.map (·.json)))]

/-- The counters of the loop over the sources. -/
structure ExportTally where
  chunkCount : Nat := 0
  totalBytes : Nat := 0

/-- One chunk of a source, the `index`-th. -/
def addChunk (sourceId : String) (acc : ExportTally × List ChunkFile) (indexed : Nat × String) :
    Except Raised (ExportTally × List ChunkFile) := do
  let (tally, written) := acc
  let count := tally.chunkCount + 1
  require (count ≤ maxChunks) (refused "bundle exceeds 256 chunks")
  let c := chunkFile sourceId count indexed.1 indexed.2
  let total := tally.totalBytes + c.bytes.length
  require (total ≤ maxBundleBytes) (refused "bundle exceeds maximum evidence size")
  return (⟨count, total⟩, written ++ [c])

/-- `enumerate(xs, start=1)`. -/
def enumerated {α : Type} (xs : List α) : List (Nat × α) := (List.range' 1 xs.length).zip xs

/-- One row of the loop over the sources. -/
def addSource (u : Unicode) (retrievedAt : String) (acc : ExportTally × List ExportedSource) (indexed : Nat × Json F) :
    Except Raised (ExportTally × List ExportedSource) := do
  let (tally, sources) := acc
  let row := indexed.2
  let sourceId := safeId (Json.textOr (row.get? "source_id")) ("S" ++ String.ofList (Nat.toDigits 10 indexed.1))
  let titled := match row.get? "title" with
    | some v => if v.truthy then v.toStr else sourceId
    | none => sourceId
  let title := String.ofList (([' '].intercalate ((splitWs titled).map String.toList)).take 500)
  let url ← validatePublicUrl u (Json.textOr (row.get? "url"))
  let (text, risk) ← normalizeExternalText u (Json.textOr (row.get? "extracted_text"))
  let (tally, written) ← (enumerated (KnowledgePlane.chunks text)).foldlM (addChunk sourceId) (tally, [])
  return (tally, sources ++ [⟨sourceId, title, url, retrievedAt, risk, written⟩])

/-- The loop over the sources of `export_research_payload`. -/
def exportSources (u : Unicode) (createdAt : String) (payload : Json F) (rows : List (Json F)) :
    Except Raised (ExportTally × List ExportedSource) :=
  let generatedAt := Json.textOr (payload.get? "generated_at")
  let retrievedAt := if generatedAt = "" then createdAt else generatedAt
  (enumerated rows).foldlM (addSource u retrievedAt) ({}, [])

/-- What the id of a bundle is made of. -/
def identityJson (originTaskId : Json F) (sourceCount chunkCount sources : Json F) : Json F :=
  .dict [("schema_version", .str bundleSchema), ("classification", .str "public"), ("trust_domain", .str "system:public"),
    ("direction", .str "inbound_only"), ("origin_task_id", originTaskId), ("source_count", sourceCount),
    ("chunk_count", chunkCount), ("sources", sources)]

/-- `f"kb_{bundle_digest[:24]}"`. -/
def bundleIdOf (identity : String) : String := "kb_" ++ digestPrefix (hashText identity) 24

/-- The manifest before its own digest is added. -/
def unhashedManifest (createdAt originTaskId bundleId : String) (chunkCount : Nat) (sources : List ExportedSource) :
    Json F :=
  .dict [("schema_version", .str bundleSchema), ("classification", .str "public"), ("trust_domain", .str "system:public"),
    ("direction", .str "inbound_only"), ("created_at", .str createdAt), ("origin_task_id", .str originTaskId),
    ("source_count", .int sources.length), ("chunk_count", .int chunkCount), ("sources", .arr (sources.map (·.json))),
    ("bundle_id", .str bundleId)]

/-- The text of `manifest.json`. -/
def manifestText (createdAt originTaskId bundleId : String) (chunkCount : Nat) (sources : List ExportedSource) :
    Except Raised String := do
  let unhashed : Json F := unhashedManifest createdAt originTaskId bundleId chunkCount sources
  let canonical ← canonicalJson unhashed
  let text ← orRaise (dumpsIndented (unhashed.setKey "manifest_sha256" (.str (hashText canonical))))
    ⟨.valueError, "Exceeds the limit for integer string conversion"⟩
  return text ++ "\n"

/-- The directory that is written. -/
def bundleNode (manifest : String) (sources : List ExportedSource) : Node :=
  .dir [("chunks", .dir ((sources.flatMap (·.chunks)).map fun c => (c.file, .file c.bytes))),
    ("manifest.json", .file (Utf8.encode manifest))]

/-- What an export writes: the id of the bundle, the text of its manifest and its sources. -/
structure Bundle where
  bundleId : String
  manifest : String
  sources : List ExportedSource

/-- `export_research_payload` up to the final directory. -/
def composeBundle (u : Unicode) (createdAt : String) (payload : Json F) : Except Raised Bundle := do
  let rows ← sourceRows u payload
  require (rows ≠ []) (refused "research payload contains no eligible public source")
  let _stagingKey ← canonicalJson (.dict [("task_id", payload.item "task_id"),
    ("generated_at", payload.item "generated_at"), ("source_urls", .strs (rows.map fun r => (r.item "url").toStr))])
  let (tally, sources) ← exportSources u createdAt payload rows
  let originTaskId := Json.textOr (payload.get? "task_id")
  let identity ← canonicalJson (F := F) (identityJson (.str originTaskId) (.int sources.length) (.int tally.chunkCount)
    (.arr (sources.map (·.json))))
  let manifest ← manifestText (F := F) createdAt originTaskId (bundleIdOf identity) tally.chunkCount sources
  return ⟨bundleIdOf identity, manifest, sources⟩

/-- `export_research_payload`: the name of the directory in the outbox, and the outbox after it. -/
def exportResearchPayload (u : Unicode) (createdAt : String) (outbox : PyDict.Dict Node) (payload : Json F) :
    Except Raised (String × PyDict.Dict Node) := do
  let bundle ← composeBundle u createdAt payload
  let node := bundleNode bundle.manifest bundle.sources
  return (bundle.bundleId,
    if PyDict.has outbox bundle.bundleId then outbox else PyDict.set outbox bundle.bundleId node)

/-! ## The importer -/

/-- `_BUNDLE_RE.fullmatch`. -/
def bundleRe (s : String) : Bool :=
  startsWith s "kb_" && decide ((s.toList.drop 3).length = 24) && (s.toList.drop 3).all Sha256.isHexDigit

/-- The counters of the loop over the chunks. -/
structure ImportTally where
  seen : List String := []
  total : Nat := 0
  count : Nat := 0
  deriving DecidableEq

/-- One chunk of a source with its declared risk: the counters and the bytes of the source so far. -/
def checkChunk (u : Unicode) (files : List (String × Node)) (declared : Risk) (acc : ImportTally × List UInt8)
    (chunk : Json F) : Except Raised (ImportTally × List UInt8) := do
  let (tally, reconstructed) := acc
  let count := tally.count + 1
  require (count ≤ maxChunks) (refused "too many chunks")
  require (chunk.isDict = true) ⟨.attributeError, "'" ++ chunk.typeName ++ "' object has no attribute 'get'"⟩
  let filename := Json.textOr (chunk.get? "file")
  require (filename ≠ "" ∧ '/' ∉ filename.toList ∧ '\\' ∉ filename.toList ∧ filename ∉ tally.seen)
    (refused "unsafe or duplicate chunk path")
  let raw ← orRaise ((files.lookup filename).bind Node.bytes?) (refused "chunk file missing or unsafe")
  let total := tally.total + raw.length
  require (total ≤ maxBundleBytes) (refused "bundle evidence size exceeds limit")
  require (sha256Bytes raw = Json.textOr (chunk.get? "sha256")) (refused "chunk integrity validation failed")
  let text ← orRaise (Utf8.decode? raw) ⟨.unicodeError, "invalid utf-8"⟩
  let (_, risk) ← normalizeExternalText u text
  require (risk.severity ≤ declared.severity) (refused "source injection-risk declaration understates content")
  return (⟨tally.seen ++ [filename], total, count⟩, reconstructed ++ raw)

/-- The risk, where the value is one of its three names. -/
def Risk.declared? : Option (Json F) → Option Risk
  | some (.str s) => Risk.ofText? s
  | _ => none

/-- One source of the manifest. -/
def checkSource (u : Unicode) (files : List (String × Node)) (tally : ImportTally) (source : Json F) :
    Except Raised ImportTally := do
  require (source.isDict = true) (refused "invalid source manifest entry")
  let _ ← validatePublicUrl u (Json.textOr (source.get? "url"))
  require ((source.item "trust").isText "untrusted_external" = true)
    (refused "external evidence must remain explicitly untrusted")
  let declared ← orRaise (Risk.declared? (source.get? "injection_risk")) (refused "source injection_risk is required")
  let rows ← orRaise (array? (source.get? "chunks")) (refused "source has no chunks")
  require (rows ≠ []) (refused "source has no chunks")
  let (tally, reconstructed) ← rows.foldlM (checkChunk u files declared) (tally, [])
  require (sha256Bytes reconstructed = Json.textOr (source.get? "content_sha256"))
    (refused "source content hash validation failed")
  return tally

/-- `actual_files`. -/
def fileNames (entries : List (String × Node)) : List String :=
  (entries.filter fun e => e.2.bytes?.isSome).map Prod.fst

/-- `dict(manifest)` without a key. -/
def dropKey (v : Json F) (key : String) : Json F :=
  match v with
  | .obj kvs => .obj (kvs.filter fun kv => kv.1 ≠ key)
  | v => v

/-- The manifest of a directory, as far as it is read. -/
def readManifest (entries : List (String × Node)) : Except Raised (Json F) := do
  let bytes ← orRaise ((entries.lookup "manifest.json").bind Node.bytes?) (refused "bundle manifest is missing")
  require (bytes.length ≤ maxManifestBytes) (refused "bundle manifest is too large")
  let text ← orRaise (Utf8.decode? bytes) ⟨.unicodeError, "invalid utf-8"⟩
  let manifest ← orRaise (loads text) ⟨.valueError, "JSONDecodeError"⟩
  require (manifest.isDict = true) ⟨.attributeError, "'" ++ manifest.typeName ++ "' object has no attribute 'get'"⟩
  return manifest

/-- The checks of the manifest alone; `name` is the directory's name where it is enforced. -/
def checkManifest (name : Option String) (manifest : Json F) : Except Raised Unit := do
  require ((manifest.item "schema_version").isText bundleSchema = true) (refused "unsupported public evidence schema")
  require ((manifest.item "classification").isText "public" = true)
    (refused "only PUBLIC evidence may cross the inbound boundary")
  require ((manifest.item "trust_domain").isText "system:public" = true)
    (refused "public bundle trust_domain must be system:public")
  require ((manifest.item "direction").isText "inbound_only" = true) (refused "bundle direction must be inbound_only")
  let bundleId := Json.textOr (manifest.get? "bundle_id")
  require (bundleRe bundleId = true) (refused "invalid bundle id")
  require (name.all (fun n => decide (n = bundleId)) = true) (refused "bundle id/path mismatch")
  let canonical ← canonicalJson (dropKey manifest "manifest_sha256")
  require (Json.textOr (manifest.get? "manifest_sha256") = hashText canonical)
    (refused "manifest integrity validation failed")

/-- The checks of the files against the manifest. -/
def checkContents (u : Unicode) (entries : List (String × Node)) (manifest : Json F) : Except Raised Unit := do
  let unexpected := entries.find? fun e => e.1 ∉ ["manifest.json", "chunks"]
  require (unexpected.isNone = true) (refused ("unexpected bundle entry: " ++ (unexpected.map Prod.fst).getD ""))
  let files ← orRaise ((entries.lookup "chunks").bind Node.entries?)
    (refused "bundle chunks directory is missing or unsafe")
  let sources ← orRaise (array? (manifest.get? "sources")) (refused "invalid source count")
  require (sources ≠ [] ∧ sources.length ≤ maxSources) (refused "invalid source count")
  let tally ← sources.foldlM (checkSource u files) {}
  require ((∀ n ∈ fileNames files, n ∈ tally.seen) ∧ ∀ n ∈ tally.seen, n ∈ fileNames files)
    (refused "bundle contains undeclared or missing chunk files")

/-- `_validate_bundle`. -/
def validateBundle (u : Unicode) (name : Option String) (bundle : Node) : Except Raised (Json F) := do
  let entries ← orRaise bundle.entries? (refused "bundle path must be a real directory")
  let manifest ← readManifest entries
  checkManifest name manifest
  checkContents u entries manifest
  return manifest

mutual

/-- `shutil.copytree(bundle_dir, staging, symlinks=False)`, `none` for a dangling link. -/
def copytree : Node → Option Node
  | .file bytes => some (.file bytes)
  | .dir entries => (copyEntries entries).map .dir
  | .link none => none
  | .link (some target) => copytree target

def copyEntries : List (String × Node) → Option (List (String × Node))
  | [] => some []
  | (name, node) :: entries => do
    let node ← copytree node
    let entries ← copyEntries entries
    some ((name, node) :: entries)

end

/-- `import_bundle` of the directory `bundle` with its name: the name of the destination, and the root after the call. -/
def importBundle (F : Type) [JsonFloat F] (u : Unicode) (root : PyDict.Dict Node) (name : String) (bundle : Node) :
    Except Raised (String × PyDict.Dict Node) := do
  let manifest : Json F ← validateBundle u (some name) bundle
  let bundleId := (manifest.item "bundle_id").toStr
  match PyDict.get? root bundleId with
  | some destination => do
    let _ : Json F ← validateBundle u (some bundleId) destination
    return (bundleId, root)
  | none => do
    let copy ← orRaise (copytree bundle) ⟨.osError, "dangling link"⟩
    let _ : Json F ← validateBundle u none copy
    return (bundleId, PyDict.set root bundleId copy)

end Runtime

end ThreeAgent.KnowledgePlane

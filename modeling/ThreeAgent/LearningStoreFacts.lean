/-
What holds of the learning store in every state it reaches: its ledger
verifies, the versions of a candidate climb the ladder one level at a time,
and the active version of an item is the one its last deciding event names.

Everything about a call is read off `Step`, which says what a call that
returns has written.
-/
import ThreeAgent.LearningStore

namespace ThreeAgent

variable {v : Option String} {key s cid know targetLevel : String} {α : Type}

namespace AdaptiveLearning

open PyText Outcome PyJson Store

variable {c c' : KnowledgeCandidate} {row latest : VersionRow} {kind : EventType} {e : LedgerRow} {l : List LedgerRow}
  {receipt : LearningValidationReceipt} {target : Level} {decision : PromotionDecision}

variable {item now actorId reasonCode candidateId : String} {db db' : Store} {before : Option String}
  {entry : LedgerRow} {vs : List VersionRow} {contradictions : List ContradictionRecord} {found : Option VersionRow}

/-! ## Candidates and their rows -/

theorem canonical_ofOption : Canonical (Json.ofOption .str v : Json Unit) := by
  cases v with
  | none => trivial
  | some s => trivial

theorem dumpable_ofOption : dumpable (Json.ofOption .str v : Json Unit) = true := by
  cases v with
  | none => rfl
  | some s => rfl

variable {v : Json Unit}

theorem loads_canonical (hc : Canonical v) (hd : dumpable v = true) :
    loads (canonical v) = some v := loads_dumps hc (dumps_of_dumpable hd)

theorem loads_candidate (c : KnowledgeCandidate) : loads (canonical c.payload) = some c.payload := by
  refine loads_canonical ⟨?_, ?_⟩ ?_
  · refine keySorted_of_isChain ?_
    show KnowledgeCandidate.fields.IsChain (· < ·)
    decide
  · rw [entriesCanonical_iff]
    simp [Canonical, canonical_ofOption, canonical_strs]
  · simp [KnowledgeCandidate.payload, dumpable, entriesDumpable_iff, dumpable_ofOption, dumpable_strs]

theorem textField_of (h : v.get? key = some (.str s)) : textField v key = .ok s := by
  simp [textField, Json.item, h, pure, Except.pure]

theorem optionalField_of {s : Option String}
    (h : v.get? key = some (Json.ofOption .str s)) : optionalField v key = .ok s := by
  cases s with
  | none => simp [optionalField, Json.item, h, Json.ofOption, pure, Except.pure]
  | some s => simp [optionalField, Json.item, h, Json.ofOption, pure, Except.pure]

theorem textElems (xs : List String) : (xs.map Json.str).mapM (textElem key) = .ok xs := by
  rw [mapM_ok]
  induction xs with
  | nil => exact .nil
  | cons x xs ih => exact .cons rfl ih

theorem listField_of {xs : List String} (h : v.get? key = some (Json.strs xs)) : listField v key = .ok xs := by
  simp only [listField, Json.item, h, Option.getD_some, Json.strs]
  exact textElems xs

theorem hasKeys_payload (c : KnowledgeCandidate) : c.payload.hasKeys KnowledgeCandidate.fields = true := by
  have hk : c.payload.keys = KnowledgeCandidate.fields := rfl
  simp only [Json.hasKeys, hk, Bool.and_eq_true, List.all_eq_true, decide_eq_true_eq]
  exact ⟨⟨rfl, fun x hx => hx⟩, fun x hx => hx⟩

theorem fromPayload_payload :
    KnowledgeCandidate.fromPayload c.payload = .ok c' ↔
      c.schemaVersion = candidateSchema ∧ c.validate = .ok ⟨⟩ ∧ c' = c := by
  have l1 : listField c.payload "source_experience_ids" = .ok c.sourceExperienceIds := listField_of rfl
  have l2 : listField c.payload "source_experience_hashes" = .ok c.sourceExperienceHashes := listField_of rfl
  have l3 : listField c.payload "source_domains" = .ok c.sourceDomains := listField_of rfl
  have l4 : listField c.payload "source_sensitivities" = .ok c.sourceSensitivities := listField_of rfl
  have l5 : listField c.payload "source_task_ids" = .ok c.sourceTaskIds := listField_of rfl
  have l6 : listField c.payload "source_outcomes" = .ok c.sourceOutcomes := listField_of rfl
  have l7 : listField c.payload "evidence_ref_ids" = .ok c.evidenceRefIds := listField_of rfl
  have l8 : listField c.payload "evidence_hashes" = .ok c.evidenceHashes := listField_of rfl
  have t1 : textField c.payload "candidate_id" = .ok c.candidateId := textField_of rfl
  have t2 : textField c.payload "domain" = .ok c.domain := textField_of rfl
  have t3 : textField c.payload "kind" = .ok c.kind := textField_of rfl
  have t4 : textField c.payload "title" = .ok c.title := textField_of rfl
  have t5 : textField c.payload "content" = .ok c.content := textField_of rfl
  have t6 : textField c.payload "scope" = .ok c.scope := textField_of rfl
  have t7 : textField c.payload "sensitivity" = .ok c.sensitivity := textField_of rfl
  have t8 : textField c.payload "risk_level" = .ok c.riskLevel := textField_of rfl
  have t9 : textField c.payload "ownership" = .ok c.ownership := textField_of rfl
  have t10 : textField c.payload "action" = .ok c.action := textField_of rfl
  have t11 : textField c.payload "execution_mode" = .ok c.executionMode := textField_of rfl
  have t12 : textField c.payload "created_at" = .ok c.createdAt := textField_of rfl
  have t13 : textField c.payload "schema_version" = .ok c.schemaVersion := textField_of rfl
  have o1 : optionalField c.payload "target_item_id" = .ok c.targetItemId := optionalField_of rfl
  have o2 : optionalField c.payload "base_item_sha256" = .ok c.baseItemSha256 := optionalField_of rfl
  have hs : (c.payload.item "schema_version").isText candidateSchema = true ↔ c.schemaVersion = candidateSchema := by
    show decide _ = true ↔ _
    rw [decide_eq_true_iff]
  have hd : c.payload.isDict = true := rfl
  simp only [KnowledgeCandidate.fromPayload, bind_ok, require_ok, pure_ok, hasKeys_payload, hs, hd, true_and,
    l1, l2, l3, l4, l5, l6, l7, l8, t1, t2, t3, t4, t5, t6, t7, t8, t9, t10, t11, t12, t13, o1, o2,
    Except.ok.injEq, exists_eq_left']
  constructor
  · rintro ⟨_, hschema, _, hv, rfl⟩
    exact ⟨hschema, hv, rfl⟩
  · rintro ⟨hschema, hv, rfl⟩
    exact ⟨⟨⟩, hschema, ⟨⟩, hv, rfl⟩

/-- The row holds this candidate, under its own identities. -/
structure Holds (row : VersionRow) (c : KnowledgeCandidate) : Prop where
  json : row.candidateJson = canonical c.payload
  plain : c.schemaVersion = candidateSchema
  valid : c.validate = .ok ⟨⟩
  candidateId : row.candidateId = c.candidateId
  candidateSha256 : row.candidateSha256 = c.sha256
  item : itemId c = .ok row.itemId
  knowledge : row.knowledgeSha256 = digest (knowledgePayload row.itemId c)

theorem rowFailures_eq_nil :
    rowFailures row c item = [] ↔ c.candidateId = row.candidateId ∧ c.sha256 = row.candidateSha256 ∧
      item = row.itemId ∧ digest (knowledgePayload item c) = row.knowledgeSha256 := by
  simp [rowFailures]

theorem candidateFromRow_ok
    (hj : row.candidateJson = canonical c.payload) : candidateFromRow row = .ok c' ↔ Holds row c ∧ c' = c := by
  simp only [candidateFromRow, bind_ok, orRaise_ok, rethrow_ok, require_ok, pure_ok, hj, loads_candidate,
    Option.some.injEq, exists_eq_left', fromPayload_payload, rowFailures_eq_nil]
  constructor
  · rintro ⟨_, ⟨hplain, hvalid, rfl⟩, item, hitem, _, ⟨hid, hsha, rfl, hknow⟩, rfl⟩
    exact ⟨⟨hj, hplain, hvalid, hid.symm, hsha.symm, hitem, hknow.symm⟩, rfl⟩
  · rintro ⟨h, rfl⟩
    exact ⟨_, ⟨h.plain, h.valid, rfl⟩, _, h.item, ⟨⟩,
      ⟨h.candidateId.symm, h.candidateSha256.symm, rfl, h.knowledge.symm⟩, rfl⟩

theorem Holds.fromRow (h : Holds row c) : candidateFromRow row = .ok c :=
  (candidateFromRow_ok h.json).mpr ⟨h, rfl⟩

theorem Holds.unique (h : Holds row c)
    (h' : candidateFromRow row = .ok c') : c' = c := ((candidateFromRow_ok h.json).mp h').2

theorem idRe_range (h : idRe s = true) : ∀ c ∈ s.toList, 0x2D ≤ c.toNat ∧ c.toNat ≤ 0x7A := by
  have alnum : ∀ c : Char, isAsciiAlnum c = true → 0x2D ≤ c.toNat ∧ c.toNat ≤ 0x7A := by
    intro c hc
    simp only [isAsciiAlnum, Bool.or_eq_true, Bool.and_eq_true, decide_eq_true_eq, Char.le_def,
      UInt32.le_iff_toNat_le] at hc
    have hA : 'A'.val.toNat = 65 := rfl
    have hZ : 'Z'.val.toNat = 90 := rfl
    have ha : 'a'.val.toNat = 97 := rfl
    have hz : 'z'.val.toNat = 122 := rfl
    have h0 : '0'.val.toNat = 48 := rfl
    have h9 : '9'.val.toNat = 57 := rfl
    rw [hA, hZ, ha, hz, h0, h9] at hc
    have hn : c.toNat = c.val.toNat := rfl
    omega
  unfold idRe at h
  split at h
  · cases h
  · rename_i c rest hs
    simp only [Bool.and_eq_true, List.all_eq_true, Bool.or_eq_true, decide_eq_true_eq] at h
    rw [hs]
    intro d hd
    rcases List.mem_cons.mp hd with rfl | hd
    · exact alnum _ h.1.1
    · rcases h.1.2 d hd with hd | hd
      · exact alnum _ hd
      · exact (forall_mem_of_all (by decide) : ∀ d ∈ ['.', '_', ':', '-'], 0x2D ≤ d.toNat ∧ d.toNat ≤ 0x7A) d hd

theorem strip_of_idRe (h : idRe s = true) : strip s = s := by
  have hchars : ∀ c ∈ s.toList, isSpace c = false := by
    intro c hc
    have := idRe_range h c hc
    simp only [isSpace, Bool.or_eq_false_iff, Bool.and_eq_false_iff, decide_eq_false_iff_not, beq_eq_false_iff_ne]
    omega
  rw [strip, stripList_of_forall hchars, String.ofList_toList]

theorem compactId_ok {value field text : String} :
    compactId value field = .ok text ↔ idRe (strip value) = true ∧ text = strip value := by
  simp only [compactId, bind_ok, require_ok, pure_ok]
  constructor
  · rintro ⟨_, h, rfl⟩
    exact ⟨h, rfl⟩
  · rintro ⟨h, rfl⟩
    exact ⟨⟨⟩, h, rfl⟩

theorem Holds.idRe (h : Holds row c) : idRe row.itemId = true := by
  obtain ⟨hre, hitem⟩ := compactId_ok.mp h.item
  rwa [hitem]

/-! ## Ledger entries -/

/-- `entry` is the next entry of the ledger, an event of this kind about this version. -/
structure Recorded (db : Store) (kind : EventType) (row : VersionRow) (before after : Option String)
    (entry : LedgerRow) : Prop where
  seq : entry.seq = nextSeq db
  seqBound : entry.seq ≤ maxRowId
  schemaVersion : entry.schemaVersion = ledgerSchema
  eventType : entry.eventType = kind
  itemId : entry.itemId = row.itemId
  candidateId : entry.candidateId = some row.candidateId
  candidateSha256 : entry.candidateSha256 = some row.candidateSha256
  knowledge : entry.knowledgeSha256 = some row.knowledgeSha256
  before : entry.beforeSha256 = before
  after : entry.afterSha256 = after
  receipt : entry.validationReceiptSha256 = nonEmpty row.validationReceiptSha256
  previous : entry.previousEntrySha256 = headHash db
  hash : ∃ v w, decodeHashes entry = some (v, w) ∧ entry.entrySha256 = digest (ledgerPayload entry v w)

theorem Recorded.congr {after : Option String} (h : Recorded db kind row before after entry) (hl : db.ledger = db'.ledger) :
    Recorded db' kind row before after entry := by
  have hseq : entry.seq = nextSeq db' := by rw [h.seq, nextSeq, nextSeq, hl]
  have hprev : entry.previousEntrySha256 = headHash db' := by rw [h.previous, headHash, headHash, hl]
  exact { h with seq := hseq, previous := hprev }

theorem loads_strs (xs : List String) : loads (canonical (Json.strs xs)) = some (Json.strs xs : Json Unit) :=
  loads_canonical (canonical_strs xs) (dumpable_strs xs)

theorem appendLedger_ok {e : Event}
    (h : appendLedger db e now = .ok db') (hc : Holds row e.candidate) (hitem : e.itemId = row.itemId)
    (hknow : e.knowledgeSha256 = row.knowledgeSha256)
    (hreceipt : e.receiptSha256 = nonEmpty row.validationReceiptSha256) :
    ∃ entry, Recorded db e.eventType row e.beforeSha256 e.afterSha256 entry ∧
      db' = { db with ledger := db.ledger ++ [entry] } := by
  simp only [appendLedger, bind_ok, require_ok, pure_ok] at h
  obtain ⟨actor, -, code, -, _, hseq, _, -, _, -, rfl⟩ := h
  refine ⟨_, ?_, rfl⟩
  refine ⟨rfl, hseq, rfl, rfl, hitem, ?_, ?_, ?_, rfl, rfl, hreceipt, rfl, _, _, ?_, rfl⟩
  · exact congrArg some hc.candidateId.symm
  · exact congrArg some hc.candidateSha256.symm
  · exact congrArg some hknow
  · simp only [decodeHashes, ledgerRow, loads_strs]
    rfl

/-- The hash that the next entry must name. -/
def lastEntry (zero : String) (es : List LedgerRow) : String := ((es.getLast?).map (·.entrySha256)).getD zero

theorem lastEntry_cons (zero : String) (e : LedgerRow) (es : List LedgerRow) :
    lastEntry zero (e :: es) = lastEntry e.entrySha256 es := by
  cases es with
  | nil => rfl
  | cons a es => simp [lastEntry, List.getLast?_cons]

theorem verifyFrom_snoc : ∀ {es : List LedgerRow} {n : Nat} {zero : String},
    verifyFrom n zero (es ++ [e]) =
      verifyFrom n zero es ++ entryFailures (n + es.length) (lastEntry zero es) e
  | [], n, zero => by simp [verifyFrom, lastEntry]
  | a :: es, n, zero => by
    have hn : n + 1 + es.length = n + (a :: es).length := by
      simp only [List.length_cons]
      omega
    rw [List.cons_append, verifyFrom, verifyFrom, verifyFrom_snoc, List.append_assoc, lastEntry_cons, hn]

theorem entryFailures_eq_nil {n : Nat} {previous : String} : entryFailures n previous e = [] ↔
    e.seq = n ∧ e.schemaVersion = ledgerSchema ∧ e.previousEntrySha256 = previous ∧
      ∃ v w, decodeHashes e = some (v, w) ∧ e.entrySha256 = digest (ledgerPayload e v w) := by
  cases hd : decodeHashes e with
  | none => simp [entryFailures, hd]
  | some p =>
    obtain ⟨v, w⟩ := p
    simp only [entryFailures, hd, Option.getD_some, List.append_eq_nil_iff, ite_eq_right_iff, reduceCtorEq,
      List.cons_ne_nil, imp_false, not_not, Option.some.injEq, Prod.mk.injEq, ↓reduceIte, and_true]
    constructor
    · rintro ⟨⟨⟨hseq, hschema⟩, hprev⟩, hhash⟩
      exact ⟨hseq, hschema, hprev, v, w, ⟨rfl, rfl⟩, hhash.symm⟩
    · rintro ⟨hseq, hschema, hprev, _, _, ⟨rfl, rfl⟩, hhash⟩
      exact ⟨⟨⟨hseq, hschema⟩, hprev⟩, hhash.symm⟩

theorem nextSeq_of_verified (h : verifyLedger db = []) : nextSeq db = db.ledger.length + 1 := by
  rcases List.eq_nil_or_concat db.ledger with hnil | ⟨es, e, hes⟩
  · simp [nextSeq, hnil]
  · rw [List.concat_eq_append] at hes
    rw [verifyLedger, hes, verifyFrom_snoc, List.append_eq_nil_iff, entryFailures_eq_nil] at h
    obtain ⟨-, hseq, -⟩ := h
    simp only [nextSeq, hes, List.getLast?_append, List.getLast?_singleton, Option.some_or, Option.map_some,
      Option.getD_some, List.length_append, List.length_singleton, hseq]
    omega

theorem verifyLedger_append
    {after : Option String} (h : verifyLedger db = [])
    (he : Recorded db kind row before after entry) : verifyLedger ⟨vs, db.ledger ++ [entry]⟩ = [] := by
  have hseq : entry.seq = 1 + db.ledger.length := by
    rw [he.seq, nextSeq_of_verified h]
    omega
  rw [verifyLedger, verifyFrom_snoc, List.append_eq_nil_iff, entryFailures_eq_nil]
  exact ⟨h, hseq, he.schemaVersion, he.previous, he.hash⟩

/-! ## Calls -/

inductive Call where
  | stage (candidate : KnowledgeCandidate) (actorId reasonCode : String)
  | promote (candidateId targetLevel : String) (receipt : LearningValidationReceipt)
      (contradictions : List ContradictionRecord) (actorId reasonCode : String)
  | archive (itemId expectedCurrentSha256 actorId reasonCode : String)
  | rollback (itemId targetKnowledgeSha256 : String) (expectedCurrentSha256 : Option String)
      (actorId reasonCode : String)

variable {k : Call}

namespace Call

def commit (k : Call) (now : String) (db : Store) : Except Raised Store :=
  match k with
  | .stage c actorId reasonCode => Prod.fst <$> AdaptiveLearning.stage db c actorId reasonCode now
  | .promote candidateId targetLevel receipt contradictions actorId reasonCode =>
    Prod.fst <$> AdaptiveLearning.promote db candidateId targetLevel receipt contradictions actorId reasonCode now
  | .archive item expected actorId reasonCode => AdaptiveLearning.archive db item expected actorId reasonCode now
  | .rollback item target expected actorId reasonCode =>
    Prod.fst <$> AdaptiveLearning.rollback db item target expected actorId reasonCode now

def isRollback : Call → Bool
  | .rollback .. => true
  | _ => false

end Call

/-- The store after a call at a time: what it commits, or the store as it was. -/
def Store.after (db : Store) (k : Call × String) : Store :=
  match k.1.commit k.2 db with
  | .ok db' => db'
  | .error _ => db

def run (calls : List (Call × String)) : Store := calls.foldl Store.after {}

/-- Every version row holds the candidate of its id. -/
def RowsHold (db : Store) : Prop := ∃ f : String → KnowledgeCandidate, ∀ r ∈ db.versions, Holds r (f r.candidateId)

/-- The version that a promotion of `latest` inserts. -/
def promoted (db : Store) (latest : VersionRow) (target : Level) (found : Option VersionRow) (receiptSha256 now : String) :
    VersionRow :=
  { latest with
    versionId := db.versions.length + 1
    level := target
    disposition := if activates target found then .activeSnapshot else .staged
    validationReceiptSha256 := some receiptSha256
    createdAt := now }

/-- What a call that returned has written. -/
inductive Step (db : Store) : Call → Store → Prop
  | same (k : Call) : Step db k db
  | stage {c : KnowledgeCandidate} {actorId reasonCode : String} {row : VersionRow} {found : Option VersionRow}
      {entry : LedgerRow} (fresh : db.atLevel? c.candidateId "candidate" = none) (hrow : Holds row c)
      (hid : row.versionId = db.versions.length + 1) (hlevel : row.level = .candidate)
      (hstaged : row.disposition = .staged) (hfound : activeRow db row.itemId = .ok found)
      (hactive : checkActive c found = .ok ⟨⟩)
      (hentry : Recorded db .stage row (found.map (·.knowledgeSha256)) none entry) :
      Step db (.stage c actorId reasonCode) ⟨db.versions ++ [row], db.ledger ++ [entry]⟩
  | promote {candidateId targetLevel : String} {receipt : LearningValidationReceipt}
      {contradictions : List ContradictionRecord} {actorId reasonCode now : String} {latest : VersionRow}
      {c : KnowledgeCandidate} {decision : PromotionDecision} {found : Option VersionRow} {entry : LedgerRow}
      (hlatest : db.latest? (strip candidateId) = some latest) (hc : Holds latest c)
      (fresh : db.atLevel? (strip candidateId) targetLevel = none)
      (heval : AdaptiveLearningPolicy.evaluate c latest.level.text targetLevel (some receipt) contradictions =
        .ok decision)
      (hallowed : decision.allowed = true) (hfound : activeRow db latest.itemId = .ok found)
      (hentry : Recorded db (promotionEvent decision.targetLevel found)
        (promoted db latest decision.targetLevel found (digest receipt.payload) now) (found.map (·.knowledgeSha256))
        (if activates decision.targetLevel found then some latest.knowledgeSha256 else none) entry) :
      Step db (.promote candidateId targetLevel receipt contradictions actorId reasonCode)
        ⟨db.versions ++ [promoted db latest decision.targetLevel found (digest receipt.payload) now],
          db.ledger ++ [entry]⟩
  | archive {item expected actorId reasonCode : String} {row : VersionRow} {entry : LedgerRow}
      (hfound : activeRow db (strip item) = .ok (some row)) (hitem : row.itemId = strip item)
      (hentry : Recorded db .archive row (some row.knowledgeSha256) none entry) :
      Step db (.archive item expected actorId reasonCode) ⟨db.versions, db.ledger ++ [entry]⟩
  | rollback {item target actorId reasonCode : String} {expected : Option String} {row : VersionRow}
      {found : Option VersionRow} {entry : LedgerRow} (hfound : activeRow db (strip item) = .ok found)
      (hrow : db.rollbackTarget? (strip item) row.knowledgeSha256 = some row)
      (hentry : Recorded db .rollback row (found.map (·.knowledgeSha256)) (some row.knowledgeSha256) entry) :
      Step db (.rollback item target expected actorId reasonCode) ⟨db.versions, db.ledger ++ [entry]⟩

theorem getLast?_filter {p : α → Bool} {l : List α} {a : α} (h : (l.filter p).getLast? = some a) :
    a ∈ l ∧ p a = true := List.mem_filter.mp (List.mem_of_getLast? h)

theorem mem_of_snapshot?
    (h : db.snapshot? item cid know = some row) : row ∈ db.versions ∧ row.itemId = item ∧ row.candidateId = cid ∧
      row.knowledgeSha256 = know ∧ row.disposition = .activeSnapshot := by
  simpa using getLast?_filter h

theorem hashText_ne_empty (text : String) : hashText text ≠ "" := by
  intro h
  have := sha256Re_hashText text
  rw [h] at this
  revert this
  decide

theorem nonEmpty_digest (v : Json Unit) : nonEmpty (some (digest v)) = some (digest v) := by
  simp [nonEmpty, digest, hashText_ne_empty]

theorem activeRow_some (h : activeRow db item = .ok (some row)) :
    ∃ e after, db.decision? item = some e ∧ e.eventType ≠ .archive ∧ e.afterSha256 = some after ∧
      db.snapshot? item (e.candidateId.getD "") after = some row := by
  unfold activeRow at h
  split at h
  · simp at h
  · rename_i e he
    split at h
    · simp at h
    · rename_i harch
      split at h
      · simp at h
      · rename_i after hafter
        simp only [snapshotOf, bind_ok, orRaise_ok, require_ok, pure_ok, Option.some.injEq] at h
        obtain ⟨row', ⟨row'', hrow, c, -, _, -, rfl⟩, rfl⟩ := h
        exact ⟨e, after, he, harch, hafter, hrow⟩

theorem mem_of_activeRow (h : activeRow db item = .ok (some row)) :
    row ∈ db.versions ∧ row.itemId = item ∧ row.disposition = .activeSnapshot := by
  obtain ⟨e, after, -, -, -, hrow⟩ := activeRow_some h
  obtain ⟨hmem, hitem, -, -, hdisp⟩ := mem_of_snapshot? hrow
  exact ⟨hmem, hitem, hdisp⟩

/-! ### What the calls write -/

theorem step_of_stage
    (h : stage db c actorId reasonCode now = .ok (db', row)) : Step db (.stage c actorId reasonCode) db' := by
  simp only [stage, bind_ok, require_ok] at h
  obtain ⟨_, -, _, -, item, hitem, _, -, h⟩ := h
  split at h
  · simp only [bind_ok, pure_ok, Prod.mk.injEq] at h
    obtain ⟨_, -, rfl, -⟩ := h
    exact .same _
  · rename_i hfresh
    simp only [stageNew, insertVersion, bind_ok, require_ok, pure_ok, Prod.mk.injEq] at h
    obtain ⟨found, hfound, _, hactive, inserted, ⟨_, -, rfl⟩, db₁, happ, c', hrow, rfl, rfl⟩ := h
    obtain ⟨hholds, rfl⟩ := (candidateFromRow_ok rfl).mp hrow
    obtain ⟨entry, hentry, rfl⟩ := appendLedger_ok happ hholds rfl rfl rfl
    exact .stage hfresh hholds rfl rfl rfl hfound hactive (hentry.congr rfl)

theorem step_of_promote (hrows : RowsHold db)
    (h : promote db candidateId targetLevel receipt contradictions actorId reasonCode now = .ok (db', row)) :
    Step db (.promote candidateId targetLevel receipt contradictions actorId reasonCode) db' := by
  obtain ⟨f, hf⟩ := hrows
  simp only [promote, candidateLevelRow, bind_ok, compactId_ok, orRaise_ok, pure_ok] at h
  obtain ⟨cid, ⟨-, rfl⟩, _, -, _, -, ⟨latest, c⟩, ⟨latest', hlatest, c', hc, hpair⟩, h⟩ := h
  obtain ⟨rfl, rfl⟩ := Prod.mk.inj hpair
  have hholds : Holds latest' c' := by
    have := hf latest' (getLast?_filter hlatest).1
    rwa [← this.unique hc] at this
  split at h
  · simp only [bind_ok, pure_ok, Prod.mk.injEq] at h
    obtain ⟨_, -, rfl, -⟩ := h
    exact .same _
  · rename_i hfresh
    simp only [promoteNew, insertVersion, bind_ok, require_ok, pure_ok, Prod.mk.injEq] at h
    obtain ⟨decision, heval, _, hallowed, found, hfound, inserted, ⟨_, -, rfl⟩, db₁, happ, c'', -, rfl, rfl⟩ := h
    have hrow : Holds (promoted db latest' decision.targetLevel found (digest receipt.payload) now) c' :=
      ⟨hholds.json, hholds.plain, hholds.valid, hholds.candidateId, hholds.candidateSha256, hholds.item,
        hholds.knowledge⟩
    obtain ⟨entry, hentry, rfl⟩ := appendLedger_ok happ hrow rfl rfl (nonEmpty_digest _).symm
    rw [← hholds.candidateId, ← hholds.candidateSha256]
    exact .promote hlatest hholds hfresh heval hallowed hfound (hentry.congr rfl)

theorem step_of_archive (hrows : RowsHold db) {expected : String}
    (h : archive db item expected actorId reasonCode now = .ok db') :
    Step db (.archive item expected actorId reasonCode) db' := by
  obtain ⟨f, hf⟩ := hrows
  simp only [archive, bind_ok, compactId_ok, orRaise_ok, require_ok] at h
  obtain ⟨_, ⟨-, rfl⟩, sha, -, _, -, found, hfound, row, rfl, _, -, c, hc, happ⟩ := h
  obtain ⟨hmem, hitem, -⟩ := mem_of_activeRow hfound
  have hholds : Holds row c := by
    have := hf row hmem
    rwa [← this.unique hc] at this
  obtain ⟨entry, hentry, rfl⟩ := appendLedger_ok happ hholds hitem.symm rfl rfl
  exact .archive hfound hitem hentry

theorem step_of_rollback (hrows : RowsHold db) {target : String} {expected : Option String}
    (h : rollback db item target expected actorId reasonCode now = .ok (db', row)) :
    Step db (.rollback item target expected actorId reasonCode) db' := by
  obtain ⟨f, hf⟩ := hrows
  simp only [rollback, bind_ok, compactId_ok, orRaise_ok, require_ok, pure_ok, Prod.mk.injEq] at h
  obtain ⟨_, ⟨-, rfl⟩, sha, -, _, -, _, -, found, hfound, _, -, row', hrow, c, hc, db₁, happ, rfl, rfl⟩ := h
  obtain ⟨hmem, hp⟩ := getLast?_filter hrow
  simp only [decide_eq_true_eq] at hp
  obtain ⟨hitem, rfl, hdisp⟩ := hp
  have hholds : Holds row' c := by
    have := hf row' hmem
    rwa [← this.unique hc] at this
  obtain ⟨entry, hentry, rfl⟩ := appendLedger_ok happ hholds hitem.symm rfl rfl
  exact .rollback hfound hrow hentry

theorem step_of_commit (hrows : RowsHold db)
    (h : k.commit now db = .ok db') : Step db k db' := by
  have map_ok {x : Except Raised (Store × VersionRow)} (hx : Prod.fst <$> x = .ok db') : ∃ row, x = .ok (db', row) := by
    cases x with
    | error e => simp [Functor.map, Except.map] at hx
    | ok p =>
      obtain ⟨db₁, row⟩ := p
      simp only [Functor.map, Except.map, Except.ok.injEq] at hx
      exact ⟨row, by rw [hx]⟩
  cases k with
  | stage c actorId reasonCode =>
    obtain ⟨row, h⟩ := map_ok h
    exact step_of_stage h
  | promote candidateId targetLevel receipt contradictions actorId reasonCode =>
    obtain ⟨row, h⟩ := map_ok h
    exact step_of_promote hrows h
  | archive item expected actorId reasonCode => exact step_of_archive hrows h
  | rollback item target expected actorId reasonCode =>
    obtain ⟨row, h⟩ := map_ok h
    exact step_of_rollback hrows h

/-! ## The ladder -/

def ladder : List Level := [.candidate, .validated, .approved, .enterprise]

/-- The versions of one candidate. -/
def rowsOf (vs : List VersionRow) (candidateId : String) : List VersionRow :=
  vs.filter fun r => r.candidateId = candidateId

theorem Level.text_injective {a b : Level} (h : a.text = b.text) : a = b := by
  cases a <;> cases b <;> first | rfl | exact absurd h (by decide)

theorem Level.ofText?_eq_some {l : Level} : Level.ofText? s = some l ↔ s = l.text := by
  constructor
  · intro h
    have := List.find?_some h
    simpa [eq_comm] using this
  · rintro rfl
    cases l <;> decide

theorem evaluate_allowed {current target : String}
    {receipt : Option LearningValidationReceipt}
    (h : AdaptiveLearningPolicy.evaluate c current target receipt contradictions = .ok decision)
    (hallowed : decision.allowed = true) : target = decision.targetLevel.text ∧
      ∃ level : Level, current = level.text ∧ decision.targetLevel.index = level.index + 1 := by
  simp only [AdaptiveLearningPolicy.evaluate, bind_ok, orRaise_ok, Level.ofText?_eq_some] at h
  obtain ⟨_, -, level, hcurrent, target', htarget, h⟩ := h
  split at h
  · obtain rfl := pure_ok.mp h
    simp at hallowed
  · rename_i hindex
    simp only [bind_ok, pure_ok] at h
    obtain ⟨found, -, rfl⟩ := h
    exact ⟨htarget, level, hcurrent, not_not.mp hindex⟩

theorem ladder_snoc {l : List Level} {a b : Level} (h : l <+: ladder) (hlast : l.getLast? = some a)
    (hb : b.index = a.index + 1) : l ++ [b] <+: ladder := by
  obtain ⟨n, rfl⟩ : ∃ n, l = ladder.take n := ⟨l.length, (List.prefix_iff_eq_take.mp h)⟩
  have hn : ladder.take n = ladder.take (min n 4) := by
    rw [List.take_eq_take_iff]
    simp [ladder]
  rw [hn] at hlast ⊢
  have hle : min n 4 ≤ 4 := Nat.min_le_right _ _
  generalize min n 4 = m at *
  clear h hn
  interval_cases m <;> simp [ladder] at hlast <;> subst hlast <;> cases b <;> simp_all [ladder, Level.index]

/-- The version was admitted to its level by the policy, with the receipt it names. -/
def Admitted (row : VersionRow) : Prop :=
  ∃ (c : KnowledgeCandidate) (current : Level) (receipt : LearningValidationReceipt)
    (contradictions : List ContradictionRecord) (decision : PromotionDecision), Holds row c ∧
    row.level.index = current.index + 1 ∧ row.validationReceiptSha256 = some (digest receipt.payload) ∧
    AdaptiveLearningPolicy.evaluate c current.text row.level.text (some receipt) contradictions = .ok decision ∧
    decision.allowed = true

/-- What holds of the table of versions. -/
structure VersionsOK (vs : List VersionRow) : Prop where
  ids : vs.map (·.versionId) = List.range' 1 vs.length
  holds : ∃ f : String → KnowledgeCandidate, ∀ r ∈ vs, Holds r (f r.candidateId)
  climbs : ∀ candidateId, (rowsOf vs candidateId).map (·.level) <+: ladder
  admitted : ∀ r ∈ vs, r.level ≠ .candidate → Admitted r
  snapshots : ∀ r ∈ vs, r.disposition = .activeSnapshot → r.level = .approved ∨ r.level = .enterprise

theorem VersionsOK.nil : VersionsOK [] :=
  { ids := rfl, holds := ⟨fun _ => default, by simp⟩, climbs := fun _ => List.nil_prefix, admitted := by simp,
    snapshots := by simp }

theorem rowsOf_snoc :
    rowsOf (vs ++ [row]) candidateId =
      if row.candidateId = candidateId then rowsOf vs candidateId ++ [row] else rowsOf vs candidateId := by
  simp only [rowsOf, List.filter_append]
  split <;> simp_all

theorem VersionsOK.snoc (h : VersionsOK vs)
    (hid : row.versionId = vs.length + 1) (hc : Holds row c)
    (hsame : ∀ r ∈ vs, r.candidateId = row.candidateId → Holds r c)
    (hclimb : (rowsOf vs row.candidateId).map (·.level) ++ [row.level] <+: ladder)
    (hadmitted : row.level ≠ .candidate → Admitted row)
    (hsnapshot : row.disposition = .activeSnapshot → row.level = .approved ∨ row.level = .enterprise) :
    VersionsOK (vs ++ [row]) := by
  obtain ⟨f, hf⟩ := h.holds
  refine ⟨?_, ⟨Function.update f row.candidateId c, ?_⟩, ?_, ?_, ?_⟩
  · rw [List.map_append, h.ids, List.length_append, List.length_singleton, List.range'_1_concat, List.map_singleton,
      hid, Nat.add_comm 1]
  · intro r hr
    rcases List.mem_append.mp hr with hr | hr
    · by_cases heq : r.candidateId = row.candidateId
      · rw [heq, Function.update_self]
        exact hsame r hr heq
      · rw [Function.update_of_ne heq]
        exact hf r hr
    · obtain rfl := List.mem_singleton.mp hr
      rw [Function.update_self]
      exact hc
  · intro candidateId
    rw [rowsOf_snoc]
    split
    · rename_i heq
      subst heq
      simpa using hclimb
    · exact h.climbs candidateId
  · intro r hr
    rcases List.mem_append.mp hr with hr | hr
    · exact h.admitted r hr
    · obtain rfl := List.mem_singleton.mp hr
      exact hadmitted
  · intro r hr
    rcases List.mem_append.mp hr with hr | hr
    · exact h.snapshots r hr
    · obtain rfl := List.mem_singleton.mp hr
      exact hsnapshot

theorem rowsOf_eq_nil (h : VersionsOK db.versions)
    (hfresh : db.atLevel? candidateId "candidate" = none) : rowsOf db.versions candidateId = [] := by
  cases hrows : rowsOf db.versions candidateId with
  | nil => rfl
  | cons r rs =>
    exfalso
    have hr : r ∈ rowsOf db.versions candidateId := by simp [hrows]
    obtain ⟨hmem, hid⟩ := List.mem_filter.mp hr
    have hclimb := h.climbs candidateId
    rw [hrows, List.map_cons, ladder, List.cons_prefix_cons] at hclimb
    have := List.find?_eq_none.mp hfresh r hmem
    simp only [decide_eq_true_eq] at hid
    simp [hid, hclimb.1, Level.text] at this

theorem versionsOK_stage (h : VersionsOK db.versions)
    (hfresh : db.atLevel? c.candidateId "candidate" = none) (hc : Holds row c)
    (hid : row.versionId = db.versions.length + 1) (hlevel : row.level = .candidate)
    (hstaged : row.disposition = .staged) : VersionsOK (db.versions ++ [row]) := by
  have hnil := rowsOf_eq_nil h hfresh
  rw [← hc.candidateId] at hnil
  refine h.snoc hid hc ?_ ?_ ?_ ?_
  · intro r hr heq
    have : r ∈ rowsOf db.versions row.candidateId := List.mem_filter.mpr ⟨hr, by simpa using heq⟩
    simp [hnil] at this
  · rw [hnil, hlevel]
    decide
  · exact fun hne => absurd hlevel hne
  · intro hactive
    rw [hstaged] at hactive
    cases hactive

theorem versionsOK_promote (h : VersionsOK db.versions)
    (hlatest : db.latest? candidateId = some latest) (hc : Holds latest c)
    (heval : AdaptiveLearningPolicy.evaluate c latest.level.text targetLevel (some receipt) contradictions =
      .ok decision) (hallowed : decision.allowed = true) :
    VersionsOK (db.versions ++ [promoted db latest decision.targetLevel found (digest receipt.payload) now]) := by
  obtain ⟨htarget, level, hlevel, hindex⟩ := evaluate_allowed heval hallowed
  obtain rfl := Level.text_injective hlevel
  obtain ⟨hmem, hid⟩ := getLast?_filter hlatest
  simp only [decide_eq_true_eq] at hid
  obtain ⟨f, hf⟩ := h.holds
  have hrow : Holds (promoted db latest decision.targetLevel found (digest receipt.payload) now) c :=
    ⟨hc.json, hc.plain, hc.valid, hc.candidateId, hc.candidateSha256, hc.item, hc.knowledge⟩
  refine h.snoc rfl hrow ?_ ?_ ?_ ?_
  · intro r hr heq
    have hfc : f latest.candidateId = c := hc.unique (hf latest hmem).fromRow
    have := hf r hr
    rwa [heq, show (promoted db latest decision.targetLevel found (digest receipt.payload) now).candidateId =
      latest.candidateId from rfl, hfc] at this
  · refine ladder_snoc (h.climbs _) ?_ hindex
    show ((rowsOf db.versions latest.candidateId).map _).getLast? = _
    rw [hid, List.getLast?_map]
    exact congrArg (Option.map VersionRow.level) hlatest
  · intro _
    rw [htarget] at heval
    exact ⟨c, latest.level, receipt, contradictions, decision, hrow, hindex, rfl, heval, hallowed⟩
  · intro hactive
    have hact : activates decision.targetLevel found = true := by
      by_contra hne
      simp [promoted, hne] at hactive
    simp only [activates, List.mem_cons, List.not_mem_nil, or_false, Bool.decide_and, Bool.decide_or,
      Bool.and_eq_true, Bool.or_eq_true, decide_eq_true_eq] at hact
    exact hact.1

/-! ## The active version -/

theorem getLast?_filter_snoc {p : α → Bool} {l : List α} {a : α} :
    ((l ++ [a]).filter p).getLast? = if p a then some a else (l.filter p).getLast? := by
  rw [List.filter_append]
  split <;> simp_all

/-- The event makes this version the active one of its item. -/
structure Names (e : LedgerRow) (row : VersionRow) : Prop where
  disposition : row.disposition = .activeSnapshot
  itemId : e.itemId = row.itemId
  candidateId : e.candidateId = some row.candidateId
  candidateSha256 : e.candidateSha256 = some row.candidateSha256
  knowledge : e.knowledgeSha256 = some row.knowledgeSha256
  after : e.afterSha256 = some row.knowledgeSha256
  receipt : e.validationReceiptSha256 = row.validationReceiptSha256
  activate : e.eventType = .activate → row.level = .approved
  enterprise : e.eventType = .enterprise → row.level = .enterprise

/-- The last deciding event of each item archives it or names the version that is then found active. -/
def Decided (db : Store) : Prop :=
  ∀ item e, db.decision? item = some e → e.eventType = .archive ∨
    ∃ row, db.snapshot? item row.candidateId row.knowledgeSha256 = some row ∧ Names e row

theorem decision?_snoc :
    decision? ⟨vs, l ++ [entry]⟩ item =
      if entry.itemId = item ∧ entry.eventType.decides = true then some entry
      else decision? ⟨vs, l⟩ item := by
  simp only [decision?, getLast?_filter_snoc, decide_eq_true_eq]

theorem decision?_quiet
    (h : ¬ (entry.itemId = item ∧ entry.eventType.decides = true)) :
    decision? ⟨vs, db.ledger ++ [entry]⟩ item = db.decision? item := by
  rw [decision?_snoc, if_neg h]
  rfl

theorem snapshot?_append {rows : List VersionRow} {l' : List LedgerRow}
    (h : ∀ r ∈ rows, r.itemId = item → r.disposition ≠ .activeSnapshot) :
    snapshot? ⟨vs ++ rows, l⟩ item cid know = snapshot? ⟨vs, l'⟩ item cid know := by
  have hnil : rows.filter (fun r => r.itemId = item ∧ r.candidateId = cid ∧ r.knowledgeSha256 = know ∧
      r.disposition = .activeSnapshot) = [] := by
    rw [List.filter_eq_nil_iff]
    intro r hr hp
    simp only [decide_eq_true_eq] at hp
    exact h r hr hp.1 hp.2.2.2
  simp only [snapshot?, List.filter_append, hnil, List.append_nil]

/-- A new active version comes with a deciding event of its item. -/
def Announced (entry : LedgerRow) (rows : List VersionRow) : Prop :=
  ∀ r ∈ rows, r.disposition = .activeSnapshot → entry.itemId = r.itemId ∧ entry.eventType.decides = true

theorem Decided.append (h : Decided db) (rows : List VersionRow) (entry : LedgerRow)
    (hrows : Announced entry rows)
    (hnew : entry.eventType.decides = true → entry.eventType = .archive ∨
      ∃ row, snapshot? ⟨db.versions ++ rows, db.ledger ++ [entry]⟩ entry.itemId row.candidateId
        row.knowledgeSha256 = some row ∧ Names entry row) :
    Decided ⟨db.versions ++ rows, db.ledger ++ [entry]⟩ := by
  intro item e he
  rw [decision?_snoc] at he
  split at he
  · rename_i hdec
    obtain ⟨rfl, hdec⟩ := hdec
    obtain rfl := Option.some.inj he
    exact hnew hdec
  · rename_i hdec
    rcases h item e he with harch | ⟨row, hrow, hnames⟩
    · exact .inl harch
    · refine .inr ⟨row, ?_, hnames⟩
      rw [← hrow]
      refine snapshot?_append ?_
      intro r hr hitem hactive
      obtain ⟨hentry, hdecides⟩ := hrows r hr hactive
      exact hdec ⟨hentry.trans hitem, hdecides⟩

theorem activeRow_of_decided (h : Decided db) (hv : VersionsOK db.versions) (item : String) :
    match db.decision? item with
    | none => activeRow db item = .ok none
    | some e =>
      if e.eventType = .archive then activeRow db item = .ok none
      else ∃ row, activeRow db item = .ok (some row) ∧ row ∈ db.versions ∧ row.itemId = item ∧ Names e row := by
  split
  · rename_i he
    simp [activeRow, he, pure, Except.pure]
  · rename_i e he
    split
    · rename_i harch
      simp [activeRow, he, harch, pure, Except.pure]
    · rename_i harch
      obtain harch' | ⟨row, hrow, hnames⟩ := h item e he
      · exact absurd harch' harch
      · obtain ⟨hmem, hitem, -⟩ := mem_of_snapshot? hrow
        obtain ⟨f, hf⟩ := hv.holds
        refine ⟨row, ?_, hmem, hitem, hnames⟩
        have hfail : eventFailures e row = [] := by
          simp [eventFailures, hnames.candidateSha256, hnames.knowledge, hnames.after]
        have hsnap : snapshotOf db item e row.knowledgeSha256 = .ok row := by
          simp only [snapshotOf, hnames.candidateId, Option.getD_some, hrow, bind_ok, orRaise_ok, require_ok, pure_ok]
          exact ⟨row, rfl, _, (hf row hmem).fromRow, ⟨⟩, hfail, rfl⟩
        simp only [activeRow, he, harch, if_false, hnames.after, bind_ok, pure_ok]
        exact ⟨row, hsnap, rfl⟩

/-! ## Every reachable store -/

/-- What every call keeps. -/
structure Inv (db : Store) : Prop where
  ledger : verifyLedger db = []
  versions : VersionsOK db.versions
  decided : Decided db

theorem Inv.empty : Inv {} :=
  { ledger := rfl, versions := VersionsOK.nil, decided := by intro item e he; simp [decision?] at he }

theorem activates_iff : activates target found = true ↔
    target = .enterprise ∨ target = .approved ∧ found.map (·.level) ≠ some .enterprise := by
  cases target <;> simp [activates]

theorem decided_staged (h : Decided db)
    (hstaged : row.disposition = .staged) (hentry : entry.eventType.decides = false) :
    Decided ⟨db.versions ++ [row], db.ledger ++ [entry]⟩ := by
  refine h.append _ _ ?_ ?_
  · intro r hr hactive
    obtain rfl := List.mem_singleton.mp hr
    rw [hstaged] at hactive
    cases hactive
  · intro hdec
    rw [hentry] at hdec
    cases hdec

theorem names_promoted (hact : activates target found = true)
    (hentry : Recorded db (promotionEvent target found) (promoted db latest target found (digest v) now) before
      (if activates target found then some latest.knowledgeSha256 else none) entry) :
    Names entry (promoted db latest target found (digest v) now) := by
  have hkind : entry.eventType = if target = .enterprise then .enterprise else .activate := by
    rw [hentry.eventType, promotionEvent, if_pos hact]
  refine ⟨?_, hentry.itemId, hentry.candidateId, hentry.candidateSha256, hentry.knowledge, ?_, ?_, ?_, ?_⟩
  · simp [promoted, hact]
  · rw [hentry.after, if_pos hact]
    rfl
  · rw [hentry.receipt]
    exact nonEmpty_digest v
  · intro hactivate
    rw [hkind] at hactivate
    split at hactivate
    · cases hactivate
    · rename_i hne
      exact (activates_iff.mp hact).resolve_left hne |>.1
  · intro henterprise
    rw [hkind] at henterprise
    split at henterprise
    · rename_i heq
      exact heq
    · cases henterprise

theorem decided_promote (h : Decided db)
    (hentry : Recorded db (promotionEvent target found) (promoted db latest target found (digest v) now) before
      (if activates target found then some latest.knowledgeSha256 else none) entry) :
    Decided ⟨db.versions ++ [promoted db latest target found (digest v) now], db.ledger ++ [entry]⟩ := by
  by_cases hact : activates target found = true
  · have hnames := names_promoted hact hentry
    have hdec : entry.eventType.decides = true := by
      rw [hentry.eventType, promotionEvent, if_pos hact]
      split <;> rfl
    refine h.append _ _ ?_ ?_
    · intro r hr _
      obtain rfl := List.mem_singleton.mp hr
      exact ⟨hnames.itemId, hdec⟩
    · intro _
      refine .inr ⟨_, ?_, hnames⟩
      rw [snapshot?, getLast?_filter_snoc, if_pos]
      simp [hnames.itemId, hnames.disposition]
  · refine decided_staged h ?_ ?_
    · simp [promoted, hact]
    · rw [hentry.eventType, promotionEvent, if_neg hact]
      rfl

theorem decided_archive (h : Decided db) (hentry : entry.eventType = .archive) :
    Decided ⟨db.versions, db.ledger ++ [entry]⟩ := by
  have := h.append [] entry (by simp [Announced]) fun _ => .inl hentry
  simpa using this

theorem getLast?_filter_and {p q : α → Bool} {l : List α} {a : α} (h : (l.filter p).getLast? = some a)
    (hq : q a = true) : (l.filter fun x => p x && q x).getLast? = some a := by
  obtain ⟨l', hl⟩ := List.getLast?_eq_some_iff.mp h
  have : (l.filter fun x => p x && q x) = (l.filter p).filter q := by
    rw [List.filter_filter]
    exact List.filter_congr fun x _ => Bool.and_comm _ _
  rw [this, hl, getLast?_filter_snoc, if_pos hq]

theorem decided_rollback (h : Inv db) (hrow : db.rollbackTarget? item row.knowledgeSha256 = some row)
    (hentry : Recorded db .rollback row before (some row.knowledgeSha256) entry) :
    Decided ⟨db.versions, db.ledger ++ [entry]⟩ := by
  obtain ⟨hmem, hp⟩ := getLast?_filter hrow
  simp only [decide_eq_true_eq] at hp
  obtain ⟨rfl, -, hactive⟩ := hp
  have hlevel : row.level ≠ .candidate := by
    rcases h.versions.snapshots row hmem hactive with hl | hl <;> simp [hl]
  obtain ⟨c, current, receipt, contradictions, decision, hc, -, hreceipt, -⟩ := h.versions.admitted row hmem hlevel
  have hnames : Names entry row := by
    refine ⟨hactive, hentry.itemId, hentry.candidateId, hentry.candidateSha256, hentry.knowledge, hentry.after, ?_,
      ?_, ?_⟩
    · rw [hentry.receipt, hreceipt]
      exact nonEmpty_digest _
    · intro hne
      rw [hentry.eventType] at hne
      cases hne
    · intro hne
      rw [hentry.eventType] at hne
      cases hne
  have hsnap : db.snapshot? row.itemId row.candidateId row.knowledgeSha256 = some row := by
    have := getLast?_filter_and (q := fun r => r.candidateId = row.candidateId) hrow (by simp)
    rw [snapshot?, ← this]
    congr 1
    refine List.filter_congr fun r _ => ?_
    rw [← Bool.decide_and]
    refine decide_eq_decide.mpr ?_
    tauto
  have := h.decided.append [] entry (by simp [Announced]) fun _ => by
    rw [List.append_nil, hentry.itemId]
    exact .inr ⟨row, hsnap, hnames⟩
  simpa using this

theorem Inv.step (h : Inv db) (hs : Step db k db') : Inv db' := by
  cases hs with
  | same => exact h
  | stage fresh hrow hid hlevel hstaged hfound hactive hentry =>
    refine ⟨verifyLedger_append h.ledger hentry, versionsOK_stage h.versions fresh hrow hid hlevel hstaged, ?_⟩
    refine decided_staged h.decided hstaged ?_
    rw [hentry.eventType]
    rfl
  | promote hlatest hc fresh heval hallowed hfound hentry =>
    exact ⟨verifyLedger_append h.ledger hentry, versionsOK_promote h.versions hlatest hc heval hallowed,
      decided_promote h.decided hentry⟩
  | archive hfound hitem hentry =>
    exact ⟨verifyLedger_append h.ledger hentry, h.versions, decided_archive h.decided hentry.eventType⟩
  | rollback hfound hrow hentry =>
    exact ⟨verifyLedger_append h.ledger hentry, h.versions, decided_rollback h hrow hentry⟩

theorem Inv.after (h : Inv db) (k : Call × String) :
    Inv (db.after k) ∧ (db.after k = db ∨ Step db k.1 (db.after k)) := by
  unfold Store.after
  split
  · rename_i db' hk
    have hs := step_of_commit h.versions.holds hk
    exact ⟨h.step hs, .inr hs⟩
  · exact ⟨h, .inl rfl⟩

theorem inv_run (calls : List (Call × String)) : Inv (run calls) := by
  suffices H : ∀ db, Inv db → Inv (calls.foldl after db) from H _ Inv.empty
  induction calls with
  | nil => exact fun db h => h
  | cons k calls ih => exact fun db h => ih _ (h.after k).1

theorem activeRow_congr (hdec : db'.decision? item = db.decision? item)
    (hsnap : ∀ cid know, db'.snapshot? item cid know = db.snapshot? item cid know) :
    activeRow db' item = activeRow db item := by
  simp only [activeRow, hdec, snapshotOf, hsnap]

theorem activeRow_step (item : String) (h : Inv db) (hs : Step db k db')
    (hk : k.isRollback = false) : activeRow db' item = activeRow db item ∨ activeRow db' item = .ok none ∨
      ∃ found e row, activeRow db item = .ok found ∧ db'.decision? item = some e ∧ activates row.level found = true ∧
        activeRow db' item = .ok (some row) ∧ Names e row := by
  have h' := h.step hs
  cases hs with
  | same => exact .inl rfl
  | stage fresh hrow hid hlevel hstaged hfound hactive hentry =>
    refine .inl (activeRow_congr ?_ fun cid know => ?_)
    · refine decision?_quiet ?_
      rintro ⟨-, hdec⟩
      rw [hentry.eventType] at hdec
      cases hdec
    · refine snapshot?_append ?_
      intro r hr _
      obtain rfl := List.mem_singleton.mp hr
      simp [hstaged]
  | @promote candidateId targetLevel receipt contradictions actorId reasonCode now latest c decision found entry
      hlatest hc fresh heval hallowed hfound hentry =>
    by_cases hact : activates decision.targetLevel found = true ∧ latest.itemId = item
    · obtain ⟨hact, rfl⟩ := hact
      have hnames := names_promoted hact hentry
      have hkind : entry.eventType.decides = true ∧ entry.eventType ≠ .archive := by
        rw [hentry.eventType, promotionEvent, if_pos hact]
        split <;> simp [EventType.decides]
      have hitem : entry.itemId = latest.itemId := hentry.itemId
      have hdec : decision? ⟨db.versions ++ [promoted db latest decision.targetLevel found
          (digest receipt.payload) now], db.ledger ++ [entry]⟩ latest.itemId = some entry := by
        rw [decision?_snoc, if_pos ⟨hitem, hkind.1⟩]
      have hrow := activeRow_of_decided h'.decided h'.versions latest.itemId
      simp only [hdec, hkind.2, if_false] at hrow
      obtain ⟨row, hrow, -, -, hnames'⟩ := hrow
      obtain ⟨e, after, he, -, hafter, hsnap⟩ := activeRow_some hrow
      obtain rfl := Option.some.inj (hdec.symm.trans he)
      have hlast : snapshot? ⟨db.versions ++ [promoted db latest decision.targetLevel found
          (digest receipt.payload) now], db.ledger ++ [entry]⟩ latest.itemId (entry.candidateId.getD "") after =
          some (promoted db latest decision.targetLevel found (digest receipt.payload) now) := by
        rw [hnames.after, Option.some.injEq] at hafter
        rw [snapshot?, getLast?_filter_snoc, if_pos]
        simp [hnames.candidateId, hact, ← hafter, promoted]
      obtain rfl := Option.some.inj (hlast.symm.trans hsnap)
      exact .inr (.inr ⟨found, entry, _, hfound, hdec, hact, hrow, hnames⟩)
    · refine .inl (activeRow_congr ?_ fun cid know => ?_)
      · refine decision?_quiet ?_
        rintro ⟨hitem, hdec⟩
        rw [hentry.eventType, promotionEvent] at hdec
        split at hdec
        · rename_i hyes
          exact hact ⟨hyes, hentry.itemId.symm.trans hitem⟩
        · cases hdec
      · refine snapshot?_append ?_
        intro r hr hitem hactive
        obtain rfl := List.mem_singleton.mp hr
        refine hact ⟨?_, hitem⟩
        by_contra hne
        simp [promoted, hne] at hactive
  | @archive item' expected actorId reasonCode row entry hfound hitem hentry =>
    by_cases heq : strip item' = item
    · refine .inr (.inl ?_)
      have hdec : decision? ⟨db.versions, db.ledger ++ [entry]⟩ item = some entry := by
        rw [decision?_snoc, if_pos]
        exact ⟨hentry.itemId.trans (hitem.trans heq), by rw [hentry.eventType]; rfl⟩
      simp [activeRow, hdec, hentry.eventType, pure, Except.pure]
    · refine .inl (activeRow_congr ?_ fun cid know => rfl)
      refine decision?_quiet ?_
      rintro ⟨hitem', -⟩
      exact heq (hitem.symm.trans (hentry.itemId.symm.trans hitem'))
  | rollback hfound hrow hentry => cases hk

theorem enterprise_step {row' : VersionRow} (h : Inv db)
    (hs : Step db k db') (hk : k.isRollback = false) (hrow : activeRow db item = .ok (some row))
    (hlevel : row.level = .enterprise) (hrow' : activeRow db' item = .ok (some row')) : row'.level = .enterprise := by
  rcases activeRow_step item h hs hk with hsame | hnone | ⟨found, e, new, hfound, hdec, hact, hnew, hnames⟩
  · rw [hsame, hrow] at hrow'
    cases hrow'
    exact hlevel
  · rw [hnone] at hrow'
    cases hrow'
  · rw [hrow] at hfound
    cases hfound
    rw [hnew] at hrow'
    cases hrow'
    rcases activates_iff.mp hact with hent | ⟨-, hne⟩
    · exact hent
    · simp [hlevel] at hne

theorem active_of_inv (h : Inv db) (hitem : idRe (strip item) = true) :
    match db.decision? (strip item) with
    | none => active db item = .ok none
    | some e =>
      if e.eventType = .archive then active db item = .ok none
      else ∃ row c, active db item = .ok (some (row, c)) ∧ row ∈ db.versions ∧ Holds row c ∧ Names e row := by
  have hledger : assertLedgerIntegrity db = .ok ⟨⟩ := require_ok.mpr h.ledger
  have hfound := activeRow_of_decided h.decided h.versions (strip item)
  have hunfold : active db item = (do
      let found ← activeRow db (strip item)
      found.elim (pure none) fun row => do
        let c ← candidateFromRow row
        return some (row, c)) := by
    simp only [active, compactId, require, hitem, if_true, hledger]
    show activeRow db (strip item) >>= _ = _
    rcases activeRow db (strip item) with _ | _ | _ <;> rfl
  obtain ⟨f, hf⟩ := h.versions.holds
  split at hfound
  · rw [hunfold, hfound]
    rfl
  · split at hfound
    · rename_i harch
      rw [if_pos harch, hunfold, hfound]
      rfl
    · rename_i harch
      obtain ⟨row, hrow, hmem, -, hnames⟩ := hfound
      rw [if_neg harch]
      refine ⟨row, f row.candidateId, ?_, hmem, hf row hmem, hnames⟩
      rw [hunfold, hrow, show (Except.ok (some row) >>= _ : Except Raised _) =
        (do let c ← candidateFromRow row; return some (row, c)) from rfl, (hf row hmem).fromRow]
      rfl

theorem activeRow_of_active
    (h : active db item = .ok (some (row, c))) : activeRow db (strip item) = .ok (some row) := by
  simp only [active, bind_ok, compactId_ok] at h
  obtain ⟨_, ⟨-, rfl⟩, _, -, found, hfound, h⟩ := h
  cases found with
  | none => simp at h
  | some r =>
    simp only [bind_ok, pure_ok, Option.some.injEq, Prod.mk.injEq] at h
    obtain ⟨_, -, rfl, -⟩ := h
    exact hfound

/-! ## The main result -/

/-- What the learning store promises of a state. -/
structure Sound (db : Store) : Prop where
  ledger : verifyLedger db = []
  ids : db.versions.Pairwise fun a b => a.versionId < b.versionId
  climbs : ∀ candidateId, (rowsOf db.versions candidateId).map (·.level) <+: ladder
  same : ∀ a ∈ db.versions, ∀ b ∈ db.versions, a.candidateId = b.candidateId →
    a.candidateSha256 = b.candidateSha256 ∧ a.itemId = b.itemId ∧ a.knowledgeSha256 = b.knowledgeSha256
  admitted : ∀ r ∈ db.versions, r.level ≠ .candidate → Admitted r
  items : ∀ r ∈ db.versions, idRe (strip r.itemId) = true ∧ strip r.itemId = r.itemId
  active : ∀ item, idRe (strip item) = true →
    match db.decision? (strip item) with
    | none => active db item = .ok none
    | some e =>
      if e.eventType = .archive then active db item = .ok none
      else ∃ row c, active db item = .ok (some (row, c)) ∧ row ∈ db.versions ∧ Holds row c ∧ Names e row ∧
        (row.level = .approved ∨ row.level = .enterprise)

theorem Inv.sound (h : Inv db) : Sound db := by
  obtain ⟨f, hf⟩ := h.versions.holds
  refine ⟨h.ledger, ?_, h.versions.climbs, ?_, h.versions.admitted, ?_, ?_⟩
  · rw [← List.pairwise_map (f := VersionRow.versionId) (R := (· < ·)), h.versions.ids]
    exact List.pairwise_lt_range' 1
  · intro a ha b hb heq
    have h₁ := hf a ha
    have h₂ := hf b hb
    rw [heq] at h₁
    have hitem : a.itemId = b.itemId := by
      have := h₁.item.symm.trans h₂.item
      exact Except.ok.inj this
    exact ⟨h₁.candidateSha256.trans h₂.candidateSha256.symm, hitem,
      by rw [h₁.knowledge, h₂.knowledge, hitem]⟩
  · intro r hr
    have hre := (hf r hr).idRe
    have hstrip := strip_of_idRe hre
    rw [hstrip]
    exact ⟨hre, rfl⟩
  · intro item hitem
    have hfound := active_of_inv h hitem
    split at hfound
    · exact hfound
    · split at hfound
      · rename_i harch
        rw [if_pos harch]
        exact hfound
      · rename_i harch
        rw [if_neg harch]
        obtain ⟨row, c, hrow, hmem, hc, hnames⟩ := hfound
        exact ⟨row, c, hrow, hmem, hc, hnames, h.versions.snapshots row hmem hnames.disposition⟩

/-- In every store that calls reach: the ledger verifies, each candidate climbs the ladder one admitted level at a
time under one identity, and the active version of an item is the one its last deciding event names. And no call
but a rollback puts an approved version in the place of an active enterprise version. -/
theorem learning_over_runs (calls : List (Call × String)) : Sound (run calls) ∧
    ∀ (k : Call × String) (item : String) (row row' : VersionRow) (c c' : KnowledgeCandidate),
      k.1.isRollback = false → active (run calls) item = .ok (some (row, c)) → row.level = .enterprise →
      active ((run calls).after k) item = .ok (some (row', c')) → row'.level = .enterprise := by
  have h := inv_run calls
  refine ⟨h.sound, ?_⟩
  intro k item row row' c c' hk hrow hlevel hrow'
  have hrow := activeRow_of_active hrow
  have hrow' := activeRow_of_active hrow'
  rcases (h.after k).2 with hsame | hs
  · rw [hsame, hrow] at hrow'
    cases hrow'
    exact hlevel
  · exact enterprise_step h hs hk hrow hlevel hrow'

end AdaptiveLearning

end ThreeAgent

/-
What a query of the secure memory store gives. The rows are chosen by the
`SELECT`, which knows neither the expiry nor the classification of a record
and cuts the list before the loop looks at either; and `LIKE` takes the
letters of ASCII without their case. So the answer is what it should be only
where no row that the loop passes is one that the text of the prefix does not
begin, and no row of the answer stands behind the cut (`query_answer_iff`).
-/
import ThreeAgent.Lib.Cutting
import ThreeAgent.Lib.WholeFloat
import ThreeAgent.SecureMemoryFacts

namespace ThreeAgent.SecureMemory

open Outcome PyJson PyText Cutting

variable {row : RecordRow}

namespace SecureMemoryStore

namespace QueryPlan

variable (F : Type) [JsonFloat F] (plan : QueryPlan)

/-! ## The answer -/

/-- The record that a row holds and its size, where its hash bears it out. -/
def borneOut (row : RecordRow) : Except Raised (MemoryRecord F × Nat) := do
  let record ← rowToRecord F row
  verifyRecord record
  let encoded ← canonicalJson record.toDict
  return (record, (Utf8.encode encoded).length)

/-- A row that the answer is chosen from: of the namespace, its key with the prefix, not expired, of an allowed
classification, and borne out by its hash. -/
def eligible (clock : RecordRow → Int) (row : RecordRow) : Bool :=
  row.ns = plan.ns && plan.keyPrefix.all (startsWith row.memoryKey) &&
    (expired F (clock row) row.expiresAt).toOption = some false && plan.allowed.all (row.classification ∈ ·) &&
    (borneOut F row).toOption.isSome

def size (row : RecordRow) : Nat := ((borneOut F row).toOption.map Prod.snd).getD 0

/-- The rows of the answer: of those that are eligible the first, and of these the ones before the first that would
exceed the budget. -/
def answer (clock : RecordRow → Int) (count budget : Nat) (db : Database) : List RecordRow :=
  Cutting.cut (size F) budget 0 (((db.records.filter (plan.eligible F clock)).insertionSort Before).take count)

/-- The loop's look at a row. -/
def verdict (clock : RecordRow → Int) (row : RecordRow) : Cutting.Verdict :=
  match plan.consider F (clock row) row with
  | .ok none => .skip
  | .ok (some (_, size)) => .take size
  | .error _ => .fail

/-- The rows that the loop comes to before the budget would be exceeded. -/
def passed (clock : RecordRow → Int) (db : Database) : List RecordRow :=
  Cutting.passed (plan.verdict F clock) plan.byteBudget.toNat 0 (plan.rows db)

variable {F plan} {clock : RecordRow → Int}

/-! ## One row -/

theorem rowToRecord_fields {record : MemoryRecord F} (h : rowToRecord F row = .ok record) :
    record.recordId = row.recordId ∧ record.classification = row.classification := by
  unfold rowToRecord at h
  obtain ⟨value, -, h⟩ := bind_ok.mp h
  obtain ⟨metadata, -, h⟩ := bind_ok.mp h
  cases h
  exact ⟨rfl, rfl⟩

variable {found : MemoryRecord F × Nat}

theorem borneOut_ok : borneOut F row = .ok found ↔
    ∃ encoded, rowToRecord F row = .ok found.1 ∧ verifyRecord found.1 = .ok () ∧
      canonicalJson found.1.toDict = .ok encoded ∧ found.2 = (Utf8.encode encoded).length := by
  unfold borneOut
  constructor
  · intro h
    obtain ⟨record, hrecord, h⟩ := bind_ok.mp h
    obtain ⟨hverify, h⟩ := bind_unit_ok.mp h
    obtain ⟨encoded, hencoded, h⟩ := bind_ok.mp h
    cases h
    exact ⟨encoded, hrecord, hverify, hencoded, rfl⟩
  · intro ⟨encoded, hrecord, hverify, hencoded, hsize⟩
    refine bind_ok.mpr ⟨found.1, hrecord, bind_unit_ok.mpr ⟨hverify, bind_ok.mpr ⟨encoded, hencoded, ?_⟩⟩⟩
    rw [← hsize]
    rfl

theorem consider_ok {now : Int} :
    plan.consider F now row = .ok (some found) ↔
      expired F now row.expiresAt = .ok false ∧ plan.allowed.all (row.classification ∈ ·) = true ∧
        borneOut F row = .ok found := by
  unfold consider
  constructor
  · intro h
    obtain ⟨late, hlate, h⟩ := bind_ok.mp h
    cases late with
    | true => cases h
    | false =>
      obtain ⟨record, hrecord, h⟩ := bind_ok.mp h
      rw [(rowToRecord_fields hrecord).2] at h
      by_cases hallowed : plan.allowed.all (row.classification ∈ ·) = true
      · rw [if_pos hallowed] at h
        obtain ⟨hverify, h⟩ := bind_unit_ok.mp h
        obtain ⟨encoded, hencoded, h⟩ := bind_ok.mp h
        cases h
        exact ⟨hlate, hallowed, borneOut_ok.mpr ⟨encoded, hrecord, hverify, hencoded, rfl⟩⟩
      · rw [if_neg hallowed] at h
        cases h
  · intro ⟨hlate, hallowed, hfound⟩
    obtain ⟨encoded, hrecord, hverify, hencoded, hsize⟩ := borneOut_ok.mp hfound
    refine bind_ok.mpr ⟨false, hlate, bind_ok.mpr ⟨found.1, hrecord, ?_⟩⟩
    rw [(rowToRecord_fields hrecord).2, if_pos hallowed]
    refine bind_unit_ok.mpr ⟨hverify, bind_ok.mpr ⟨encoded, hencoded, ?_⟩⟩
    rw [← hsize]
    rfl

theorem taken_iff : (plan.verdict F clock row).taken = true ↔
    expired F (clock row) row.expiresAt = .ok false ∧ plan.allowed.all (row.classification ∈ ·) = true ∧
      ∃ found, borneOut F row = .ok found := by
  have hfound : (plan.verdict F clock row).taken = true ↔ ∃ found, plan.consider F (clock row) row = .ok (some found) := by
    unfold verdict
    split <;> simp_all [Cutting.Verdict.taken]
  rw [hfound]
  constructor
  · rintro ⟨found, h⟩
    obtain ⟨hlate, hallowed, hborne⟩ := consider_ok.mp h
    exact ⟨hlate, hallowed, found, hborne⟩
  · rintro ⟨hlate, hallowed, found, hborne⟩
    exact ⟨found, consider_ok.mpr ⟨hlate, hallowed, hborne⟩⟩

theorem verdict_cost (h : (plan.verdict F clock row).taken = true) :
    (plan.verdict F clock row).cost = size F row := by
  obtain ⟨hlate, hallowed, found, hborne⟩ := taken_iff.mp h
  rw [verdict, consider_ok.mpr ⟨hlate, hallowed, hborne⟩, size, hborne]
  rfl

theorem eligible_iff : plan.eligible F clock row = true ↔
    (row.ns = plan.ns ∧ plan.keyPrefix.all (startsWith row.memoryKey) = true) ∧
      (plan.verdict F clock row).taken = true := by
  have hoption : ∀ {α : Type} (x : Except Raised α), x.toOption.isSome = true ↔ ∃ a, x = .ok a := by
    intro α x
    cases x <;> simp [Except.toOption]
  have hlate : (expired F (clock row) row.expiresAt).toOption = some false ↔
      expired F (clock row) row.expiresAt = .ok false := by
    cases expired F (clock row) row.expiresAt <;> simp [Except.toOption]
  rw [taken_iff, eligible, Bool.and_eq_true, Bool.and_eq_true, Bool.and_eq_true, Bool.and_eq_true, decide_eq_true_eq,
    decide_eq_true_eq, hlate, hoption]
  constructor
  · intro ⟨⟨⟨hkey, hlate⟩, hallowed⟩, hborne⟩
    exact ⟨hkey, hlate, hallowed, hborne⟩
  · intro ⟨hkey, hlate, hallowed, hborne⟩
    exact ⟨⟨⟨hkey, hlate⟩, hallowed⟩, hborne⟩

theorem size_pos (h : borneOut F row = .ok found) : 0 < size F row := by
  obtain ⟨encoded, -, -, hencoded, hsize⟩ := borneOut_ok.mp h
  obtain ⟨entries, hdict, -, -⟩ := entries_dict (G := F) [
    ("schema_version", .str "workspace-secure-memory/v1"), ("record_id", .str found.1.recordId),
    ("namespace", .str found.1.ns), ("key", .str found.1.key), ("value", found.1.value), ("metadata", found.1.metadata),
    ("classification", .str found.1.classification), ("provenance", .str found.1.provenance),
    ("created_at", .str found.1.createdAt), ("updated_at", .str found.1.updatedAt),
    ("expires_at", .ofOption .str found.1.expiresAt), ("version", .int found.1.version),
    ("integrity_hash", .str found.1.integrityHash)]
  rw [canonicalJson, MemoryRecord.toDict, hdict, orRaise_ok, dumpsLax_some] at hencoded
  obtain ⟨-, rfl⟩ := hencoded
  have hhead : ∃ rest, layoutText .compact spellFloat 0 (.obj entries) = '{' :: rest := by
    cases entries with
    | nil => exact ⟨_, rfl⟩
    | cons e entries => exact ⟨_, rfl⟩
  obtain ⟨rest, hrest⟩ := hhead
  rw [size, h]
  change 0 < found.2
  rw [hsize, Utf8.encode, String.toList_ofList, hrest, List.flatMap_cons, List.length_append]
  have : 0 < (String.utf8EncodeChar '{').length := by decide
  omega

/-! ## The order -/

theorem eq_of_key {db : Database} {a b : RecordRow} (ha : a ∈ db.records) (hb : b ∈ db.records) (hns : a.ns = b.ns)
    (hkey : a.memoryKey = b.memoryKey) : a = b := by
  refine List.inj_on_of_nodup_map db.distinct ha hb ?_
  rw [db.named a ha, db.named b hb, hns, hkey]

theorem before_iff {a b : RecordRow} : Before a b ↔
    toLex (OrderDual.toDual a.updatedAt, a.memoryKey) ≤ toLex (OrderDual.toDual b.updatedAt, b.memoryKey) := by
  rw [Prod.Lex.toLex_le_toLex, OrderDual.toDual_lt_toDual, OrderDual.toDual_inj, Before]

theorem before_total (a b : RecordRow) : Before a b ∨ Before b a := by
  rw [before_iff, before_iff]
  exact le_total _ _

theorem before_trans (a b c : RecordRow) (hab : Before a b) (hbc : Before b c) : Before a c := by
  rw [before_iff] at hab hbc ⊢
  exact hab.trans hbc

theorem eq_of_before {a b : RecordRow} (hab : Before a b) (hba : Before b a) : a.memoryKey = b.memoryKey := by
  rw [before_iff] at hab hba
  exact congrArg (fun k => (ofLex k).2) (hab.antisymm hba)

instance : Std.Total Before := ⟨before_total⟩

instance : IsTrans RecordRow Before := ⟨before_trans⟩

theorem insertionSort_filter {rows : List RecordRow} (p : RecordRow → Bool)
    (hkeys : ∀ a ∈ rows, ∀ b ∈ rows, a.memoryKey = b.memoryKey → a = b) :
    (rows.filter p).insertionSort Before = (rows.insertionSort Before).filter p := by
  have hperm : ((rows.filter p).insertionSort Before).Perm ((rows.insertionSort Before).filter p) :=
    (List.perm_insertionSort _ _).trans ((List.perm_insertionSort Before rows).filter p).symm
  refine hperm.eq_of_pairwise ?_ (List.pairwise_insertionSort _ _) ((List.pairwise_insertionSort _ _).filter p)
  intro a b ha hb hab hba
  rw [List.mem_insertionSort] at ha
  rw [List.mem_filter, List.mem_insertionSort] at hb
  exact hkeys a (List.mem_of_mem_filter ha) b hb.1 (eq_of_before hab hba)

/-! ## The loop -/

theorem readRows_taken {record : MemoryRecord F} {encoded : Nat}
    (h : plan.consider F (clock row) row = .ok (some (record, encoded))) (rows : List RecordRow) (used : Nat) :
    plan.readRows F clock used (row :: rows) =
      if plan.byteBudget < ↑(used + encoded) then .ok []
      else (plan.readRows F clock (used + encoded) rows).map (record :: ·) := by
  rw [readRows, h]
  rfl

theorem readRows_read (hbudget : 0 ≤ plan.byteBudget) (rows : List RecordRow) (used : Nat) :
    (∀ taken, read (plan.verdict F clock) plan.byteBudget.toNat used rows = some taken →
      ∃ records, plan.readRows F clock used rows = .ok records ∧ taken.mapM (rowToRecord F) = .ok records) ∧
    (read (plan.verdict F clock) plan.byteBudget.toNat used rows = none →
      ∃ e, plan.readRows F clock used rows = .error e) := by
  induction rows generalizing used with
  | nil =>
    refine ⟨?_, fun h => by cases h⟩
    intro taken h
    cases h
    exact ⟨[], rfl, rfl⟩
  | cons row rows ih =>
    cases hrow : plan.consider F (clock row) row with
    | error e =>
      have hverdict : plan.verdict F clock row = .fail := by rw [verdict, hrow]
      rw [Cutting.read, hverdict]
      refine ⟨fun taken h => (by cases h), fun _ => ⟨e, ?_⟩⟩
      rw [readRows, hrow]
      rfl
    | ok found =>
      cases found with
      | none =>
        have hverdict : plan.verdict F clock row = .skip := by rw [verdict, hrow]
        have hread : plan.readRows F clock used (row :: rows) = plan.readRows F clock used rows := by
          rw [readRows, hrow]
          rfl
        rw [Cutting.read, hverdict, hread]
        exact ih used
      | some found =>
        obtain ⟨record, encoded⟩ := found
        have hverdict : plan.verdict F clock row = .take encoded := by rw [verdict, hrow]
        obtain ⟨_, hrecord, -⟩ := borneOut_ok.mp (consider_ok.mp hrow).2.2
        have hover : plan.byteBudget.toNat < used + encoded ↔ plan.byteBudget < ((used + encoded : Nat) : Int) :=
          Int.toNat_lt hbudget
        rw [Cutting.read, hverdict, readRows_taken hrow]
        dsimp only
        by_cases hlt : plan.byteBudget < ((used + encoded : Nat) : Int)
        · rw [if_pos (hover.mpr hlt), if_pos hlt]
          refine ⟨?_, fun h => by cases h⟩
          intro taken h
          cases h
          exact ⟨[], rfl, rfl⟩
        · rw [if_neg (fun h => hlt (hover.mp h)), if_neg hlt]
          obtain ⟨hsome, hnone⟩ := ih (used + encoded)
          refine ⟨?_, ?_⟩
          · intro taken h
            obtain ⟨taken', htaken, rfl⟩ := Option.map_eq_some_iff.mp h
            obtain ⟨records, hrecords, hmap⟩ := hsome taken' htaken
            refine ⟨record :: records, by rw [hrecords]; rfl, ?_⟩
            exact mapM_ok.mpr (.cons hrecord (mapM_ok.mp hmap))
          · intro h
            obtain ⟨e, he⟩ := hnone (Option.map_eq_none_iff.mp h)
            exact ⟨e, by rw [he]; rfl⟩

theorem rows_eq_of_records {db : Database} {rows rows' : List RecordRow} {records : List (MemoryRecord F)}
    (hrows : ∀ row ∈ rows, row ∈ db.records) (hrows' : ∀ row ∈ rows', row ∈ db.records)
    (h : rows.mapM (rowToRecord F) = .ok records) (h' : rows'.mapM (rowToRecord F) = .ok records) : rows = rows' := by
  replace h := mapM_ok.mp h
  replace h' := mapM_ok.mp h'
  induction h generalizing rows' with
  | nil =>
    cases h'
    rfl
  | @cons row record rows records hrow _ ih =>
    cases h' with
    | @cons row' _ rows' _ hrow' hrest =>
      obtain ⟨hmem, hrows⟩ := List.forall_mem_cons.mp hrows
      obtain ⟨hmem', hrows'⟩ := List.forall_mem_cons.mp hrows'
      have hid : row.recordId = row'.recordId :=
        (rowToRecord_fields hrow).1.symm.trans (rowToRecord_fields hrow').1
      rw [List.inj_on_of_nodup_map db.distinct hmem hmem' hid, ih hrows hrows' hrest]

theorem readRows_iff {db : Database} (hbudget : 0 ≤ plan.byteBudget) {rows taken : List RecordRow}
    (hrows : ∀ row ∈ rows, row ∈ db.records)
    (htaken : ∀ row ∈ taken, row ∈ db.records ∧ ∃ record, rowToRecord F row = .ok record) :
    plan.readRows F clock 0 rows = taken.mapM (rowToRecord F) ↔
      read (plan.verdict F clock) plan.byteBudget.toNat 0 rows = some taken := by
  obtain ⟨hsome, hnone⟩ := @readRows_read F _ plan clock hbudget rows 0
  obtain ⟨records, hrecords⟩ := mapM_returns fun row hrow => (htaken row hrow).2
  constructor
  · intro h
    rw [hrecords] at h
    cases hread : read (plan.verdict F clock) plan.byteBudget.toNat 0 rows with
    | none =>
      obtain ⟨e, he⟩ := hnone hread
      rw [he] at h
      cases h
    | some taken' =>
      obtain ⟨records', hrecords', hmap⟩ := hsome taken' hread
      rw [h] at hrecords'
      cases hrecords'
      have hmem : ∀ row ∈ taken', row ∈ db.records := fun row hrow => hrows row (mem_of_read hread row hrow)
      rw [rows_eq_of_records hmem (fun row hrow => (htaken row hrow).1) hmap hrecords]
  · intro h
    obtain ⟨records', hrecords', hmap⟩ := hsome taken h
    rw [hrecords', hmap]

/-! ## The rows of the `SELECT` -/

theorem selects_of_eligible (h : plan.eligible F clock row = true) : plan.selects row = true := by
  obtain ⟨⟨hns, hstart⟩, -⟩ := eligible_iff.mp h
  rw [selects, Bool.and_eq_true, decide_eq_true_eq]
  refine ⟨hns, ?_⟩
  cases hkey : plan.keyPrefix with
  | none => rfl
  | some text =>
    rw [hkey, Option.all_some, startsWith_iff] at hstart
    rw [Option.all_some]
    exact (SqlLike.like_escape text row.memoryKey).mpr (hstart.map SqlLike.fold)

theorem eligible_rows (db : Database) : (db.records.filter (plan.eligible F clock)).insertionSort Before =
    wanted (plan.verdict F clock) (fun row => row.ns = plan.ns && plan.keyPrefix.all (startsWith row.memoryKey))
      ((db.records.filter plan.selects).insertionSort Before) := by
  have hwanted : (fun row => (decide (row.ns = plan.ns) && plan.keyPrefix.all (startsWith row.memoryKey)) &&
      (plan.verdict F clock row).taken) = plan.eligible F clock := by
    funext row
    rw [Bool.eq_iff_iff, eligible_iff, Bool.and_eq_true, Bool.and_eq_true, decide_eq_true_eq]
  rw [wanted, hwanted, ← insertionSort_filter, List.filter_filter]
  · congr 1
    refine List.filter_congr ?_
    intro row _
    rw [Bool.eq_iff_iff, Bool.and_eq_true]
    exact ⟨fun h => ⟨h, selects_of_eligible h⟩, fun h => h.1⟩
  · intro a ha b hb
    rw [List.mem_filter, selects, Bool.and_eq_true, decide_eq_true_eq] at ha hb
    exact eq_of_key ha.1 hb.1 (ha.2.1.trans hb.2.1.symm)

theorem not_foul_iff (hns : row.ns = plan.ns) :
    ¬ Cutting.Foul (plan.verdict F clock)
        (fun row => row.ns = plan.ns && plan.keyPrefix.all (startsWith row.memoryKey)) row ↔
      plan.consider F (clock row) row = .ok none ∨ plan.eligible F clock row = true := by
  rw [eligible_iff, Cutting.Foul, not_or]
  cases hrow : plan.consider F (clock row) row with
  | error e =>
    have hverdict : plan.verdict F clock row = .fail := by rw [verdict, hrow]
    simp [hverdict, Cutting.Verdict.taken]
  | ok found =>
    cases found with
    | none =>
      have hverdict : plan.verdict F clock row = .skip := by rw [verdict, hrow]
      simp [hverdict, Cutting.Verdict.taken]
    | some found =>
      have hverdict : plan.verdict F clock row = .take found.2 := by rw [verdict, hrow]
      simp [hverdict, Cutting.Verdict.taken, hns]

/-- **The loop gives the answer** if and only if each row that it passes is left out or eligible, and it passes each
row of the answer. -/
theorem readRows_answer_iff (hbudget : 0 ≤ plan.byteBudget) (db : Database) :
    plan.readRows F clock 0 (plan.rows db) =
        (plan.answer F clock plan.boundedLimit.toNat plan.byteBudget.toNat db).mapM (rowToRecord F) ↔
      (∀ row ∈ plan.passed F clock db,
        plan.consider F (clock row) row = .ok none ∨ plan.eligible F clock row = true) ∧
      ∀ row ∈ plan.answer F clock plan.boundedLimit.toNat plan.byteBudget.toNat db, row ∈ plan.passed F clock db := by
  have hmem : ∀ row ∈ (db.records.filter plan.selects).insertionSort Before, row ∈ db.records ∧ row.ns = plan.ns := by
    intro row hrow
    rw [List.mem_insertionSort, List.mem_filter, selects, Bool.and_eq_true, decide_eq_true_eq] at hrow
    exact ⟨hrow.1, hrow.2.1⟩
  have hnodup : ((db.records.filter plan.selects).insertionSort Before).Nodup := by
    rw [(List.perm_insertionSort _ _).nodup_iff]
    exact (List.Nodup.of_map _ db.distinct).filter _
  have hanswer : plan.answer F clock plan.boundedLimit.toNat plan.byteBudget.toNat db =
      cut (fun row => (plan.verdict F clock row).cost) plan.byteBudget.toNat 0
        ((wanted (plan.verdict F clock)
          (fun row => row.ns = plan.ns && plan.keyPrefix.all (startsWith row.memoryKey))
          ((db.records.filter plan.selects).insertionSort Before)).take plan.boundedLimit.toNat) := by
    rw [answer, eligible_rows]
    refine cut_congr ?_
    intro row hrow
    exact (verdict_cost (mem_wanted.mp (List.mem_of_mem_take hrow)).2.2).symm
  have htaken : ∀ row ∈ plan.answer F clock plan.boundedLimit.toNat plan.byteBudget.toNat db,
      row ∈ db.records ∧ ∃ record, rowToRecord F row = .ok record := by
    intro row hrow
    have heligible := List.mem_of_mem_take (cut_subset row hrow)
    rw [List.mem_insertionSort, List.mem_filter] at heligible
    obtain ⟨-, -, found, hborne⟩ := taken_iff.mp (eligible_iff.mp heligible.2).2
    obtain ⟨_, hrecord, -⟩ := borneOut_ok.mp hborne
    exact ⟨heligible.1, found.1, hrecord⟩
  have hrows : ∀ row ∈ plan.rows db, row ∈ db.records := fun row hrow => (hmem row (List.mem_of_mem_take hrow)).1
  refine (readRows_iff hbudget hrows htaken).trans ?_
  rw [hanswer, rows, read_take_iff hnodup, ← hanswer]
  refine and_congr_left ?_
  intro _
  refine forall₂_congr ?_
  intro row hrow
  exact not_foul_iff (hmem row (List.mem_of_mem_take ((passed_initial _).subset hrow))).2

theorem readRows_nothing_iff (hbudget : 0 ≤ plan.byteBudget) (db : Database) :
    plan.readRows F clock 0 (plan.rows db) = .ok [] ↔
      ∀ row ∈ plan.passed F clock db, plan.consider F (clock row) row = .ok none := by
  have hmem : ∀ row ∈ plan.rows db, row ∈ db.records := by
    intro row hrow
    have hrow := List.mem_of_mem_take hrow
    rw [List.mem_insertionSort] at hrow
    exact List.mem_of_mem_filter hrow
  have hnothing := @readRows_iff F _ plan clock db hbudget _ [] hmem (List.forall_mem_nil _)
  rw [List.mapM_nil] at hnothing
  refine hnothing.trans ?_
  rw [read_nothing_iff]
  refine forall₂_congr ?_
  intro row _
  unfold verdict
  split <;> simp_all

end QueryPlan

variable {F : Type} [JsonFloat F]

/-! ## The bounds -/

/-- How many records the answer may have: `min(limit, max_records)`. -/
def count (store : SecureMemoryStore) (args : QueryArguments) : Nat :=
  (min (args.limit.getD store.maxRecords) store.maxRecords).toNat

/-- How many bytes the answer may have. -/
def budget (store : SecureMemoryStore) (args : QueryArguments) : Nat :=
  (min (args.maxBytes.getD store.maxBytes) store.maxBytes).toNat

theorem bounded_eq {given : Option Int} {bound : Int} (h : given ≠ some 0) :
    bounded given bound = min (given.getD bound) bound := by
  cases given with
  | none => rfl
  | some n =>
    have hn : n ≠ 0 := fun hn => h (by rw [hn])
    simp [bounded, Option.filter, hn]

theorem plan_bounds {store : SecureMemoryStore} {args : QueryArguments} {plan : QueryPlan} (h : store.plan args = .ok plan) :
    plan.boundedLimit = bounded args.limit store.maxRecords ∧ plan.byteBudget = bounded args.maxBytes store.maxBytes ∧
      1 ≤ plan.byteBudget := by
  unfold SecureMemoryStore.plan at h
  obtain ⟨ns, -, h⟩ := bind_ok.mp h
  obtain ⟨-, h⟩ := bind_unit_ok.mp h
  obtain ⟨hbudget, h⟩ := bind_unit_ok.mp h
  obtain ⟨allowed, -, h⟩ := bind_ok.mp h
  obtain ⟨keyPrefix, -, h⟩ := bind_ok.mp h
  obtain ⟨limit, hlimit, h⟩ := bind_ok.mp h
  obtain ⟨-, hlimit⟩ := bind_unit_ok.mp hlimit
  cases hlimit
  cases h
  exact ⟨rfl, rfl, require_ok.mp hbudget⟩

/-- **What a query gives**: for a query that passes its checks, the first `min(limit, max_records)` eligible records,
cut before the first that would exceed the budget, if and only if each row that the loop comes to is left out or
eligible, it comes to each row of the answer, and nothing is taken where the limit or the budget is zero, which the
code reads as none given. -/
theorem query_answer_iff (store : SecureMemoryStore) (clock : RecordRow → Int) (args : QueryArguments) (db : Database)
    (plan : QueryPlan) (h : store.plan args = .ok plan) :
    store.query F clock args db =
        (plan.answer F clock (store.count args) (store.budget args) db).mapM (rowToRecord F) ↔
      (∀ row ∈ plan.passed F clock db, plan.consider F (clock row) row = .ok none ∨
        plan.eligible F clock row = true ∧ args.limit ≠ some 0 ∧ args.maxBytes ≠ some 0) ∧
      ∀ row ∈ plan.answer F clock (store.count args) (store.budget args) db, row ∈ plan.passed F clock db := by
  obtain ⟨hlimit, hbytes, hpos⟩ := plan_bounds h
  have hquery : store.query F clock args db = plan.readRows F clock 0 (plan.rows db) := by
    rw [query, h]
    rfl
  rw [hquery]
  by_cases hzero : args.limit ≠ some 0 ∧ args.maxBytes ≠ some 0
  · have hcount : store.count args = plan.boundedLimit.toNat := by rw [count, hlimit, bounded_eq hzero.1]
    have hbudget : store.budget args = plan.byteBudget.toNat := by rw [budget, hbytes, bounded_eq hzero.2]
    rw [hcount, hbudget, QueryPlan.readRows_answer_iff (by omega)]
    simp only [hzero.1, hzero.2, ne_eq, not_false_eq_true, and_true]
  · have hempty : plan.answer F clock (store.count args) (store.budget args) db = [] := by
      by_cases hlimit : args.limit = some 0
      · have hcount : store.count args = 0 := by
          have := store.maxRecords_pos
          rw [count, hlimit]
          change (min 0 store.maxRecords).toNat = 0
          omega
        rw [QueryPlan.answer, hcount, List.take_zero]
        rfl
      · have hbytes : args.maxBytes = some 0 := by
          by_contra hne
          exact hzero ⟨hlimit, hne⟩
        have hbudget : store.budget args = 0 := by
          have := store.maxBytes_pos
          rw [budget, hbytes]
          change (min 0 store.maxBytes).toNat = 0
          omega
        rw [QueryPlan.answer, hbudget]
        refine Cutting.cut_of_full ?_
        intro row hrow
        have heligible := List.mem_of_mem_take hrow
        rw [List.mem_insertionSort, List.mem_filter] at heligible
        obtain ⟨-, -, found, hborne⟩ := QueryPlan.taken_iff.mp (QueryPlan.eligible_iff.mp heligible.2).2
        exact QueryPlan.size_pos hborne
    rw [hempty, List.mapM_nil]
    refine (QueryPlan.readRows_nothing_iff (by omega) db).trans ?_
    simp only [hzero, and_false, or_false, List.not_mem_nil, false_imp_iff, implies_true, and_true]

namespace Sample

/-- A record of the value 1, before its hash. -/
def plain (key updatedAt : String) (expiresAt : Option String) : MemoryRecord WholeFloat where
  recordId := recordIdFor "n" key
  ns := "n"
  key := key
  value := .int 1
  metadata := .obj []
  classification := "public"
  provenance := "p"
  createdAt := "1970-01-01T00:00:00+00:00"
  updatedAt := updatedAt
  expiresAt := expiresAt
  version := 1
  integrityHash := ""

def sealed (record : MemoryRecord WholeFloat) : MemoryRecord WholeFloat :=
  { record with
    integrityHash := Sha256.hexdigest ((integrityPayload WholeFloat (record.integrityFields "1" "{}")).toOption.getD "") }

theorem integrityFields_sealed (record : MemoryRecord WholeFloat) (valueJson metadataJson : String) :
    (sealed record).integrityFields valueJson metadataJson = record.integrityFields valueJson metadataJson := rfl

def expiring : RecordRow :=
  rowOf (sealed (plain "a" "1970-01-01T00:00:01+00:00" (some "1970-01-01T00:00:02+00:00"))) "1" "{}"

def staying : RecordRow := rowOf (sealed (plain "b" "1970-01-01T00:00:00+00:00" none)) "1" "{}"

def database : Database where
  records := [expiring, staying]
  named := by
    intro row hrow
    simp only [List.mem_cons, List.not_mem_nil, or_false] at hrow
    rcases hrow with rfl | rfl
    · rfl
    · rfl
  distinct := by decide +kernel

def arguments : QueryArguments where
  ns := "n"
  limit := some 1

def queryPlan : QueryPlan where
  ns := "n"
  keyPrefix := none
  boundedLimit := 1
  byteBudget := 65536
  allowed := none

def clock : RecordRow → Int := fun _ => 3000000

theorem plan_arguments : ({} : SecureMemoryStore).plan arguments = .ok queryPlan := by decide

theorem query_length : (({} : SecureMemoryStore).query WholeFloat clock arguments database).map List.length = .ok 0 := by
  decide

theorem length_recordIdFor (ns key : String) : (recordIdFor ns key).toList.length ≤ 36 := by
  have htake := List.length_take_le 32 (Sha256.hexdigest (ns ++ "\x00" ++ key)).toList
  have hmem : "mem_".toList.length = 4 := by decide
  simp only [recordIdFor, String.toList_append, List.length_append, String.toList_ofList]
  omega

omit [JsonFloat F] in
theorem toDict_writable [PyFloat F] {record : MemoryRecord F} (hvalue : Writable record.value)
    (hmetadata : Writable record.metadata) (hversion : record.version.natAbs < 2 ^ 64) : Writable record.toDict := by
  refine Writable.dict ?_
  intro e he
  simp only [List.mem_cons, List.not_mem_nil, or_false] at he
  rcases he with rfl | rfl | rfl | rfl | rfl | rfl | rfl | rfl | rfl | rfl | rfl | rfl | rfl
  case' inr.inr.inr.inr.inl => exact hvalue
  case' inr.inr.inr.inr.inr.inl => exact hmetadata
  any_goals exact Writable.str _
  · exact Writable.ofOption fun text _ => Writable.str text
  · exact Writable.int (dumpable_int hversion)

theorem staying_size : ∃ encoded,
    canonicalJson (sealed (plain "b" "1970-01-01T00:00:00+00:00" none)).toDict = .ok encoded ∧
      (Utf8.encode encoded).length ≤ 65536 := by
  have hstr : ∀ {s : String}, s.toList.length ≤ 64 →
      (layoutText .compact spellFloat 1 (.str s : Json WholeFloat)).length ≤ 386 := by
    intro s hs
    have := length_stringText_le s
    rw [layoutText]
    omega
  have hid := length_recordIdFor "n" "b"
  have hhash := Sha256.hexdigest_length
    ((integrityPayload WholeFloat ((plain "b" "1970-01-01T00:00:00+00:00" none).integrityFields "1" "{}")).toOption.getD "")
  have hlength : (layoutText .compact spellFloat 0 (sealed (plain "b" "1970-01-01T00:00:00+00:00" none)).toDict).length ≤
      13 * (98 + 386 + 0 + 3) + 0 + 2 := by
    refine length_dict_le (l := .compact) (fun _ _ => Nat.le_refl 0) (Nat.zero_le 1) ?_
    intro e he
    simp only [List.mem_cons, List.not_mem_nil, or_false] at he
    rcases he with rfl | rfl | rfl | rfl | rfl | rfl | rfl | rfl | rfl | rfl | rfl | rfl | rfl
    all_goals refine ⟨by decide, ?_⟩
    case' inr.inl => exact hstr (hid.trans (by decide))
    case' inr.inr.inr.inr.inr.inr.inr.inr.inr.inr.inr.inr => exact hstr (le_of_eq hhash)
    all_goals decide
  have hwritable : Writable (sealed (plain "b" "1970-01-01T00:00:00+00:00" none)).toDict :=
    toDict_writable (Writable.int (by decide +kernel)) ⟨⟨.nil, trivial⟩, rfl⟩ (by decide)
  obtain ⟨encoded, hencoded⟩ := hwritable.dumpsLax
  refine ⟨encoded, canonicalJson_ok.mpr hencoded, ?_⟩
  obtain ⟨-, rfl⟩ := dumpsLax_some.mp hencoded
  exact (Utf8.length_encode_le _).trans (by omega)

theorem staying_borneOut : ∃ found, QueryPlan.borneOut WholeFloat staying = .ok found ∧ found.2 ≤ 65536 := by
  set record := sealed (plain "b" "1970-01-01T00:00:00+00:00" none) with hrecord
  have hvalue : dumpsLax (.int 1 : Json WholeFloat) = some "1" := by decide +kernel
  have hmetadata : dumpsLax (.obj [] : Json WholeFloat) = some "{}" := by decide
  obtain ⟨text, hplain⟩ : ∃ text, integrityPayload WholeFloat
      ((plain "b" "1970-01-01T00:00:00+00:00" none).integrityFields "1" "{}") = .ok text :=
    integrityPayload_ok (by decide)
  have htext : integrityPayload WholeFloat (record.integrityFields "1" "{}") = .ok text := by
    rw [hrecord, integrityFields_sealed]
    exact hplain
  have hhash : record.integrityHash = Sha256.hexdigest text := by
    rw [hrecord, sealed, hplain]
    rfl
  have hverify : verifyRecord record = .ok () :=
    (verifyRecord_iff (by decide) hvalue hmetadata htext rfl rfl hhash).mpr (.inl ⟨trivial, .nil, trivial⟩)
  have hread : rowToRecord WholeFloat staying = .ok record := rowToRecord_rowOf hvalue hmetadata rfl rfl (by decide)
  obtain ⟨encoded, hencoded, hsize⟩ := staying_size
  exact ⟨(record, _), QueryPlan.borneOut_ok.mpr ⟨encoded, hread, hverify, hencoded, rfl⟩, hsize⟩

theorem staying_eligible : queryPlan.eligible WholeFloat clock staying = true := by
  obtain ⟨found, hfound, -⟩ := staying_borneOut
  have hlate : expired WholeFloat (clock staying) staying.expiresAt = .ok false := rfl
  rw [QueryPlan.eligible, hlate, hfound]
  rfl

theorem expiring_eligible : queryPlan.eligible WholeFloat clock expiring = false := by decide

theorem answer_staying : queryPlan.answer WholeFloat clock (({} : SecureMemoryStore).count arguments)
    (({} : SecureMemoryStore).budget arguments) database = [staying] := by
  obtain ⟨found, hfound, hsize⟩ := staying_borneOut
  have hrows : database.records.filter (queryPlan.eligible WholeFloat clock) = [staying] := by
    change [expiring, staying].filter _ = _
    rw [List.filter_cons_of_neg (by rw [expiring_eligible]; decide), List.filter_cons_of_pos staying_eligible, List.filter_nil]
  have hbytes : QueryPlan.size WholeFloat staying = found.2 := by
    rw [QueryPlan.size, hfound]
    rfl
  rw [QueryPlan.answer, hrows]
  change cut (QueryPlan.size WholeFloat) 65536 0 [staying] = [staying]
  rw [cut, hbytes, if_neg (by omega), cut]

/-- An expired record displaces the one record that is eligible: a query for one record gives none. -/
theorem query_displaced : ({} : SecureMemoryStore).query WholeFloat clock arguments database = .ok [] ∧
    queryPlan.answer WholeFloat clock (({} : SecureMemoryStore).count arguments) (({} : SecureMemoryStore).budget arguments)
      database = [staying] := by
  refine ⟨?_, answer_staying⟩
  obtain ⟨records, hquery, hlength⟩ := map_ok.mp query_length
  rw [hquery, List.length_eq_zero_iff.mp hlength]

theorem query_answer_iff_displaced : ¬ ((∀ row ∈ queryPlan.passed WholeFloat clock database,
    queryPlan.consider WholeFloat (clock row) row = .ok none ∨
      queryPlan.eligible WholeFloat clock row = true ∧ arguments.limit ≠ some 0 ∧ arguments.maxBytes ≠ some 0) ∧
    ∀ row ∈ queryPlan.answer WholeFloat clock (({} : SecureMemoryStore).count arguments)
      (({} : SecureMemoryStore).budget arguments) database, row ∈ queryPlan.passed WholeFloat clock database) := by
  intro h
  have hquery := (query_answer_iff {} clock arguments database queryPlan plan_arguments).mpr h
  obtain ⟨records, hrecords, hlength⟩ := map_ok.mp query_length
  rw [hrecords, answer_staying, List.length_eq_zero_iff.mp hlength] at hquery
  cases mapM_ok.mp hquery.symm

end Sample

end SecureMemoryStore

end ThreeAgent.SecureMemory

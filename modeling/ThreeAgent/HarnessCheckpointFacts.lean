/-
Which checkpoint a task is resumed from, over every run of `save`. A
checkpoint that was saved is read back as it was; but the rows are ordered by
the text of their times, and a time is written in many ways: the order of the
texts is that of the instants only where `TextsAscend` and `TextsLead` say so.
-/
import ThreeAgent.HarnessCheckpoint
import ThreeAgent.HarnessMemoryFacts
import ThreeAgent.Lib.WholeFloat

namespace ThreeAgent

variable {fingerprint projectId : String}

namespace HarnessCheckpoints

open PyText Outcome PyJson

variable {c : HarnessCheckpoint} {db : Table} {a b : CheckpointRow} {rows : List CheckpointRow}

variable (F : Type) [PyRuntime F]

/-! ## A checkpoint is read back -/

variable {F} in
omit [PyRuntime F] in
theorem requiredText_ok {payload : Json F} {key s : String} (h : payload.get? key = some (.str s)) :
    requiredText F payload key = .ok s := by
  rw [requiredText, h]
  rfl

variable {F} in
omit [PyRuntime F] in
theorem requiredStringList_ok {payload : Json F} {key : String} {xs : List String} (h : payload.get? key = some (.strs xs)) :
    requiredStringList F payload key = .ok xs := by
  rw [requiredStringList, h]
  exact mapM_ok.mpr (List.forall₂_map_left_iff.mpr (List.forall₂_same.mpr fun _ _ => rfl))

omit [PyRuntime F] in
theorem ofPayload_toDict (c : HarnessCheckpoint) : ofPayload F (c.toDict F) = .ok c := by
  have hget : ∀ key, (c.toDict F).get? key = _ := fun key => get?_dict _ key
  unfold ofPayload
  iterate 6 refine bind_ok.mpr ⟨_, requiredText_ok (hget _), ?_⟩
  iterate 7 refine bind_ok.mpr ⟨_, requiredStringList_ok (hget _), ?_⟩
  refine bind_ok.mpr ⟨_, requiredText_ok (hget _), ?_⟩
  refine bind_ok.mpr ⟨_, requiredStringList_ok (hget _), ?_⟩
  iterate 2 refine bind_ok.mpr ⟨_, requiredText_ok (hget _), ?_⟩
  rfl

omit [PyRuntime F] in
theorem toDict_writable [PyFloat F] (c : HarnessCheckpoint) : Writable (c.toDict F) := by
  refine Writable.dict ?_
  intro e he
  simp only [List.mem_cons, List.not_mem_nil, or_false] at he
  rcases he with rfl | rfl | rfl | rfl | rfl | rfl | rfl | rfl | rfl | rfl | rfl | rfl | rfl | rfl | rfl | rfl | rfl
  all_goals first
    | exact Writable.str _
    | exact Writable.strs _

def rowOf (c : HarnessCheckpoint) (checkpointJson fingerprint : String) : CheckpointRow where
  checkpointId := c.checkpointId
  schemaVersion := c.schemaVersion
  projectId := c.projectId
  conversationId := c.conversationId
  taskId := c.taskId
  checkpointJson := checkpointJson
  checkpointSha256 := fingerprint
  createdAt := c.createdAt

variable {F}

theorem fromRow_rowOf {checkpointJson : String} (hvalid : c.validate F = .ok ⟨⟩)
    (hjson : dumps (c.toDict F) = some checkpointJson) (hfp : c.fingerprint F = .ok fingerprint) :
    fromRow F (rowOf c checkpointJson fingerprint) = .ok c := by
  have hloads : loads checkpointJson = some (c.toDict F) := loads_dumps (toDict_writable F c).canonical hjson
  refine bind_ok.mpr ⟨_, orRaise_ok.mpr hloads, bind_unit_ok.mpr ⟨require_ok.mpr rfl, ?_⟩⟩
  refine bind_ok.mpr ⟨c, ofPayload_toDict F c, bind_unit_ok.mpr ⟨rethrow_ok.mpr hvalid, ?_⟩⟩
  refine bind_unit_ok.mpr ⟨require_ok.mpr ⟨rfl, rfl, rfl, rfl, rfl, rfl⟩, ?_⟩
  exact bind_ok.mpr ⟨fingerprint, hfp, bind_unit_ok.mpr ⟨require_ok.mpr rfl, rfl⟩⟩

theorem fromRow_ok {row : CheckpointRow} (h : fromRow F row = .ok c) :
    c.createdAt = row.createdAt ∧ c.checkpointId = row.checkpointId ∧ c.validate F = .ok ⟨⟩ ∧
      ∃ fingerprint, c.fingerprint F = .ok fingerprint := by
  obtain ⟨payload, -, h⟩ := bind_ok.mp h
  obtain ⟨-, h⟩ := bind_unit_ok.mp h
  obtain ⟨c', -, h⟩ := bind_ok.mp h
  obtain ⟨hvalid, h⟩ := bind_unit_ok.mp h
  obtain ⟨hcolumns, h⟩ := bind_unit_ok.mp h
  obtain ⟨fingerprint, hfp, h⟩ := bind_ok.mp h
  obtain ⟨-, h⟩ := bind_unit_ok.mp h
  rw [require_ok] at hcolumns
  cases h
  exact ⟨hcolumns.2.2.2.2.2, hcolumns.1, rethrow_ok.mp hvalid, fingerprint, hfp⟩

/-! ## `save` -/

theorem save_ok {now : Int} {tasks : List String} {db' : Table}
    (h : save F now tasks c db = .ok (db', fingerprint)) :
    db'.rows = db.rows ∨ ∃ row, db'.rows = db.rows ++ [row] ∧ fromRow F row = .ok c := by
  obtain ⟨hvalid, h⟩ := bind_unit_ok.mp h
  obtain ⟨-, h⟩ := bind_unit_ok.mp h
  obtain ⟨-, h⟩ := bind_unit_ok.mp h
  obtain ⟨payload, hpayload, h⟩ := bind_ok.mp h
  obtain ⟨fp, hfp, h⟩ := bind_ok.mp h
  obtain ⟨-, hpayload⟩ := bind_unit_ok.mp hpayload
  cases hpayload
  split at h
  · obtain ⟨stored, -, h⟩ := bind_ok.mp h
    obtain ⟨known, -, h⟩ := bind_ok.mp h
    obtain ⟨-, h⟩ := bind_unit_ok.mp h
    cases h
    exact .inl rfl
  · obtain ⟨json, hjson, h⟩ := bind_ok.mp h
    rw [canonicalText_ok] at hjson
    cases h
    exact .inr ⟨rowOf c json fingerprint, rfl, fromRow_rowOf hvalid hjson hfp⟩

/-- A call of `save`: what the clock shows, the ids of the tasks table, and the checkpoint. -/
structure Call where
  now : Int
  tasks : List String
  checkpoint : HarnessCheckpoint

variable (F) in
/-- The table after a call; one that raises is rolled back. -/
def Call.after (call : Call) (db : Table) : Table :=
  match save F call.now call.tasks call.checkpoint db with
  | .ok (db', _) => db'
  | .error _ => db

variable (F) in
def runCalls (calls : List Call) : Table := calls.foldl (fun db call => call.after F db) {}

variable (F) in
def Readable (db : Table) : Prop := ∀ row ∈ db.rows, ∃ c, fromRow F row = .ok c

theorem Readable.after (h : Readable F db) (call : Call) : Readable F (call.after F db) := by
  unfold Call.after
  cases hsave : save F call.now call.tasks call.checkpoint db with
  | error e => exact h
  | ok out =>
    obtain ⟨db', fingerprint⟩ := out
    rcases save_ok hsave with hrows | ⟨row, hrows, hread⟩
    · intro row hrow
      exact h row (hrows ▸ hrow)
    · intro row' hrow'
      rcases List.mem_append.mp (hrows ▸ hrow') with hrow' | hrow'
      · exact h row' hrow'
      · rw [List.mem_singleton.mp hrow']
        exact ⟨_, hread⟩

theorem runCalls_readable (calls : List Call) : Readable F (runCalls F calls) := by
  have hrun : ∀ db, Readable F db → Readable F (calls.foldl (fun db call => call.after F db) db) := by
    induction calls with
    | nil => exact fun db h => h
    | cons call calls ih => exact fun db h => ih _ (h.after call)
  exact hrun {} (List.forall_mem_nil _)

/-! ## The order of the texts -/

variable (F) in
/-- The instant of the first time is not after that of the second. -/
def NotLater (s t : String) : Prop := ∀ i ∈ HarnessMemory.instantOf F s, ∀ j ∈ HarnessMemory.instantOf F t, i ≤ j

theorem NotLater.refl (s : String) : NotLater F s s := by
  intro i hi j hj
  cases Option.mem_unique hi hj
  exact Int.le_refl i

variable (F) in
/-- Where one text is before another, its instant is not after the other's. -/
def TextsAscend (rows : List CheckpointRow) : Prop :=
  ∀ a ∈ rows, ∀ b ∈ rows, a.createdAt < b.createdAt → NotLater F a.createdAt b.createdAt

variable (F) in
/-- The instant of the last text is not before any other. -/
def TextsLead (rows : List CheckpointRow) : Prop :=
  ∀ a ∈ rows, (∀ b ∈ rows, b.createdAt ≤ a.createdAt) → ∀ b ∈ rows, NotLater F b.createdAt a.createdAt

theorem earlier_iff :
    Earlier a b ↔ toLex (a.createdAt, a.checkpointId) ≤ toLex (b.createdAt, b.checkpointId) := by
  rw [Prod.Lex.toLex_le_toLex, Earlier]

theorem earlier_total (a b : CheckpointRow) : Earlier a b ∨ Earlier b a := by
  rw [earlier_iff, earlier_iff]
  exact le_total _ _

theorem earlier_trans (a b c : CheckpointRow) (hab : Earlier a b) (hbc : Earlier b c) : Earlier a c := by
  rw [earlier_iff] at hab hbc ⊢
  exact hab.trans hbc

theorem Earlier.le (h : Earlier a b) : a.createdAt ≤ b.createdAt := by
  rcases h with h | ⟨h, -⟩
  · exact h.le
  · exact h.le

instance : Std.Total Earlier := ⟨earlier_total⟩

instance : IsTrans CheckpointRow Earlier := ⟨earlier_trans⟩

theorem sorted_notLater_iff (rows : List CheckpointRow) :
    (rows.insertionSort Earlier).Pairwise (fun a b => NotLater F a.createdAt b.createdAt) ↔ TextsAscend F rows := by
  have hsorted := List.pairwise_insertionSort Earlier rows
  constructor
  · intro hinstants a ha b hb hlt
    have hboth : (rows.insertionSort Earlier).Pairwise fun a b =>
        (a.createdAt < b.createdAt → NotLater F a.createdAt b.createdAt) ∧
          (b.createdAt < a.createdAt → NotLater F b.createdAt a.createdAt) := by
      refine (hsorted.and hinstants).imp ?_
      intro a b ⟨hearlier, hnot⟩
      exact ⟨fun _ => hnot, fun hba => absurd hba (not_lt.mpr hearlier.le)⟩
    have hne : a ≠ b := fun heq => lt_irrefl _ (heq ▸ hlt)
    have hsymm : Std.Symm fun a b : CheckpointRow => (a.createdAt < b.createdAt → NotLater F a.createdAt b.createdAt) ∧
        (b.createdAt < a.createdAt → NotLater F b.createdAt a.createdAt) := ⟨fun a b h => ⟨h.2, h.1⟩⟩
    exact (hboth.forall ((List.mem_insertionSort _).mpr ha) ((List.mem_insertionSort _).mpr hb) hne).1 hlt
  · intro htexts
    refine hsorted.imp_of_mem ?_
    intro a b ha hb hearlier
    rw [List.mem_insertionSort] at ha hb
    rcases hearlier with hlt | ⟨heq, -⟩
    · exact htexts a ha b hb hlt
    · rw [heq]
      exact NotLater.refl _

/-! ## The queries -/

variable (F) in
/-- What `rehydration_anchor` makes of a checkpoint. -/
def anchorOf (c : HarnessCheckpoint) (fingerprint : String) : Anchor F := ⟨c.toDict F, fingerprint, c.sourceRefs.length⟩

theorem Readable.filter (h : Readable F db) (p : CheckpointRow → Bool)
    (hperm : rows.Perm (db.rows.filter p)) : ∃ cs, rows.mapM (fromRow F) = .ok cs := by
  refine mapM_returns ?_
  intro row hrow
  exact h row (List.mem_of_mem_filter (hperm.mem_iff.mp hrow))

theorem listCheckpoints_ok (h : Readable F db) {conversationId taskId : Option String}
    (hproject : compactId projectId "project_id" = .ok ⟨⟩)
    (hconversation : ∀ id ∈ conversationId, compactId id "conversation_id" = .ok ⟨⟩)
    (htask : ∀ id ∈ taskId, compactId id "task_id" = .ok ⟨⟩) :
    ∃ cs, listCheckpoints F db projectId conversationId taskId = .ok cs ∧
      List.Forall₂ (fun row c => fromRow F row = .ok c)
        ((db.rows.filter (inScope projectId conversationId taskId)).insertionSort Earlier) cs := by
  obtain ⟨cs, hcs⟩ := h.filter (inScope projectId conversationId taskId) (List.perm_insertionSort Earlier _)
  have hoptional : ∀ {id : Option String} {field : String}, (∀ i ∈ id, compactId i field = .ok ⟨⟩) →
      (id.elim (pure ⟨⟩) (compactId · field) : Except Raised Unit) = .ok ⟨⟩ := by
    intro id field hid
    cases id with
    | none => rfl
    | some i => exact hid i rfl
  refine ⟨cs, ?_, mapM_ok.mp hcs⟩
  exact bind_unit_ok.mpr ⟨hproject, bind_unit_ok.mpr ⟨hoptional hconversation, bind_unit_ok.mpr ⟨hoptional htask, hcs⟩⟩⟩

theorem pairwise_notLater_iff {cs : List HarnessCheckpoint}
    (h : List.Forall₂ (fun row c => fromRow F row = .ok c) rows cs) :
    cs.Pairwise (fun a b => NotLater F a.createdAt b.createdAt) ↔
      rows.Pairwise fun a b => NotLater F a.createdAt b.createdAt := by
  have htimes : cs.map (·.createdAt) = rows.map (·.createdAt) := by
    induction h with
    | nil => rfl
    | cons hrow _ ih => rw [List.map_cons, List.map_cons, (fromRow_ok hrow).1, ih]
  have hcs : (cs.map (·.createdAt)).Pairwise (NotLater F) ↔ cs.Pairwise fun a b => NotLater F a.createdAt b.createdAt :=
    List.pairwise_map
  have hrows : (rows.map (·.createdAt)).Pairwise (NotLater F) ↔ rows.Pairwise fun a b => NotLater F a.createdAt b.createdAt :=
    List.pairwise_map
  rw [← hcs, ← hrows, htimes]

theorem latest_ok (h : Readable F db) {conversationId taskId : String}
    (hproject : compactId projectId "project_id" = .ok ⟨⟩) (hconversation : compactId conversationId "conversation_id" = .ok ⟨⟩)
    (htask : compactId taskId "task_id" = .ok ⟨⟩) :
    (db.rows.filter (inScope projectId (some conversationId) (some taskId)) = [] ∧
      latest F db projectId conversationId taskId = .ok none) ∨
    ∃ row ∈ db.rows.filter (inScope projectId (some conversationId) (some taskId)), ∃ c,
      latest F db projectId conversationId taskId = .ok (some c) ∧ fromRow F row = .ok c ∧
      ∀ row' ∈ db.rows.filter (inScope projectId (some conversationId) (some taskId)), row'.createdAt ≤ row.createdAt := by
  set rows := db.rows.filter (inScope projectId (some conversationId) (some taskId)) with hrows
  have hrun : latest F db projectId conversationId taskId =
      (rows.insertionSort fun a b => Earlier b a).head?.elim (.ok none) fun row => some <$> fromRow F row := by
    unfold latest
    rw [hproject, hconversation, htask, hrows]
    cases hhead : (rows.insertionSort fun a b => Earlier b a).head? <;> rw [hrows] at hhead <;>
      simp only [hhead] <;> rfl
  have htotal : Std.Total fun a b : CheckpointRow => Earlier b a := ⟨fun a b => earlier_total b a⟩
  have htrans : IsTrans CheckpointRow fun a b => Earlier b a := ⟨fun a b c hab hbc => earlier_trans c b a hbc hab⟩
  have hsorted := List.pairwise_insertionSort (fun a b => Earlier b a) rows
  have hmem : ∀ row, row ∈ rows.insertionSort (fun a b => Earlier b a) ↔ row ∈ rows := fun row => List.mem_insertionSort _
  cases hhead : rows.insertionSort fun a b => Earlier b a with
  | nil =>
    left
    refine ⟨?_, by rw [hrun, hhead]; rfl⟩
    refine List.eq_nil_iff_forall_not_mem.mpr ?_
    intro row hrow
    rw [← hmem, hhead] at hrow
    cases hrow
  | cons row rest =>
    right
    have hrow : row ∈ rows := by
      rw [← hmem, hhead]
      exact List.mem_cons_self
    obtain ⟨c, hc⟩ := h row (List.mem_of_mem_filter hrow)
    refine ⟨row, hrow, c, ?_, hc, ?_⟩
    · rw [hrun, hhead, List.head?_cons, Option.elim_some, hc]
      rfl
    · intro row' hrow'
      rw [← hmem, hhead] at hrow'
      rw [hhead, List.pairwise_cons] at hsorted
      rcases List.mem_cons.mp hrow' with rfl | hrow'
      · exact le_rfl
      · exact (hsorted.1 row' hrow').le

/-- **The checkpoint a task is resumed from**, over every run of `save`. `list_checkpoints` gives the checkpoints of its
scope, and they stand in the order of their instants if and only if the texts of their times ascend with these; `latest` and
`rehydration_anchor` give one of the scope where it has any, and its instant is the greatest if and only if no time whose
text comes last is before another. -/
theorem checkpoints_ordered_iff (F : Type) [PyRuntime F] (calls : List Call) :
    (∀ (projectId : String) (conversationId taskId : Option String), compactId projectId "project_id" = .ok ⟨⟩ →
      (∀ id ∈ conversationId, compactId id "conversation_id" = .ok ⟨⟩) → (∀ id ∈ taskId, compactId id "task_id" = .ok ⟨⟩) →
      ∃ cs, listCheckpoints F (runCalls F calls) projectId conversationId taskId = .ok cs ∧
        (cs.map (·.checkpointId)).Perm
          (((runCalls F calls).rows.filter (inScope projectId conversationId taskId)).map (·.checkpointId)) ∧
        (cs.Pairwise (fun a b => NotLater F a.createdAt b.createdAt) ↔
          TextsAscend F ((runCalls F calls).rows.filter (inScope projectId conversationId taskId)))) ∧
    ∀ projectId conversationId taskId : String, compactId projectId "project_id" = .ok ⟨⟩ →
      compactId conversationId "conversation_id" = .ok ⟨⟩ → compactId taskId "task_id" = .ok ⟨⟩ →
      (∃ row, row ∈ (runCalls F calls).rows.filter (inScope projectId (some conversationId) (some taskId))) →
      ∃ c fingerprint, latest F (runCalls F calls) projectId conversationId taskId = .ok (some c) ∧
        rehydrationAnchor F (runCalls F calls) projectId conversationId taskId = .ok (some (anchorOf F c fingerprint)) ∧
        ((∀ row ∈ (runCalls F calls).rows.filter (inScope projectId (some conversationId) (some taskId)),
            NotLater F row.createdAt c.createdAt) ↔
          TextsLead F ((runCalls F calls).rows.filter (inScope projectId (some conversationId) (some taskId)))) := by
  have hreadable : Readable F (runCalls F calls) := runCalls_readable calls
  refine ⟨?_, ?_⟩
  · intro projectId conversationId taskId hproject hconversation htask
    obtain ⟨cs, hcs, hread⟩ := listCheckpoints_ok hreadable hproject hconversation htask
    refine ⟨cs, hcs, ?_, ?_⟩
    · have hids : ∀ {rows : List CheckpointRow} {cs : List HarnessCheckpoint},
          List.Forall₂ (fun row c => fromRow F row = .ok c) rows cs → cs.map (·.checkpointId) = rows.map (·.checkpointId) := by
        intro rows cs h
        induction h with
        | nil => rfl
        | cons hrow _ ih => rw [List.map_cons, List.map_cons, (fromRow_ok hrow).2.1, ih]
      rw [hids hread]
      exact (List.perm_insertionSort Earlier _).map _
    · rw [pairwise_notLater_iff hread, sorted_notLater_iff]
  · intro projectId conversationId taskId hproject hconversation htask ⟨row₀, hrow₀⟩
    rcases latest_ok hreadable hproject hconversation htask with ⟨hnone, -⟩ | ⟨row, hrow, c, hlatest, hread, hlast⟩
    · rw [hnone] at hrow₀
      cases hrow₀
    · obtain ⟨htime, -, hvalid, fingerprint, hfp⟩ := fromRow_ok hread
      refine ⟨c, fingerprint, hlatest, ?_, ?_⟩
      · refine bind_ok.mpr ⟨some c, hlatest, ?_⟩
        have hdict : c.canonicalDict F = .ok (c.toDict F) := bind_unit_ok.mpr ⟨hvalid, rfl⟩
        exact bind_ok.mpr ⟨_, hdict, bind_ok.mpr ⟨fingerprint, hfp, rfl⟩⟩
      · rw [htime]
        constructor
        · intro hgreatest a ha hlead b hb
          have hsame : a.createdAt = row.createdAt := le_antisymm (hlast a ha) (hlead row hrow)
          rw [hsame]
          exact hgreatest b hb
        · intro hlead b hb
          exact hlead row hrow hlast b hb

/-! ### A time with a fraction after one without -/

namespace Sample

def times : List (String × DateTime) :=
  [("2026-01-01T00:00:00+00:00", ⟨1767225600000000, some 0⟩), ("2026-01-01T00:00:00.500000+00:00", ⟨1767225600500000, some 0⟩)]

/-- An interpreter, as far as it reads these times. -/
local instance (priority := 2000) : PyRuntime WholeFloat where
  containerText _ := ""
  truncate x := some x.value
  fromIso text := (times.find? (·.1 = text)).map (·.2)
  realColumn x := x

def checkpoint (checkpointId createdAt : String) : HarnessCheckpoint where
  checkpointId := checkpointId
  projectId := "project"
  conversationId := "conversation"
  taskId := "task"
  goal := "goal"
  currentState := "state"
  nextAction := "action"
  sourceRefs := ["ref"]
  createdAt := createdAt

def calls : List Call :=
  [⟨1767225600000000, ["task"], checkpoint "first" "2026-01-01T00:00:00Z"⟩,
    ⟨1767225600500000, ["task"], checkpoint "second" "2026-01-01T00:00:00.500000Z"⟩]

theorem rows_calls : ((runCalls WholeFloat calls).rows.filter
    (inScope "project" (some "conversation") (some "task"))).map (·.createdAt) =
      ["2026-01-01T00:00:00Z", "2026-01-01T00:00:00.500000Z"] := by
  decide

/-- The second checkpoint was saved half a second after the first, and the task is resumed from the first. -/
theorem latest_misordered : ∃ c, latest WholeFloat (runCalls WholeFloat calls) "project" "conversation" "task" = .ok (some c) ∧
    ∃ row ∈ (runCalls WholeFloat calls).rows.filter (inScope "project" (some "conversation") (some "task")),
      ¬ NotLater WholeFloat row.createdAt c.createdAt := by
  have htimes : ∀ t, t ∈ ((runCalls WholeFloat calls).rows.filter
      (inScope "project" (some "conversation") (some "task"))).map (·.createdAt) ↔
        t = "2026-01-01T00:00:00Z" ∨ t = "2026-01-01T00:00:00.500000Z" := by
    intro t
    rw [rows_calls]
    simp
  have hlatest := latest_ok (runCalls_readable (F := WholeFloat) calls)
    (by decide : compactId "project" "project_id" = .ok ⟨⟩)
    (by decide : compactId "conversation" "conversation_id" = .ok ⟨⟩)
    (by decide : compactId "task" "task_id" = .ok ⟨⟩)
  rcases hlatest with ⟨hnone, -⟩ | ⟨row, hrow, c, hc, hread, hlast⟩
  · have hrows := rows_calls
    rw [hnone] at hrows
    cases hrows
  · refine ⟨c, hc, ?_⟩
    obtain ⟨second, hsecond, htime⟩ := List.mem_map.mp ((htimes "2026-01-01T00:00:00.500000Z").mpr (.inr rfl))
    obtain ⟨first, hfirst, htime'⟩ := List.mem_map.mp ((htimes "2026-01-01T00:00:00Z").mpr (.inl rfl))
    have hle := hlast first hfirst
    rw [htime'] at hle
    have hrow' : row.createdAt = "2026-01-01T00:00:00Z" := by
      rcases (htimes _).mp (List.mem_map_of_mem hrow) with h | h
      · exact h
      · rw [h] at hle
        exact absurd hle (by decide)
    refine ⟨second, hsecond, ?_⟩
    rw [htime, (fromRow_ok hread).1, hrow']
    intro hnot
    exact absurd (hnot 1767225600500000 (by decide) 1767225600000000 (by decide)) (by decide)

end Sample

end HarnessCheckpoints

end ThreeAgent

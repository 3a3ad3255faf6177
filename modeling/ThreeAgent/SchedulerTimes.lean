/-
The times in the scheduler's tables (`persistent_scheduler.py`): the texts that
`_iso` writes of aware datetimes, and the two queries that compare a column of
such texts with a text and order by it.

The tables of `PersistentScheduler` hold instants where the database holds
texts. Since the texts are ordered as the instants, a query over the texts
gives the rows that `Db.dueRows` and `Db.expiredRows` give (`iso_selects_by_time`).
-/
import ThreeAgent.Lib.IsoText
import ThreeAgent.Lib.Runtime
import ThreeAgent.PersistentScheduler

namespace ThreeAgent.PersistentScheduler

open PyText PyJson Outcome

/-- `_aware_utc`, as an instant: `astimezone` raises for a time that has no date in UTC. -/
def awareUtc (value : DateTime) (field : String) : Except Raised Int :=
  match value.instant? with
  | none => throw (fail (upper field ++ "_MUST_BE_TIMEZONE_AWARE"))
  | some instant => do
    require (Clock.minInstant ≤ instant ∧ instant ≤ Clock.maxInstant) dateOverflow
    return instant

/-- `_iso`. -/
def iso (value : DateTime) : Except Raised String := do
  let utc ← awareUtc value "timestamp"
  return Clock.iso utc

/-- `SELECT * FROM rows WHERE selected AND column<=? ORDER BY column,key LIMIT ?`, where the column holds texts. -/
def textQuery {α : Type} (selected : α → Bool) (column key : α → String) (bound : String) (limit : Nat) (rows : List α) :
    List α :=
  ((rows.filter fun r => selected r && decide (column r ≤ bound)).insertionSort fun a b =>
    column a < column b ∨ (column a = column b ∧ key a ≤ key b)).take limit

namespace Db

variable (db : Db)

/-- The query of `claim_due`, given the text in the `next_run_at` column of each row. -/
def dueTexts (nextRunAt : Job → String) (currentText : String) : List Job :=
  textQuery Job.enabled nextRunAt Job.scheduleId currentText maxDuePerTick db.jobs

/-- The query of `mark_expired_claims_recovery_required`, given the text in the `lease_until` column of each row. -/
def expiredTexts (leaseUntil : Claim → String) (currentText : String) (limit : Nat) : List Claim :=
  textQuery (fun c => decide (c.status = .claimed)) leaseUntil Claim.claimId currentText limit db.claims

end Db

/-! ## The texts of `_iso` -/

theorem iso_aware {value : DateTime} {t : Int} (h : value.instant? = some t) :
    iso value = if Clock.InRange t then .ok (Clock.iso t) else .error dateOverflow := by
  by_cases hin : Clock.minInstant ≤ t ∧ t ≤ Clock.maxInstant
  · simp only [iso, awareUtc, h, require, if_pos hin, if_pos (show Clock.InRange t from hin)]
    rfl
  · simp only [iso, awareUtc, h, require, if_neg hin, if_neg (show ¬ Clock.InRange t from hin)]
    rfl

theorem iso_ok {value : DateTime} {s : String} :
    iso value = .ok s ↔ ∃ t, value.instant? = some t ∧ Clock.InRange t ∧ Clock.iso t = s := by
  cases h : value.instant? with
  | none => simp [iso, awareUtc, h, throw, throwThe, MonadExceptOf.throw]
  | some t =>
    rw [iso_aware h]
    split <;> simp_all

theorem textQuery_eq {α : Type} {selected : α → Bool} {column key : α → String} {time : α → Int} {rows : List α}
    {before : α → α → Prop} [DecidableRel before] {current : Int} (limit : Nat)
    (hbefore : ∀ a b, before a b ↔ time a < time b ∨ (time a = time b ∧ key a ≤ key b))
    (hcurrent : Clock.InRange current)
    (hrows : ∀ r ∈ rows, Clock.InRange (time r) ∧ Clock.iso (time r) = column r) :
    textQuery selected column key (Clock.iso current) limit rows =
      ((rows.filter fun r => selected r && decide (time r ≤ current)).insertionSort before).take limit := by
  have hfilter : (rows.filter fun r => selected r && decide (column r ≤ Clock.iso current)) =
      rows.filter fun r => selected r && decide (time r ≤ current) := by
    refine List.filter_congr fun r hr => ?_
    rw [← (hrows r hr).2, decide_eq_decide.mpr (Clock.iso_le_iff (hrows r hr).1 hcurrent)]
  rw [textQuery, hfilter]
  refine congrArg (List.take limit) ?_
  refine (List.map_id _).symm.trans ((List.map_insertionSort _ before id _ ?_).trans (by rw [List.map_id]))
  intro a ha b hb
  obtain ⟨hina, ha⟩ := hrows a (List.mem_filter.mp ha).1
  obtain ⟨hinb, hb⟩ := hrows b (List.mem_filter.mp hb).1
  rw [id, id, hbefore, ← ha, ← hb, Clock.iso_lt_iff hina hinb, Clock.iso_inj hina hinb]

/-- **The texts select by time.** `_iso` writes every aware time that has a date in UTC, its texts compare as the
instants compare, and both queries over columns it wrote select and order the rows by their instants. -/
theorem iso_selects_by_time :
    (∀ (a : DateTime) (t : Int), a.instant? = some t →
      iso a = if Clock.InRange t then .ok (Clock.iso t) else .error dateOverflow) ∧
    (∀ (a b : DateTime) (s u : String), iso a = .ok s → iso b = .ok u → ∃ i j, a.instant? = some i ∧ b.instant? = some j ∧
      (s < u ↔ i < j) ∧ (s ≤ u ↔ i ≤ j) ∧ (s = u ↔ i = j)) ∧
    ∀ (db : Db) (nextRunAt : Job → String) (leaseUntil : Claim → String) (now : DateTime) (current : Int) (currentText : String),
      (∀ j ∈ db.jobs, ∃ a : DateTime, a.instant? = some j.nextRunAt ∧ iso a = .ok (nextRunAt j)) →
      (∀ c ∈ db.claims, ∃ a : DateTime, a.instant? = some c.leaseUntil ∧ iso a = .ok (leaseUntil c)) →
      awareUtc now "now" = .ok current → iso ⟨current, some 0⟩ = .ok currentText →
      db.dueTexts nextRunAt currentText = db.dueRows current ∧
        ∀ limit, db.expiredTexts leaseUntil currentText limit = db.expiredRows current limit := by
  refine ⟨fun a t h => iso_aware h, ?_, ?_⟩
  · intro a b s u ha hb
    obtain ⟨i, hi, hini, rfl⟩ := iso_ok.mp ha
    obtain ⟨j, hj, hinj, rfl⟩ := iso_ok.mp hb
    exact ⟨i, j, hi, hj, Clock.iso_lt_iff hini hinj, Clock.iso_le_iff hini hinj, Clock.iso_inj hini hinj⟩
  · intro db nextRunAt leaseUntil now current currentText hjobs hclaims _ htext
    obtain ⟨t, ht, hin, rfl⟩ := iso_ok.mp htext
    obtain rfl : current = t := by simpa [DateTime.instant?] using ht
    have hwritten : ∀ {time : Int} {s : String}, (∃ a : DateTime, a.instant? = some time ∧ iso a = .ok s) →
        Clock.InRange time ∧ Clock.iso time = s := by
      rintro time s ⟨a, ha, hs⟩
      obtain ⟨t, ht, hrest⟩ := iso_ok.mp hs
      rwa [← Option.some.inj (ht.symm.trans ha)]
    refine ⟨?_, fun limit => ?_⟩
    · exact textQuery_eq _ (fun _ _ => Iff.rfl) hin fun j hj => hwritten (hjobs j hj)
    · exact textQuery_eq _ (fun _ _ => Iff.rfl) hin fun c hc => hwritten (hclaims c hc)

/-- Midnight in Tokyo, and half a second later in New York. -/
def tokyoMidnight : DateTime := ⟨1704067200000000, some 32400000000⟩
def halfSecondLater : DateTime := ⟨1704016800500000, some (-18000000000)⟩

/-- A schedule and a claim of the earlier time, seen at the later one. -/
def midnightDb : Db where
  tasks := ["task"]
  contracts := []
  jobs := [⟨"midnight", "task", .cron, "0 0 * * *", "Asia/Tokyo", "", 1704034800000000, true, 0, 0, none⟩]
  claims := [⟨"claim", "midnight", "task", 1704034800000000, 0, 1704034800000000, "", .claimed, none, ""⟩]
  events := []

theorem iso_selects_midnight :
    ("2023-12-31T15:00:00+00:00" < "2023-12-31T15:00:00.500000+00:00" ∧ (1704034800000000 : Int) < 1704034800500000) ∧
      midnightDb.dueTexts (fun _ => "2023-12-31T15:00:00+00:00") "2023-12-31T15:00:00.500000+00:00" =
        midnightDb.dueRows 1704034800500000 := by
  have hearly : iso tokyoMidnight = .ok "2023-12-31T15:00:00+00:00" := by decide
  have hlate : iso halfSecondLater = .ok "2023-12-31T15:00:00.500000+00:00" := by decide
  obtain ⟨-, horder, hselect⟩ := iso_selects_by_time
  obtain ⟨i, j, hi, hj, hlt, -, -⟩ := horder _ _ _ _ hearly hlate
  obtain rfl : 1704034800000000 = i := Option.some.inj hi
  obtain rfl : 1704034800500000 = j := Option.some.inj hj
  refine ⟨⟨hlt.mpr (by decide), by decide⟩, ?_⟩
  refine (hselect midnightDb _ (fun _ => "2023-12-31T15:00:00+00:00") halfSecondLater 1704034800500000 _ ?_ ?_ (by decide)
    (by decide)).1
  · exact List.forall_mem_cons.mpr ⟨⟨tokyoMidnight, rfl, hearly⟩, by simp⟩
  · exact List.forall_mem_cons.mpr ⟨⟨tokyoMidnight, rfl, hearly⟩, by simp⟩

end ThreeAgent.PersistentScheduler

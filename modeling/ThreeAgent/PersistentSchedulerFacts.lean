/-
What holds of the scheduler's tables in every run, whatever the operations,
as long as the clock they are given does not go back.

One inequality carries it: every claim of a schedule lies strictly before
that schedule's next run. A claim takes the old `next_run_at`, which is not
after `now`, and writes a new one that is (`nextAfterRow_gt`); enabling a
schedule again writes one after `now` too, and every claim already made was
made no later than that. So the occurrence a tick is about to claim is new,
which is what the UNIQUE constraint would otherwise refuse.
-/
import Mathlib.Logic.Relation
import ThreeAgent.PersistentScheduler

namespace ThreeAgent.PersistentScheduler

open PyText Outcome PyJson

variable {zones : Zones} {now t clock current lease : Int} {row : Job} {jobs : List Job} {claims : List Claim}
  {id : String} {f : Job → Job} {db db' : Db} {st : Db × List Claim}

/-! ## The next run lies after now -/

variable {tz : String}

theorem searchCron_ge {m : CronMatcher} :
    ∀ {n : Nat} {cursor t : Int}, searchCron zones m tz n cursor = .ok t → cursor ≤ t
  | 0, cursor, t, h => by simp [searchCron] at h
  | n + 1, cursor, t, h => by
    simp only [searchCron] at h
    split at h
    · simp only [pure_ok] at h
      omega
    · simp only [bind_ok] at h
      obtain ⟨next, hnext, h⟩ := h
      have h1 := Clock.plus_ok hnext
      have h2 := searchCron_ge h
      simp only [Clock.minute] at h1
      omega

variable {expression : String}

theorem nextCron_gt
    (h : nextCron zones expression tz now = .ok t) : now < t := by
  simp only [nextCron, bind_ok] at h
  obtain ⟨m, -, key, -, cursor, hcursor, hsearch⟩ := h
  have h1 := Clock.plus_ok hcursor
  have h2 := searchCron_ge hsearch
  have h3 := Clock.lt_floorMinute_add now
  omega

variable {interval : Int}

theorem nextInterval_gt {scheduled : Int} (hpos : 0 < interval)
    (h : nextInterval interval scheduled now = .ok t) : now < t := by
  simp only [nextInterval] at h
  split at h
  · simp only [pure_ok] at h
    omega
  · rename_i hle
    have ht := Clock.plus_ok h
    have hfloor := @Clock.lt_secondsFloorDiv (now - scheduled).toNat interval.toNat (by omega)
    have hcast := Int.ofNat_lt.mpr hfloor
    push_cast at hcast ht
    rw [Int.toNat_of_nonneg (show 0 ≤ now - scheduled by omega),
      Int.toNat_of_nonneg (show 0 ≤ interval by omega)] at hcast
    omega

theorem nextAfterRow_gt
    (h : nextAfterRow zones row now = .ok t) : now < t := by
  unfold nextAfterRow at h
  split at h
  · split at h
    · simp at h
    · simp only [bind_ok, require_ok] at h
      obtain ⟨_, ⟨hmin, -⟩, h⟩ := h
      exact nextInterval_gt (by simp only [minIntervalSeconds] at hmin; omega) h
  · exact nextCron_gt h
  · simp at h

/-! ## The invariant -/

/-- The occurrence a claim is for. -/
def Claim.occurrence (c : Claim) : Occurrence := ⟨c.scheduleId, c.taskId, c.scheduledFor, c.contractSha256⟩

/-- What the job and claim tables satisfy at a clock reading. -/
structure Inv (clock : Int) (jobs : List Job) (claims : List Claim) : Prop where
  jobs_nodup : (jobs.map Job.scheduleId).Nodup
  claims_nodup : (claims.map Claim.claimId).Nodup
  claim_id : ∀ c ∈ claims, c.claimId = c.occurrence.claimId
  claim_job : ∀ c ∈ claims, ∃ j ∈ jobs, j.scheduleId = c.scheduleId
  claim_before_next : ∀ c ∈ claims, ∀ j ∈ jobs, j.scheduleId = c.scheduleId → c.scheduledFor < j.nextRunAt
  claim_time : ∀ c ∈ claims, c.scheduledFor ≤ c.claimedAt ∧ c.claimedAt ≤ clock
  increasing : claims.Pairwise fun c c' => c.scheduleId = c'.scheduleId → c.scheduledFor < c'.scheduledFor
  one_unresolved : claims.Pairwise fun c c' =>
    c.scheduleId = c'.scheduleId → ¬ (c.status.unresolved = true ∧ c'.status.unresolved = true)

theorem Inv.nil (clock : Int) : Inv clock [] [] where
  jobs_nodup := by simp
  claims_nodup := by simp
  claim_id := by simp
  claim_job := by simp
  claim_before_next := by simp
  claim_time := by simp
  increasing := by simp
  one_unresolved := by simp

theorem Inv.mono {clock' : Int} (h : Inv clock jobs claims)
    (hle : clock ≤ clock') : Inv clock' jobs claims :=
  { h with claim_time := fun c hc => ⟨(h.claim_time c hc).1, (h.claim_time c hc).2.trans hle⟩ }

theorem Inv.addJob (h : Inv clock jobs claims)
    {j : Job} (hnew : ∀ j' ∈ jobs, j'.scheduleId ≠ j.scheduleId) : Inv clock (jobs ++ [j]) claims := by
  refine { h with
    jobs_nodup := ?_
    claim_job := fun c hc => ?_
    claim_before_next := fun c hc j' hj' he => ?_ }
  · rw [List.map_append, List.nodup_append]
    refine ⟨h.jobs_nodup, by simp, ?_⟩
    intro a ha b hb
    obtain ⟨j', hj', rfl⟩ := List.mem_map.mp ha
    have hb' : b = j.scheduleId := by simpa using hb
    rw [hb']
    exact hnew j' hj'
  · obtain ⟨j', hj', he⟩ := h.claim_job c hc
    exact ⟨j', by simp [hj'], he⟩
  · rcases List.mem_append.mp hj' with hj' | hj'
    · exact h.claim_before_next c hc j' hj' he
    · obtain ⟨j'', hj'', he''⟩ := h.claim_job c hc
      have hjj : j' = j := by simpa using hj'
      exact absurd (he''.trans (he.symm.trans (by rw [hjj]))) (hnew j'' hj'')

def updatedJobs (jobs : List Job) (id : String) (f : Job → Job) : List Job :=
  jobs.map fun j => if j.scheduleId = id then f j else j

theorem updatedJobs_ids
    (hf : ∀ j, (f j).scheduleId = j.scheduleId) :
    (updatedJobs jobs id f).map Job.scheduleId = jobs.map Job.scheduleId := by
  rw [updatedJobs, List.map_map]
  refine List.map_congr_left fun j _ => ?_
  simp only [Function.comp]
  split
  · exact hf j
  · rfl

theorem mem_updatedJobs {j : Job}
    (h : j ∈ updatedJobs jobs id f) :
    (∃ j₀ ∈ jobs, j₀.scheduleId = id ∧ j = f j₀) ∨ (j ∈ jobs ∧ j.scheduleId ≠ id) := by
  obtain ⟨j₀, hj₀, rfl⟩ := List.mem_map.mp h
  by_cases he : j₀.scheduleId = id
  · exact .inl ⟨j₀, hj₀, he, by rw [if_pos he]⟩
  · rw [if_neg he]
    exact .inr ⟨hj₀, he⟩

theorem Inv.updateJob (h : Inv clock jobs claims) (hid : ∀ j, (f j).scheduleId = j.scheduleId)
    (hnext : ∀ j ∈ jobs, j.scheduleId = id → ∀ c ∈ claims, c.scheduleId = id →
      c.scheduledFor < (f j).nextRunAt) :
    Inv clock (updatedJobs jobs id f) claims := by
  refine { h with
    jobs_nodup := by rw [updatedJobs_ids hid]; exact h.jobs_nodup
    claim_job := fun c hc => ?_
    claim_before_next := fun c hc j hj he => ?_ }
  · obtain ⟨j, hj, he⟩ := h.claim_job c hc
    have hmem : c.scheduleId ∈ (updatedJobs jobs id f).map Job.scheduleId := by
      rw [updatedJobs_ids hid, ← he]
      exact List.mem_map_of_mem hj
    exact List.mem_map.mp hmem
  · rcases mem_updatedJobs hj with ⟨j₀, hj₀, hid₀, rfl⟩ | ⟨hj, -⟩
    · exact hnext j₀ hj₀ hid₀ c hc (by rw [← he, hid, hid₀])
    · exact h.claim_before_next c hc j hj he

def updatedClaims (claims : List Claim) (id : String) (f : Claim → Claim) : List Claim :=
  claims.map fun c => if c.claimId = id then f c else c

/-- A rewrite of a claim that leaves its occurrence alone and reopens nothing. -/
structure KeepsOccurrence (f : Claim → Claim) : Prop where
  claimId : ∀ c, (f c).claimId = c.claimId
  occurrence : ∀ c, (f c).occurrence = c.occurrence
  claimedAt : ∀ c, (f c).claimedAt = c.claimedAt

theorem KeepsOccurrence.scheduleId {f : Claim → Claim} (h : KeepsOccurrence f) (c : Claim) :
    (f c).scheduleId = c.scheduleId := congrArg Occurrence.scheduleId (h.occurrence c)

theorem KeepsOccurrence.scheduledFor {f : Claim → Claim} (h : KeepsOccurrence f) (c : Claim) :
    (f c).scheduledFor = c.scheduledFor := congrArg Occurrence.scheduledFor (h.occurrence c)

theorem Inv.updateClaim (h : Inv clock jobs claims) {f : Claim → Claim} (hf : KeepsOccurrence f)
    (hopen : ∀ c ∈ claims, c.claimId = id → (f c).status.unresolved = true → c.status.unresolved = true) :
    Inv clock jobs (updatedClaims claims id f) := by
  set g : Claim → Claim := fun c => if c.claimId = id then f c else c with hg
  have hg' : KeepsOccurrence g := by
    constructor <;> intro c <;> simp only [hg] <;> split <;>
      simp [hf.claimId, hf.occurrence, hf.claimedAt]
  have hopen' : ∀ c ∈ claims, (g c).status.unresolved = true → c.status.unresolved = true := by
    intro c hc hu
    by_cases he : c.claimId = id
    · simp only [hg, if_pos he] at hu
      exact hopen c hc he hu
    · simpa only [hg, if_neg he] using hu
  have hmem : ∀ {P : Claim → Prop}, (∀ c ∈ claims, P (g c)) → ∀ c ∈ updatedClaims claims id f, P c := by
    intro P hP c hc
    obtain ⟨c₀, hc₀, rfl⟩ := List.mem_map.mp hc
    exact hP c₀ hc₀
  refine ⟨h.jobs_nodup, ?_, hmem fun c hc => ?_, hmem fun c hc => ?_, hmem fun c hc j hj he => ?_,
    hmem fun c hc => ?_, ?_, ?_⟩
  · have : (updatedClaims claims id f).map Claim.claimId = claims.map Claim.claimId := by
      rw [updatedClaims, List.map_map]
      exact List.map_congr_left fun c _ => hg'.claimId c
    rw [this]
    exact h.claims_nodup
  · rw [hg'.claimId, hg'.occurrence]
    exact h.claim_id c hc
  · rw [hg'.scheduleId]
    exact h.claim_job c hc
  · rw [hg'.scheduledFor]
    exact h.claim_before_next c hc j hj (by rw [he, hg'.scheduleId])
  · rw [hg'.scheduledFor, hg'.claimedAt]
    exact h.claim_time c hc
  · refine List.pairwise_map.mpr (h.increasing.imp fun {c c'} hlt he => ?_)
    change (g c).scheduledFor < (g c').scheduledFor
    rw [hg'.scheduledFor, hg'.scheduledFor]
    exact hlt (by rw [← hg'.scheduleId c, ← hg'.scheduleId c']; exact he)
  · refine List.pairwise_map.mpr (List.Pairwise.imp_of_mem ?_ h.one_unresolved)
    intro c c' hc hc' hne he hu
    exact hne (by rw [← hg'.scheduleId c, ← hg'.scheduleId c']; exact he) ⟨hopen' c hc hu.1, hopen' c' hc' hu.2⟩

variable {c : Claim}

/-- **A claim of the next run.** The row moves on beyond the clock in the same step. -/
theorem Inv.claim (h : Inv clock jobs claims) (hrow : row ∈ jobs) (hocc : c.occurrence = row.occurrence)
    (hcid : c.claimId = c.occurrence.claimId) (hdue : row.nextRunAt ≤ clock) (hat : c.claimedAt = clock)
    (hnew : ∀ d ∈ claims, d.claimId ≠ c.claimId)
    (hfree : ∀ d ∈ claims, d.scheduleId = row.scheduleId → d.status.unresolved = false)
    (hf : ∀ j, (f j).scheduleId = j.scheduleId) (hnext : ∀ j, clock < (f j).nextRunAt) :
    Inv clock (updatedJobs jobs row.scheduleId f) (claims ++ [c]) := by
  have hid : c.scheduleId = row.scheduleId := congrArg Occurrence.scheduleId hocc
  have hfor : c.scheduledFor = row.nextRunAt := congrArg Occurrence.scheduledFor hocc
  have hupd : Inv clock (updatedJobs jobs row.scheduleId f) claims := by
    refine h.updateJob hf fun j _ _ d hd _ => ?_
    have ht := h.claim_time d hd
    have hn := hnext j
    omega
  have hmem : ∀ {P : Claim → Prop}, (∀ d ∈ claims, P d) → P c → ∀ d ∈ claims ++ [c], P d := by
    intro P hP hc d hd
    rcases List.mem_append.mp hd with hd | hd
    · exact hP d hd
    · rw [List.mem_singleton.mp hd]
      exact hc
  refine ⟨hupd.jobs_nodup, ?_, hmem hupd.claim_id hcid, hmem hupd.claim_job ?_, hmem hupd.claim_before_next ?_,
    hmem hupd.claim_time ?_, ?_, ?_⟩
  · rw [List.map_append, List.nodup_append]
    refine ⟨h.claims_nodup, by simp, ?_⟩
    intro a ha b hb
    obtain ⟨d, hd, rfl⟩ := List.mem_map.mp ha
    have hb' : b = c.claimId := by simpa using hb
    rw [hb']
    exact hnew d hd
  · have hin : c.scheduleId ∈ (updatedJobs jobs row.scheduleId f).map Job.scheduleId := by
      rw [updatedJobs_ids hf, hid]
      exact List.mem_map_of_mem hrow
    exact List.mem_map.mp hin
  · intro j hj he
    rcases mem_updatedJobs hj with ⟨j₀, -, -, rfl⟩ | ⟨-, hne⟩
    · have := hnext j₀
      omega
    · exact absurd (he.trans hid) hne
  · exact ⟨by omega, by omega⟩
  · refine List.pairwise_append.mpr ⟨h.increasing, by simp, fun d hd d' hd' he => ?_⟩
    rw [List.mem_singleton.mp hd'] at he ⊢
    rw [hfor]
    exact h.claim_before_next d hd row hrow (by rw [he, hid])
  · refine List.pairwise_append.mpr ⟨h.one_unresolved, by simp, fun d hd d' hd' he hu => ?_⟩
    rw [List.mem_singleton.mp hd'] at he
    have := hfree d hd (he.trans hid)
    simp [this] at hu

/-! ## Operations -/

/-- What an operation at time `now` leaves behind: the invariant, and every terminal claim as it was. -/
structure Keeps (now : Int) (db db' : Db) : Prop where
  inv : Inv now db'.jobs db'.claims
  terminal : ∀ c ∈ db.claims, c.status.terminal = true →
    ∃ c' ∈ db'.claims, c'.claimId = c.claimId ∧ c'.status = c.status

theorem Keeps.refl (h : Inv now db.jobs db.claims) : Keeps now db db :=
  ⟨h, fun c hc _ => ⟨c, hc, rfl, rfl⟩⟩

theorem Keeps.trans {a b c : Db} (h : Keeps now a b) (h' : Keeps now b c) : Keeps now a c := by
  refine ⟨h'.inv, fun d hd ht => ?_⟩
  obtain ⟨d', hd', hid, hs⟩ := h.terminal d hd ht
  obtain ⟨d'', hd'', hid', hs'⟩ := h'.terminal d' hd' (by rw [hs]; exact ht)
  exact ⟨d'', hd'', hid'.trans hid, hs'.trans hs⟩

theorem Keeps.of_claims_eq (hc : db'.claims = db.claims)
    (h : Inv now db'.jobs db'.claims) : Keeps now db db' :=
  ⟨h, fun c hm _ => ⟨c, by rw [hc]; exact hm, rfl, rfl⟩⟩

variable {action : String}

theorem appendEvent_ok {F : Type} [PyFloat F] {details : Json F}
    (h : db.appendEvent id action t details = .ok db') :
    db'.jobs = db.jobs ∧ db'.claims = db.claims ∧ db'.contracts = db.contracts := by
  simp only [Db.appendEvent, bind_ok, require_ok, pure_ok] at h
  obtain ⟨_, -, _, -, _, -, rfl⟩ := h
  exact ⟨rfl, rfl, rfl⟩

variable {task : String}

section
variable (hinv : Inv now db.jobs db.claims)
include hinv

theorem register_keeps {value : String} {kind : JobKind} {next : Int}
    (h : register db id task kind value tz next now = .ok db') :
    Keeps now db db' := by
  simp only [register, bind_ok, require_ok] at h
  obtain ⟨_, -, contract, -, _, hnew, h⟩ := h
  obtain ⟨hjobs, hclaims, -⟩ := appendEvent_ok h
  refine .of_claims_eq hclaims ?_
  rw [hjobs, hclaims]
  exact hinv.addJob hnew

theorem registerInterval_keeps {start : Option Int}
    (h : registerInterval db id task interval start now = .ok db') :
    Keeps now db db' := by
  simp only [registerInterval, bind_ok] at h
  obtain ⟨_, -, _, -, _, -, _, -, h⟩ := h
  exact register_keeps hinv h

theorem registerCron_keeps
    (h : registerCron zones db id task expression tz now = .ok db') :
    Keeps now db db' := by
  simp only [registerCron, bind_ok] at h
  obtain ⟨_, -, _, -, _, -, _, -, _, -, h⟩ := h
  exact register_keeps hinv h

theorem updateJob_keeps {F : Type} [PyFloat F]
    {details : Json F}
    (hid : ∀ j, (f j).scheduleId = j.scheduleId)
    (hnext : ∀ j, (f j).nextRunAt = j.nextRunAt ∨ now < (f j).nextRunAt)
    (h : (db.updateJob id f).appendEvent id action t details = .ok db') : Keeps now db db' := by
  obtain ⟨hjobs, hclaims, -⟩ := appendEvent_ok h
  refine .of_claims_eq hclaims ?_
  rw [hjobs, hclaims]
  refine hinv.updateJob hid fun j hj he c hc hce => ?_
  rcases hnext j with hn | hn
  · rw [hn]
    exact hinv.claim_before_next c hc j hj (he.trans hce.symm)
  · have := hinv.claim_time c hc
    omega

theorem disable_keeps
    (h : disable db id now = .ok db') : Keeps now db db' := by
  simp only [disable, bind_ok] at h
  obtain ⟨_, -, _, -, h⟩ := h
  refine updateJob_keeps hinv ?_ ?_ h
  · exact fun _ => rfl
  · exact fun _ => .inl rfl

theorem enable_keeps
    (h : enable zones db id now = .ok db') : Keeps now db db' := by
  simp only [enable, bind_ok, require_ok] at h
  obtain ⟨_, -, _, -, _, -, _, -, next, hnext, h⟩ := h
  refine updateJob_keeps hinv ?_ ?_ h
  · exact fun _ => rfl
  · exact fun _ => .inr (nextAfterRow_gt hnext)

theorem autoDisable_keeps {reason : String}
    (h : autoDisable db row now reason = .ok db') : Keeps now db db' := by
  unfold autoDisable at h
  refine updateJob_keeps hinv ?_ ?_ h
  · exact fun _ => rfl
  · exact fun _ => .inl rfl

end

/-! ### One tick -/

theorem claimRow_ok
    (h : claimRow zones db row current lease = .ok (db', c)) :
    ∃ next, current < next ∧ (∀ d ∈ db.claims, d.claimId ≠ c.claimId) ∧
      c.occurrence = row.occurrence ∧ c.claimId = row.occurrence.claimId ∧ c.claimedAt = current ∧
      db'.jobs = updatedJobs db.jobs row.scheduleId (fun j =>
        { j with nextRunAt := next, updatedAt := current, lastError := none }) ∧
      db'.claims = db.claims ++ [c] ∧ db'.contracts = db.contracts := by
  simp only [claimRow, Db.insertClaim, bind_ok, require_ok, pure_ok, Prod.mk.injEq] at h
  obtain ⟨next, hnext, _, -, db₁, ⟨_, hins, rfl⟩, db₂, hev, rfl, rfl⟩ := h
  obtain ⟨hjobs, hclaims, hcon⟩ := appendEvent_ok hev
  exact ⟨next, nextAfterRow_gt hnext, fun d hd => (hins d hd).1, rfl, rfl, rfl, hjobs, hclaims, hcon⟩

variable {st' : Db × List Claim}

theorem tickRow_keeps
    (hinv : Inv current st.1.jobs st.1.claims) (hrow : row ∈ st.1.jobs) (hdue : row.nextRunAt ≤ current)
    (h : tickRow zones row current lease st = .ok st') :
    Keeps current st.1 st'.1 ∧
      ∀ j ∈ st.1.jobs, j.scheduleId ≠ row.scheduleId → j ∈ st'.1.jobs := by
  have hother : ∀ {f : Job → Job}, ∀ j ∈ st.1.jobs, j.scheduleId ≠ row.scheduleId →
      j ∈ updatedJobs st.1.jobs row.scheduleId f :=
    fun j hj hne => List.mem_map.mpr ⟨j, hj, if_neg hne⟩
  have hdis : ∀ {db : Db} {reason : String}, autoDisable st.1 row current reason = .ok db →
      Keeps current st.1 db ∧ ∀ j ∈ st.1.jobs, j.scheduleId ≠ row.scheduleId → j ∈ db.jobs := by
    intro db reason hd
    refine ⟨autoDisable_keeps hinv hd, fun j hj hne => ?_⟩
    rw [(appendEvent_ok hd).1]
    exact hother j hj hne
  unfold tickRow at h
  split at h
  · simp only [pure_ok] at h
    subst h
    exact ⟨.refl hinv, fun j hj _ => hj⟩
  rename_i hfree
  split at h
  · simp only [bind_ok, pure_ok] at h
    obtain ⟨db, hd, rfl⟩ := h
    exact hdis hd
  split at h
  · simp only [bind_ok, pure_ok] at h
    obtain ⟨db, hd, rfl⟩ := h
    exact hdis hd
  · simp only [bind_ok, pure_ok, Prod.exists] at h
    obtain ⟨db, c, hc, rfl⟩ := h
    obtain ⟨next, hnext, hnew, hocc, hcid, hat, hjobs, hclaims, -⟩ := claimRow_ok hc
    refine ⟨⟨?_, fun d hd _ => ⟨d, by rw [hclaims]; exact List.mem_append_left _ hd, rfl, rfl⟩⟩, ?_⟩
    · rw [hjobs, hclaims]
      refine hinv.claim hrow hocc (by rw [hcid, hocc]) hdue hat hnew (fun d hd he => ?_) (fun _ => rfl)
        fun _ => hnext
      simp only [Db.hasUnresolvedClaim, List.any_eq_true, Bool.and_eq_true, beq_iff_eq, not_exists,
        not_and, Bool.not_eq_true] at hfree
      exact hfree d hd he
    · rw [hjobs]
      exact hother

/-- The rows a tick still has to visit: distinct, unchanged and due. -/
structure DueRows (current : Int) (db : Db) (rows : List Job) : Prop where
  nodup : (rows.map Job.scheduleId).Nodup
  mem : ∀ row ∈ rows, row ∈ db.jobs
  due : ∀ row ∈ rows, row.nextRunAt ≤ current

variable {rows : List Job}

theorem DueRows.tail
    (h : DueRows current db (row :: rows))
    (hkeep : ∀ j ∈ db.jobs, j.scheduleId ≠ row.scheduleId → j ∈ db'.jobs) : DueRows current db' rows := by
  have hnd := h.nodup
  rw [List.map_cons, List.nodup_cons] at hnd
  refine ⟨hnd.2, fun r hr => hkeep r (h.mem r (by simp [hr])) fun he => ?_, fun r hr => h.due r (by simp [hr])⟩
  exact hnd.1 (he ▸ List.mem_map_of_mem hr)

theorem dueRows_spec (h : (db.jobs.map Job.scheduleId).Nodup) :
    DueRows current db (db.dueRows current) := by
  set due := db.jobs.filter fun j => j.enabled && decide (j.nextRunAt ≤ current) with hdue
  have hperm : (due.insertionSort Job.before).Perm due := List.perm_insertionSort _ _
  have hsub : ∀ row ∈ db.dueRows current, row ∈ due := fun row hrow =>
    hperm.subset (List.mem_of_mem_take hrow)
  refine ⟨?_, fun row hrow => (List.mem_filter.mp (hsub row hrow)).1, fun row hrow => ?_⟩
  · have hnd : (due.map Job.scheduleId).Nodup := (List.filter_sublist.map _).nodup h
    exact ((List.take_sublist _ _).map _).nodup ((hperm.map _).nodup_iff.mpr hnd)
  · have := (List.mem_filter.mp (hsub row hrow)).2
    simp only [Bool.and_eq_true, decide_eq_true_eq] at this
    exact this.2

theorem tickRows_keeps {limit : Nat} :
    ∀ {rows : List Job} {st st' : Db × List Claim}, Inv current st.1.jobs st.1.claims →
      DueRows current st.1 rows → tickRows zones current lease limit rows st = .ok st' →
      Keeps current st.1 st'.1
  | [], st, st', hinv, _, h => by
    simp only [tickRows, pure_ok] at h
    subst h
    exact .refl hinv
  | row :: rows, st, st', hinv, hrows, h => by
    simp only [tickRows] at h
    split at h
    · simp only [pure_ok] at h
      subst h
      exact .refl hinv
    · simp only [bind_ok] at h
      obtain ⟨st₁, h₁, h⟩ := h
      obtain ⟨hk, hother⟩ := tickRow_keeps hinv (hrows.mem row (by simp)) (hrows.due row (by simp)) h₁
      exact hk.trans (tickRows_keeps hk.inv (hrows.tail hother) h)

variable {limit : Int}

theorem claimDue_keeps {r : Db × List Claim}
    (hinv : Inv now db.jobs db.claims) (h : claimDue zones db now limit lease = .ok r) : Keeps now db r.1 := by
  simp only [claimDue, bind_ok] at h
  obtain ⟨_, -, _, -, h⟩ := h
  have hrows : DueRows now (db, ([] : List Claim)).1 (db.dueRows now) := dueRows_spec hinv.jobs_nodup
  exact tickRows_keeps hinv hrows h

/-! ### Claims -/

variable {claimId : String}

theorem updateClaim_keeps {F : Type} [PyFloat F]
    {details : Json F} {f : Claim → Claim} (hinv : Inv now db.jobs db.claims) (hf : KeepsOccurrence f)
    (hopen : ∀ c ∈ db.claims, c.claimId = claimId → c.status.unresolved = true)
    (h : (db.updateClaim claimId f).appendEvent id action t details = .ok db') : Keeps now db db' := by
  obtain ⟨hjobs, hclaims, -⟩ := appendEvent_ok h
  refine ⟨?_, fun c hc ht => ?_⟩
  · rw [hjobs, hclaims]
    exact hinv.updateClaim hf fun c hc he _ => hopen c hc he
  · have hne : c.claimId ≠ claimId := by
      intro he
      have hu := hopen c hc he
      cases hs : c.status <;> simp [hs, ClaimStatus.terminal, ClaimStatus.unresolved] at ht hu
    refine ⟨c, ?_, rfl, rfl⟩
    rw [hclaims]
    exact List.mem_map.mpr ⟨c, hc, if_neg hne⟩

theorem markRows_keeps : ∀ {rows : List Claim} {db db' : Db}, Inv now db.jobs db.claims →
    (∀ row ∈ rows, ∀ c ∈ db.claims, c.claimId = row.claimId → c.status.unresolved = true) →
    markRows now rows db = .ok db' → Keeps now db db'
  | [], db, db', hinv, _, h => by
    simp only [markRows, pure_ok] at h
    subst h
    exact .refl hinv
  | row :: rows, db, db', hinv, hopen, h => by
    simp only [markRows, bind_ok] at h
    obtain ⟨db₁, h₁, h⟩ := h
    have hk : Keeps now db db₁ := by
      refine updateClaim_keeps hinv ?_ (hopen row (by simp)) h₁
      exact ⟨fun _ => rfl, fun _ => rfl, fun _ => rfl⟩
    refine hk.trans (markRows_keeps hk.inv (fun r hr c hc he => ?_) h)
    rw [(appendEvent_ok h₁).2.1] at hc
    obtain ⟨c₀, hc₀, rfl⟩ := List.mem_map.mp hc
    by_cases hid : c₀.claimId = row.claimId
    · rw [if_pos hid]
      rfl
    · rw [if_neg hid] at he ⊢
      exact hopen r (by simp [hr]) c₀ hc₀ he

theorem Inv.claim_eq (h : Inv clock jobs claims)
    {c' : Claim} (hc : c ∈ claims) (hc' : c' ∈ claims) (he : c.claimId = c'.claimId) : c = c' :=
  List.inj_on_of_nodup_map h.claims_nodup hc hc' he

theorem markExpired_keeps (hinv : Inv now db.jobs db.claims)
    (h : markExpiredClaimsRecoveryRequired db now limit = .ok db') : Keeps now db db' := by
  simp only [markExpiredClaimsRecoveryRequired, bind_ok] at h
  obtain ⟨_, -, h⟩ := h
  refine markRows_keeps hinv (fun row hrow c hc he => ?_) h
  have hmem := List.mem_filter.mp ((List.perm_insertionSort _ _).subset (List.mem_of_mem_take hrow))
  rw [hinv.claim_eq hc hmem.1 he]
  have hst : row.status = .claimed := by
    have := hmem.2
    simp only [Bool.and_eq_true, decide_eq_true_eq] at this
    exact this.1
  rw [hst]
  rfl

theorem completeClaim_keeps {F : Type} [PyFloat F] {status : String}
    {details : Option (List (String × Json F))} (hinv : Inv now db.jobs db.claims)
    (h : completeClaim db claimId status details now = .ok db') : Keeps now db db' := by
  simp only [completeClaim, bind_ok] at h
  obtain ⟨_, -, h⟩ := h
  split at h
  · simp at h
  simp only [bind_ok] at h
  obtain ⟨text, -, h⟩ := h
  split at h
  · simp at h
  rename_i row hfind
  split at h
  · simp only [bind_ok, pure_ok] at h
    obtain ⟨_, -, rfl⟩ := h
    exact .refl hinv
  · rename_i hterm
    refine updateClaim_keeps hinv ?_ (fun c hc he => ?_) h
    · exact ⟨fun _ => rfl, fun _ => rfl, fun _ => rfl⟩
    have hrow := List.find?_some hfind
    simp only [decide_eq_true_eq] at hrow
    rw [hinv.claim_eq hc (List.mem_of_find?_eq_some hfind) (he.trans hrow.symm)]
    revert hterm
    cases row.status <;> decide

/-! ## An occurrence is never claimed twice -/

def alreadyClaimed : Raised := fail "SCHEDULE_OCCURRENCE_ALREADY_CLAIMED"

section Avoids

theorem avoids_plus {us : Int} : Avoids alreadyClaimed (Clock.plus dateOverflow t us) :=
  .bind (.require (by decide)) fun _ _ => .pure

theorem avoids_intOf (text : String) : Avoids alreadyClaimed (intOf text) := by
  unfold intOf
  split
  · exact .pure
  · exact .throw (by simp [alreadyClaimed, fail])

theorem avoids_normalize (f : CronField) (n : Nat) : Avoids alreadyClaimed (f.normalize n) := by
  unfold CronField.normalize
  split
  · exact .pure
  · exact .bind (.require (by decide)) fun _ _ => .pure

theorem avoids_step (f : CronField) (slash : Bool) (text : String) : Avoids alreadyClaimed (f.step slash text) := by
  unfold CronField.step
  split
  · exact .bind (.require (by decide)) fun _ _ => .bind (avoids_intOf text) fun _ _ =>
      .bind (.require (by decide)) fun _ _ => .bind (.require (by decide)) fun _ _ => .pure
  · exact .pure

theorem avoids_values (f : CronField) (start stop step : Nat) :
    Avoids alreadyClaimed (f.values start stop step) := .mapM (avoids_normalize f) _

theorem avoids_item (f : CronField) (part : String) : Avoids alreadyClaimed (f.item part) := by
  unfold CronField.item
  refine .bind (.require (by decide)) fun _ _ => .bind (avoids_step f _ _) fun step _ => ?_
  split
  · exact avoids_values f _ _ _
  split
  · exact .bind (.require (by decide)) fun _ _ => .bind (avoids_intOf _) fun _ _ =>
      .bind (avoids_intOf _) fun _ _ => .bind (.require (by decide)) fun _ _ =>
      .bind (avoids_normalize f _) fun _ _ => .bind (avoids_normalize f _) fun _ _ => avoids_values f _ _ _
  · exact .bind (.require (by decide)) fun _ _ => .bind (avoids_intOf _) fun _ _ =>
      .bind (avoids_normalize f _) fun _ _ => .pure

theorem avoids_parseCronField (f : CronField) (expression : String) :
    Avoids alreadyClaimed (parseCronField f expression) :=
  .bind (.require (by decide)) fun _ _ => .bind (.mapM (avoids_item f) _) fun _ _ =>
    .bind (.require (by decide)) fun _ _ => .pure

theorem avoids_parse (expression : String) : Avoids alreadyClaimed (CronMatcher.parse expression) := by
  unfold CronMatcher.parse
  simp only
  split
  · exact .bind (avoids_parseCronField _ _) fun _ _ => .bind (avoids_parseCronField _ _) fun _ _ =>
      .bind (avoids_parseCronField _ _) fun _ _ => .bind (avoids_parseCronField _ _) fun _ _ =>
      .bind (avoids_parseCronField _ _) fun _ _ => .pure
  · exact .throw (by decide)

theorem avoids_searchCron (zones : Zones) (m : CronMatcher) (tz : String) :
    ∀ (n : Nat) (cursor : Int), Avoids alreadyClaimed (searchCron zones m tz n cursor)
  | 0, _ => .throw (by decide)
  | n + 1, cursor => by
    unfold searchCron
    split
    · exact .pure
    · exact .bind avoids_plus fun next _ => avoids_searchCron zones m tz n next

theorem avoids_nextAfterRow (zones : Zones) (row : Job) (now : Int) :
    Avoids alreadyClaimed (nextAfterRow zones row now) := by
  unfold nextAfterRow
  split
  · split
    · exact .throw (by decide)
    · refine .bind (.require (by decide)) fun _ _ => ?_
      unfold nextInterval
      split
      · exact .pure
      · exact avoids_plus
  · refine .bind (avoids_parse _) fun _ _ => .bind ?_ fun _ _ => .bind avoids_plus fun _ _ =>
      avoids_searchCron zones _ _ _ _
    exact .bind (.require (by decide)) fun _ _ => .bind (.require (by decide)) fun _ _ =>
      .bind (.require (by decide)) fun _ _ => .pure
  · exact .throw (by decide)

theorem avoids_insertClaim (h : ∀ d ∈ db.claims, d.claimId ≠ c.claimId ∧
    ¬ (d.scheduleId = c.scheduleId ∧ d.scheduledFor = c.scheduledFor)) :
    Avoids alreadyClaimed (db.insertClaim c) := by
  refine .bind ?_ fun _ _ => .pure
  rw [require, if_pos h]
  exact .pure

theorem avoids_appendEvent (db : Db) (id action : String) (t : Int) (details : Details) :
    Avoids alreadyClaimed (db.appendEvent id action t details) := by
  have hjson : ∀ v : Details, Avoids alreadyClaimed (canonicalJson v) := by
    intro v
    unfold canonicalJson
    split
    · exact .pure
    · exact .throw (by decide)
  exact .bind (.bind (hjson _) fun _ _ => .pure) fun _ _ => .bind (hjson _) fun _ _ =>
    .bind (.require (by simp [alreadyClaimed, fail])) fun _ _ => .pure

end Avoids

/-- The identities of the claims made and of the occurrences next in line. -/
def Db.occurrences (db : Db) : List Occurrence :=
  db.claims.map Claim.occurrence ++ db.jobs.map Job.occurrence

/-- No two different occurrences of the tables have the same claim id, a truncated SHA-256 digest. -/
def NoClaimIdCollision (db : Db) : Prop :=
  ∀ o ∈ db.occurrences, ∀ o' ∈ db.occurrences, o.claimId = o'.claimId → o = o'

/-- The rows still to be visited have claim ids that no claim has. -/
def FreshIds (db : Db) (rows : List Job) : Prop :=
  ∀ row ∈ rows, ∀ c ∈ db.claims, c.claimId ≠ row.occurrence.claimId

theorem tickRow_avoids
    (hinv : Inv current st.1.jobs st.1.claims) (hrow : row ∈ st.1.jobs)
    (hfresh : ∀ c ∈ st.1.claims, c.claimId ≠ row.occurrence.claimId) :
    Avoids alreadyClaimed (tickRow zones row current lease st) := by
  unfold tickRow
  split
  · exact .pure
  split
  · exact .bind (avoids_appendEvent _ _ _ _ _) fun _ _ => .pure
  split
  · exact .bind (avoids_appendEvent _ _ _ _ _) fun _ _ => .pure
  refine .bind ?_ fun _ _ => .pure
  refine .bind (avoids_nextAfterRow zones row current) fun _ _ => .bind avoids_plus fun _ _ =>
    .bind ?_ fun _ _ => .bind (avoids_appendEvent _ _ _ _ _) fun _ _ => .pure
  -- the row's next run lies after every claim it has, so the insertion finds no conflict
  refine avoids_insertClaim fun c hc => ⟨hfresh c hc, fun hsame => ?_⟩
  have hlt := hinv.claim_before_next c hc row hrow hsame.1.symm
  exact absurd hsame.2 (ne_of_lt hlt)

theorem tickRow_fresh (h : tickRow zones row current lease st = .ok st')
    (hne : ∀ r ∈ rows, row.occurrence.claimId ≠ r.occurrence.claimId) (hfresh : FreshIds st.1 (row :: rows)) :
    FreshIds st'.1 rows := by
  have hrest : FreshIds st.1 rows := fun r hr => hfresh r (by simp [hr])
  have hdis : ∀ {db : Db} {reason : String}, autoDisable st.1 row current reason = .ok db →
      FreshIds db rows := by
    intro db reason hd r hr c hc
    rw [(appendEvent_ok hd).2.1] at hc
    exact hrest r hr c hc
  unfold tickRow at h
  split at h
  · simp only [pure_ok] at h
    subst h
    exact hrest
  split at h
  · simp only [bind_ok, pure_ok] at h
    obtain ⟨db, hd, rfl⟩ := h
    exact hdis hd
  split at h
  · simp only [bind_ok, pure_ok] at h
    obtain ⟨db, hd, rfl⟩ := h
    exact hdis hd
  · simp only [bind_ok, pure_ok, Prod.exists] at h
    obtain ⟨db, c, hc, rfl⟩ := h
    obtain ⟨next, -, -, -, hcid, -, -, hclaims, -⟩ := claimRow_ok hc
    intro r hr d hd
    rw [hclaims] at hd
    rcases List.mem_append.mp hd with hd | hd
    · exact hrest r hr d hd
    · rw [List.mem_singleton.mp hd, hcid]
      exact hne r hr

theorem tickRows_avoids {limit : Nat} :
    ∀ {rows : List Job} {st : Db × List Claim}, Inv current st.1.jobs st.1.claims →
      DueRows current st.1 rows → FreshIds st.1 rows →
      rows.Pairwise (fun r r' => r.occurrence.claimId ≠ r'.occurrence.claimId) →
      Avoids alreadyClaimed (tickRows zones current lease limit rows st)
  | [], st, _, _, _, _ => .pure
  | row :: rows, st, hinv, hrows, hfresh, hne => by
    unfold tickRows
    split
    · exact .pure
    have hmem := hrows.mem row (by simp)
    refine .bind (tickRow_avoids hinv hmem (hfresh row (by simp))) fun st' h => ?_
    obtain ⟨hk, hother⟩ := tickRow_keeps hinv hmem (hrows.due row (by simp)) h
    have hne' := List.pairwise_cons.mp hne
    exact tickRows_avoids hk.inv (hrows.tail hother) (tickRow_fresh h hne'.1 hfresh) hne'.2

theorem dueRows_ids (hinv : Inv now db.jobs db.claims) (hcol : NoClaimIdCollision db) :
    FreshIds db (db.dueRows now) ∧
      (db.dueRows now).Pairwise fun r r' => r.occurrence.claimId ≠ r'.occurrence.claimId := by
  have hrows : DueRows now db (db.dueRows now) := dueRows_spec hinv.jobs_nodup
  constructor
  · intro row hrow c hc he
    have hmem := hrows.mem row hrow
    have hocc : c.occurrence = row.occurrence := by
      refine hcol _ (List.mem_append_left _ (List.mem_map_of_mem hc)) _
        (List.mem_append_right _ (List.mem_map_of_mem hmem)) ?_
      rw [← hinv.claim_id c hc, he]
    have hid : c.scheduleId = row.scheduleId := congrArg Occurrence.scheduleId hocc
    have hfor : c.scheduledFor = row.nextRunAt := congrArg Occurrence.scheduledFor hocc
    have := hinv.claim_before_next c hc row hmem hid.symm
    omega
  · have hpw : (db.dueRows now).Pairwise fun r r' => r.scheduleId ≠ r'.scheduleId :=
      List.pairwise_map.mp hrows.nodup
    refine List.Pairwise.imp_of_mem ?_ hpw
    intro r r' hr hr' hid he
    have hocc : r.occurrence = r'.occurrence :=
      hcol _ (List.mem_append_right _ (List.mem_map_of_mem (hrows.mem r hr))) _
        (List.mem_append_right _ (List.mem_map_of_mem (hrows.mem r' hr'))) he
    exact hid (congrArg Occurrence.scheduleId hocc)

theorem claimDue_avoids (hinv : Inv now db.jobs db.claims)
    (hcol : NoClaimIdCollision db) : Avoids alreadyClaimed (claimDue zones db now limit lease) := by
  have hrows : DueRows now db (db.dueRows now) := dueRows_spec hinv.jobs_nodup
  obtain ⟨hfresh, hdistinct⟩ := dueRows_ids hinv hcol
  exact .bind (.require (by decide)) fun _ _ => .bind (.require (by decide)) fun _ _ =>
    tickRows_avoids hinv hrows hfresh hdistinct

/-! ## Runs -/

section Runs

variable {F : Type} [PyFloat F]

/-- The calls of a run; `external` is any change another component makes to the tasks and contracts. -/
inductive Op (F : Type) where
  | registerInterval (scheduleId taskId : String) (intervalSeconds : Int) (startAt : Option Int)
  | registerCron (scheduleId taskId expression timezoneName : String)
  | enable (scheduleId : String)
  | disable (scheduleId : String)
  | claimDue (limit leaseSeconds : Int)
  | markExpired (limit : Int)
  | completeClaim (claimId status : String) (details : Option (List (String × Json F)))
  | external (tasks : List String) (contracts : List (String × String))

/-- The transaction of a call at time `now`. -/
def Op.exec (zones : Zones) (now : Int) (db : Db) : Op F → Except Raised Db
  | .registerInterval id task interval start => PersistentScheduler.registerInterval db id task interval start now
  | .registerCron id task expression tz => PersistentScheduler.registerCron zones db id task expression tz now
  | .enable id => PersistentScheduler.enable zones db id now
  | .disable id => PersistentScheduler.disable db id now
  | .claimDue limit lease => (PersistentScheduler.claimDue zones db now limit lease).map Prod.fst
  | .markExpired limit => markExpiredClaimsRecoveryRequired db now limit
  | .completeClaim id status details => PersistentScheduler.completeClaim db id status details now
  | .external tasks contracts => .ok { db with tasks, contracts }

/-- The tables, and the latest time a call was given. -/
structure World where
  db : Db
  clock : Int

/-- A call at a time not before the last one: its transaction commits or is rolled back. -/
def Step (F : Type) [PyFloat F] (zones : Zones) (w w' : World) : Prop :=
  ∃ (op : Op F) (now : Int), w.clock ≤ now ∧ w'.clock = now ∧
    (op.exec zones now w.db = .ok w'.db ∨ ∃ e, op.exec zones now w.db = .error e ∧ w'.db = w.db)

theorem Op.exec_keeps {op : Op F}
    (hinv : Inv now db.jobs db.claims) (h : op.exec zones now db = .ok db') : Keeps now db db' := by
  cases op with
  | registerInterval =>
    simp only [Op.exec] at h
    exact registerInterval_keeps hinv h
  | registerCron =>
    simp only [Op.exec] at h
    exact registerCron_keeps hinv h
  | enable =>
    simp only [Op.exec] at h
    exact enable_keeps hinv h
  | disable =>
    simp only [Op.exec] at h
    exact disable_keeps hinv h
  | claimDue limit lease =>
    cases hc : PersistentScheduler.claimDue zones db now limit lease with
    | error e => simp [Op.exec, hc, Except.map] at h
    | ok r =>
      simp only [Op.exec, hc, Except.map, Except.ok.injEq] at h
      subst h
      exact claimDue_keeps hinv hc
  | markExpired =>
    simp only [Op.exec] at h
    exact markExpired_keeps hinv h
  | completeClaim =>
    simp only [Op.exec] at h
    exact completeClaim_keeps hinv h
  | external tasks contracts =>
    simp only [Op.exec, Except.ok.injEq] at h
    subst h
    exact .of_claims_eq rfl hinv

theorem Step.keeps {w w' : World} (h : Step F zones w w')
    (hinv : Inv w.clock w.db.jobs w.db.claims) : Keeps w'.clock w.db w'.db := by
  obtain ⟨op, now, hle, rfl, h | ⟨e, -, hdb⟩⟩ := h
  · exact op.exec_keeps (hinv.mono hle) h
  · rw [hdb]
    exact .refl (hinv.mono hle)

theorem run_inv {w w' : World} (h : Relation.ReflTransGen (Step F zones) w w')
    (hinv : Inv w.clock w.db.jobs w.db.claims) : Inv w'.clock w'.db.jobs w'.db.claims := by
  induction h with
  | refl => exact hinv
  | tail _ hstep ih => exact (hstep.keeps ih).inv

theorem run_terminal {w w' : World} (h : Relation.ReflTransGen (Step F zones) w w')
    (hinv : Inv w.clock w.db.jobs w.db.claims) (hc : c ∈ w.db.claims)
    (ht : c.status.terminal = true) : ∃ c' ∈ w'.db.claims, c'.claimId = c.claimId ∧ c'.status = c.status := by
  induction h with
  | refl => exact ⟨c, hc, rfl, rfl⟩
  | tail hrun hstep ih =>
    obtain ⟨c', hc', hid, hs⟩ := ih
    obtain ⟨c'', hc'', hid', hs'⟩ := (hstep.keeps (run_inv hrun hinv)).terminal c' hc' (by rw [hs]; exact ht)
    exact ⟨c'', hc'', hid'.trans hid, hs'.trans hs⟩

theorem Inv.unresolved_le_one
    (h : Inv clock jobs claims) (id : String) :
    (claims.filter fun c => c.scheduleId = id && c.status.unresolved).length ≤ 1 := by
  have hpw := h.one_unresolved.filter fun c => decide (c.scheduleId = id) && c.status.unresolved
  match hl : claims.filter fun c => decide (c.scheduleId = id) && c.status.unresolved with
  | [] => simp [hl]
  | [_] => simp [hl]
  | a :: b :: rest =>
    rw [hl] at hpw
    have ha : a ∈ claims.filter fun c => decide (c.scheduleId = id) && c.status.unresolved := by simp [hl]
    have hb : b ∈ claims.filter fun c => decide (c.scheduleId = id) && c.status.unresolved := by simp [hl]
    simp only [List.mem_filter, Bool.and_eq_true, decide_eq_true_eq] at ha hb
    have hab := (List.pairwise_cons.mp hpw).1 b (by simp)
    exact absurd ⟨ha.2.2, hb.2.2⟩ (hab (ha.2.1.trans hb.2.1.symm))

/-- **The scheduler's tables over every run.** From empty tables and with a clock that never goes
back: one unresolved claim a schedule at most; the occurrences claimed of a schedule strictly
increase, and none is claimed before it is due; a tick never runs into an occurrence already
claimed, as long as the digests behind the claim ids do not collide; and a claim that has ended
keeps the status it ended with. -/
theorem claims_over_runs {zones : Zones} {w₀ w : World} (hjobs : w₀.db.jobs = [])
    (hclaims : w₀.db.claims = []) (hrun : Relation.ReflTransGen (Step F zones) w₀ w) :
    (∀ id, (w.db.claims.filter fun c => c.scheduleId = id && c.status.unresolved).length ≤ 1) ∧
    (w.db.claims.Pairwise fun c c' => c.scheduleId = c'.scheduleId → c.scheduledFor < c'.scheduledFor) ∧
    (∀ c ∈ w.db.claims, c.scheduledFor ≤ c.claimedAt) ∧
    (NoClaimIdCollision w.db → ∀ now limit lease, w.clock ≤ now →
      claimDue zones w.db now limit lease ≠ .error (fail "SCHEDULE_OCCURRENCE_ALREADY_CLAIMED")) ∧
    ∀ w', Relation.ReflTransGen (Step F zones) w w' → ∀ c ∈ w.db.claims, c.status.terminal = true →
      (∃ c' ∈ w'.db.claims, c'.claimId = c.claimId) ∧
      ∀ c' ∈ w'.db.claims, c'.claimId = c.claimId → c'.status = c.status := by
  have hinv₀ : Inv w₀.clock w₀.db.jobs w₀.db.claims := by
    rw [hjobs, hclaims]
    exact Inv.nil _
  have hinv := run_inv hrun hinv₀
  refine ⟨hinv.unresolved_le_one, hinv.increasing, fun c hc => (hinv.claim_time c hc).1, ?_, ?_⟩
  · intro hcol now limit lease hle
    exact claimDue_avoids (hinv.mono hle) hcol
  · intro w' hrun' c hc ht
    obtain ⟨c₁, hc₁, hid₁, hs₁⟩ := run_terminal hrun' hinv hc ht
    refine ⟨⟨c₁, hc₁, hid₁⟩, fun c' hc' hid => ?_⟩
    rw [(run_inv hrun' hinv).claim_eq hc' hc₁ (hid.trans hid₁.symm)]
    exact hs₁

def utc : Zones where
  malformed _ := false
  known key := key == "UTC"
  localTime _ t := ⟨(t / 60000000 % 60).toNat, (t / 3600000000 % 24).toNat, 1, 1, 0⟩

def freshDb : Db where
  tasks := ["task-1"]
  contracts := [("task-1", "sha256:" ++ String.ofList (List.replicate 64 '0'))]
  jobs := []
  claims := []
  events := []

def hourly : Job where
  scheduleId := "hourly"
  taskId := "task-1"
  kind := .interval
  scheduleValue := "3600"
  timezoneName := "UTC"
  contractSha256 := "sha256:" ++ String.ofList (List.replicate 64 '0')
  nextRunAt := 0
  enabled := true
  createdAt := 0
  updatedAt := 0
  lastError := none

theorem register_hourly : ∃ db, registerInterval freshDb "hourly" "task-1" 3600 (some 0) 0 = .ok db ∧
    db.jobs = [hourly] ∧ db.claims = [] :=
  ⟨_, rfl, rfl, rfl⟩

theorem hourly_tick_not_refused : ∃ db, registerInterval freshDb "hourly" "task-1" 3600 (some 0) 0 = .ok db ∧
    db.jobs = [hourly] ∧
    claimDue utc db 0 8 300 ≠ .error (fail "SCHEDULE_OCCURRENCE_ALREADY_CLAIMED") := by
  obtain ⟨db, hreg, hjobs, hclaims⟩ := register_hourly
  have hrun : Relation.ReflTransGen (Step Unit utc) ⟨freshDb, 0⟩ ⟨db, 0⟩ :=
    .single ⟨.registerInterval "hourly" "task-1" 3600 (some 0), 0, le_rfl, rfl, .inl hreg⟩
  have hcol : NoClaimIdCollision db := by
    intro o ho o' ho' _
    simp only [Db.occurrences, hjobs, hclaims, List.map_nil, List.map_cons, List.nil_append,
      List.mem_singleton] at ho ho'
    rw [ho, ho']
  exact ⟨db, hreg, hjobs, (claims_over_runs rfl rfl hrun).2.2.2.1 hcol 0 8 300 le_rfl⟩

end Runs

end ThreeAgent.PersistentScheduler

/-
When a tick of the persistent scheduler returns.

Whether a row can be claimed is decided by the tables the tick starts from:
visiting one row never touches the claims or the contract of another, so the
loop can be read row by row (`tickRow_cases`).
-/
import ThreeAgent.Lib.HashChain
import ThreeAgent.Lib.Padded
import ThreeAgent.PersistentSchedulerFacts

namespace ThreeAgent.PersistentScheduler

open PyText Outcome PyJson
open Clock (minute maxInstant minInstant floorMinute)

variable {events : List Event} {m : CronMatcher} {tz expression : String}

/-! ## Events -/

/-- What an event's hash is over. -/
structure EventBody where
  prevHash : String
  scheduleId : String
  action : String
  timestamp : Int
  detailsJson : String

variable {bodies : Set EventBody}

namespace EventBody

/-- The canonical text of the body. -/
def text (b : EventBody) : List Char :=
  '\x7b' :: (stringText "action" ++ ':' :: (stringText b.action ++
    ',' :: (stringText "details" ++ ':' :: (b.detailsJson.toList ++
    ',' :: (stringText "prev_hash" ++ ':' :: (stringText b.prevHash ++
    ',' :: (stringText "schedule_id" ++ ':' :: (stringText b.scheduleId ++
    ',' :: (stringText "timestamp" ++ ':' :: (stringText (Clock.iso b.timestamp) ++ ['\x7d']))))))))))

def eventHash (b : EventBody) : String := "sha256:" ++ Sha256.hexdigest (String.ofList b.text)

def eventId (b : EventBody) : String := "sev_" ++ shortDigest b.eventHash

def row (b : EventBody) : Event :=
  { eventId := b.eventId, prevHash := b.prevHash, eventHash := b.eventHash, scheduleId := b.scheduleId
    action := b.action, timestamp := b.timestamp, detailsJson := b.detailsJson }

end EventBody

def Event.body (e : Event) : EventBody := ⟨e.prevHash, e.scheduleId, e.action, e.timestamp, e.detailsJson⟩

/-- The body of the next event of the tables. -/
def Db.nextBody (db : Db) (scheduleId action : String) (timestamp : Int) (detailsJson : String) : EventBody :=
  ⟨HashChain.lastHash Event.eventHash "GENESIS" db.events, scheduleId, action, timestamp, detailsJson⟩

variable {e : Raised} {b : EventBody} {rest : List Event}

section Events

variable {F : Type} [PyFloat F] {db db' : Db} {id action : String} {t : Int} {details : Json F}

theorem text_body (prev : String) (h : dumpable details = true) :
    dumps (Json.dict [("schedule_id", .str id), ("action", .str action), ("timestamp", .str (Clock.iso t)),
      ("details", details), ("prev_hash", .str prev)]) =
      some (String.ofList (EventBody.text ⟨prev, id, action, t, String.ofList (PyJson.text details)⟩)) := by
  have hdict : Json.dict [("schedule_id", .str id), ("action", .str action), ("timestamp", .str (Clock.iso t)),
      ("details", details), ("prev_hash", .str prev)] = .obj [("action", .str action), ("details", details),
      ("prev_hash", .str prev), ("schedule_id", .str id), ("timestamp", .str (Clock.iso t))] := by
    simp +decide only [Json.dict, Json.insertKey, List.foldl, ↓reduceIte]
  rw [hdict, dumps, if_pos]
  · simp only [PyJson.text, entriesText, EventBody.text, String.toList_ofList]
  · simp [dumpable, entriesDumpable, h]

theorem appendEvent_iff : db.appendEvent id action t details = .ok db' ↔ dumpable details = true ∧
    (∀ e ∈ db.events, e.eventId ≠ (db.nextBody id action t (String.ofList (PyJson.text details))).eventId) ∧
    db' = { db with events := db.events ++ [(db.nextBody id action t (String.ofList (PyJson.text details))).row] } := by
  have hprev : (db.events.getLast?.map Event.eventHash).getD "GENESIS" =
      HashChain.lastHash Event.eventHash "GENESIS" db.events := by
    rw [HashChain.lastHash]
    cases db.events.getLast? with
    | none => rfl
    | some e => rfl
  by_cases hd : dumpable details = true
  · have hjson : canonicalJson details = .ok (String.ofList (PyJson.text details)) := by
      rw [canonicalJson, dumps, if_pos hd]
      rfl
    rw [Db.appendEvent, hprev, digest, canonicalJson, text_body _ hd]
    simp only [hjson, bind_ok, pure_ok, require_ok, Except.ok.injEq, exists_eq_left', hd, true_and]
    constructor
    · rintro ⟨_, hnew, rfl⟩
      exact ⟨hnew, rfl⟩
    · rintro ⟨hnew, rfl⟩
      exact ⟨⟨⟩, hnew, rfl⟩
  · constructor
    · intro h
      simp only [Db.appendEvent, canonicalJson, dumps, if_neg hd, bind_ok] at h
      obtain ⟨_, -, _, h, -⟩ := h
      cases h
    · intro h
      exact absurd h.1 hd

theorem appendEvent_returns (hd : dumpable details = true)
    (hnew : ∀ e ∈ db.events, e.eventId ≠ (db.nextBody id action t (String.ofList (PyJson.text details))).eventId) :
    ∃ db', db.appendEvent id action t details = .ok db' :=
  ⟨_, appendEvent_iff.mpr ⟨hd, hnew, rfl⟩⟩

theorem appendEvent_error (h : db.appendEvent id action t details = .error e)
    (hd : dumpable details = true) :
    ∃ old ∈ db.events, old.eventId = (db.nextBody id action t (String.ofList (PyJson.text details))).eventId := by
  by_contra hnone
  obtain ⟨db', hok⟩ := appendEvent_returns hd fun old hold he => hnone ⟨old, hold, he⟩
  rw [h] at hok
  cases hok

/-- The check of one event against the hash before it. -/
def checkEvent (previous : String) (e : Event) : Except Raised (Option String) :=
  return if e.prevHash = previous ∧ e.eventHash = e.body.eventHash ∧ e.eventId = e.body.eventId then some e.eventHash
    else none

/-- Every event names the hash of the one before it and has the hash and id of its own body. -/
def Chained (events : List Event) : Prop := HashChain.follow checkEvent "GENESIS" events = .ok true

theorem checkEvent_ok {previous h : String} {e : Event} (hc : checkEvent previous e = .ok (some h)) :
    e.prevHash = previous ∧ e.eventHash = e.body.eventHash ∧ e.eventId = e.body.eventId ∧ h = e.eventHash := by
  simp only [checkEvent, pure_ok] at hc
  split at hc
  · rename_i hfit
    cases hc
    exact ⟨hfit.1, hfit.2.1, hfit.2.2, rfl⟩
  · cases hc

theorem checkEvent_hash (previous : String) (e : Event) (h : String) (hc : checkEvent previous e = .ok (some h)) :
    h = e.eventHash :=
  (checkEvent_ok hc).2.2.2

theorem chained_snoc {e : Event} : Chained (events ++ [e]) ↔ Chained events ∧
    ∃ h, checkEvent (HashChain.lastHash Event.eventHash "GENESIS" events) e = .ok (some h) :=
  HashChain.follow_snoc checkEvent_hash

theorem Chained.append (h : Chained events)
    (hprev : b.prevHash = HashChain.lastHash Event.eventHash "GENESIS" events) : Chained (events ++ [b.row]) := by
  refine chained_snoc.mpr ⟨h, b.eventHash, ?_⟩
  simp only [checkEvent, pure_ok]
  exact if_pos ⟨hprev, rfl, rfl⟩

theorem Chained.take (h : Chained (events ++ rest)) : Chained events := by
  induction rest using List.reverseRecOn with
  | nil => rwa [List.append_nil] at h
  | append_singleton rest e ih =>
    rw [← List.append_assoc] at h
    exact ih (chained_snoc.mp h).1

theorem Chained.event {e : Event} (h : Chained (events ++ e :: rest)) :
    e.prevHash = HashChain.lastHash Event.eventHash "GENESIS" events ∧ e.eventId = e.body.eventId := by
  have hsplit : events ++ e :: rest = (events ++ [e]) ++ rest := by simp
  rw [hsplit] at h
  obtain ⟨-, _, hc⟩ := chained_snoc.mp h.take
  exact ⟨(checkEvent_ok hc).1, (checkEvent_ok hc).2.2.1⟩

/-- The hash that stands for what precedes an event. -/
def EventBody.link : Option EventBody → String
  | none => "GENESIS"
  | some b => b.eventHash

theorem checkEvent_link (previous : String) (e : Event) (h : String) (hc : checkEvent previous e = .ok (some h)) :
    e.body.prevHash = previous ∧ e.eventHash = EventBody.link (some e.body) :=
  ⟨(checkEvent_ok hc).1, (checkEvent_ok hc).2.1⟩

theorem link_injOn (h : Set.InjOn EventBody.eventId bodies) :
    Set.InjOn EventBody.link {o | ∀ b, o = some b → b ∈ bodies} := by
  have hne : ∀ b : EventBody, "GENESIS" ≠ b.eventHash := by
    intro b he
    have := congrArg (fun s : String => s.toList.head?) he
    simp [EventBody.eventHash] at this
  intro o ho o' ho' he
  cases o with
  | none =>
    cases o' with
    | none => rfl
    | some b => exact absurd he (hne b)
  | some b =>
    cases o' with
    | none => exact absurd he.symm (hne b)
    | some b' =>
      have hid : b.eventId = b'.eventId := by
        rw [EventBody.eventId, EventBody.eventId, show b.eventHash = b'.eventHash from he]
      rw [h (ho b rfl) (ho' b' rfl) hid]

/-- **The next event has a new id** as long as no two different bodies share one: an old event with
the same body would follow the same hash, and its predecessors would be the whole table. -/
theorem Chained.fresh (h : Chained events)
    (hprev : b.prevHash = HashChain.lastHash Event.eventHash "GENESIS" events)
    (hinj : Set.InjOn EventBody.eventId bodies) (hb : b ∈ bodies) (hevents : ∀ e ∈ events, e.body ∈ bodies) :
    ∀ e ∈ events, e.eventId ≠ b.eventId := by
  intro e he hid
  obtain ⟨before, after, rfl⟩ := List.append_of_mem he
  obtain ⟨heprev, heid⟩ := h.event
  have hbody : e.body = b := hinj (hevents e he) hb (heid.symm.trans hid)
  have hlast : HashChain.lastHash Event.eventHash "GENESIS" before =
      HashChain.lastHash Event.eventHash "GENESIS" (before ++ e :: after) := by
    rw [← heprev, ← hprev, ← hbody, Event.body]
  have hmem : ∀ a ∈ before ++ e :: after, some a.body ∈ {o | ∀ b, o = some b → b ∈ bodies} := by
    intro a ha b hb
    cases hb
    exact hevents a ha
  have hkeys : before.map Event.body = (before ++ e :: after).map Event.body :=
    HashChain.keys_eq EventBody.prevHash checkEvent_hash checkEvent_link (link_injOn hinj) (by simp)
      (fun a ha => hmem a (by simp [ha])) hmem h.take h hlast
  have hlen := congrArg List.length hkeys
  simp only [List.length_map, List.length_append, List.length_cons] at hlen
  omega

end Events

/-! ## Rows that can move on -/

/-- A row as registration writes it. -/
def Job.Registered (zones : Zones) (j : Job) : Prop :=
  match j.kind with
  | .interval => ∃ n, int? j.scheduleValue = some n ∧ minIntervalSeconds ≤ n ∧ n ≤ maxIntervalSeconds
  | .cron => ∃ m tz, CronMatcher.parse j.scheduleValue = .ok m ∧ timezone zones j.timezoneName = .ok tz
  | .other _ => False

/-- The next run of an interval row that is due, by whole periods from the last. -/
def intervalRun (n nextRunAt now : Int) : Int :=
  nextRunAt + (Clock.secondsFloorDiv (now - nextRunAt).toNat n.toNat + 1) * n * 1000000

/-- The row has a run after `now` that a date can express and, for an expression, that falls within
the minutes that are searched. -/
def Job.Advances (zones : Zones) (row : Job) (now : Int) : Prop :=
  match row.kind with
  | .interval => ∀ n, int? row.scheduleValue = some n → intervalRun n row.nextRunAt now ≤ Clock.maxInstant
  | .cron => ∃ m tz, CronMatcher.parse row.scheduleValue = .ok m ∧ timezone zones row.timezoneName = .ok tz ∧
      ∃ k < maxCronSearchMinutes, Clock.floorMinute now + (k + 1) * Clock.minute ≤ Clock.maxInstant ∧
        m.isMatch (zones.localTime tz (Clock.floorMinute now + (k + 1) * Clock.minute)) = true
  | .other _ => False

theorem int?_intText {n : Int} (h0 : 0 ≤ n) (hn : n.natAbs < 2 ^ 64) : int? (String.ofList (intText n)) = some n := by
  obtain ⟨m, rfl⟩ := Int.eq_ofNat_of_zero_le h0
  have hpadded : Clock.padded 0 (m : Int) = Nat.toDigits 10 m := by rw [Padded.padded_eq, Nat.zero_sub]; rfl
  have hlen : (Nat.toDigits 10 m).length ≤ maxStrDigits := by
    refine (Nat.length_toDigits_le_iff (by decide) maxStrDigits_pos).mpr ?_
    have hdump : dumpable (.int m : Json Unit) = true := dumpable_int hn
    simpa [dumpable] using hdump
  have hread := Padded.int?_padded (w := 0) (k := m) (hpadded ▸ hlen)
  rwa [hpadded] at hread

theorem plus_returns (t us : Int) (h : minInstant ≤ t + us) :
    (∃ t', Clock.plus dateOverflow t us = .ok t') ↔ t + us ≤ maxInstant := by
  simp only [Clock.plus, bind_ok, require_ok, pure_ok]
  constructor
  · rintro ⟨_, _, hr, -⟩
    exact hr.2
  · intro hle
    exact ⟨_, ⟨⟩, ⟨h, hle⟩, rfl⟩

variable {zones : Zones}

theorem searchCron_returns : ∀ {n : Nat} {cursor : Int}, minInstant ≤ cursor → cursor ≤ maxInstant →
    ((∃ t, searchCron zones m tz n cursor = .ok t) ↔ ∃ k < n, cursor + k * minute ≤ maxInstant ∧
      m.isMatch (zones.localTime tz (cursor + k * minute)) = true) := by
  intro n
  induction n with
  | zero =>
    intro cursor _ _
    simp [searchCron]
  | succ n ih =>
    intro cursor hmin hmax
    rw [searchCron]
    by_cases hmatch : m.isMatch (zones.localTime tz cursor) = true
    · rw [if_pos hmatch]
      constructor
      · intro _
        exact ⟨0, by omega, by simpa using hmax, by simpa using hmatch⟩
      · intro _
        exact ⟨cursor, rfl⟩
    rw [if_neg hmatch]
    have hpos : (0 : Int) < minute := by decide
    have hnext := plus_returns cursor minute (by omega)
    constructor
    · rintro ⟨t, ht⟩
      simp only [bind_ok] at ht
      obtain ⟨next, hplus, ht⟩ := ht
      have hle := hnext.mp ⟨next, hplus⟩
      rw [Clock.plus_ok hplus] at ht
      obtain ⟨k, hk, hkmax, hkmatch⟩ := (ih (by omega) hle).mp ⟨t, ht⟩
      have hshift : cursor + minute + k * minute = cursor + (k + 1 : Nat) * minute := by
        push_cast
        ring
      rw [hshift] at hkmax hkmatch
      exact ⟨k + 1, by omega, hkmax, hkmatch⟩
    · rintro ⟨k, hk, hkmax, hkmatch⟩
      cases k with
      | zero => exact absurd (by simpa using hkmatch) hmatch
      | succ k =>
        have hshift : cursor + (k + 1 : Nat) * minute = cursor + minute + k * minute := by
          push_cast
          ring
        have hnn : 0 ≤ (k : Int) * minute := Int.mul_nonneg (by omega) (le_of_lt hpos)
        rw [hshift] at hkmax hkmatch
        have hle : cursor + minute ≤ maxInstant := by omega
        obtain ⟨next, hplus⟩ := hnext.mpr hle
        obtain ⟨t, ht⟩ := (ih (by omega) hle).mpr ⟨k, by omega, hkmax, hkmatch⟩
        refine ⟨t, ?_⟩
        simp only [bind_ok]
        refine ⟨next, hplus, ?_⟩
        rw [Clock.plus_ok hplus]
        exact ht

theorem searchCron_horizon : ∀ {n : Nat} {cursor : Int},
    (∀ k < n, m.isMatch (zones.localTime tz (cursor + k * minute)) = false) → minInstant ≤ cursor →
    cursor + n * minute ≤ maxInstant →
    searchCron zones m tz n cursor = .error (fail "CRON_NEXT_RUN_OUTSIDE_SEARCH_HORIZON") := by
  intro n
  induction n with
  | zero =>
    intro cursor _ _ _
    rfl
  | succ n ih =>
    intro cursor hnone hmin hmax
    have hpos : (0 : Int) < minute := by decide
    have hnn : 0 ≤ (n : Int) * minute := Int.mul_nonneg (by omega) (le_of_lt hpos)
    have hsplit : cursor + (n + 1 : Nat) * minute = cursor + minute + n * minute := by
      push_cast
      ring
    rw [hsplit] at hmax
    obtain ⟨next, hplus⟩ := (plus_returns cursor minute (by omega)).mpr (by omega)
    have hfirst := hnone 0 (by omega)
    rw [Nat.cast_zero, zero_mul, add_zero] at hfirst
    rw [searchCron, hfirst, if_neg (by decide), hplus, Clock.plus_ok hplus]
    refine ih ?_ (by omega) hmax
    intro k hk
    have hshift : cursor + minute + k * minute = cursor + (k + 1 : Nat) * minute := by
      push_cast
      ring
    rw [hshift]
    exact hnone (k + 1) (by omega)

variable {cursor : Int}

theorem searchCron_match {n : Nat} (hn : 0 < n)
    (h : m.isMatch (zones.localTime tz cursor) = true) : searchCron zones m tz n cursor = .ok cursor := by
  obtain ⟨k, rfl⟩ := Nat.exists_eq_add_one.mpr hn
  rw [searchCron, if_pos h]
  rfl

variable {tzName : String}

theorem nextCron_eq {after : Int} (hm : CronMatcher.parse expression = .ok m) (htz : timezone zones tzName = .ok tz)
    (hplus : Clock.plus dateOverflow (floorMinute after) minute = .ok cursor) :
    nextCron zones expression tzName after = searchCron zones m tz maxCronSearchMinutes cursor := by
  simp only [nextCron, hm, htz, hplus, bind, Except.bind]

/-- **A registered row that is due has a next run exactly when it can move on.** -/
theorem nextAfterRow_returns {row : Job} {now : Int} (hreg : row.Registered zones)
    (hdue : row.nextRunAt ≤ now) (hmin : minInstant ≤ now) :
    (∃ t, nextAfterRow zones row now = .ok t) ↔ row.Advances zones now := by
  unfold Job.Registered at hreg
  unfold nextAfterRow Job.Advances
  cases hkind : row.kind with
  | interval =>
    rw [hkind] at hreg
    obtain ⟨n, hn, hlo, hhi⟩ := hreg
    have hnpos : 0 < n := by
      simp only [minIntervalSeconds] at hlo
      omega
    have hgt : now < intervalRun n row.nextRunAt now := by
      have hfloor := @Clock.lt_secondsFloorDiv (now - row.nextRunAt).toNat n.toNat (by omega)
      have hcast := Int.ofNat_lt.mpr hfloor
      push_cast at hcast
      rw [Int.toNat_of_nonneg (show 0 ≤ now - row.nextRunAt by omega), Int.toNat_of_nonneg (le_of_lt hnpos)] at hcast
      rw [intervalRun]
      omega
    have hrun := plus_returns row.nextRunAt
      ((Clock.secondsFloorDiv (now - row.nextRunAt).toNat n.toNat + 1) * n * 1000000) (by
        rw [intervalRun] at hgt
        omega)
    have hnext : nextInterval n row.nextRunAt now = Clock.plus dateOverflow row.nextRunAt
        ((Clock.secondsFloorDiv (now - row.nextRunAt).toNat n.toNat + 1) * n * 1000000) := by
      rw [nextInterval, if_neg (by omega)]
      rfl
    simp only [hn, bind_ok, require_ok, Option.some.injEq, forall_eq', hnext]
    constructor
    · rintro ⟨t, _, -, ht⟩
      exact hrun.mp ⟨t, ht⟩
    · intro hle
      obtain ⟨t, ht⟩ := hrun.mpr hle
      exact ⟨t, ⟨⟩, ⟨hlo, hhi⟩, ht⟩
  | cron =>
    rw [hkind] at hreg
    obtain ⟨m, tz, hm, htz⟩ := hreg
    have hfloor := Clock.lt_floorMinute_add now
    have hcursor := plus_returns (floorMinute now) minute (by omega)
    have hshift : ∀ k : Nat, floorMinute now + minute + k * minute =
        floorMinute now + (k + 1) * minute := by
      intro k
      ring
    have hpos : (0 : Int) < minute := by decide
    simp only [nextCron, hm, htz, bind_ok, Except.ok.injEq, exists_eq_left']
    constructor
    · rintro ⟨t, cursor, hplus, ht⟩
      have hle := hcursor.mp ⟨cursor, hplus⟩
      rw [Clock.plus_ok hplus] at ht
      obtain ⟨k, hk, hkmax, hkmatch⟩ := (searchCron_returns (by omega) hle).mp ⟨t, ht⟩
      rw [hshift] at hkmax hkmatch
      exact ⟨m, tz, rfl, rfl, k, hk, hkmax, hkmatch⟩
    · rintro ⟨_, _, rfl, rfl, k, hk, hkmax, hkmatch⟩
      rw [← hshift] at hkmax hkmatch
      have hnn : 0 ≤ (k : Int) * minute := Int.mul_nonneg (by omega) (le_of_lt hpos)
      have hle : floorMinute now + minute ≤ maxInstant := by omega
      obtain ⟨cursor, hplus⟩ := hcursor.mpr hle
      obtain ⟨t, ht⟩ := (searchCron_returns (by omega) hle).mpr ⟨k, hk, hkmax, hkmatch⟩
      refine ⟨t, cursor, hplus, ?_⟩
      rw [Clock.plus_ok hplus]
      exact ht
  | other s =>
    rw [hkind] at hreg
    exact hreg.elim

/-! ## What every run keeps -/

/-- The rows are as registration writes them and the events form a chain. -/
structure Sound (zones : Zones) (db : Db) : Prop where
  registered : ∀ j ∈ db.jobs, j.Registered zones
  chained : Chained db.events

variable {task reason : String} {next : Int} {c : Claim}

section Sound

variable {zones : Zones} {F : Type} [PyFloat F] {db db' : Db} {id action : String} {now t : Int} {details : Json F}

section
variable (h : Sound zones db)
include h

theorem Sound.append (ha : db.appendEvent id action t details = .ok db') : Sound zones db' := by
  obtain ⟨-, -, rfl⟩ := appendEvent_iff.mp ha
  exact ⟨h.registered, h.chained.append rfl⟩

theorem Sound.updateJob {f : Job → Job} (hf : ∀ j : Job, j.Registered zones → (f j).Registered zones) :
    Sound zones (db.updateJob id f) := by
  refine ⟨?_, h.chained⟩
  intro j hj
  rcases mem_updatedJobs hj with ⟨i, hi, -, rfl⟩ | ⟨hj, -⟩
  · exact hf i (h.registered i hi)
  · exact h.registered j hj

theorem Sound.updateClaim {f : Claim → Claim} : Sound zones (db.updateClaim id f) :=
  ⟨h.registered, h.chained⟩

theorem register_sound {value : String} {kind : JobKind}
    (hreg : ∀ j : Job, j.kind = kind → j.scheduleValue = value → j.timezoneName = tz → j.Registered zones)
    (hr : register db id task kind value tz next now = .ok db') : Sound zones db' := by
  simp only [register, bind_ok, require_ok] at hr
  obtain ⟨_, -, contract, -, _, -, hr⟩ := hr
  refine Sound.append ⟨?_, ?_⟩ hr
  · intro j hj
    rcases List.mem_append.mp hj with hj | hj
    · exact h.registered j hj
    · rw [List.mem_singleton.mp hj]
      exact hreg _ rfl rfl rfl
  · exact h.chained

theorem registerInterval_sound {interval : Int} {start : Option Int}
    (hr : registerInterval db id task interval start now = .ok db') : Sound zones db' := by
  simp only [registerInterval, bind_ok, require_ok] at hr
  obtain ⟨_, -, _, -, _, ⟨hlo, hhi⟩, _, -, hr⟩ := hr
  refine register_sound h ?_ hr
  intro j hkind hvalue _
  unfold Job.Registered
  simp only [hkind, hvalue]
  have hbounds : 0 ≤ interval ∧ interval ≤ 31622400 := by
    simp only [minIntervalSeconds, maxIntervalSeconds] at hlo hhi
    omega
  exact ⟨interval, int?_intText hbounds.1 (by omega), hlo, hhi⟩

theorem registerCron_sound
    (hr : registerCron zones db id task expression tz now = .ok db') : Sound zones db' := by
  simp only [registerCron, nextCron, bind_ok] at hr
  obtain ⟨_, -, _, -, m, -, key, -, next, ⟨m', hm', key', hkey', -⟩, hr⟩ := hr
  refine register_sound h ?_ hr
  intro j hkind hvalue htz
  unfold Job.Registered
  simp only [hkind, hvalue, htz]
  exact ⟨m', key', hm', hkey'⟩

theorem autoDisable_sound {row : Job}
    (ha : autoDisable db row now reason = .ok db') : Sound zones db' := by
  unfold autoDisable at ha
  refine Sound.append (h.updateJob ?_) ha
  exact fun _ hj => hj

theorem claimRow_sound {row : Job} {lease : Int}
    (hc : claimRow zones db row now lease = .ok (db', c)) : Sound zones db' := by
  simp only [claimRow, Db.insertClaim, bind_ok, require_ok, pure_ok, Prod.mk.injEq] at hc
  obtain ⟨next, -, _, -, _, ⟨_, -, rfl⟩, _, hev, rfl, rfl⟩ := hc
  refine Sound.append ?_ hev
  refine Sound.updateJob ?_ ?_
  · exact ⟨h.registered, h.chained⟩
  · exact fun _ hj => hj

end

theorem tickRow_sound {st st' : Db × List Claim} (h : Sound zones st.1) {row : Job} {lease : Int}
    (ht : tickRow zones row now lease st = .ok st') : Sound zones st'.1 := by
  unfold tickRow at ht
  split at ht
  · simp only [pure_ok] at ht
    rwa [← ht]
  split at ht
  · simp only [bind_ok, pure_ok] at ht
    obtain ⟨db, hd, rfl⟩ := ht
    exact autoDisable_sound h hd
  split at ht
  · simp only [bind_ok, pure_ok] at ht
    obtain ⟨db, hd, rfl⟩ := ht
    exact autoDisable_sound h hd
  · simp only [bind_ok, pure_ok, Prod.exists] at ht
    obtain ⟨db, c, hc, rfl⟩ := ht
    exact claimRow_sound h hc

theorem tickRows_sound {lease : Int} {limit : Nat} : ∀ {rows : List Job} {st st' : Db × List Claim},
    Sound zones st.1 → tickRows zones now lease limit rows st = .ok st' → Sound zones st'.1
  | [], st, st', h, ht => by
    simp only [tickRows, pure_ok] at ht
    rwa [← ht]
  | row :: rows, st, st', h, ht => by
    simp only [tickRows] at ht
    split at ht
    · simp only [pure_ok] at ht
      rwa [← ht]
    · simp only [bind_ok] at ht
      obtain ⟨st₁, h₁, ht⟩ := ht
      exact tickRows_sound (tickRow_sound h h₁) ht

theorem markRows_sound : ∀ {rows : List Claim} {db db' : Db}, Sound zones db →
    markRows now rows db = .ok db' → Sound zones db'
  | [], db, db', h, hm => by
    simp only [markRows, pure_ok] at hm
    rwa [← hm]
  | row :: rows, db, db', h, hm => by
    simp only [markRows, bind_ok] at hm
    obtain ⟨db₁, h₁, hm⟩ := hm
    exact markRows_sound (Sound.append h.updateClaim h₁) hm

theorem completeClaim_sound (h : Sound zones db) {claimId status : String} {given : Option (List (String × Json F))}
    (hc : completeClaim db claimId status given now = .ok db') : Sound zones db' := by
  simp only [completeClaim, bind_ok] at hc
  obtain ⟨_, -, hc⟩ := hc
  split at hc
  · cases hc
  simp only [bind_ok] at hc
  obtain ⟨_, -, hc⟩ := hc
  split at hc
  · cases hc
  split at hc
  · simp only [bind_ok, pure_ok] at hc
    obtain ⟨_, -, rfl⟩ := hc
    exact h
  · exact Sound.append h.updateClaim hc

theorem Op.exec_sound (h : Sound zones db) {op : Op F} (ho : op.exec zones now db = .ok db') : Sound zones db' := by
  cases op with
  | registerInterval =>
    simp only [Op.exec] at ho
    exact registerInterval_sound h ho
  | registerCron =>
    simp only [Op.exec] at ho
    exact registerCron_sound h ho
  | enable id =>
    simp only [Op.exec, PersistentScheduler.enable, bind_ok] at ho
    obtain ⟨_, -, _, -, _, -, _, -, _, -, ho⟩ := ho
    refine Sound.append (h.updateJob ?_) ho
    exact fun _ hj => hj
  | disable id =>
    simp only [Op.exec, PersistentScheduler.disable, bind_ok] at ho
    obtain ⟨_, -, _, -, ho⟩ := ho
    refine Sound.append (h.updateJob ?_) ho
    exact fun _ hj => hj
  | claimDue limit lease =>
    cases hc : PersistentScheduler.claimDue zones db now limit lease with
    | error e => simp [Op.exec, hc, Except.map] at ho
    | ok r =>
      simp only [Op.exec, hc, Except.map, Except.ok.injEq] at ho
      subst ho
      simp only [PersistentScheduler.claimDue, bind_ok] at hc
      obtain ⟨_, -, _, -, hc⟩ := hc
      exact tickRows_sound h hc
  | markExpired limit =>
    simp only [Op.exec, markExpiredClaimsRecoveryRequired, bind_ok] at ho
    obtain ⟨_, -, ho⟩ := ho
    exact markRows_sound h ho
  | completeClaim =>
    simp only [Op.exec] at ho
    exact completeClaim_sound h ho
  | external tasks contracts =>
    simp only [Op.exec, Except.ok.injEq] at ho
    subst ho
    exact ⟨h.registered, h.chained⟩

theorem run_sound {w w' : World} (hrun : Relation.ReflTransGen (Step F zones) w w') (h : Sound zones w.db) :
    Sound zones w'.db := by
  induction hrun with
  | refl => exact h
  | tail _ hstep ih =>
    obtain ⟨op, now, -, -, ho | ⟨e, -, hdb⟩⟩ := hstep
    · exact Op.exec_sound ih ho
    · rwa [hdb]

end Sound

/-! ## One visit -/

/-- Nothing of the schedule is unresolved, and its task has the contract it is bound to. -/
def Db.Claimable (db : Db) (row : Job) : Prop :=
  db.hasUnresolvedClaim row.scheduleId = false ∧ db.contractDigest row.taskId = .ok row.contractSha256

instance (db : Db) (row : Job) : Decidable (db.Claimable row) := inferInstanceAs (Decidable (_ ∧ _))

section Visit

variable {zones : Zones} {row : Job} {current lease : Int} {st st' : Db × List Claim}

/-- A row whose schedule is disabled by the visit. -/
structure Disabled (row : Job) (db db' : Db) : Prop where
  jobs : ∃ f : Job → Job, (∀ j, (f j).enabled = false) ∧ db'.jobs = updatedJobs db.jobs row.scheduleId f
  claims : db'.claims = db.claims
  contracts : db'.contracts = db.contracts

structure Claimed (row : Job) (c : Claim) (db db' : Db) : Prop where
  jobs : ∃ f : Job → Job, (∀ j, (f j).scheduleId = j.scheduleId) ∧ db'.jobs = updatedJobs db.jobs row.scheduleId f
  claims : db'.claims = db.claims ++ [c]
  contracts : db'.contracts = db.contracts
  scheduleId : c.scheduleId = row.scheduleId
  status : c.status = .claimed

theorem autoDisable_ok {db db' : Db} (h : autoDisable db row current reason = .ok db') :
    Disabled row db db' := by
  obtain ⟨hjobs, hclaims, hcontracts⟩ := appendEvent_ok h
  exact ⟨⟨_, fun _ => rfl, hjobs⟩, hclaims, hcontracts⟩

theorem claimRow_claims {db db' : Db} (h : claimRow zones db row current lease = .ok (db', c)) :
    Claimed row c db db' := by
  simp only [claimRow, Db.insertClaim, bind_ok, require_ok, pure_ok, Prod.mk.injEq] at h
  obtain ⟨next, -, _, -, _, ⟨_, -, rfl⟩, _, hev, rfl, rfl⟩ := h
  obtain ⟨hjobs, hclaims, hcontracts⟩ := appendEvent_ok hev
  refine ⟨⟨_, ?_, hjobs⟩, hclaims, hcontracts, rfl, rfl⟩
  intro j
  rfl

theorem tickRow_cases (h : tickRow zones row current lease st = .ok st') :
    (st.1.hasUnresolvedClaim row.scheduleId = true ∧ st' = st) ∨
    (st.1.hasUnresolvedClaim row.scheduleId = false ∧ ¬ st.1.Claimable row ∧ Disabled row st.1 st'.1 ∧ st'.2 = st.2) ∨
    (st.1.Claimable row ∧ ∃ c, Claimed row c st.1 st'.1 ∧ st'.2 = st.2 ++ [c]) := by
  unfold tickRow at h
  split at h
  · rename_i hblocked
    simp only [pure_ok] at h
    exact .inl ⟨hblocked, h.symm⟩
  rename_i hfree
  rw [Bool.not_eq_true] at hfree
  split at h
  · rename_i e hdigest
    simp only [bind_ok, pure_ok] at h
    obtain ⟨db, hdb, rfl⟩ := h
    refine .inr (.inl ⟨hfree, ?_, autoDisable_ok hdb, rfl⟩)
    intro hc
    rw [hc.2] at hdigest
    cases hdigest
  rename_i contract hdigest
  split at h
  · rename_i hne
    simp only [bind_ok, pure_ok] at h
    obtain ⟨db, hdb, rfl⟩ := h
    refine .inr (.inl ⟨hfree, ?_, autoDisable_ok hdb, rfl⟩)
    intro hc
    rw [hc.2] at hdigest
    cases hdigest
    exact hne rfl
  · rename_i heq
    rw [ne_eq, not_not] at heq
    simp only [bind_ok, pure_ok, Prod.exists] at h
    obtain ⟨db, c, hc, rfl⟩ := h
    exact .inr (.inr ⟨⟨hfree, heq ▸ hdigest⟩, c, claimRow_claims hc, rfl⟩)

theorem hasUnresolvedClaim_append {db db' : Db} (h : Claimed row c db db') (id : String) :
    db'.hasUnresolvedClaim id = (db.hasUnresolvedClaim id || row.scheduleId == id) := by
  rw [Db.hasUnresolvedClaim, Db.hasUnresolvedClaim, h.claims, List.any_append]
  simp [h.scheduleId, h.status, ClaimStatus.unresolved]

theorem contractDigest_congr {db db' : Db} (h : db'.contracts = db.contracts) (id : String) :
    db'.contractDigest id = db.contractDigest id := by
  rw [Db.contractDigest, Db.contractDigest, h]

theorem tickRow_claimable (h : tickRow zones row current lease st = .ok st') {j : Job}
    (hne : j.scheduleId ≠ row.scheduleId) : st'.1.Claimable j ↔ st.1.Claimable j := by
  rcases tickRow_cases h with ⟨-, rfl⟩ | ⟨-, -, hd, -⟩ | ⟨-, c, hc, -⟩
  · exact Iff.rfl
  · rw [Db.Claimable, Db.Claimable, Db.hasUnresolvedClaim, Db.hasUnresolvedClaim, hd.claims,
      contractDigest_congr hd.contracts]
  · have hbeq : (row.scheduleId == j.scheduleId) = false := beq_false_of_ne (Ne.symm hne)
    rw [Db.Claimable, Db.Claimable, hasUnresolvedClaim_append hc, contractDigest_congr hc.contracts, hbeq,
      Bool.or_false]

end Visit

/-! ## When a tick returns -/

/-- The action and details of the event that a visit appends, if it comes that far. -/
def visitEvent (zones : Zones) (row : Job) (current leaseSeconds : Int) (db : Db) : Option (String × Details) :=
  if db.hasUnresolvedClaim row.scheduleId then none
  else
    match db.contractDigest row.taskId with
    | .error e => some ("AUTO_DISABLE", Json.dict [("reason_code", .str e.code)])
    | .ok contract =>
      if contract ≠ row.contractSha256 then
        some ("AUTO_DISABLE", Json.dict [("reason_code", .str "SCHEDULE_TASK_CONTRACT_CHANGED")])
      else
        match nextAfterRow zones row current, Clock.plus dateOverflow current (leaseSeconds * 1000000) with
        | .ok nextRun, .ok leaseUntil => some ("CLAIM", Json.dict
            [("claim_id", .str row.occurrence.claimId), ("scheduled_for", .str (Clock.iso row.nextRunAt)),
             ("lease_until", .str (Clock.iso leaseUntil)), ("next_run_at", .str (Clock.iso nextRun)),
             ("contract_sha256", .str row.contractSha256)])
        | _, _ => none

/-- The bodies of the events that a visit appends. -/
def visitBodies (zones : Zones) (row : Job) (current leaseSeconds : Int) (db : Db) : List EventBody :=
  (visitEvent zones row current leaseSeconds db).toList.map fun e =>
    db.nextBody row.scheduleId e.1 current (String.ofList (PyJson.text e.2))

/-- The bodies of the events that the loop appends, one visit after the other. -/
def tickBodies (zones : Zones) (current leaseSeconds : Int) (limit : Nat) :
    List Job → Db × List Claim → List EventBody
  | [], _ => []
  | row :: rows, st =>
    if limit ≤ st.2.length then []
    else visitBodies zones row current leaseSeconds st.1 ++
      match tickRow zones row current leaseSeconds st with
      | .ok st' => tickBodies zones current leaseSeconds limit rows st'
      | .error _ => []

variable {rows : List Job}

section Returns

variable {zones : Zones} {row : Job} {current lease : Int} {st st' : Db × List Claim}

theorem dumpable_details (kvs : List (String × String)) :
    dumpable (Json.dict (kvs.map fun kv => (kv.1, .str kv.2)) : Details) = true := by
  refine dumpable_dict ?_
  intro e he
  obtain ⟨kv, -, rfl⟩ := List.mem_map.mp he
  rfl

theorem tickRow_events (h : tickRow zones row current lease st = .ok st') :
    st'.1.events = st.1.events ++ (visitBodies zones row current lease st.1).map EventBody.row := by
  unfold tickRow at h
  unfold visitBodies visitEvent
  split at h
  · rename_i hblocked
    simp only [pure_ok] at h
    rw [if_pos hblocked, h]
    simp
  rename_i hfree
  rw [if_neg hfree]
  cases hdigest : st.1.contractDigest row.taskId with
  | error e =>
    rw [hdigest] at h
    simp only [bind_ok, pure_ok] at h
    obtain ⟨db, hd, rfl⟩ := h
    obtain ⟨-, -, rfl⟩ := appendEvent_iff.mp hd
    rfl
  | ok contract =>
    rw [hdigest] at h
    by_cases hsame : contract = row.contractSha256
    · simp only [if_neg (not_not.mpr hsame), claimRow, Db.insertClaim, bind_ok, require_ok, pure_ok, Prod.exists,
        Prod.mk.injEq] at h ⊢
      obtain ⟨_, _, ⟨next, hnext, until_, huntil, _, ⟨_, -, rfl⟩, _, hev, rfl, rfl⟩, rfl⟩ := h
      obtain ⟨-, -, rfl⟩ := appendEvent_iff.mp hev
      rw [hnext, huntil]
      rfl
    · simp only [if_pos hsame, bind_ok, pure_ok] at h ⊢
      obtain ⟨db, hd, rfl⟩ := h
      obtain ⟨-, -, rfl⟩ := appendEvent_iff.mp hd
      rfl

/-- Every event that follows the last one has a new id. -/
def FreshIn (db : Db) (bodies : List EventBody) : Prop := ∀ b ∈ bodies, ∀ e ∈ db.events, e.eventId ≠ b.eventId

variable {db : Db}

theorem autoDisable_returns (hfresh : FreshIn db [db.nextBody row.scheduleId "AUTO_DISABLE" current
      (String.ofList (PyJson.text (Json.dict [("reason_code", .str reason)] : Details)))]) :
    ∃ db', autoDisable db row current reason = .ok db' :=
  appendEvent_returns (dumpable_details [("reason_code", reason)]) (hfresh _ (List.mem_singleton.mpr rfl))

theorem claimRow_returns {until_ : Int} (hn : nextAfterRow zones row current = .ok next)
    (hu : Clock.plus dateOverflow current (lease * 1000000) = .ok until_)
    (hins : ∀ d ∈ db.claims, d.claimId ≠ row.occurrence.claimId ∧
      ¬ (d.scheduleId = row.scheduleId ∧ d.scheduledFor = row.nextRunAt))
    (hfresh : ∀ e ∈ db.events, e.eventId ≠ (db.nextBody row.scheduleId "CLAIM" current (String.ofList (PyJson.text
      (Json.dict [("claim_id", .str row.occurrence.claimId), ("scheduled_for", .str (Clock.iso row.nextRunAt)),
        ("lease_until", .str (Clock.iso until_)), ("next_run_at", .str (Clock.iso next)),
        ("contract_sha256", .str row.contractSha256)] : Details)))).eventId) :
    ∃ r, claimRow zones db row current lease = .ok r := by
  have hdetails := dumpable_details [("claim_id", row.occurrence.claimId),
    ("scheduled_for", Clock.iso row.nextRunAt), ("lease_until", Clock.iso until_), ("next_run_at", Clock.iso next),
    ("contract_sha256", row.contractSha256)]
  simp only [claimRow, hn, hu, Db.insertClaim, require, if_pos hins, bind, Except.bind, pure, Except.pure]
  split
  · rename_i e he
    obtain ⟨old, hold, hid⟩ := appendEvent_error he hdetails
    exact absurd hid (hfresh old hold)
  · exact ⟨_, rfl⟩

theorem tickRow_stops {row : Job} {current lease : Int} {st : Db × List Claim}
    (hcl : st.1.Claimable row) (hnext : nextAfterRow zones row current = .error e) :
    tickRow zones row current lease st = .error e := by
  rw [tickRow, hcl.1, if_neg (by decide), hcl.2]
  simp only [ne_eq, not_true_eq_false, if_false, claimRow, hnext, bind, Except.bind]

theorem visitEvent_stops {row : Job} {current lease : Int}
    (hcl : db.Claimable row) (hnext : nextAfterRow zones row current = .error e) :
    visitEvent zones row current lease db = none := by
  rw [visitEvent, hcl.1, if_neg (by decide), hcl.2]
  simp only [ne_eq, not_true_eq_false, if_false, hnext]

/-- **When a visit returns.** A row that is not claimable is passed by; one that is must be able to
move on, and its lease must end within the calendar. -/
theorem tickRow_returns (hinv : Inv current st.1.jobs st.1.claims) (hrow : row ∈ st.1.jobs)
    (hreg : row.Registered zones) (hdue : row.nextRunAt ≤ current) (hmin : minInstant ≤ current)
    (hlease : 0 ≤ lease) (hid : ∀ c ∈ st.1.claims, c.claimId ≠ row.occurrence.claimId)
    (hfresh : FreshIn st.1 (visitBodies zones row current lease st.1)) :
    (∃ st', tickRow zones row current lease st = .ok st') ↔ (st.1.Claimable row →
      row.Advances zones current ∧ current + lease * 1000000 ≤ maxInstant) := by
  have hnext := nextAfterRow_returns hreg hdue hmin
  have huntil := plus_returns current (lease * 1000000) (by omega)
  unfold visitBodies visitEvent at hfresh
  unfold tickRow
  by_cases hblocked : st.1.hasUnresolvedClaim row.scheduleId = true
  · rw [if_pos hblocked]
    constructor
    · intro _ hc
      have := hc.1
      rw [hblocked] at this
      cases this
    · intro _
      exact ⟨st, rfl⟩
  rw [if_neg hblocked] at hfresh ⊢
  cases hdigest : st.1.contractDigest row.taskId with
  | error e =>
    rw [hdigest] at hfresh
    simp only
    constructor
    · intro _ hc
      have := hc.2
      rw [hdigest] at this
      cases this
    · intro _
      obtain ⟨db', hd⟩ := autoDisable_returns hfresh
      exact ⟨(db', st.2), by rw [hd]; rfl⟩
  | ok contract =>
    simp only [hdigest] at hfresh
    simp only
    by_cases hne : contract ≠ row.contractSha256
    · rw [if_pos hne] at hfresh ⊢
      constructor
      · intro _ hc
        have := hc.2
        rw [hdigest] at this
        cases this
        exact absurd rfl hne
      · intro _
        obtain ⟨db', hd⟩ := autoDisable_returns hfresh
        exact ⟨(db', st.2), by rw [hd]; rfl⟩
    rw [if_neg hne] at hfresh ⊢
    rw [ne_eq, not_not] at hne
    have hcl : st.1.Claimable row := ⟨Bool.not_eq_true _ ▸ hblocked, hne ▸ hdigest⟩
    constructor
    · rintro ⟨st', hst⟩ _
      simp only [claimRow, bind_ok] at hst
      obtain ⟨_, ⟨next, hn, until_, hu, -⟩, -⟩ := hst
      exact ⟨hnext.mp ⟨next, hn⟩, huntil.mp ⟨until_, hu⟩⟩
    · intro hcan
      obtain ⟨next, hn⟩ := hnext.mpr (hcan hcl).1
      obtain ⟨until_, hu⟩ := huntil.mpr (hcan hcl).2
      simp only [hn, hu] at hfresh
      have hins : ∀ d ∈ st.1.claims, d.claimId ≠ row.occurrence.claimId ∧
          ¬ (d.scheduleId = row.scheduleId ∧ d.scheduledFor = row.nextRunAt) := by
        refine fun d hd => ⟨hid d hd, fun hsame => ?_⟩
        have hlt := hinv.claim_before_next d hd row hrow hsame.1.symm
        omega
      obtain ⟨r, hr⟩ := claimRow_returns hn hu hins (hfresh _ (List.mem_singleton.mpr rfl))
      exact ⟨(r.1, st.2 ++ [r.2]), by rw [hr]; rfl⟩

theorem visitBodies_prevHash (hb : b ∈ visitBodies zones row current lease db) :
    b.prevHash = HashChain.lastHash Event.eventHash "GENESIS" db.events := by
  obtain ⟨e, -, rfl⟩ := List.mem_map.mp hb
  rfl

theorem tickRow_claims_length (h : tickRow zones row current lease st = .ok st') :
    st'.2.length = if st.1.Claimable row then st.2.length + 1 else st.2.length := by
  rcases tickRow_cases h with ⟨hblocked, rfl⟩ | ⟨-, hnot, -, h2⟩ | ⟨hcl, c, -, h2⟩
  · rw [if_neg]
    intro hcl
    have := hcl.1
    rw [hblocked] at this
    cases this
  · rw [if_neg hnot, h2]
  · rw [if_pos hcl, h2, List.length_append]
    rfl

theorem tickRow_filter (h : tickRow zones row current lease st = .ok st')
    (hne : ∀ r ∈ rows, r.scheduleId ≠ row.scheduleId) :
    (rows.filter fun r => st'.1.Claimable r) = rows.filter fun r => st.1.Claimable r := by
  refine List.filter_congr ?_
  intro r hr
  exact decide_eq_decide.mpr (tickRow_claimable h (hne r hr))

/-- **When the loop returns.** Every row it would claim must be able to move on. -/
theorem tickRows_returns (limit : Nat) (hinj : Set.InjOn EventBody.eventId bodies)
    (hmin : minInstant ≤ current) (hlease : 0 ≤ lease) :
    ∀ {rows : List Job} (st : Db × List Claim), Inv current st.1.jobs st.1.claims → Sound zones st.1 →
      DueRows current st.1 rows → FreshIds st.1 rows →
      rows.Pairwise (fun r r' => r.occurrence.claimId ≠ r'.occurrence.claimId) →
      (∀ e ∈ st.1.events, e.body ∈ bodies) → (∀ b ∈ tickBodies zones current lease limit rows st, b ∈ bodies) →
      ((∃ st', tickRows zones current lease limit rows st = .ok st') ↔
        ∀ row ∈ (rows.filter fun r => st.1.Claimable r).take (limit - st.2.length),
          row.Advances zones current ∧ current + lease * 1000000 ≤ maxInstant) := by
  intro rows
  induction rows with
  | nil =>
    intro st _ _ _ _ _ _ _
    simp [tickRows]
  | cons row rows ih =>
    intro st hinv hsound hrows hids hdistinct hevents htick
    by_cases hfull : limit ≤ st.2.length
    · rw [tickRows, if_pos hfull, Nat.sub_eq_zero_of_le hfull]
      simp
    rw [tickBodies, if_neg hfull] at htick
    have hrow := hrows.mem row (by simp)
    have hfresh : FreshIn st.1 (visitBodies zones row current lease st.1) := by
      intro b hb
      exact hsound.chained.fresh (visitBodies_prevHash hb) hinj (htick b (List.mem_append_left _ hb)) hevents
    have hvisit := tickRow_returns hinv hrow (hsound.registered row hrow) (hrows.due row (by simp)) hmin hlease
      (hids row (by simp)) hfresh
    have hne : ∀ r ∈ rows, r.scheduleId ≠ row.scheduleId := by
      intro r hr he
      have hnd := hrows.nodup
      rw [List.map_cons, List.nodup_cons] at hnd
      exact hnd.1 (he ▸ List.mem_map_of_mem hr)
    -- the rest of the loop, once the visit has returned
    have hrest : ∀ st₁, tickRow zones row current lease st = .ok st₁ →
        ((∃ st', tickRows zones current lease limit rows st₁ = .ok st') ↔
          ∀ r ∈ (rows.filter fun r => st.1.Claimable r).take (limit - st₁.2.length),
            r.Advances zones current ∧ current + lease * 1000000 ≤ maxInstant) := by
      intro st₁ h₁
      obtain ⟨hk, hother⟩ := tickRow_keeps hinv hrow (hrows.due row (by simp)) h₁
      rw [h₁] at htick
      have hdistinct' := List.pairwise_cons.mp hdistinct
      rw [ih st₁ hk.inv (tickRow_sound hsound h₁) (hrows.tail hother) (tickRow_fresh h₁ hdistinct'.1 hids) hdistinct'.2 ?_ ?_,
        tickRow_filter h₁ hne]
      · intro e he
        rw [tickRow_events h₁, List.mem_append, List.mem_map] at he
        rcases he with he | ⟨b, hb, rfl⟩
        · exact hevents e he
        · exact htick b (List.mem_append_left _ hb)
      · intro b hb
        exact htick b (List.mem_append_right _ hb)
    rw [tickRows, if_neg hfull]
    simp only [bind_ok]
    by_cases hcl : st.1.Claimable row
    · have hstep : limit - st.2.length = (limit - (st.2.length + 1)) + 1 := by omega
      rw [List.filter_cons_of_pos (by simpa using hcl), hstep, List.take_succ_cons, List.forall_mem_cons]
      constructor
      · rintro ⟨st', st₁, h₁, h⟩
        have hlen := tickRow_claims_length h₁
        rw [if_pos hcl] at hlen
        refine ⟨hvisit.mp ⟨st₁, h₁⟩ hcl, ?_⟩
        rw [← hlen]
        exact (hrest st₁ h₁).mp ⟨st', h⟩
      · rintro ⟨hmove, hothers⟩
        obtain ⟨st₁, h₁⟩ := hvisit.mpr fun _ => hmove
        have hlen := tickRow_claims_length h₁
        rw [if_pos hcl] at hlen
        rw [← hlen] at hothers
        obtain ⟨st', h⟩ := (hrest st₁ h₁).mpr hothers
        exact ⟨st', st₁, h₁, h⟩
    · rw [List.filter_cons_of_neg (by simpa using hcl)]
      obtain ⟨st₁, h₁⟩ := hvisit.mpr fun h => absurd h hcl
      have hlen := tickRow_claims_length h₁
      rw [if_neg hcl] at hlen
      rw [← hlen, ← hrest st₁ h₁]
      constructor
      · rintro ⟨st', st₂, h₂, h⟩
        rw [h₁] at h₂
        cases h₂
        exact ⟨st', h⟩
      · rintro ⟨st', h⟩
        exact ⟨st', st₁, h₁, h⟩

end Returns

/-! ## What a tick leaves waiting -/

section Runs

variable {F : Type} [PyFloat F]

/-- No two different events, of those in the tables and those this tick appends, have the same id, a
truncated SHA-256 digest. -/
def NoEventIdCollision (zones : Zones) (db : Db) (now limit lease : Int) : Prop :=
  Set.InjOn EventBody.eventId
    {b | b ∈ db.events.map Event.body ++ tickBodies zones now lease limit.toNat (db.dueRows now) (db, [])}

/-- **A tick returns exactly when every schedule it would claim can move on.** The rows in question are
the first `limit` claimable ones of the window: each needs a next run, an expression one within the
search horizon, and the lease must end within the calendar. -/
theorem claimDue_returns {zones : Zones} {w₀ w : World} (hjobs : w₀.db.jobs = []) (hclaims : w₀.db.claims = [])
    (hevents : w₀.db.events = []) (hrun : Relation.ReflTransGen (Step F zones) w₀ w) {now limit lease : Int}
    (hclock : w.clock ≤ now) (hmin : Clock.minInstant ≤ now) (hlimit : 1 ≤ limit ∧ limit ≤ maxDuePerTick)
    (hlease : 1 ≤ lease ∧ lease ≤ maxClaimLeaseSeconds) (hids : NoClaimIdCollision w.db)
    (hevs : NoEventIdCollision zones w.db now limit lease) :
    (∃ r, claimDue zones w.db now limit lease = .ok r) ↔
      ∀ row ∈ ((w.db.dueRows now).filter fun r => w.db.Claimable r).take limit.toNat,
        row.Advances zones now ∧ now + lease * 1000000 ≤ Clock.maxInstant := by
  have hinv : Inv now w.db.jobs w.db.claims := by
    refine Inv.mono (run_inv hrun ?_) hclock
    rw [hjobs, hclaims]
    exact Inv.nil _
  have hsound : Sound zones w.db := by
    refine run_sound hrun ⟨?_, ?_⟩
    · rw [hjobs]
      simp
    · rw [hevents]
      rfl
  have hrows : DueRows now w.db (w.db.dueRows now) := dueRows_spec hinv.jobs_nodup
  obtain ⟨hfresh, hdistinct⟩ := dueRows_ids hinv hids
  have hloop := tickRows_returns limit.toNat hevs hmin (by omega) (w.db, []) hinv hsound hrows hfresh
    hdistinct (fun e he => List.mem_append_left _ (List.mem_map_of_mem he)) (fun b hb => List.mem_append_right _ hb)
  rw [List.length_nil, Nat.sub_zero] at hloop
  rw [← hloop]
  simp only [claimDue, bind_ok, require_ok]
  constructor
  · rintro ⟨r, _, -, _, -, h⟩
    exact ⟨r, h⟩
  · rintro ⟨r, h⟩
    exact ⟨r, ⟨⟩, hlimit, ⟨⟩, hlease, h⟩

theorem registerCron_eq {db : Db} {scheduleId taskId id : String}
    {now : Int} (hid : scheduleIdOf scheduleId = .ok id) (htask : taskIdOf taskId = .ok task)
    (hm : CronMatcher.parse expression = .ok m) (htz : timezone zones tzName = .ok tz)
    (hnext : nextCron zones m.expression tz now = .ok next) :
    registerCron zones db scheduleId taskId expression tzName now = register db id task .cron m.expression tz next now := by
  simp only [registerCron, hid, htask, hm, htz, hnext, bind, Except.bind]

theorem claimDue_stops {db : Db} {row : Job} {now limit lease : Int}
    (hlimit : 1 ≤ limit ∧ limit ≤ maxDuePerTick) (hlease : 1 ≤ lease ∧ lease ≤ maxClaimLeaseSeconds)
    (hrows : db.dueRows now = row :: rows) (hvisit : tickRow zones row now lease (db, []) = .error e) :
    claimDue zones db now limit lease = .error e := by
  have hmore : ¬ limit.toNat ≤ ([] : List Claim).length := by
    rw [List.length_nil]
    omega
  simp only [claimDue, require, if_pos hlimit, if_pos hlease, hrows, tickRows, if_neg hmore, hvisit, bind, Except.bind]

def gregorian : Zones where
  malformed _ := false
  known key := key == "UTC"
  localTime _ t :=
    { minute := (t / 60000000 % 60).toNat
      hour := (t / 3600000000 % 24).toNat
      day := (Clock.civil (t / 86400000000)).2.2.toNat
      month := (Clock.civil (t / 86400000000)).2.1.toNat
      weekday := ((t / 86400000000 + 3) % 7).toNat }

def leapDay : Int := 1835395200000000

/-- The schedule of midnight on every 29 February. -/
def leapJob : Job where
  scheduleId := "leap"
  taskId := "task-1"
  kind := .cron
  scheduleValue := "0 0 29 2 *"
  timezoneName := "UTC"
  contractSha256 := "sha256:" ++ String.ofList (List.replicate 64 '0')
  nextRunAt := leapDay
  enabled := true
  createdAt := leapDay - Clock.minute
  updatedAt := leapDay - Clock.minute
  lastError := none

def leapMatcher : CronMatcher :=
  { expression := "0 0 29 2 *", minutes := [0], hours := [0], days := [29], months := [2]
    weekdays := [0, 1, 2, 3, 4, 5, 6], dayAny := false, weekdayAny := true }

theorem parse_leap : CronMatcher.parse "0 0 29 2 *" = .ok leapMatcher := by
  decide +kernel

theorem no_leap_day_soon : ∀ i < 371, 0 < i →
    ¬ ((Clock.civil (21243 + (i : Nat))).2.2.toNat = 29 ∧ (Clock.civil (21243 + (i : Nat))).2.1.toNat = 2) := by
  decide +kernel

theorem leapMatcher_rests (k : Nat) (hk : k < maxCronSearchMinutes) :
    leapMatcher.isMatch (gregorian.localTime "UTC" (leapDay + minute + k * minute)) = false := by
  have hk' : k < 532800 := hk
  set t := leapDay + minute + k * minute with ht
  simp only [leapDay, minute] at ht
  have hday : t / 86400000000 = 21243 + ((k + 1) / 1440 : Nat) := by
    push_cast
    omega
  have hmin : t / 60000000 % 60 = ((k + 1) % 60 : Nat) := by
    push_cast
    omega
  have hhour : t / 3600000000 % 24 = ((k + 1) / 60 % 24 : Nat) := by
    push_cast
    omega
  rw [Bool.eq_false_iff]
  intro hmatch
  simp only [CronMatcher.isMatch, leapMatcher, gregorian, hday, hmin, hhour, Int.toNat_natCast, List.mem_singleton,
    Bool.and_eq_true, decide_eq_true_eq, Bool.false_and, Bool.false_eq_true, if_false, if_true] at hmatch
  obtain ⟨⟨⟨hm, hh⟩, hmonth⟩, hd⟩ := hmatch
  by_cases h0 : (k + 1) / 1440 = 0
  · omega
  · exact no_leap_day_soon _ (by omega) (by omega) ⟨hd, hmonth⟩

theorem timezone_utc : timezone gregorian "UTC" = .ok "UTC" := by decide

theorem nextCron_leap : nextCron gregorian "0 0 29 2 *" "UTC" (leapDay - minute) = .ok leapDay := by
  have hplus : Clock.plus dateOverflow (floorMinute (leapDay - minute)) minute = .ok leapDay := by
    decide
  have hmatch : leapMatcher.isMatch (gregorian.localTime "UTC" leapDay) = true := by decide
  rw [nextCron_eq parse_leap timezone_utc hplus]
  exact searchCron_match (by decide) hmatch

theorem nextCron_after_leap : nextCron gregorian "0 0 29 2 *" "UTC" leapDay =
    .error (fail "CRON_NEXT_RUN_OUTSIDE_SEARCH_HORIZON") := by
  have hplus : Clock.plus dateOverflow (floorMinute leapDay) minute = .ok (leapDay + minute) := by
    decide
  rw [nextCron_eq parse_leap timezone_utc hplus]
  refine searchCron_horizon leapMatcher_rests (by decide) ?_
  have hmax : maxCronSearchMinutes = 532800 := rfl
  rw [hmax]
  decide

theorem nextAfterRow_leap : nextAfterRow gregorian leapJob leapDay =
    .error (fail "CRON_NEXT_RUN_OUTSIDE_SEARCH_HORIZON") := by
  have hrow : nextAfterRow gregorian leapJob leapDay = nextCron gregorian "0 0 29 2 *" "UTC" leapDay := by
    simp only [nextAfterRow, leapJob]
  rw [hrow, nextCron_after_leap]

theorem register_leap : ∃ db,
    registerCron gregorian freshDb "leap" "task-1" "0 0 29 2 *" "UTC" (leapDay - minute) = .ok db ∧
    Relation.ReflTransGen (Step Unit gregorian) ⟨freshDb, leapDay - minute⟩ ⟨db, leapDay - minute⟩ ∧
    db.dueRows leapDay = [leapJob] ∧ db.jobs = [leapJob] ∧ db.claims = [] ∧ db.events.length = 1 ∧
    db.Claimable leapJob := by
  have hid : scheduleIdOf "leap" = .ok "leap" ∧ taskIdOf "task-1" = .ok "task-1" ∧
      timezone gregorian "UTC" = .ok "UTC" := by decide
  have hreg : registerCron gregorian freshDb "leap" "task-1" "0 0 29 2 *" "UTC" (leapDay - minute) = _ :=
    registerCron_eq hid.1 hid.2.1 parse_leap hid.2.2 nextCron_leap
  obtain ⟨db, hdb, hjobs, hclaims, hcontracts, hlen⟩ : ∃ db, register freshDb "leap" "task-1" .cron "0 0 29 2 *" "UTC"
      leapDay (leapDay - minute) = .ok db ∧ db.jobs = [leapJob] ∧ db.claims = [] ∧
      db.contracts = freshDb.contracts ∧ db.events.length = 1 :=
    ⟨_, rfl, rfl, rfl, rfl, rfl⟩
  have hdb := hreg.trans hdb
  have hstep : Step Unit gregorian ⟨freshDb, leapDay - minute⟩ ⟨db, leapDay - minute⟩ := by
    refine ⟨.registerCron "leap" "task-1" "0 0 29 2 *" "UTC", leapDay - minute, le_rfl, rfl, .inl ?_⟩
    rw [Op.exec]
    exact hdb
  refine ⟨db, hdb, .single hstep, ?_, hjobs, hclaims, hlen, ?_, ?_⟩
  · rw [Db.dueRows, hjobs]
    decide
  · rw [Db.hasUnresolvedClaim, hclaims]
    rfl
  · rw [Db.contractDigest, hcontracts]
    decide

/-- **A leap-day schedule stops every tick once it is due.** Its next run lies four years ahead, beyond
the minutes that are searched, and the exception rolls back the whole tick. -/
theorem leap_day_stops_tick : ∃ db,
    registerCron gregorian freshDb "leap" "task-1" "0 0 29 2 *" "UTC" (leapDay - Clock.minute) = .ok db ∧
    Relation.ReflTransGen (Step Unit gregorian) ⟨freshDb, leapDay - Clock.minute⟩ ⟨db, leapDay - Clock.minute⟩ ∧
    claimDue gregorian db leapDay 8 300 = .error (fail "CRON_NEXT_RUN_OUTSIDE_SEARCH_HORIZON") := by
  obtain ⟨db, hdb, hrun, hrows, -, -, -, hcl⟩ := register_leap
  have hvisit : tickRow gregorian leapJob leapDay 300 (db, []) = _ := tickRow_stops hcl nextAfterRow_leap
  exact ⟨db, hdb, hrun, claimDue_stops (by decide) (by decide) hrows hvisit⟩

/-- The same tick, read off the condition: the schedule is claimable and cannot move on. -/
theorem leap_day_cannot_move_on : ∃ db,
    registerCron gregorian freshDb "leap" "task-1" "0 0 29 2 *" "UTC" (leapDay - Clock.minute) = .ok db ∧
    ¬ ∃ r, claimDue gregorian db leapDay 8 300 = .ok r := by
  obtain ⟨db, hdb, hrun, hrows, hjobs, hclaims, hlen, hcl⟩ := register_leap
  refine ⟨db, hdb, ?_⟩
  obtain ⟨e, he⟩ := List.length_eq_one_iff.mp hlen
  have hids : NoClaimIdCollision db := by
    intro o ho o' ho' _
    simp only [Db.occurrences, hjobs, hclaims, List.map_nil, List.map_cons, List.nil_append, List.mem_singleton] at ho ho'
    rw [ho, ho']
  have hbodies : visitBodies gregorian leapJob leapDay 300 db = [] := by
    rw [visitBodies, visitEvent_stops hcl nextAfterRow_leap]
    rfl
  have hevs : NoEventIdCollision gregorian db leapDay 8 300 := by
    have hmore : ¬ (8 : Int).toNat ≤ ([] : List Claim).length := by decide
    have hvisit : tickRow gregorian leapJob leapDay 300 (db, []) = _ := tickRow_stops hcl nextAfterRow_leap
    rw [NoEventIdCollision, hrows, tickBodies, if_neg hmore, hbodies, hvisit, he]
    intro b hb b' hb' _
    have hone : ∀ a, a ∈ [e].map Event.body ++ ([] ++ []) → a = e.body := by simp
    rw [hone b hb, hone b' hb']
  have hjobs₀ : (World.mk freshDb (leapDay - Clock.minute)).db.jobs = [] := rfl
  have hclaims₀ : (World.mk freshDb (leapDay - Clock.minute)).db.claims = [] := rfl
  have hevents₀ : (World.mk freshDb (leapDay - Clock.minute)).db.events = [] := rfl
  have hclock : (World.mk db (leapDay - Clock.minute)).clock ≤ leapDay :=
    show leapDay - Clock.minute ≤ leapDay by decide
  have hiff := claimDue_returns hjobs₀ hclaims₀ hevents₀ hrun hclock (by decide) (by decide) (by decide) hids hevs
  intro hreturns
  have hmem : leapJob ∈ ((db.dueRows leapDay).filter fun r => db.Claimable r).take (8 : Int).toNat := by
    rw [hrows, List.filter_cons_of_pos (by simpa using hcl)]
    exact List.mem_cons_self
  have hreg : leapJob.Registered gregorian := ⟨leapMatcher, "UTC", parse_leap, by decide⟩
  have hdue : leapJob.nextRunAt ≤ leapDay := le_rfl
  obtain ⟨t, ht⟩ := (nextAfterRow_returns hreg hdue (by decide)).mpr (hiff.mp hreturns leapJob hmem).1
  rw [nextAfterRow_leap] at ht
  cases ht

end Runs

end ThreeAgent.PersistentScheduler

/-
One slot, one completed attempt. The lock of a slot is handed on when it is
old, while its owner may still be at work, and the owner writes its receipts
without looking at the lock again. So the law of the slot is proved for the
runs in which no receipt is committed after the lock is lost; there the
holder of the lock is the only one to write receipts of the slot, and what
it read before still holds.
-/
import ThreeAgent.HourlyRuns

namespace ThreeAgent

variable {now completed : Int} {slotKey uuid : String} {attempt : Nat} {b₁ : Bool}

namespace SecurityMonitoring

open PyText Outcome PyJson Interleaving MonitoringStore HourlyCall

variable {moment : HourlyMoment}

variable {b : Bool}

/-! ## Receipts -/

section Receipts

variable {F : Type} [PyTime] [PyPercent F]

variable {r r' : HourlyRunReceipt F}

namespace HourlyRunReceipt

theorem validate_ok : r.validate = .ok r' ↔
    compact r.runId "run_id" 128 = .ok r'.runId ∧ compact r.slotKey "slot_key" 160 = .ok r'.slotKey ∧ 1 ≤ r.attempt ∧
      isoTimestamp r.scheduledAt "scheduled_at" = .ok r'.scheduledAt ∧ sha256Re r.inventoryFingerprint = true ∧
      sha256Re r.policyFingerprint = true ∧ r.observedAssets ≤ r.expectedAssets ∧
      PyPercent.within r.coveragePct = true ∧
      r.failureCodes.mapM (fun v => compact v "failure_code" 96) = .ok r'.failureCodes ∧
      r' = { r with runId := r'.runId, slotKey := r'.slotKey, scheduledAt := r'.scheduledAt,
                    failureCodes := r'.failureCodes } := by
  simp only [validate, bind_ok, require_ok, pure_ok, exists_const]
  constructor
  · rintro ⟨runId, h1, slotKey, h2, h3, scheduledAt, h4, h5, h6, h7, h8, codes, h9, rfl⟩
    exact ⟨h1, h2, h3, h4, h5, h6, h7, h8, h9, rfl⟩
  · rintro ⟨h1, h2, h3, h4, h5, h6, h7, h8, h9, h10⟩
    exact ⟨_, h1, _, h2, h3, _, h4, h5, h6, h7, h8, _, h9, h10.symm⟩

theorem validate_validate (h : r.validate = .ok r') : r'.validate = .ok r' := by
  obtain ⟨h1, h2, h3, h4, h5, h6, h7, h8, h9, h10⟩ := validate_ok.mp h
  rw [validate_ok]
  refine ⟨compact_compact h1, compact_compact h2, ?_, isoTimestamp_isoTimestamp h4 _, ?_, ?_, ?_, ?_,
    mapM_mapM (fun _ _ hxy => compact_compact hxy) h9, rfl⟩
  all_goals
    rw [h10]
    assumption

theorem validate_attempt (h : r.validate = .ok r') :
    r'.attempt = r.attempt ∧ r'.completedAt = r.completedAt := by
  obtain ⟨-, -, -, -, -, -, -, -, -, h10⟩ := validate_ok.mp h
  rw [h10]
  exact ⟨rfl, rfl⟩

theorem validate_updated {r₀ : HourlyRunReceipt F} (h₀ : r₀.validate = .ok r₀)
    (h : (r₀.updated r).validate = .ok r') : r' = r₀.updated r' ∧ r'.completedAt = r.completedAt := by
  obtain ⟨h1, h2, -, h4, -⟩ := validate_ok.mp h₀
  obtain ⟨h1', h2', -, h4', -, -, -, -, -, h10⟩ := validate_ok.mp h
  have e1 : r₀.runId = r'.runId := Except.ok.inj (h1.symm.trans h1')
  have e2 : r₀.slotKey = r'.slotKey := Except.ok.inj (h2.symm.trans h2')
  have e4 : r₀.scheduledAt = r'.scheduledAt := Except.ok.inj (h4.symm.trans h4')
  rw [h10, ← e1, ← e2, ← e4]
  exact ⟨rfl, rfl⟩

end HourlyRunReceipt

theorem finalReceipt_ok {r₀ final : HourlyRunReceipt F} {assets : List HourlyAsset}
    {outcome : Except Raised (List WorkResult)} (h₀ : r₀.validate = .ok r₀)
    (h : finalReceipt r₀ assets now outcome = .ok final) :
    final.validate = .ok final ∧ final = r₀.updated final := by
  have hfinal : ∀ r : HourlyRunReceipt F, (r₀.updated r).validate = .ok final →
      final.validate = .ok final ∧ final = r₀.updated final := fun r hr =>
    ⟨HourlyRunReceipt.validate_validate hr, (HourlyRunReceipt.validate_updated h₀ hr).1⟩
  unfold finalReceipt at h
  split at h
  · exact hfinal { r₀ with completedAt := some now, status := .partial_, failureCodes := ["NO_APPROVED_ASSETS"] } h
  · simp only [bind_ok] at h
    obtain ⟨results, -, h⟩ := h
    exact hfinal
      { r₀ with
        completedAt := some now
        status := if (coveredAssets results).length = assets.length then .completed else .partial_
        observedAssets := (coveredAssets results).length
        coveragePct := PyPercent.share (coveredAssets results).length assets.length
        failureCodes := failureCodes assets results } h

end Receipts

/-! ## The slot -/

theorem strip_slotKey [TokyoHour] {profileId scheduledAt : String}
    (h : hourlySlotKey profileId scheduledAt = .ok slotKey) : strip slotKey = slotKey := by
  simp only [hourlySlotKey, bind_ok, pure_ok] at h
  obtain ⟨hour, hhour, rfl⟩ := h
  obtain ⟨hne, hspace⟩ := TokyoHour.hour_text _ _ hhour
  have hne' : hour.toList ≠ [] := by simpa using hne
  have hlist : ("hourly:" ++ profileId ++ ":" ++ hour).toList =
      'h' :: (("ourly:" ++ profileId ++ ":").toList ++ hour.toList) := by
    simp [String.toList_append]
  have hstrip : stripList isSpace ('h' :: (("ourly:" ++ profileId ++ ":").toList ++ hour.toList)) =
      'h' :: (("ourly:" ++ profileId ++ ":").toList ++ hour.toList) := by
    have hhead : isSpace 'h' = false := by decide
    refine stripList_eq_self (List.cons_ne_nil _ _) hhead ?_
    rw [List.getLast_cons (by simp), List.getLast_append_of_ne_nil _ hne']
    exact hspace _ (List.getLast_mem hne')
  rw [strip, hlist, hstrip, ← hlist, String.ofList_toList]

/-! ## The store -/

section Store

variable {F : Type} [PyTime] [PyPercent F]

/-- The run still has the lock it obtained. -/
def Holder (s : MonitoringStore F) (ctx : HourlyContext) : Prop :=
  ∃ l ∈ s.locks, l.slotKey = ctx.slotKey ∧ l.ownerId = ctx.ownerId

/-- The newest attempt of its slot. -/
def Newest (s : MonitoringStore F) (r : HourlyRunReceipt F) : Prop :=
  r ∈ s.runs ∧ ∀ r' ∈ s.runs, r'.slotKey = r.slotKey → r'.attempt ≤ r.attempt

/-- The tables: their keys, the rows as they were checked, and a completed attempt is the newest of its slot. -/
structure StoreOK (s : MonitoringStore F) : Prop where
  valid : ∀ r ∈ s.runs, r.validate = .ok r
  ids : ∀ r ∈ s.runs, ∀ r' ∈ s.runs, r.runId = r'.runId → r = r'
  attempts : ∀ r ∈ s.runs, ∀ r' ∈ s.runs, r.slotKey = r'.slotKey → r.attempt = r'.attempt → r = r'
  newest : ∀ r ∈ s.runs, r.completedAt ≠ none → Newest s r
  locks : ∀ l ∈ s.locks, ∀ l' ∈ s.locks, l.slotKey = l'.slotKey → l = l'

theorem StoreOK.empty : StoreOK ({} : MonitoringStore F) := by
  constructor <;> simp

variable {r : HourlyRunReceipt F} {s : MonitoringStore F}

theorem StoreOK.completed_unique (hs : StoreOK s) {r' : HourlyRunReceipt F} (hr : r ∈ s.runs)
    (hr' : r' ∈ s.runs) (hslot : r.slotKey = r'.slotKey) (hc : r.completedAt ≠ none) (hc' : r'.completedAt ≠ none) :
    r = r' := by
  have hle := (hs.newest r' hr' hc').2 r hr hslot
  have hge := (hs.newest r hr hc).2 r' hr' hslot.symm
  exact hs.attempts r hr r' hr' hslot (by omega)

omit [PyTime] [PyPercent F] in
theorem mem_runsOf :
    r ∈ s.runsOf slotKey ↔ r ∈ s.runs ∧ r.slotKey = slotKey := by
  simp [runsOf]

omit [PyTime] [PyPercent F] in
theorem le_nextAttempt (hr : r ∈ s.runs)
    (hslot : r.slotKey = slotKey) : r.attempt < s.nextAttempt slotKey := by
  have hle : ∀ (l : List Nat) (n : Nat), n ∈ l → n ≤ l.foldr max 0 := by
    intro l
    induction l with
    | nil => simp
    | cons m l ih =>
      intro n hn
      rw [List.foldr_cons]
      rcases List.mem_cons.mp hn with rfl | hn
      · exact Nat.le_max_left _ _
      · exact (ih n hn).trans (Nat.le_max_right _ _)
  have := hle _ _ (List.mem_map_of_mem (f := fun r : HourlyRunReceipt F => r.attempt) (mem_runsOf.mpr ⟨hr, hslot⟩))
  simp only [nextAttempt]
  omega

theorem StoreOK.latest_of_completed (hs : StoreOK s) (hr : r ∈ s.runs)
    (hc : r.completedAt ≠ none) : s.latestTerminalReceipt r.slotKey = .ok (some r) := by
  have hmem : r ∈ s.runsOf r.slotKey := mem_runsOf.mpr ⟨hr, rfl⟩
  have hnewest : s.newest? r.slotKey = some r := by
    cases hmax : s.newest? r.slotKey with
    | none =>
      rw [newest?, List.argmax_eq_none] at hmax
      rw [hmax] at hmem
      exact absurd hmem List.not_mem_nil
    | some r' =>
      have hr' := mem_runsOf.mp (List.argmax_mem hmax)
      have hle := List.le_of_mem_argmax hmem hmax
      have hge := (hs.newest r hr hc).2 r' hr'.1 hr'.2
      rw [hs.attempts r' hr'.1 r hr hr'.2 (by omega)]
  rw [latestTerminalReceipt, hnewest]
  simp only [if_neg hc, hs.valid r hr, Except.map]

theorem StoreOK.latest_cases (hs : StoreOK s) (slotKey : String) :
    (∃ r ∈ s.runs, r.slotKey = slotKey ∧ r.completedAt ≠ none ∧ s.latestTerminalReceipt slotKey = .ok (some r)) ∨
      (¬ s.Completed slotKey ∧ s.latestTerminalReceipt slotKey = .ok none) := by
  by_cases hcompleted : s.Completed slotKey
  · obtain ⟨r, hr, rfl, hc⟩ := hcompleted
    exact .inl ⟨r, hr, rfl, hc, hs.latest_of_completed hr hc⟩
  · refine .inr ⟨hcompleted, ?_⟩
    unfold latestTerminalReceipt
    cases hmax : s.newest? slotKey with
    | none => rfl
    | some row =>
      have hrow := mem_runsOf.mp (List.argmax_mem hmax)
      have hnone : row.completedAt = none := by
        by_contra hc
        exact hcompleted ⟨row, hrow.1, hrow.2, hc⟩
      simp only [if_pos hnone]

variable {s' : MonitoringStore F}

theorem StoreOK.put_starting (hs : StoreOK s)
    (hvalid : r.validate = .ok r) (hopen : r.completedAt = none) (hid : ∀ row ∈ s.runs, row.runId ≠ r.runId)
    (hnone : ¬ s.Completed r.slotKey) (habove : ∀ row ∈ s.runs, row.slotKey = r.slotKey → row.attempt < r.attempt)
    (h : s.putHourlyReceipt r = .ok s') :
    StoreOK s' ∧ s' = { s with runs := s.runs ++ [r] } ∧ Newest s' r ∧ ¬ s'.Completed r.slotKey := by
  have hfresh : ¬ ∃ row ∈ s.runs, row.runId = r.runId := by
    rintro ⟨row, hrow, heq⟩
    exact hid row hrow heq
  simp only [putHourlyReceipt, bind_ok] at h
  obtain ⟨r', hr', h⟩ := h
  obtain rfl : r = r' := Except.ok.inj (hvalid.symm.trans hr')
  rw [if_neg hfresh] at h
  simp only [bind_ok, require_ok, pure_ok, exists_const] at h
  obtain ⟨-, rfl⟩ := h
  have hmem : ∀ {row : HourlyRunReceipt F}, row ∈ s.runs ++ [r] → row ∈ s.runs ∨ row = r := by
    intro row hrow
    rcases List.mem_append.mp hrow with hrow | hrow
    · exact .inl hrow
    · exact .inr (List.mem_singleton.mp hrow)
  have hnewest : Newest { s with runs := s.runs ++ [r] } r := by
    refine ⟨List.mem_append_right _ (List.mem_singleton.mpr rfl), ?_⟩
    intro row hrow hslot
    rcases hmem hrow with hrow | rfl
    · exact (habove row hrow hslot).le
    · exact le_rfl
  refine ⟨⟨?_, ?_, ?_, ?_, hs.locks⟩, rfl, hnewest, ?_⟩
  · intro row hrow
    rcases hmem hrow with hrow | rfl
    · exact hs.valid row hrow
    · exact hvalid
  · intro row hrow row' hrow' heq
    rcases hmem hrow with hold | rfl
    · rcases hmem hrow' with hold' | rfl
      · exact hs.ids row hold row' hold' heq
      · exact absurd heq (hid row hold)
    · rcases hmem hrow' with hold' | rfl
      · exact absurd heq.symm (hid row' hold')
      · rfl
  · intro row hrow row' hrow' hslot heq
    rcases hmem hrow with hold | rfl
    · rcases hmem hrow' with hold' | rfl
      · exact hs.attempts row hold row' hold' hslot heq
      · have := habove row hold hslot
        omega
    · rcases hmem hrow' with hold' | rfl
      · have := habove row' hold' hslot.symm
        omega
      · rfl
  · intro row hrow hc
    rcases hmem hrow with hold | rfl
    · refine ⟨List.mem_append_left _ hold, ?_⟩
      intro row' hrow' hslot
      rcases hmem hrow' with hold' | rfl
      · exact (hs.newest row hold hc).2 row' hold' hslot
      · exact absurd ⟨row, hold, hslot.symm, hc⟩ hnone
    · exact absurd hopen hc
  · rintro ⟨row, hrow, hslot, hc⟩
    rcases hmem hrow with hrow | rfl
    · exact hnone ⟨row, hrow, hslot, hc⟩
    · exact hc hopen

theorem StoreOK.put_final (hs : StoreOK s) {r₀ : HourlyRunReceipt F}
    (hvalid : r.validate = .ok r) (hrow : r = r₀.updated r) (hnewest : Newest s r₀)
    (h : s.putHourlyReceipt r = .ok s') :
    StoreOK s' ∧ s'.locks = s.locks ∧ ∀ row, row ∈ s'.runs ↔ row = r ∨ (row ∈ s.runs ∧ row ≠ r₀) := by
  have hid : r.runId = r₀.runId := by rw [hrow]; rfl
  have hslot : r.slotKey = r₀.slotKey := by rw [hrow]; rfl
  have hattempt : r.attempt = r₀.attempt := by rw [hrow]; rfl
  have hpresent : ∃ row ∈ s.runs, row.runId = r.runId := ⟨r₀, hnewest.1, hid.symm⟩
  simp only [putHourlyReceipt, bind_ok] at h
  obtain ⟨r', hr', h⟩ := h
  obtain rfl : r = r' := Except.ok.inj (hvalid.symm.trans hr')
  rw [if_pos hpresent] at h
  simp only [pure_ok] at h
  -- the row with the run id is the starting receipt, and becomes the final one
  have hmem : ∀ row, row ∈ s'.runs ↔ row = r ∨ (row ∈ s.runs ∧ row ≠ r₀) := by
    intro row
    rw [← h, List.mem_map]
    constructor
    · rintro ⟨old, hold, rfl⟩
      by_cases heq : old.runId = r.runId
      · rw [if_pos heq]
        have hsame := hs.ids old hold r₀ hnewest.1 (heq.trans hid)
        rw [hsame]
        exact .inl hrow.symm
      · rw [if_neg heq]
        refine .inr ⟨hold, ?_⟩
        intro hsame
        rw [hsame] at heq
        exact heq hid.symm
    · rintro (rfl | ⟨hold, hne⟩)
      · exact ⟨r₀, hnewest.1, by rw [if_pos hid.symm]; exact hrow.symm⟩
      · refine ⟨row, hold, if_neg ?_⟩
        intro heq
        exact hne (hs.ids row hold r₀ hnewest.1 (heq.trans hid))
  -- every row stands for an old one with the same keys
  have hold : ∀ row ∈ s'.runs, ∃ old ∈ s.runs, old.slotKey = row.slotKey ∧ old.attempt = row.attempt ∧
      old.runId = row.runId ∧ (old = r₀ → row = r) ∧ (old ≠ r₀ → row = old) := by
    intro row hmem'
    rcases (hmem row).mp hmem' with rfl | ⟨hin, hne⟩
    · exact ⟨r₀, hnewest.1, hslot.symm, hattempt.symm, hid.symm, fun _ => rfl, fun h => absurd rfl h⟩
    · exact ⟨row, hin, rfl, rfl, rfl, fun h => absurd h hne, fun _ => rfl⟩
  have hsame : ∀ {row row' old old' : HourlyRunReceipt F}, (old = r₀ → row = r) → (old ≠ r₀ → row = old) →
      (old' = r₀ → row' = r) → (old' ≠ r₀ → row' = old') → old = old' → row = row' := by
    intro row row' old old' h1 h2 h1' h2' heq
    subst heq
    by_cases hr₀ : old = r₀
    · rw [h1 hr₀, h1' hr₀]
    · rw [h2 hr₀, h2' hr₀]
  refine ⟨⟨?_, ?_, ?_, ?_, ?_⟩, by rw [← h], hmem⟩
  · intro row hin
    rcases (hmem row).mp hin with rfl | ⟨hin, -⟩
    · exact hvalid
    · exact hs.valid row hin
  · intro row hin row' hin' heq
    obtain ⟨old, ho, -, -, hid₁, h1, h2⟩ := hold row hin
    obtain ⟨old', ho', -, -, hid₂, h1', h2'⟩ := hold row' hin'
    exact hsame h1 h2 h1' h2' (hs.ids old ho old' ho' (by rw [hid₁, hid₂, heq]))
  · intro row hin row' hin' hs₁ ha₁
    obtain ⟨old, ho, hslot₁, hatt₁, -, h1, h2⟩ := hold row hin
    obtain ⟨old', ho', hslot₂, hatt₂, -, h1', h2'⟩ := hold row' hin'
    exact hsame h1 h2 h1' h2' (hs.attempts old ho old' ho' (by rw [hslot₁, hslot₂, hs₁]) (by rw [hatt₁, hatt₂, ha₁]))
  · intro row hin hc
    refine ⟨hin, ?_⟩
    intro row' hin' hslot'
    obtain ⟨old', ho', hslot₂, hatt₂, -, -, -⟩ := hold row' hin'
    rcases (hmem row).mp hin with rfl | ⟨hin, -⟩
    · have := hnewest.2 old' ho' (by rw [hslot₂, hslot', hslot])
      omega
    · have := (hs.newest row hin hc).2 old' ho' (hslot₂.trans hslot')
      omega
  · rw [← h]
    exact hs.locks

omit [PyTime] [PyPercent F] in
theorem acquire_locks {ownerId : String}
    (hlocks : ∀ l ∈ s.locks, ∀ l' ∈ s.locks, l.slotKey = l'.slotKey → l = l')
    (h : s.acquire slotKey ownerId now = .ok s') :
    s'.runs = s.runs ∧ ∀ l ∈ s'.locks, l = ⟨slotKey, ownerId, now⟩ ∨ (l ∈ s.locks ∧ l.slotKey ≠ slotKey) := by
  simp only [acquire] at h
  cases hfind : s.locks.find? (·.slotKey = slotKey) with
  | none =>
    rw [hfind] at h
    simp only [Except.ok.injEq] at h
    rw [← h]
    refine ⟨rfl, ?_⟩
    intro l hl
    rcases List.mem_append.mp hl with hl | hl
    · have hne := List.find?_eq_none.mp hfind l hl
      exact .inr ⟨hl, by simpa using hne⟩
    · exact .inl (List.mem_singleton.mp hl)
  | some existing =>
    rw [hfind] at h
    simp only at h
    split at h
    · cases h
    · simp only [Except.ok.injEq] at h
      rw [← h]
      refine ⟨rfl, ?_⟩
      have hslot : existing.slotKey = slotKey := by simpa using List.find?_some hfind
      have hmem := List.mem_of_find?_eq_some hfind
      intro l hl
      rcases List.mem_append.mp hl with hl | hl
      · obtain ⟨hl, hne⟩ := List.mem_filter.mp hl
        refine .inr ⟨hl, ?_⟩
        intro heq
        exact (of_decide_eq_true hne) (hlocks l hl existing hmem (heq.trans hslot.symm))
      · exact .inl (List.mem_singleton.mp hl)

end Store

/-! ## Calls -/

section Calls

variable {F : Type} [PyTime] [PyPercent F] [TokyoHour]

def HourlyPhase.ctx? : HourlyPhase F → Option HourlyContext
  | .acquired ctx | .checked ctx | .starting ctx _ | .collecting ctx _ | .finishing ctx _ | .releasing ctx _ => some ctx
  | .ready | .done _ => none

/-- The owner id that a call has drawn, as long as it runs. -/
def HourlyCall.owner? (c : HourlyCall F) : Option String := c.phase.ctx?.map HourlyContext.ownerId

def HourlyCall.slot (c : HourlyCall F) : Except Raised String := hourlySlotKey c.request.profileId c.request.scheduledAt

/-- The receipt is that of the completed attempt of the call's slot. -/
def IsTerminal (s : MonitoringStore F) (c : HourlyCall F) (r : HourlyRunReceipt F) : Prop :=
  r ∈ s.runs ∧ r.completedAt ≠ none ∧ c.slot = .ok r.slotKey

/-- What a call knows of the store in each phase; what it read before counts while it has the lock. -/
def PhaseOK (s : MonitoringStore F) (c : HourlyCall F) : HourlyPhase F → Prop
  | .ready => c.late = false ∧ c.collected = false
  | .acquired ctx => c.collected = false ∧ (c.late = true → s.Completed ctx.slotKey)
  | .checked ctx => c.late = false ∧ (Holder s ctx → ¬ s.Completed ctx.slotKey)
  | .starting ctx r => c.late = false ∧ r.validate = .ok r ∧ r.slotKey = ctx.slotKey ∧ r.completedAt = none ∧
      (Holder s ctx → ¬ s.Completed ctx.slotKey ∧ ∀ row ∈ s.runs, row.slotKey = ctx.slotKey → row.attempt < r.attempt)
  | .collecting ctx r => c.late = false ∧ r.validate = .ok r ∧ r.slotKey = ctx.slotKey ∧
      (Holder s ctx → ¬ s.Completed ctx.slotKey ∧ Newest s r)
  | .finishing ctx r => c.late = false ∧ r.validate = .ok r ∧
      ∃ r₀, r = r₀.updated r ∧ r₀.slotKey = ctx.slotKey ∧ (Holder s ctx → ¬ s.Completed ctx.slotKey ∧ Newest s r₀)
  | .releasing _ result => c.late = true → ∃ r, IsTerminal s c r ∧ result = .ok r
  | .done result => c.late = true → ∃ r, IsTerminal s c r ∧ result = .ok r

/-- A call belongs to the slot it has the lock of, a late one has no collectors run, and its phase is right. -/
structure CallOK (s : MonitoringStore F) (c : HourlyCall F) : Prop where
  slot : ∀ ctx, c.phase.ctx? = some ctx → c.slot = .ok ctx.slotKey
  idle : c.late = true → c.collected = false
  phase : PhaseOK s c c.phase

variable {s : MonitoringStore F} {c : HourlyCall F}

/-- A step of another call keeps what a call knows: completed receipts stay, and while the call has the lock nobody
else writes receipts of its slot. -/
theorem CallOK.frame {s' : MonitoringStore F} (h : CallOK s c)
    (hkept : ∀ r ∈ s.runs, r.completedAt ≠ none → r ∈ s'.runs)
    (hheld : ∀ ctx, c.phase.ctx? = some ctx → Holder s' ctx →
      Holder s ctx ∧ ∀ r, r.slotKey = ctx.slotKey → (r ∈ s'.runs ↔ r ∈ s.runs)) : CallOK s' c := by
  obtain ⟨request, phase, late, collected⟩ := c
  obtain ⟨hslot, hidle, hphase⟩ := h
  refine ⟨hslot, hidle, ?_⟩
  have hterminal : ∀ r, IsTerminal s ⟨request, phase, late, collected⟩ r →
      IsTerminal s' ⟨request, phase, late, collected⟩ r := fun r hr => ⟨hkept r hr.1 hr.2.1, hr.2⟩
  have hcompleted : ∀ ctx, phase.ctx? = some ctx → Holder s' ctx → ¬ s.Completed ctx.slotKey →
      ¬ s'.Completed ctx.slotKey := by
    rintro ctx hctx hh hnot ⟨r, hr, hrslot, hc⟩
    exact hnot ⟨r, ((hheld ctx hctx hh).2 r hrslot).mp hr, hrslot, hc⟩
  have hnewest : ∀ ctx, phase.ctx? = some ctx → Holder s' ctx → ∀ r, r.slotKey = ctx.slotKey → Newest s r →
      Newest s' r := by
    intro ctx hctx hh r hrslot hr
    have hsame := (hheld ctx hctx hh).2
    refine ⟨(hsame r hrslot).mpr hr.1, ?_⟩
    intro r' hr' heq
    exact hr.2 r' ((hsame r' (heq.trans hrslot)).mp hr') heq
  cases phase with
  | ready => exact hphase
  | acquired ctx =>
    refine ⟨hphase.1, ?_⟩
    intro hlate
    obtain ⟨r, hr, hrslot, hc⟩ := hphase.2 hlate
    exact ⟨r, hkept r hr hc, hrslot, hc⟩
  | checked ctx => exact ⟨hphase.1, fun hh => hcompleted ctx rfl hh (hphase.2 (hheld ctx rfl hh).1)⟩
  | starting ctx r =>
    obtain ⟨hlate, hvalid, hrslot, hopen, hknown⟩ := hphase
    refine ⟨hlate, hvalid, hrslot, hopen, ?_⟩
    intro hh
    obtain ⟨hbefore, hsame⟩ := hheld ctx rfl hh
    refine ⟨hcompleted ctx rfl hh (hknown hbefore).1, ?_⟩
    intro row hrow hrowslot
    exact (hknown hbefore).2 row ((hsame row hrowslot).mp hrow) hrowslot
  | collecting ctx r =>
    obtain ⟨hlate, hvalid, hrslot, hknown⟩ := hphase
    refine ⟨hlate, hvalid, hrslot, ?_⟩
    intro hh
    have hbefore := hknown (hheld ctx rfl hh).1
    exact ⟨hcompleted ctx rfl hh hbefore.1, hnewest ctx rfl hh r hrslot hbefore.2⟩
  | finishing ctx r =>
    obtain ⟨hlate, hvalid, r₀, hrow, hrslot, hknown⟩ := hphase
    refine ⟨hlate, hvalid, r₀, hrow, hrslot, ?_⟩
    intro hh
    have hbefore := hknown (hheld ctx rfl hh).1
    exact ⟨hcompleted ctx rfl hh hbefore.1, hnewest ctx rfl hh r₀ hrslot hbefore.2⟩
  | releasing ctx result =>
    intro hlate
    obtain ⟨r, hr, hresult⟩ := hphase hlate
    exact ⟨r, hterminal r hr, hresult⟩
  | done result =>
    intro hlate
    obtain ⟨r, hr, hresult⟩ := hphase hlate
    exact ⟨r, hterminal r hr, hresult⟩

/-! ## The condition on a run -/

/-- The ids that a step draws are new: the owner id of a run, and the run id of an attempt. -/
def FreshAt (w : World (MonitoringStore F) (HourlyCall F)) (moment : HourlyMoment) : HourlyPhase F → Prop
  | .ready => ∀ c ∈ w.calls, c.owner? ≠ some ("owner-" ++ moment.uuid)
  | .starting _ r => ∀ row ∈ w.shared.runs, row.runId ≠ r.runId
  | _ => True

/-- A receipt is committed by a run that still has its lock. -/
def FencedAt (s : MonitoringStore F) : HourlyPhase F → Prop
  | .starting ctx _ | .finishing ctx _ => Holder s ctx
  | _ => True

def FreshIds (w : World (MonitoringStore F) (HourlyCall F)) (e : Event HourlyRequest HourlyMoment) : Prop :=
  ∀ i moment c, e = .move i moment → w.calls[i]? = some c → FreshAt w moment c.phase

def Fenced (w : World (MonitoringStore F) (HourlyCall F)) (e : Event HourlyRequest HourlyMoment) : Prop :=
  ∀ i moment c, e = .move i moment → w.calls[i]? = some c → FencedAt w.shared c.phase

/-! ## One step -/

structure Inv (w : World (MonitoringStore F) (HourlyCall F)) : Prop where
  holds : Program.Holds StoreOK CallOK w
  owners : Program.Distinct HourlyCall.owner? w

/-- What a step of the call at `i` has to establish. -/
structure Moved (w : World (MonitoringStore F) (HourlyCall F)) (i : Nat) (next : MonitoringStore F × HourlyCall F) :
    Prop where
  store : StoreOK next.1
  call : CallOK next.1 next.2
  kept : ∀ r ∈ w.shared.runs, r.completedAt ≠ none → r ∈ next.1.runs
  held : ∀ j c, j ≠ i → w.calls[j]? = some c → ∀ ctx, c.phase.ctx? = some ctx → Holder next.1 ctx →
    Holder w.shared ctx ∧ ∀ r, r.slotKey = ctx.slotKey → (r ∈ next.1.runs ↔ r ∈ w.shared.runs)

theorem Moved.quiet {w : World (MonitoringStore F) (HourlyCall F)} (h : Inv w) {i : Nat}
    (hc : CallOK w.shared c) : Moved w i (w.shared, c) :=
  ⟨h.holds.shared, hc, fun _ hr _ => hr, fun _ _ _ _ _ _ hh => ⟨hh, fun _ _ => Iff.rfl⟩⟩

variable {w : World (MonitoringStore F) (HourlyCall F)} {i : Nat} {request : HourlyRequest} {late collected : Bool}
  {ctx : HourlyContext} {receipt : HourlyRunReceipt F}

variable {result : Except Raised (HourlyRunReceipt F)}

theorem callOK_ends {phase : HourlyPhase F}
    (hlate : late = false) (hphase : phase = .releasing ctx result ∨ phase = .done result)
    (hslot : hourlySlotKey request.profileId request.scheduledAt = .ok ctx.slotKey) :
    CallOK s ⟨request, phase, late, collected⟩ := by
  subst hlate
  rcases hphase with rfl | rfl
  · refine ⟨?_, by simp, by simp [PhaseOK]⟩
    intro ctx' hctx
    cases hctx
    exact hslot
  · exact ⟨by simp [HourlyPhase.ctx?], by simp, by simp [PhaseOK]⟩

theorem moved_ready (h : Inv w) (hget : w.calls[i]? = some ⟨request, .ready, late, collected⟩) (moment : HourlyMoment)
    (hfresh : FreshAt w moment (.ready : HourlyPhase F)) :
    Moved w i (hourlyAct moment w.shared ⟨request, .ready, late, collected⟩) := by
  obtain ⟨-, -, hlate, hcollected⟩ := h.holds.calls _ (List.mem_of_getElem? hget)
  have hlate' : late = false := hlate
  have hcollected' : collected = false := hcollected
  subst hlate' hcollected'
  cases hlock : obtainLock moment w.shared request with
  | error e =>
    simp only [hourlyAct, hlock]
    exact .quiet h ⟨by simp [HourlyCall.to, HourlyPhase.ctx?], by simp [HourlyCall.to], by simp [HourlyCall.to, PhaseOK]⟩
  | ok result =>
    obtain ⟨s', ctx⟩ := result
    simp only [hourlyAct, hlock]
    simp only [obtainLock, bind_ok, pure_ok, Prod.mk.injEq] at hlock
    obtain ⟨slotKey, hslot, s₁, hacquire, rfl, rfl⟩ := hlock
    obtain ⟨hruns, hlocks⟩ := acquire_locks h.holds.shared.locks hacquire
    refine ⟨?_, ?_, ?_, ?_⟩
    · obtain ⟨hvalid, hids, hattempts, hnewest, hkeys⟩ := h.holds.shared
      refine ⟨by rwa [hruns], by rwa [hruns], by rwa [hruns], ?_, ?_⟩
      · intro r hr hc
        rw [hruns] at hr
        obtain ⟨hmem, hle⟩ := hnewest r hr hc
        exact ⟨by rwa [hruns], by rwa [hruns]⟩
      · intro l hl l' hl' heq
        rcases hlocks l hl with rfl | ⟨hl, hne⟩
        · rcases hlocks l' hl' with rfl | ⟨hl', hne'⟩
          · rfl
          · exact absurd heq.symm hne'
        · rcases hlocks l' hl' with rfl | ⟨hl', hne'⟩
          · exact absurd heq hne
          · exact hkeys l hl l' hl' heq
    · refine ⟨?_, by simp, ?_⟩
      · intro ctx' hctx
        cases hctx
        exact hslot
      · refine ⟨rfl, ?_⟩
        intro hlate
        obtain ⟨r, hr, hrslot, hc⟩ := of_decide_eq_true hlate
        exact ⟨r, by rwa [hruns], hrslot, hc⟩
    · intro r hr _
      show r ∈ s₁.runs
      rwa [hruns]
    · intro j c hne hc ctx' hctx hheld
      obtain ⟨l, hl, hlslot, hlowner⟩ := hheld
      rcases hlocks l hl with rfl | ⟨hl, -⟩
      · have hdrawn : c.owner? = some ("owner-" ++ moment.uuid) := by
          rw [owner?, hctx, Option.map_some, ← hlowner]
        exact absurd hdrawn (hfresh c (List.mem_of_getElem? hc))
      · refine ⟨⟨l, hl, hlslot, hlowner⟩, ?_⟩
        intro r _
        show r ∈ s₁.runs ↔ r ∈ w.shared.runs
        rw [hruns]

theorem moved_acquired (h : Inv w) (hget : w.calls[i]? = some ⟨request, .acquired ctx, late, collected⟩)
    (moment : HourlyMoment) : Moved w i (hourlyAct moment w.shared ⟨request, .acquired ctx, late, collected⟩) := by
  obtain ⟨hslot, -, hcollected, hphase⟩ := h.holds.calls _ (List.mem_of_getElem? hget)
  have hcollected' : collected = false := hcollected
  have hslot' : hourlySlotKey request.profileId request.scheduledAt = .ok ctx.slotKey := hslot ctx rfl
  have hlate : late = true → w.shared.Completed ctx.slotKey := hphase
  rcases h.holds.shared.latest_cases ctx.slotKey with ⟨r, hr, hrslot, hc, hlatest⟩ | ⟨hnone, hlatest⟩
  · simp only [hourlyAct, hlatest, HourlyCall.to]
    refine .quiet h ⟨?_, fun _ => hcollected', ?_⟩
    · intro ctx' hctx
      cases hctx
      exact hslot'
    · intro _
      exact ⟨r, ⟨hr, hc, hrslot ▸ hslot'⟩, rfl⟩
  · simp only [hourlyAct, hlatest, HourlyCall.to]
    have hnot : late = false := by
      cases late with
      | false => rfl
      | true => exact absurd (hlate rfl) hnone
    refine .quiet h ⟨?_, fun _ => hcollected', hnot, fun _ => hnone⟩
    intro ctx' hctx
    cases hctx
    exact hslot'

theorem moved_checked (h : Inv w) (hget : w.calls[i]? = some ⟨request, .checked ctx, late, collected⟩)
    (moment : HourlyMoment) : Moved w i (hourlyAct moment w.shared ⟨request, .checked ctx, late, collected⟩) := by
  obtain ⟨hslot, hidle, hlate, hknown⟩ := h.holds.calls _ (List.mem_of_getElem? hget)
  have hslot' : hourlySlotKey request.profileId request.scheduledAt = .ok ctx.slotKey := hslot ctx rfl
  cases hvalidate : (startingReceipt (F := F) request ctx (w.shared.nextAttempt ctx.slotKey)).validate with
  | error e =>
    simp only [hourlyAct, hvalidate, HourlyCall.to]
    exact .quiet h (callOK_ends hlate (.inl rfl) hslot')
  | ok r =>
    simp only [hourlyAct, hvalidate, HourlyCall.to]
    obtain ⟨hattempt, hcompleted⟩ := HourlyRunReceipt.validate_attempt hvalidate
    have hrslot : r.slotKey = ctx.slotKey := by
      obtain ⟨-, hcompact, -⟩ := HourlyRunReceipt.validate_ok.mp hvalidate
      obtain ⟨-, -, hstrip⟩ := compact_ok.mp hcompact
      exact hstrip.symm.trans (strip_slotKey hslot')
    refine .quiet h ⟨?_, hidle, hlate, HourlyRunReceipt.validate_validate hvalidate, hrslot, hcompleted, ?_⟩
    · intro ctx' hctx
      cases hctx
      exact hslot'
    · intro hheld
      refine ⟨hknown hheld, ?_⟩
      intro row hrow hrowslot
      rw [hattempt]
      exact le_nextAttempt hrow hrowslot

omit [PyTime] [PyPercent F] [TokyoHour] in
theorem slot_ne_of_holder (hlocks : ∀ l ∈ s.locks, ∀ l' ∈ s.locks, l.slotKey = l'.slotKey → l = l')
    (howners : Program.Distinct owner? w) {c' : HourlyCall F} {j : Nat} {ctx' : HourlyContext}
    (hget : w.calls[i]? = some c) (hget' : w.calls[j]? = some c') (hne : j ≠ i) (hctx : c.phase.ctx? = some ctx)
    (hctx' : c'.phase.ctx? = some ctx') (hheld : Holder s ctx) (hheld' : Holder s ctx') : ctx'.slotKey ≠ ctx.slotKey := by
  intro hslot
  obtain ⟨l, hl, hlslot, hlowner⟩ := hheld
  obtain ⟨l', hl', hlslot', hlowner'⟩ := hheld'
  have hsame := hlocks l hl l' hl' (by rw [hlslot, hlslot', hslot])
  have howner : c.owner? = some l.ownerId := by rw [owner?, hctx, Option.map_some, hlowner]
  have howner' : c'.owner? = some l.ownerId := by rw [owner?, hctx', Option.map_some, hsame, hlowner']
  exact hne (howners j i c' c l.ownerId hget' hget howner' howner)

theorem moved_starting (h : Inv w) (hget : w.calls[i]? = some ⟨request, .starting ctx receipt, late, collected⟩)
    (moment : HourlyMoment) (hfresh : FreshAt w moment (.starting ctx receipt))
    (hfenced : FencedAt w.shared (.starting ctx receipt)) :
    Moved w i (hourlyAct moment w.shared ⟨request, .starting ctx receipt, late, collected⟩) := by
  obtain ⟨hslot, hidle, hlate, hvalid, hrslot, hopen, hknown⟩ := h.holds.calls _ (List.mem_of_getElem? hget)
  have hslot' : hourlySlotKey request.profileId request.scheduledAt = .ok ctx.slotKey := hslot ctx rfl
  obtain ⟨hnone, habove⟩ := hknown hfenced
  rw [← hrslot] at hnone
  cases hput : w.shared.putHourlyReceipt receipt with
  | error e =>
    simp only [hourlyAct, hput, HourlyCall.to]
    exact .quiet h (callOK_ends hlate (.inl rfl) hslot')
  | ok s' =>
    simp only [hourlyAct, hput, HourlyCall.to]
    obtain ⟨hstore, hs', hnewest, hstill⟩ := h.holds.shared.put_starting hvalid hopen hfresh hnone
      (fun row hrow heq => habove row hrow (heq.trans hrslot)) hput
    rw [hrslot] at hstill
    refine ⟨hstore, ⟨?_, hidle, hlate, hvalid, hrslot, fun _ => ⟨hstill, hnewest⟩⟩, ?_, ?_⟩
    · intro ctx' hctx
      cases hctx
      exact hslot'
    · intro r hr _
      rw [hs']
      exact List.mem_append_left _ hr
    · intro j c hne hc ctx' hctx hheld
      have hheld' : Holder w.shared ctx' := by rwa [hs'] at hheld
      have hother := slot_ne_of_holder h.holds.shared.locks h.owners hget hc hne rfl hctx hfenced hheld'
      refine ⟨hheld', ?_⟩
      intro r hr
      rw [hs']
      constructor
      · intro hmem
        rcases List.mem_append.mp hmem with hmem | hmem
        · exact hmem
        · rw [List.mem_singleton.mp hmem, hrslot] at hr
          exact absurd hr.symm hother
      · exact fun hmem => List.mem_append_left _ hmem

theorem moved_collecting (h : Inv w) (hget : w.calls[i]? = some ⟨request, .collecting ctx receipt, late, collected⟩)
    (moment : HourlyMoment) :
    Moved w i (hourlyAct moment w.shared ⟨request, .collecting ctx receipt, late, collected⟩) := by
  obtain ⟨hslot, -, hlate, hvalid, hrslot, hknown⟩ := h.holds.calls _ (List.mem_of_getElem? hget)
  have hslot' : hourlySlotKey request.profileId request.scheduledAt = .ok ctx.slotKey := hslot ctx rfl
  have hlate' : late = false := hlate
  cases hfinal : finalReceipt receipt ctx.assets moment.now moment.outcome with
  | error e =>
    simp only [hourlyAct, hfinal]
    exact .quiet h (callOK_ends hlate' (.inl rfl) hslot')
  | ok final =>
    simp only [hourlyAct, hfinal]
    obtain ⟨hvalid', hrow⟩ := finalReceipt_ok hvalid hfinal
    subst hlate'
    refine .quiet h ⟨?_, by simp, rfl, hvalid', receipt, hrow, hrslot, hknown⟩
    intro ctx' hctx
    cases hctx
    exact hslot'

theorem moved_finishing (h : Inv w) (hget : w.calls[i]? = some ⟨request, .finishing ctx receipt, late, collected⟩)
    (moment : HourlyMoment) (hfenced : FencedAt w.shared (.finishing ctx receipt)) :
    Moved w i (hourlyAct moment w.shared ⟨request, .finishing ctx receipt, late, collected⟩) := by
  obtain ⟨hslot, -, hlate, hvalid, r₀, hrow, hrslot, hknown⟩ := h.holds.calls _ (List.mem_of_getElem? hget)
  have hslot' : hourlySlotKey request.profileId request.scheduledAt = .ok ctx.slotKey := hslot ctx rfl
  obtain ⟨hnone, hnewest⟩ := hknown hfenced
  cases hput : w.shared.putHourlyReceipt receipt with
  | error e =>
    simp only [hourlyAct, hput, HourlyCall.to]
    exact .quiet h (callOK_ends hlate (.inl rfl) hslot')
  | ok s' =>
    simp only [hourlyAct, hput, HourlyCall.to]
    obtain ⟨hstore, hlocks, hmem⟩ := h.holds.shared.put_final hvalid hrow hnewest hput
    refine ⟨hstore, callOK_ends hlate (.inl rfl) hslot', ?_, ?_⟩
    · intro r hr hc
      refine (hmem r).mpr (.inr ⟨hr, ?_⟩)
      rintro rfl
      exact hnone ⟨r, hr, hrslot, hc⟩
    · intro j c hne hcall ctx' hctx hheld
      have hheld' : Holder w.shared ctx' := by
        obtain ⟨l, hl, hl'⟩ := hheld
        exact ⟨l, hlocks ▸ hl, hl'⟩
      have hother := slot_ne_of_holder h.holds.shared.locks h.owners hget hcall hne rfl hctx hfenced hheld'
      refine ⟨hheld', ?_⟩
      intro r hr
      rw [hmem]
      constructor
      · rintro (rfl | ⟨hin, -⟩)
        · have hsame : r.slotKey = r₀.slotKey := by rw [hrow]; rfl
          exact absurd (hr.symm.trans (hsame.trans hrslot)) hother
        · exact hin
      · intro hin
        refine .inr ⟨hin, ?_⟩
        rintro rfl
        exact hother (hr.symm.trans hrslot)

theorem moved_releasing (h : Inv w)
    (hget : w.calls[i]? = some ⟨request, .releasing ctx result, late, collected⟩) (moment : HourlyMoment) :
    Moved w i (hourlyAct moment w.shared ⟨request, .releasing ctx result, late, collected⟩) := by
  obtain ⟨-, hidle, hphase⟩ := h.holds.calls _ (List.mem_of_getElem? hget)
  obtain ⟨hvalid, hids, hattempts, hnewest, hkeys⟩ := h.holds.shared
  refine ⟨⟨hvalid, hids, hattempts, hnewest, ?_⟩, ⟨by simp [HourlyPhase.ctx?, hourlyAct, HourlyCall.to], hidle, hphase⟩,
    fun r hr _ => hr, ?_⟩
  · intro l hl l' hl' heq
    exact hkeys l (List.mem_of_mem_filter hl) l' (List.mem_of_mem_filter hl') heq
  · intro j c _ _ ctx' _ hheld
    obtain ⟨l, hl, hl'⟩ := hheld
    exact ⟨⟨l, List.mem_of_mem_filter hl, hl'⟩, fun _ _ => Iff.rfl⟩

theorem hourlyAct_moved (h : Inv w) (hget : w.calls[i]? = some c) (moment : HourlyMoment)
    (hfresh : FreshAt w moment c.phase) (hfenced : FencedAt w.shared c.phase) :
    Moved w i (hourlyAct moment w.shared c) := by
  obtain ⟨request, phase, late, collected⟩ := c
  cases phase with
  | ready => exact moved_ready h hget moment hfresh
  | acquired ctx => exact moved_acquired h hget moment
  | checked ctx => exact moved_checked h hget moment
  | starting ctx receipt => exact moved_starting h hget moment hfresh hfenced
  | collecting ctx receipt => exact moved_collecting h hget moment
  | finishing ctx receipt => exact moved_finishing h hget moment hfenced
  | releasing ctx result => exact moved_releasing h hget moment
  | done result => exact .quiet h (h.holds.calls _ (List.mem_of_getElem? hget))

theorem owner?_hourlyAct {owner : String}
    (h : (hourlyAct moment s c).2.owner? = some owner) :
    c.owner? = some owner ∨ (c.phase = .ready ∧ owner = "owner-" ++ moment.uuid) := by
  obtain ⟨request, phase, late, collected⟩ := c
  cases phase with
  | ready =>
    refine .inr ⟨rfl, ?_⟩
    cases hlock : obtainLock moment s request with
    | error e => simp [hourlyAct, hlock, HourlyCall.owner?, HourlyCall.to, HourlyPhase.ctx?] at h
    | ok result =>
      obtain ⟨s', ctx⟩ := result
      simp only [hourlyAct, hlock, owner?, HourlyPhase.ctx?, Option.map_some, Option.some.injEq] at h
      simp only [obtainLock, bind_ok, pure_ok, Prod.mk.injEq] at hlock
      obtain ⟨slotKey, -, s₁, -, -, rfl⟩ := hlock
      exact h.symm
  | acquired ctx =>
    refine .inl ?_
    simp only [hourlyAct] at h
    split at h <;> exact h
  | checked ctx =>
    refine .inl ?_
    simp only [hourlyAct] at h
    split at h <;> exact h
  | starting ctx receipt =>
    refine .inl ?_
    simp only [hourlyAct] at h
    split at h <;> exact h
  | collecting ctx receipt =>
    refine .inl ?_
    simp only [hourlyAct] at h
    split at h <;> exact h
  | finishing ctx receipt =>
    refine .inl ?_
    simp only [hourlyAct] at h
    split at h <;> exact h
  | releasing ctx result => simp [hourlyAct, HourlyCall.owner?, HourlyCall.to, HourlyPhase.ctx?] at h
  | done result => exact .inl h

theorem Inv.after (h : Inv w) {e : Event HourlyRequest HourlyMoment} (hfresh : FreshIds w e) (hfenced : Fenced w e) :
    Inv (hourlyProgram.after w e) := by
  refine ⟨?_, ?_⟩
  · cases e with
    | start r =>
      exact h.holds.after_start r ⟨by simp [hourlyProgram, HourlyPhase.ctx?], by simp [hourlyProgram],
        by simp [hourlyProgram, PhaseOK]⟩
    | move i moment =>
      cases hget : w.calls[i]? with
      | none =>
        rw [Program.after_move_none hget]
        exact h.holds
      | some c =>
        have hmoved := hourlyAct_moved h hget moment (hfresh i moment c rfl hget) (hfenced i moment c rfl hget)
        refine Program.Holds.of_step hget hmoved.store hmoved.call ?_
        intro j c' hne hget'
        exact (h.holds.calls c' (List.mem_of_getElem? hget')).frame hmoved.kept (hmoved.held j c' hne hget')
  · have hinit : ∀ r, owner? ((hourlyProgram (F := F)).init r) = none := fun _ => rfl
    refine Program.Distinct.after (p := hourlyProgram) hinit h.owners ?_
    intro i moment c owner heq hget howner
    have hact : (hourlyAct moment w.shared c).2.owner? = some owner := howner
    rcases owner?_hourlyAct hact with hold | ⟨hready, rfl⟩
    · exact .inl hold
    · have := hfresh i moment c heq hget
      rw [hready] at this
      exact .inr this

def freshWorld : World (MonitoringStore F) (HourlyCall F) := ⟨{}, []⟩

theorem inv_freshWorld : Inv (freshWorld : World (MonitoringStore F) (HourlyCall F)) :=
  ⟨Program.Holds.init StoreOK.empty, Program.Distinct.init⟩

/-! ## Runs -/

/-- The call goes on to return the receipt: it is about to read it, or has it. -/
def Returns (s : MonitoringStore F) (c : HourlyCall F) (r : HourlyRunReceipt F) : Prop :=
  (∃ ctx, c.phase = .acquired ctx ∧ ∀ moment, (hourlyAct moment s c).2.phase = .releasing ctx (.ok r)) ∨
    (∃ ctx, c.phase = .releasing ctx (.ok r)) ∨ c.phase = .done (.ok r)

/-- The law of a slot: one attempt at most is completed, and every run that obtained the lock after that returns its
receipt and runs no collector. -/
structure SlotLaw (w : World (MonitoringStore F) (HourlyCall F)) : Prop where
  once : ∀ r ∈ w.shared.runs, ∀ r' ∈ w.shared.runs, r.slotKey = r'.slotKey → r.completedAt ≠ none →
    r'.completedAt ≠ none → r = r'
  replay : ∀ c ∈ w.calls, c.late = true → c.collected = false ∧ ∃ r, IsTerminal w.shared c r ∧ Returns w.shared c r

theorem Inv.slotLaw (h : Inv w) : SlotLaw w := by
  refine ⟨fun r hr r' hr' hslot hc hc' => h.holds.shared.completed_unique hr hr' hslot hc hc', ?_⟩
  intro c hc hlate
  obtain ⟨hslot, hidle, hphase⟩ := h.holds.calls c hc
  refine ⟨hidle hlate, ?_⟩
  obtain ⟨request, phase, late, collected⟩ := c
  have hlate' : late = true := hlate
  subst hlate'
  cases phase with
  | acquired ctx =>
    obtain ⟨r, hr, hrslot, hcompleted⟩ := hphase.2 rfl
    refine ⟨r, ⟨hr, hcompleted, hrslot ▸ hslot ctx rfl⟩, .inl ⟨ctx, rfl, ?_⟩⟩
    intro moment
    have hlatest := h.holds.shared.latest_of_completed hr hcompleted
    rw [hrslot] at hlatest
    simp only [hourlyAct, hlatest, HourlyCall.to]
  | releasing ctx result =>
    obtain ⟨r, hr, rfl⟩ := hphase rfl
    exact ⟨r, hr, .inr (.inl ⟨ctx, rfl⟩)⟩
  | done result =>
    obtain ⟨r, hr, rfl⟩ := hphase rfl
    exact ⟨r, hr, .inr (.inr rfl)⟩
  | ready => exact absurd hphase.1 (by simp)
  | checked ctx => exact absurd hphase.1 (by simp)
  | starting ctx receipt => exact absurd hphase.1 (by simp)
  | collecting ctx receipt => exact absurd hphase.1 (by simp)
  | finishing ctx receipt => exact absurd hphase.1 (by simp)

/-- In every interleaving in which no receipt is committed by a run that has lost its lock, the law of the slots holds
in every state. -/
theorem slotLaw_over_runs (events : List (Event HourlyRequest HourlyMoment))
    (hfresh : hourlyProgram.Each FreshIds (freshWorld : World (MonitoringStore F) (HourlyCall F)) events)
    (hfenced : hourlyProgram.Each Fenced (freshWorld : World (MonitoringStore F) (HourlyCall F)) events) :
    hourlyProgram.Always SlotLaw (freshWorld : World (MonitoringStore F) (HourlyCall F)) events :=
  (Program.always_of_each (I := Inv) (fun _ _ hw hq => hw.after hq.1 hq.2) inv_freshWorld
    (Program.each_and hfresh hfenced)).mono fun _ hw => hw.slotLaw

end Calls

/-! ## A run alone, and one that is overtaken -/

section Sample

local instance : PyTime := sampleTime

local instance : PyPercent Nat where
  zero := 0
  share a b := a * 100 / b
  within x := decide (x ≤ 100)

local instance : TokyoHour where
  hour _ := .ok "2026-01-01T09"
  hour_text := by
    intro scheduledAt h heq
    rw [← Except.ok.inj heq]
    exact ⟨by decide, forall_mem_of_all (by decide)⟩

theorem compact_runIdOf (slotKey : String) (attempt : Nat) (ownerId : String) :
    compact (runIdOf slotKey attempt ownerId) "run_id" 128 = .ok (runIdOf slotKey attempt ownerId) := by
  obtain ⟨hlength, hhex⟩ := digestPrefix_hashText
    (canonicalJson (.arr [.str slotKey, .int attempt, .str ownerId])) (n := 24) (by decide)
  have hlist : (runIdOf slotKey attempt ownerId).toList = 'r' :: 'u' :: 'n' :: '-' ::
      (digestPrefix (hashText (canonicalJson (.arr [.str slotKey, .int attempt, .str ownerId]))) 24).toList := by
    simp [runIdOf, sha256Fingerprint, String.toList_append]
  have hspace : ∀ c ∈ (runIdOf slotKey attempt ownerId).toList, isSpace c = false := by
    intro c hc
    rw [hlist] at hc
    simp only [List.mem_cons] at hc
    rcases hc with rfl | rfl | rfl | rfl | hc
    · decide
    · decide
    · decide
    · decide
    · exact not_isSpace_of_hexDigit (hhex c hc)
  have hstrip : strip (runIdOf slotKey attempt ownerId) = runIdOf slotKey attempt ownerId := strip_eq_self hspace
  rw [compact_ok, hstrip, hlist]
  refine ⟨⟨?_, ?_, ?_⟩, ?_, rfl⟩
  · intro hempty
    rw [hempty] at hlist
    simp at hlist
  · simp [hlength]
  · simp only [refRe, Bool.and_eq_true, List.all_eq_true, decide_eq_true_eq]
    refine ⟨⟨by decide, ?_⟩, by simp [hlength]⟩
    intro c hc
    simp only [List.mem_cons] at hc
    rcases hc with rfl | rfl | rfl | hc
    · decide
    · decide
    · decide
    · rw [isAsciiAlnum_of_hexDigit (hhex c hc)]
      rfl
  · rw [Bool.eq_false_iff]
    intro hurl
    have hsub := (contains_iff.mp hurl).subset (by decide : ':' ∈ "://".toList)
    rw [hlist] at hsub
    simp only [List.mem_cons] at hsub
    rcases hsub with h | h | h | h | h
    · cases h
    · cases h
    · cases h
    · cases h
    · exact absurd (hhex _ h) (by decide)

def sampleSlot : String := "hourly:site:2026-01-01T09"

def sampleRun : HourlyRequest := ⟨"site", sampleFingerprint, "2026-01-01T00:00:00Z"⟩

def sampleAssets : List HourlyAsset := [⟨"gw-1", sampleFingerprint⟩]

def sampleResults : List WorkResult := [⟨"gw-1", true, none, 1⟩]

def momentAt (now : Int) (uuid : String) : HourlyMoment := ⟨now, uuid, sampleAssets, .ok sampleResults⟩

/-- The context of a run that obtains the lock at a time. -/
def contextAt (now : Int) (uuid : String) : HourlyContext := ⟨sampleSlot, "owner-" ++ uuid, now, sampleAssets⟩

def started (now : Int) (uuid : String) (attempt : Nat) : HourlyRunReceipt Nat :=
  startingReceipt sampleRun (contextAt now uuid) attempt

def finished (now : Int) (uuid : String) (attempt : Nat) (completed : Int) : HourlyRunReceipt Nat :=
  { started now uuid attempt with
    completedAt := some completed, status := .completed, observedAssets := 1, coveragePct := 100 }

theorem started_valid (now : Int) (uuid : String) (h : 1 ≤ attempt) :
    (started now uuid attempt).validate = .ok (started now uuid attempt) := by
  rw [HourlyRunReceipt.validate_ok]
  refine ⟨compact_runIdOf _ _ _, ?_, h, ?_, sha256Re_hashText _, sha256Re_hashText _, Nat.zero_le _, rfl, rfl, rfl⟩
  · show compact sampleSlot "slot_key" 160 = .ok sampleSlot
    decide
  · show isoTimestamp "2026-01-01T00:00:00Z" "scheduled_at" = .ok "2026-01-01T00:00:00Z"
    decide

theorem finished_valid (now : Int) (uuid : String) (h : 1 ≤ attempt) (completed : Int) :
    (finished now uuid attempt completed).validate = .ok (finished now uuid attempt completed) := by
  obtain ⟨h1, h2, h3, h4, h5, h6, -⟩ := HourlyRunReceipt.validate_ok.mp (started_valid now uuid h)
  rw [HourlyRunReceipt.validate_ok]
  exact ⟨h1, h2, h3, h4, h5, h6, le_rfl, rfl, rfl, rfl⟩

theorem finalReceipt_sample (now : Int) (uuid : String) (h : 1 ≤ attempt) (completed : Int) :
    finalReceipt (started now uuid attempt) sampleAssets completed (.ok sampleResults) =
      .ok (finished now uuid attempt completed) := by
  have hcodes : failureCodes sampleAssets sampleResults = [] := by decide
  have hcovered : coveredAssets sampleResults = ["gw-1"] := by decide
  simp only [finalReceipt, if_neg (show sampleAssets ≠ [] by simp [sampleAssets]), bind, Except.bind, hcodes, hcovered]
  exact finished_valid now uuid h completed

/-- Two runs of the slot, neither late. -/
def twoRuns (s : MonitoringStore Nat) (p q : HourlyPhase Nat) (b b' : Bool) : World (MonitoringStore Nat) (HourlyCall Nat) :=
  ⟨s, [⟨sampleRun, p, false, b⟩, ⟨sampleRun, q, false, b'⟩]⟩

variable {s s' : MonitoringStore Nat}

theorem first_moves {c c' d : HourlyCall Nat} (h : hourlyAct moment s c = (s', c')) :
    hourlyProgram.after ⟨s, [c, d]⟩ (.move 0 moment) = ⟨s', [c', d]⟩ := by
  simp only [Program.after, hourlyProgram, List.getElem?_cons_zero, h, List.set_cons_zero]

theorem second_moves {c d d' : HourlyCall Nat} (h : hourlyAct moment s d = (s', d')) :
    hourlyProgram.after ⟨s, [c, d]⟩ (.move 1 moment) = ⟨s', [c, d']⟩ := by
  simp only [Program.after, hourlyProgram, List.getElem?_cons_succ, List.getElem?_cons_zero, h, List.set_cons_succ,
    List.set_cons_zero]

theorem twoRuns_first {p p' q : HourlyPhase Nat} {b' : Bool}
    (h : hourlyAct moment s ⟨sampleRun, p, false, b⟩ = (s', ⟨sampleRun, p', false, b₁⟩)) :
    hourlyProgram.after (twoRuns s p q b b') (.move 0 moment) = twoRuns s' p' q b₁ b' :=
  first_moves h

theorem twoRuns_second {p q q' : HourlyPhase Nat} {b' : Bool}
    (h : hourlyAct moment s ⟨sampleRun, q, false, b'⟩ = (s', ⟨sampleRun, q', false, b₁⟩)) :
    hourlyProgram.after (twoRuns s p q b b') (.move 1 moment) = twoRuns s' p q' b b₁ :=
  second_moves h

theorem act_obtains (h : s.acquire sampleSlot ("owner-" ++ uuid) now = .ok s') :
    hourlyAct (momentAt now uuid) s ⟨sampleRun, .ready, false, b⟩ =
      (s', ⟨sampleRun, .acquired (contextAt now uuid), decide (s.Completed sampleSlot), b⟩) := by
  have hslot : hourlySlotKey sampleRun.profileId sampleRun.scheduledAt = .ok sampleSlot := by decide
  have hlock : obtainLock (momentAt now uuid) s sampleRun = .ok (s', contextAt now uuid) := by
    simp only [obtainLock, bind_ok, pure_ok]
    exact ⟨sampleSlot, hslot, s', h, rfl⟩
  simp only [hourlyAct, hlock, contextAt]

theorem act_ready (h : s.acquire sampleSlot ("owner-" ++ uuid) now = .ok s') (hnone : ¬ s.Completed sampleSlot) :
    hourlyAct (momentAt now uuid) s ⟨sampleRun, .ready, false, b⟩ =
      (s', ⟨sampleRun, .acquired (contextAt now uuid), false, b⟩) := by
  rw [act_obtains h, decide_eq_false hnone]

theorem act_acquired (m : HourlyMoment) (h : s.latestTerminalReceipt sampleSlot = .ok none) :
    hourlyAct m s ⟨sampleRun, .acquired (contextAt now uuid), false, b⟩ =
      (s, ⟨sampleRun, .checked (contextAt now uuid), false, b⟩) := by
  have h' : s.latestTerminalReceipt (contextAt now uuid).slotKey = .ok none := h
  simp only [hourlyAct, h', HourlyCall.to]

theorem act_replays {previous : HourlyRunReceipt Nat} {late : Bool} (m : HourlyMoment)
    (h : s.latestTerminalReceipt sampleSlot = .ok (some previous)) :
    hourlyAct m s ⟨sampleRun, .acquired (contextAt now uuid), late, b⟩ =
      (s, ⟨sampleRun, .releasing (contextAt now uuid) (.ok previous), late, b⟩) := by
  have h' : s.latestTerminalReceipt (contextAt now uuid).slotKey = .ok (some previous) := h
  simp only [hourlyAct, h', HourlyCall.to]

theorem act_checked (m : HourlyMoment) (h : s.nextAttempt sampleSlot = attempt) (hpos : 1 ≤ attempt) :
    hourlyAct m s ⟨sampleRun, .checked (contextAt now uuid), false, b⟩ =
      (s, ⟨sampleRun, .starting (contextAt now uuid) (started now uuid attempt), false, b⟩) := by
  have hvalid := started_valid now uuid hpos
  rw [← h, started] at hvalid
  have h' : s.nextAttempt (contextAt now uuid).slotKey = s.nextAttempt sampleSlot := rfl
  simp only [hourlyAct, h', hvalid, HourlyCall.to]
  rw [h, started]

theorem act_starting (m : HourlyMoment) (h : s.putHourlyReceipt (started now uuid attempt) = .ok s') :
    hourlyAct m s ⟨sampleRun, .starting (contextAt now uuid) (started now uuid attempt), false, b⟩ =
      (s', ⟨sampleRun, .collecting (contextAt now uuid) (started now uuid attempt), false, b⟩) := by
  simp only [hourlyAct, h, HourlyCall.to]

theorem act_collecting {uuid' : String} (hpos : 1 ≤ attempt) :
    hourlyAct (momentAt completed uuid') s ⟨sampleRun, .collecting (contextAt now uuid) (started now uuid attempt), false, b⟩ =
      (s, ⟨sampleRun, .finishing (contextAt now uuid) (finished now uuid attempt completed), false, true⟩) := by
  have hfinal : finalReceipt (started now uuid attempt) (contextAt now uuid).assets (momentAt completed uuid').now
      (momentAt completed uuid').outcome = .ok (finished now uuid attempt completed) :=
    finalReceipt_sample now uuid hpos completed
  have hassets : (b || decide ((contextAt now uuid).assets ≠ [])) = true := by
    simp [contextAt, sampleAssets]
  simp only [hourlyAct, hfinal, hassets]

theorem act_finishing (m : HourlyMoment) (h : s.putHourlyReceipt (finished now uuid attempt completed) = .ok s') :
    hourlyAct m s ⟨sampleRun, .finishing (contextAt now uuid) (finished now uuid attempt completed), false, b⟩ =
      (s', ⟨sampleRun, .releasing (contextAt now uuid) (.ok (finished now uuid attempt completed)), false, b⟩) := by
  simp only [hourlyAct, h, HourlyCall.to]

theorem act_releasing {result : Except Raised (HourlyRunReceipt Nat)} {late : Bool} (m : HourlyMoment)
    (h : s.release sampleSlot ("owner-" ++ uuid) = s') :
    hourlyAct m s ⟨sampleRun, .releasing (contextAt now uuid) result, late, b⟩ =
      (s', ⟨sampleRun, .done result, late, b⟩) := by
  rw [← h]
  rfl

def overtime : Int := 1201000000

def lockOf (now : Int) (uuid : String) : HourlyRunLock := ⟨sampleSlot, "owner-" ++ uuid, now⟩

theorem acquire_first : ({} : MonitoringStore Nat).acquire sampleSlot ("owner-" ++ "a") 0 =
    .ok { runs := [], locks := [lockOf 0 "a"] } := rfl

theorem nextAttempt_first (locks : List HourlyRunLock) :
    ({ runs := [], locks := locks } : MonitoringStore Nat).nextAttempt sampleSlot = 1 := rfl

theorem runIds_ne : (started 0 "a" 1).runId ≠ (started overtime "b" 2).runId := by
  have hne : (Sha256.fastDigest (charBytes (text (.arr [.str sampleSlot, .int 1, .str "owner-a"] : Json Unit)))).take 24 ≠
      (Sha256.fastDigest (charBytes (text (.arr [.str sampleSlot, .int 2, .str "owner-b"] : Json Unit)))).take 24 := by
    decide
  have hlist : ∀ cs : List Char, (digestPrefix (hashText (String.ofList cs)) 24).toList =
      (Sha256.fastDigest (charBytes cs)).take 24 := by
    intro cs
    simp only [digestPrefix, hashText, String.toList_append, Sha256.hexdigest_ofList, String.toList_ofList]
    rfl
  intro heq
  apply hne
  rw [← hlist, ← hlist]
  have hids : ("run-" ++ digestPrefix (sha256Fingerprint (.arr [.str sampleSlot, .int 1, .str "owner-a"])) 24).toList =
      ("run-" ++ digestPrefix (sha256Fingerprint (.arr [.str sampleSlot, .int 2, .str "owner-b"])) 24).toList :=
    congrArg String.toList heq
  rw [String.toList_append, String.toList_append] at hids
  exact List.append_cancel_left hids

theorem put_first (locks : List HourlyRunLock) :
    ({ runs := [], locks := locks } : MonitoringStore Nat).putHourlyReceipt (started 0 "a" 1) =
      .ok { runs := [started 0 "a" 1], locks := locks } := by
  simp only [putHourlyReceipt, bind_ok]
  exact ⟨_, started_valid 0 "a" le_rfl, by simp [require, bind, Except.bind, pure, Except.pure]⟩

theorem put_second (locks : List HourlyRunLock) :
    ({ runs := [started 0 "a" 1], locks := locks } : MonitoringStore Nat).putHourlyReceipt (started overtime "b" 2) =
      .ok { runs := [started 0 "a" 1, started overtime "b" 2], locks := locks } := by
  have hnew : ¬ ∃ row ∈ [started 0 "a" 1], row.runId = (started overtime "b" 2).runId := by
    rintro ⟨row, hrow, heq⟩
    rw [List.mem_singleton.mp hrow] at heq
    exact runIds_ne heq
  simp only [putHourlyReceipt, bind_ok]
  refine ⟨_, started_valid overtime "b" (by decide), ?_⟩
  rw [if_neg hnew]
  simp only [bind_ok, require_ok, pure_ok, exists_const, List.singleton_append]
  refine ⟨?_, trivial⟩
  intro row hrow
  rw [List.mem_singleton.mp hrow]
  rintro ⟨-, hattempt⟩
  cases hattempt

theorem put_first_final (completed : Int) (locks : List HourlyRunLock) :
    ({ runs := [started 0 "a" 1, started overtime "b" 2], locks := locks } : MonitoringStore Nat).putHourlyReceipt
      (finished 0 "a" 1 completed) =
      .ok { runs := [finished 0 "a" 1 completed, started overtime "b" 2], locks := locks } := by
  have hid : (finished 0 "a" 1 completed).runId = (started 0 "a" 1).runId := rfl
  simp only [putHourlyReceipt, bind_ok]
  refine ⟨_, finished_valid 0 "a" le_rfl completed, ?_⟩
  rw [if_pos ⟨started 0 "a" 1, by simp, rfl⟩, List.map_cons, List.map_cons, List.map_nil, hid, if_pos rfl,
    if_neg runIds_ne.symm]
  rfl

theorem put_second_final (completed completed' : Int) (locks : List HourlyRunLock) :
    ({ runs := [finished 0 "a" 1 completed, started overtime "b" 2], locks := locks } : MonitoringStore Nat).putHourlyReceipt
      (finished overtime "b" 2 completed') =
      .ok { runs := [finished 0 "a" 1 completed, finished overtime "b" 2 completed'], locks := locks } := by
  have hid : (finished overtime "b" 2 completed').runId = (started overtime "b" 2).runId := rfl
  have hne : (finished 0 "a" 1 completed).runId ≠ (started overtime "b" 2).runId := runIds_ne
  simp only [putHourlyReceipt, bind_ok]
  refine ⟨_, finished_valid overtime "b" (by decide) completed', ?_⟩
  rw [if_pos ⟨started overtime "b" 2, by simp, rfl⟩, List.map_cons, List.map_cons, List.map_nil, hid, if_neg hne, if_pos rfl]
  rfl

/-- The first run collects for longer than a lock lasts; the second one takes the lock over. -/
def overtakenMoves : List (Event HourlyRequest HourlyMoment) :=
  [.move 0 (momentAt 0 "a"), .move 0 (momentAt 0 ""), .move 0 (momentAt 0 ""), .move 0 (momentAt 0 ""),
   .move 1 (momentAt overtime "b"), .move 1 (momentAt overtime ""), .move 1 (momentAt overtime ""),
   .move 1 (momentAt overtime ""), .move 0 (momentAt overtime ""), .move 0 (momentAt overtime ""),
   .move 1 (momentAt overtime ""), .move 1 (momentAt overtime "")]

def overtaken : List (Event HourlyRequest HourlyMoment) := .start sampleRun :: .start sampleRun :: overtakenMoves

theorem overtaken_runs : (hourlyProgram.run freshWorld overtaken).shared.runs =
    [finished 0 "a" 1 overtime, finished overtime "b" 2 overtime] := by
  have hopen : ∀ locks, ¬ ({ runs := [started 0 "a" 1], locks := locks } : MonitoringStore Nat).Completed sampleSlot := by
    rintro locks ⟨r, hr, -, hc⟩
    rw [List.mem_singleton.mp hr] at hc
    exact hc rfl
  have hlatest : ∀ locks, ({ runs := [started 0 "a" 1], locks := locks } : MonitoringStore Nat).latestTerminalReceipt
      sampleSlot = .ok none := by
    intro locks
    have hrow : ({ runs := [started 0 "a" 1], locks := locks } : MonitoringStore Nat).runsOf sampleSlot =
        [started 0 "a" 1] := by
      simp [runsOf, started, startingReceipt, contextAt]
    rw [latestTerminalReceipt, newest?, hrow, List.argmax_singleton]
    rfl
  have hnext : ∀ locks, ({ runs := [started 0 "a" 1], locks := locks } : MonitoringStore Nat).nextAttempt sampleSlot = 2 := by
    intro locks
    simp [nextAttempt, runsOf, started, startingReceipt, contextAt]
  have htake : ({ runs := [started 0 "a" 1], locks := [lockOf 0 "a"] } : MonitoringStore Nat).acquire sampleSlot "owner-b"
      overtime = .ok { runs := [started 0 "a" 1], locks := [lockOf overtime "b"] } := by
    simp [acquire, lockOf, overtime, hourlyLockStaleAfter]
  have hbegin : hourlyProgram.after (hourlyProgram.after freshWorld (.start sampleRun)) (.start sampleRun) =
      twoRuns {} .ready .ready false false := rfl
  rw [overtaken, Program.run, List.foldl_cons, List.foldl_cons, hbegin]
  simp only [overtakenMoves, List.foldl_cons, List.foldl_nil]
  rw [twoRuns_first (act_ready acquire_first (by simp [MonitoringStore.Completed])),
    twoRuns_first (act_acquired _ rfl), twoRuns_first (act_checked _ (nextAttempt_first _) le_rfl),
    twoRuns_first (act_starting _ (put_first _)), twoRuns_second (act_ready htake (hopen _)),
    twoRuns_second (act_acquired _ (hlatest _)), twoRuns_second (act_checked _ (hnext _) (by decide)),
    twoRuns_second (act_starting _ (put_second _)), twoRuns_first (act_collecting le_rfl),
    twoRuns_first (act_finishing _ (put_first_final _ _)), twoRuns_second (act_collecting (by decide)),
    twoRuns_second (act_finishing _ (put_second_final _ _ _))]
  rfl

/-- Two attempts of one slot are completed. -/
theorem slot_completed_twice : ¬ hourlyProgram.Always SlotLaw
    (freshWorld : World (MonitoringStore Nat) (HourlyCall Nat)) overtaken := by
  intro h
  have hsame := h.last.once (finished 0 "a" 1 overtime) (by rw [overtaken_runs]; simp)
    (finished overtime "b" 2 overtime) (by rw [overtaken_runs]; simp) rfl (by simp [finished]) (by simp [finished])
  have hattempt : (1 : Nat) = 2 := congrArg HourlyRunReceipt.attempt hsame
  cases hattempt

theorem put_final_alone (completed : Int) (locks : List HourlyRunLock) :
    ({ runs := [started 0 "a" 1], locks := locks } : MonitoringStore Nat).putHourlyReceipt (finished 0 "a" 1 completed) =
      .ok { runs := [finished 0 "a" 1 completed], locks := locks } := by
  have hid : (finished 0 "a" 1 completed).runId = (started 0 "a" 1).runId := rfl
  simp only [putHourlyReceipt, bind_ok]
  refine ⟨_, finished_valid 0 "a" le_rfl completed, ?_⟩
  rw [if_pos ⟨started 0 "a" 1, by simp, rfl⟩, List.map_cons, List.map_nil, hid, if_pos rfl]
  rfl

theorem latest_alone (completed : Int) (locks : List HourlyRunLock) :
    ({ runs := [finished 0 "a" 1 completed], locks := locks } : MonitoringStore Nat).latestTerminalReceipt sampleSlot =
      .ok (some (finished 0 "a" 1 completed)) := by
  have hrow : ({ runs := [finished 0 "a" 1 completed], locks := locks } : MonitoringStore Nat).runsOf sampleSlot =
      [finished 0 "a" 1 completed] := by
    simp [runsOf, finished, started, startingReceipt, contextAt]
  have hvalid := finished_valid 0 "a" le_rfl completed
  rw [latestTerminalReceipt, newest?, hrow, List.argmax_singleton]
  simp only [hvalid, Except.map]
  exact if_neg (by simp [finished])

/-- The first of two runs goes to its end, and then the second one obtains the lock. -/
def alone : List (Event HourlyRequest HourlyMoment) :=
  [.start sampleRun, .start sampleRun, .move 0 (momentAt 0 "a"), .move 0 (momentAt 0 ""), .move 0 (momentAt 0 ""),
   .move 0 (momentAt 0 ""), .move 0 (momentAt 1 ""), .move 0 (momentAt 1 ""), .move 0 (momentAt 1 ""),
   .move 1 (momentAt 2 "b"), .move 1 (momentAt 2 ""), .move 1 (momentAt 2 "")]

/-- Both have returned the receipt of the first; the second was late and has collected nothing. -/
def aloneEnd : World (MonitoringStore Nat) (HourlyCall Nat) :=
  ⟨{ runs := [finished 0 "a" 1 1], locks := [] },
    [⟨sampleRun, .done (.ok (finished 0 "a" 1 1)), false, true⟩, ⟨sampleRun, .done (.ok (finished 0 "a" 1 1)), true, false⟩]⟩

theorem each_alone {Q : World (MonitoringStore Nat) (HourlyCall Nat) → Event HourlyRequest HourlyMoment → Prop}
    (hstart : ∀ w r, Q w (.start r))
    (hmove : ∀ w i moment c, w.calls[i]? = some c → FreshAt w moment c.phase → FencedAt w.shared c.phase →
      Q w (.move i moment)) :
    hourlyProgram.Each Q freshWorld alone ∧ hourlyProgram.run freshWorld alone = aloneEnd := by
  have hstep : ∀ {w w' : World (MonitoringStore Nat) (HourlyCall Nat)} {i : Nat} {moment : HourlyMoment}
      {c : HourlyCall Nat} {events : List (Event HourlyRequest HourlyMoment)},
      hourlyProgram.after w (.move i moment) = w' → w.calls[i]? = some c → FreshAt w moment c.phase →
      FencedAt w.shared c.phase → hourlyProgram.Each Q w' events ∧ hourlyProgram.run w' events = aloneEnd →
      hourlyProgram.Each Q w (.move i moment :: events) ∧ hourlyProgram.run w (.move i moment :: events) = aloneEnd := by
    rintro w _ i moment c events rfl hget hfresh hfenced ⟨heach, hrun⟩
    exact ⟨⟨hmove w i moment c hget hfresh hfenced, heach⟩, hrun⟩
  have hheld : ∀ runs, Holder ({ runs := runs, locks := [lockOf 0 "a"] } : MonitoringStore Nat) (contextAt 0 "a") :=
    fun runs => ⟨lockOf 0 "a", by simp, rfl, rfl⟩
  have hbegin : ∀ {events}, hourlyProgram.Each Q (twoRuns {} .ready .ready false false) events ∧
      hourlyProgram.run (twoRuns {} .ready .ready false false) events = aloneEnd →
      hourlyProgram.Each Q freshWorld (.start sampleRun :: .start sampleRun :: events) ∧
        hourlyProgram.run freshWorld (.start sampleRun :: .start sampleRun :: events) = aloneEnd :=
    fun ⟨heach, hrun⟩ => ⟨⟨hstart _ _, hstart _ _, heach⟩, hrun⟩
  refine hbegin ?_
  refine hstep (twoRuns_first (act_ready acquire_first (by simp [MonitoringStore.Completed]))) rfl ?_ trivial ?_
  · intro c hc
    simp only [twoRuns, List.mem_cons, List.not_mem_nil, or_false] at hc
    rcases hc with rfl | rfl
    · simp [owner?, HourlyPhase.ctx?]
    · simp [owner?, HourlyPhase.ctx?]
  refine hstep (twoRuns_first (act_acquired _ rfl)) rfl trivial trivial ?_
  refine hstep (twoRuns_first (act_checked _ (nextAttempt_first _) le_rfl)) rfl trivial trivial ?_
  refine hstep (twoRuns_first (act_starting _ (put_first _))) rfl ?_ (hheld _) ?_
  · intro row hrow
    exact absurd hrow List.not_mem_nil
  refine hstep (twoRuns_first (act_collecting le_rfl)) rfl trivial trivial ?_
  refine hstep (twoRuns_first (act_finishing _ (put_final_alone _ _))) rfl trivial (hheld _) ?_
  have hfree : ({ runs := [finished 0 "a" 1 1], locks := [lockOf 0 "a"] } : MonitoringStore Nat).release sampleSlot
      ("owner-" ++ "a") = { runs := [finished 0 "a" 1 1], locks := [] } := by
    simp [release, lockOf]
  refine hstep (twoRuns_first (act_releasing _ hfree)) rfl trivial trivial ?_
  have hlock : ({ runs := [finished 0 "a" 1 1], locks := [] } : MonitoringStore Nat).acquire sampleSlot ("owner-" ++ "b") 2 =
      .ok { runs := [finished 0 "a" 1 1], locks := [lockOf 2 "b"] } := rfl
  have hlate : ({ runs := [finished 0 "a" 1 1], locks := [] } : MonitoringStore Nat).Completed sampleSlot :=
    ⟨finished 0 "a" 1 1, List.mem_singleton_self _, rfl, by simp [finished]⟩
  refine hstep (second_moves (act_obtains hlock)) rfl ?_ trivial ?_
  · intro c hc
    simp only [twoRuns, List.mem_cons, List.not_mem_nil, or_false] at hc
    rcases hc with rfl | rfl
    · simp [owner?, HourlyPhase.ctx?]
    · simp [owner?, HourlyPhase.ctx?]
  rw [decide_eq_true hlate]
  refine hstep (second_moves (act_replays _ (latest_alone _ _))) rfl trivial trivial ?_
  have hfree' : ({ runs := [finished 0 "a" 1 1], locks := [lockOf 2 "b"] } : MonitoringStore Nat).release sampleSlot
      ("owner-" ++ "b") = { runs := [finished 0 "a" 1 1], locks := [] } := by
    simp [release, lockOf]
  refine hstep (second_moves (act_releasing _ hfree')) rfl trivial trivial ?_
  exact ⟨trivial, rfl⟩

/-- The second run obtains the lock after the first one has completed the slot, and returns the receipt that is stored. -/
theorem slotLaw_of_alone : hourlyProgram.Each FreshIds (freshWorld : World (MonitoringStore Nat) (HourlyCall Nat)) alone ∧
    hourlyProgram.Each Fenced (freshWorld : World (MonitoringStore Nat) (HourlyCall Nat)) alone ∧
    hourlyProgram.run freshWorld alone = aloneEnd ∧
    hourlyProgram.Always SlotLaw (freshWorld : World (MonitoringStore Nat) (HourlyCall Nat)) alone := by
  obtain ⟨hfresh, hend⟩ := each_alone (Q := FreshIds) (fun _ _ _ _ _ heq => by cases heq) <| by
    intro w i moment c hget hfresh _ _ _ c' heq hget'
    cases heq
    obtain rfl := Option.some.inj (hget.symm.trans hget')
    exact hfresh
  obtain ⟨hfenced, -⟩ := each_alone (Q := Fenced) (fun _ _ _ _ _ heq => by cases heq) <| by
    intro w i moment c hget _ hfenced _ _ c' heq hget'
    cases heq
    obtain rfl := Option.some.inj (hget.symm.trans hget')
    exact hfenced
  exact ⟨hfresh, hfenced, hend, slotLaw_over_runs alone hfresh hfenced⟩

end Sample

end SecurityMonitoring

end ThreeAgent

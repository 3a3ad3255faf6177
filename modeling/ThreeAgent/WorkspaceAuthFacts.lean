/-
Sessions and lockouts when requests interleave. `login` and
`change_password` read the account in one block and write in another, and the
write does not look again at what it was checked against. What is promised of
them holds in every run in which nothing that matters has committed in
between; two runs show what happens otherwise.
-/
import ThreeAgent.WorkspaceAuth
import ThreeAgent.Lib.Chronicle
import ThreeAgent.Lib.Table

namespace ThreeAgent

variable {clientIp hash : String} {now i : Nat} {g : Nat × Nat}

namespace WorkspaceAuth

open PyText Outcome Interleaving Chronicle

variable {s : Store} {c : Call} {row : UserRow} {l' : Ledger} {kind : Commit → Bool} {entry : Commit}

variable {f : UserRow → UserRow} {seen : Nat} {history : List Commit} {userId : String}

/-! ## The tables -/

namespace Store

theorem byId_update (s : Store) (userId : String) (hf : ∀ r, (f r).userId = r.userId)
    (v : String) : (s.update userId f).byId v = if v = userId then (s.byId v).map f else s.byId v := by
  unfold byId update
  simp only
  induction s.users with
  | nil => simp
  | cons r rs ih =>
    have hkey : (if r.userId = userId then f r else r).userId = r.userId := by
      split
      · exact hf r
      · rfl
    rw [List.map_cons, List.find?_cons, List.find?_cons, hkey]
    by_cases hr : r.userId = v
    · simp only [hr, decide_true]
      by_cases hv : v = userId <;> simp [hv]
    · simp only [hr, decide_false]
      exact ih

theorem guard_update (s : Store) (userId : String) (hf : ∀ r, (f r).userId = r.userId)
    {v : String} (hv : v ≠ userId) : (s.update userId f).guard v = s.guard v := by
  rw [guard, byId_update s userId hf, if_neg hv, guard]

theorem mem_deleteSessions {p : SessionRow → Bool} {r : SessionRow} :
    r ∈ (s.deleteSessions p).sessions ↔ r ∈ s.sessions ∧ p r = false := by
  simp [deleteSessions]

theorem byId_of_mem (hnodup : (s.users.map UserRow.userId).Nodup) {r : UserRow} (hr : r ∈ s.users) :
    s.byId r.userId = some r := Table.find?_key _ hnodup hr

theorem ids_update (s : Store) (userId : String) (hf : ∀ r, (f r).userId = r.userId) :
    (s.update userId f).users.map UserRow.userId = s.users.map UserRow.userId := by
  unfold update
  rw [List.map_map]
  apply List.map_congr_left
  intro r _
  simp only [Function.comp]
  split
  · exact hf r
  · rfl

end Store

/-! ## What one block does -/

section Blocks

variable {derive : String → String → String}

/-- What a block of a call can do to the tables and the history. -/
inductive Effect (derive : String → String → String) (moment : Moment) (l : Ledger) (c : Call) : Ledger → Prop where
  /-- nothing but deleting sessions -/
  | quiet {l' : Ledger} (hist : l'.history = l.history) (users : l'.store.users = l.store.users)
      (sessions : l'.store.sessions ⊆ l.store.sessions) : Effect derive moment l c l'
  | failed {row : UserRow} {now seen : Nat} (phase : c.phase = .wrong row now seen) :
      Effect derive moment l c (loginFail moment row now seen l)
  | loggedIn {l' : Ledger} {row : UserRow} {now seen : Nat} (phase : c.phase = .right row now seen)
      (hist : l'.history = l.history ++
        [.loggedIn row.userId seen (sessionHash moment.token) (l.store.guard row.userId)])
      (users : l'.store.users = (l.store.update row.userId fun r =>
        { r with failedAttempts := 0, lockedUntil := 0, updatedAt := moment.stamp }).users)
      (sessions : ∀ s ∈ l'.store.sessions, (s ∈ l.store.sessions ∧ s.sessionHash ≠ sessionHash moment.token) ∨
        (s.userId = row.userId ∧ s.sessionHash = sessionHash moment.token)) : Effect derive moment l c l'
  | accepted {session : SessionRow} (mem : session ∈ l.store.sessions)
      (request : ∃ token ip, c.request = .userForSession token ip) :
      Effect derive moment l c { l with history := l.history ++ [.accepted session.userId session.sessionHash] }
  | changed {userId new : String} {seen : Nat} (phase : c.phase = .verified userId seen)
      (request : ∃ raw current, c.request = .changePassword raw current new) :
      Effect derive moment l c (changeWrite derive moment userId new seen l)
  | updated {l' : Ledger} {userId : String} {revoked : Bool}
      (hist : l'.history = l.history ++ [.updated userId revoked])
      (sessions : ∀ s ∈ l'.store.sessions, s ∈ l.store.sessions ∧ (revoked = true → s.userId ≠ userId))
      (request : ∃ raw u, c.request = .updateUser raw u) : Effect derive moment l c l'

variable {l : Ledger} {moment : Moment}

theorem Effect.refl : Effect derive moment l c l :=
  .quiet rfl rfl fun _ h => h

theorem loginSucceed_effect (phase : c.phase = .right row now seen) :
    Effect derive moment l c (loginSucceed moment clientIp row now seen l).1 := by
  unfold loginSucceed
  simp only
  split
  · exact .refl
  · rename_i hfree
    refine .loggedIn phase rfl rfl ?_
    intro s hs
    rcases List.mem_append.mp hs with hs | hs
    · have hne : s.sessionHash ≠ sessionHash moment.token := by
        intro heq
        apply hfree
        rw [List.any_eq_true]
        exact ⟨s, hs, by simp [heq]⟩
      exact .inl ⟨(Store.mem_deleteSessions.mp hs).1, hne⟩
    · rw [List.mem_singleton.mp hs]
      exact .inr ⟨rfl, rfl⟩

theorem userForSession_effect {token : String} (request : c.request = .userForSession token clientIp) :
    Effect derive moment l c (userForSession moment token clientIp l).1 := by
  unfold userForSession
  split
  · exact .refl
  · simp only
    cases hfind : l.store.sessions.find? fun s => s.sessionHash = sessionHash token with
    | none => exact .refl
    | some session =>
      simp only
      cases l.store.byId session.userId with
      | none => exact .refl
      | some row =>
        simp only
        split
        · exact .quiet rfl rfl fun s hs => (Store.mem_deleteSessions.mp hs).1
        · have hhash : session.sessionHash = sessionHash token := by simpa using List.find?_some hfind
          rw [← hhash]
          exact .accepted (List.mem_of_find?_eq_some hfind) ⟨token, clientIp, request⟩

theorem updateUser_effect {raw : String} {u : UserUpdate}
    {row : Option UserRow} (request : c.request = .updateUser raw u)
    (h : updateUser derive moment raw u l = .ok (l', row)) : Effect derive moment l c l' := by
  simp only [updateUser, bind_ok] at h
  obtain ⟨userId, -, role, -, _, -, h⟩ := h
  cases hrow : l.store.byId userId with
  | none =>
    rw [hrow] at h
    cases h
  | some current =>
    rw [hrow] at h
    simp only [bind_ok, require_ok, pure_ok, exists_const, Prod.mk.injEq] at h
    obtain ⟨-, rfl, -⟩ := h
    refine .updated rfl ?_ ⟨raw, u, request⟩
    intro s hs
    simp only at hs
    split at hs
    · rename_i hrevoked
      obtain ⟨hmem, hne⟩ := Store.mem_deleteSessions.mp hs
      exact ⟨hmem, fun _ => by simpa using hne⟩
    · rename_i hkept
      exact ⟨hs, fun hrevoked => absurd hrevoked hkept⟩

theorem act_effect (derive : String → String → String) (moment : Moment) (l : Ledger) (c : Call) :
    Effect derive moment l c (act derive moment l c).1 := by
  obtain ⟨request, phase⟩ := c
  cases phase with
  | ready =>
    cases request with
    | login username password ip => exact .refl
    | userForSession token ip => exact userForSession_effect rfl
    | logout token =>
      show Effect derive moment l _ (logout token l)
      unfold logout
      split
      · exact .refl
      · exact .quiet rfl rfl fun s hs => (Store.mem_deleteSessions.mp hs).1
    | changePassword userId current new =>
      simp only [act]
      cases changeRead derive userId current new l with
      | error e => exact .refl
      | ok phase => exact .refl
    | updateUser userId u =>
      simp only [act]
      cases h : updateUser derive moment userId u l with
      | error e => exact .refl
      | ok r => exact updateUser_effect rfl h
  | wrong row now seen =>
    cases request with
    | login username password ip => exact .failed rfl
    | _ => exact .refl
  | right row now seen =>
    cases request with
    | login username password ip => exact loginSucceed_effect rfl
    | _ => exact .refl
  | verified userId seen =>
    cases request with
    | changePassword raw current new => exact .changed rfl ⟨raw, current, rfl⟩
    | _ => exact .refl
  | done reply =>
    cases request <;> exact .refl

end Blocks

/-! ## An account for the examples -/

/-- Stands for `scrypt` in the examples. -/
def plainDerive (password salt : String) : String := salt ++ password

def sampleUser : UserRow :=
  { userId := "usr_0123456789abcdef", username := "anna", passwordSalt := "s", passwordHash := "sp" }

def sampleWorld : World Ledger Call := ⟨⟨⟨[sampleUser], []⟩, []⟩, []⟩

/-! ## Revocation -/

/-- The commit revokes the sessions of the user. -/
def revokes (userId : String) : Commit → Bool
  | .changedPassword v _ => decide (v = userId)
  | .updated v revoked => decide (v = userId) && revoked
  | _ => false

/-- The login of the session read its row after the first `seen` commits; a session without a login in
the history is older than all of them. -/
def ReadAt (history : List Commit) (userId hash : String) (seen : Nat) : Prop :=
  (∃ guard, .loggedIn userId seen hash guard ∈ history) ∨
    ((∀ seen' guard, .loggedIn userId seen' hash guard ∉ history) ∧ seen = 0)

/-- What revocation promises of a commit, given the commits before it: a session that is accepted goes
back to a read since which nothing was revoked, and so does a password that is replaced. -/
def Unrevoked (pre : List Commit) (c : Commit) : Prop :=
  match c with
  | .accepted userId hash => ∀ seen, ReadAt pre userId hash seen → ¬ Since (revokes userId) seen pre
  | .changedPassword userId seen => ¬ Since (revokes userId) seen pre
  | _ => True

section Revocation

variable {derive : String → String → String}

/-- No revoking commit of the user lies between the read of a `login` or a `change_password` and the
write that it is about to make. -/
def Prompt (w : World Ledger Call) (e : Event Request Moment) : Prop :=
  ∀ i moment c, e = .move i moment → w.calls[i]? = some c →
    (∀ row now seen, c.phase = .right row now seen → ¬ Since (revokes row.userId) seen w.shared.history) ∧
      ∀ userId seen, c.phase = .verified userId seen → ¬ Since (revokes userId) seen w.shared.history

/-- The token of a new session is fresh: no session was ever made with its hash. -/
def FreshToken (w : World Ledger Call) (e : Event Request Moment) : Prop :=
  ∀ i moment c, e = .move i moment → w.calls[i]? = some c → ∀ row now seen, c.phase = .right row now seen →
    ∀ userId seen' guard, .loggedIn userId seen' (sessionHash moment.token) guard ∉ w.shared.history

/-- Every stored session goes back to a read since which nothing of its user was revoked. -/
structure SessionsCurrent (l : Ledger) : Prop where
  current : ∀ s ∈ l.store.sessions, ∀ seen, ReadAt l.history s.userId s.sessionHash seen →
    ¬ Since (revokes s.userId) seen l.history
  unrevoked : Throughout Unrevoked l.history

theorem not_since_snoc {c : Commit}
    (h : ¬ Since kind seen history) (hc : kind c = false) : ¬ Since kind seen (history ++ [c]) := by
  intro hs
  rcases since_snoc hs with hs | hs
  · exact h hs
  · rw [hc] at hs
    cases hs

theorem ReadAt.of_snoc {c : Commit}
    (h : ReadAt (history ++ [c]) userId hash seen)
    (hc : ∀ seen guard, c ≠ .loggedIn userId seen hash guard) : ReadAt history userId hash seen := by
  rcases h with ⟨guard, hmem⟩ | ⟨hnone, hzero⟩
  · rcases List.mem_append.mp hmem with hmem | hmem
    · exact .inl ⟨guard, hmem⟩
    · exact absurd (List.mem_singleton.mp hmem).symm (hc seen guard)
  · exact .inr ⟨fun seen' guard hmem => hnone seen' guard (List.mem_append_left _ hmem), hzero⟩

theorem ReadAt.of_login {seen' : Nat} {guard : Nat × Nat}
    (h : ReadAt (history ++ [.loggedIn userId seen hash guard]) userId hash seen')
    (hfresh : ∀ seen guard, .loggedIn userId seen hash guard ∉ history) : seen' = seen := by
  rcases h with ⟨guard', hmem⟩ | ⟨hnone, -⟩
  · rcases List.mem_append.mp hmem with hmem | hmem
    · exact absurd hmem (hfresh _ _)
    · have heq := List.mem_singleton.mp hmem
      simp only [Commit.loggedIn.injEq] at heq
      exact heq.2.1
  · exact absurd (List.mem_append_right _ (List.mem_singleton.mpr rfl)) (hnone seen guard)

variable {l : Ledger}

theorem SessionsCurrent.snoc (h : SessionsCurrent l) {c : Commit}
    (hist : l'.history = l.history ++ [c]) (hgood : Unrevoked l.history c)
    (hlogin : ∀ userId seen hash guard, c ≠ .loggedIn userId seen hash guard)
    (sessions : ∀ s ∈ l'.store.sessions, s ∈ l.store.sessions ∧ revokes s.userId c = false) : SessionsCurrent l' := by
  refine ⟨?_, ?_⟩
  · intro s hs seen hread
    obtain ⟨hs', hrevoke⟩ := sessions s hs
    rw [hist] at hread ⊢
    have hbefore := hread.of_snoc fun seen guard => hlogin _ seen _ guard
    exact not_since_snoc (h.current s hs' seen hbefore) hrevoke
  · rw [hist]
    exact h.unrevoked.snoc hgood

variable {moment : Moment}

theorem SessionsCurrent.act (h : SessionsCurrent l) (heffect : Effect derive moment l c l')
    (hright : ∀ row now seen, c.phase = .right row now seen → ¬ Since (revokes row.userId) seen l.history)
    (hverified : ∀ userId seen, c.phase = .verified userId seen → ¬ Since (revokes userId) seen l.history)
    (hfresh : ∀ row now seen, c.phase = .right row now seen →
      ∀ userId seen' guard, .loggedIn userId seen' (sessionHash moment.token) guard ∉ l.history) :
    SessionsCurrent l' := by
  cases heffect with
  | quiet hist users sessions =>
    refine ⟨?_, hist ▸ h.unrevoked⟩
    intro s hs
    rw [hist]
    exact h.current s (sessions hs)
  | failed phase =>
    exact h.snoc rfl trivial (by simp) fun s hs => ⟨hs, rfl⟩
  | @loggedIn _ row now seen phase hist users sessions =>
    refine ⟨?_, ?_⟩
    · intro s hs seen' hread
      rw [hist] at hread ⊢
      refine not_since_snoc ?_ rfl
      rcases sessions s hs with ⟨hold, hne⟩ | ⟨huser, hhash⟩
      · refine h.current s hold seen' (hread.of_snoc ?_)
        intro seen'' guard heq
        simp only [Commit.loggedIn.injEq] at heq
        exact hne heq.2.2.1.symm
      · -- the new session: its hash is fresh, so the entry is its own
        rw [huser, hhash] at hread
        rw [hread.of_login fun seen guard => hfresh row now _ phase _ seen guard, huser]
        exact hright row now seen phase
    · rw [hist]
      exact h.unrevoked.snoc trivial
  | accepted mem _ =>
    refine h.snoc rfl ?_ (by simp) fun s hs => ⟨hs, rfl⟩
    intro seen hread
    exact h.current _ mem seen hread
  | @changed userId new seen phase _ =>
    refine h.snoc rfl (hverified userId seen phase) (by simp) ?_
    intro s hs
    obtain ⟨hmem, hne⟩ := Store.mem_deleteSessions.mp hs
    refine ⟨hmem, ?_⟩
    simp only [decide_eq_false_iff_not] at hne
    simp only [revokes, decide_eq_false_iff_not]
    exact fun heq => hne heq.symm
  | @updated _ userId revoked hist sessions _ =>
    refine h.snoc hist trivial (by simp) ?_
    intro s hs
    obtain ⟨hmem, hne⟩ := sessions s hs
    refine ⟨hmem, ?_⟩
    simp only [revokes, Bool.and_eq_false_iff, decide_eq_false_iff_not]
    cases revoked with
    | false => exact .inr rfl
    | true => exact .inl fun heq => hne rfl heq.symm

/-- In every run whose tokens are fresh and in which no revoking commit falls between the read and the
write of a `login` or a `change_password` of the same user: a session that is accepted, and a password
that is replaced, go back to a read since which nothing of the user was revoked. -/
theorem revocation_over_runs (derive : String → String → String) (store : Store)
    (events : List (Event Request Moment))
    (hfresh : (program derive).Each FreshToken ⟨⟨store, []⟩, []⟩ events)
    (hprompt : (program derive).Each Prompt ⟨⟨store, []⟩, []⟩ events) :
    (program derive).Always (fun w => Throughout Unrevoked w.shared.history) ⟨⟨store, []⟩, []⟩ events := by
  have hstep : ∀ w e, SessionsCurrent w.shared → (FreshToken w e ∧ Prompt w e) →
      SessionsCurrent ((program derive).after w e).shared := by
    intro w e hw he
    rcases (program derive).after_cases w e with ⟨b, -, hafter⟩ | ⟨i, moment, c, rfl, hget, hafter⟩ | ⟨i, moment, -, -, hafter⟩
    · rw [hafter]
      exact hw
    · rw [hafter]
      obtain ⟨hright, hverified⟩ := he.2 i moment c rfl hget
      exact hw.act (act_effect derive moment w.shared c) hright hverified (he.1 i moment c rfl hget)
    · rw [hafter]
      exact hw
  have hboth := Program.each_and hfresh hprompt
  have hinit : SessionsCurrent ⟨store, []⟩ := ⟨fun s _ seen _ => by simp [Since], .nil⟩
  exact (Program.always_of_each (I := fun w => SessionsCurrent w.shared) hstep hinit hboth).mono
    fun w hw => hw.unrevoked

variable {w : World Ledger Call} {e : Event Request Moment}

/-- What `Prompt` asks of the phase of the call that moves. -/
def Phase.Prompt (history : List Commit) : Phase → Prop
  | .right row _ seen => ¬ Since (revokes row.userId) seen history
  | .verified userId seen => ¬ Since (revokes userId) seen history
  | _ => True

instance (history : List Commit) : ∀ phase : Phase, Decidable (phase.Prompt history)
  | .right row _ seen => inferInstanceAs (Decidable (¬ Since (revokes row.userId) seen history))
  | .verified userId seen => inferInstanceAs (Decidable (¬ Since (revokes userId) seen history))
  | .ready | .wrong _ _ _ | .done _ => inferInstanceAs (Decidable True)

theorem prompt_iff : Prompt w e ↔ e.OnCall (fun _ _ c => c.phase.Prompt w.shared.history) w.calls := by
  rw [Event.onCall_iff]
  refine forall₃_congr fun i moment c => imp_congr_right fun _ => imp_congr_right fun _ => ?_
  cases c.phase <;> simp [Phase.Prompt]

instance : Decidable (Prompt w e) := decidable_of_iff _ prompt_iff.symm

/-- The commit is no login with this session. -/
def otherSession (hash : String) : Commit → Bool
  | .loggedIn _ _ h _ => decide (h ≠ hash)
  | _ => true

/-- What `FreshToken` asks of the phase of the call that moves. -/
def Phase.FreshToken (token : String) (history : List Commit) : Phase → Prop
  | .right _ _ _ => history.all (otherSession (sessionHash token)) = true
  | _ => True

instance (token : String) (history : List Commit) : ∀ phase : Phase, Decidable (phase.FreshToken token history)
  | .right _ _ _ => inferInstanceAs (Decidable (history.all (otherSession (sessionHash token)) = true))
  | .ready | .wrong _ _ _ | .verified _ _ | .done _ => inferInstanceAs (Decidable True)

theorem otherSession_all : history.all (otherSession hash) = true ↔
    ∀ userId seen guard, .loggedIn userId seen hash guard ∉ history := by
  rw [List.all_eq_true]
  constructor
  · intro h userId seen guard hmem
    simpa [otherSession] using h _ hmem
  · intro h c hc
    cases c with
    | loggedIn userId seen hash' guard =>
      refine decide_eq_true fun heq => ?_
      subst heq
      exact h userId seen guard hc
    | _ => rfl

theorem freshToken_iff :
    FreshToken w e ↔ e.OnCall (fun _ moment c => c.phase.FreshToken moment.token w.shared.history) w.calls := by
  rw [Event.onCall_iff]
  refine forall₃_congr fun i moment c => imp_congr_right fun _ => imp_congr_right fun _ => ?_
  cases c.phase with
  | right row now seen =>
    constructor
    · exact fun h => otherSession_all.mpr (h row now seen rfl)
    · exact fun h _ _ _ _ => otherSession_all.mp h
  | _ => simp [Phase.FreshToken]

instance : Decidable (FreshToken w e) := decidable_of_iff _ freshToken_iff.symm

/-- A login, a change of the password, and a login with the new one; the first session is checked before the change and
after it, the second one at the end. -/
def relogin : List (Event Request Moment) :=
  [.start (.login "anna" "p" "10.0.0.1"), .start (.userForSession "token" "10.0.0.1"),
   .start (.changePassword sampleUser.userId "p" "0123456789abcdef"), .start (.userForSession "token" "10.0.0.1"),
   .start (.login "anna" "0123456789abcdef" "10.0.0.1"), .start (.userForSession "renewed" "10.0.0.1"),
   .move 0 ⟨1, "", "", ""⟩, .move 0 ⟨2, "token", "", ""⟩, .move 1 ⟨3, "", "", ""⟩, .move 2 ⟨4, "", "", ""⟩,
   .move 2 ⟨5, "", "t", ""⟩, .move 3 ⟨6, "", "", ""⟩, .move 4 ⟨7, "", "", ""⟩, .move 4 ⟨8, "renewed", "", ""⟩,
   .move 5 ⟨9, "", "", ""⟩]

/-- The password is replaced and both sessions are accepted, the first one before the change only. -/
theorem revocation_over_relogin :
    (program plainDerive).Always (fun w => Throughout Unrevoked w.shared.history) sampleWorld relogin ∧
      ((program plainDerive).run sampleWorld relogin).shared.history =
        [.loggedIn sampleUser.userId 0 (sessionHash "token") (0, 0), .accepted sampleUser.userId (sessionHash "token"),
          .changedPassword sampleUser.userId 2, .loggedIn sampleUser.userId 3 (sessionHash "renewed") (0, 0),
          .accepted sampleUser.userId (sessionHash "renewed")] :=
  ⟨revocation_over_runs plainDerive _ relogin (by decide +kernel) (by decide +kernel), by decide +kernel⟩

/-- A login checks the old password, the password is changed, and the login makes its session. -/
def changeDuringLogin : List (Event Request Moment) :=
  [.start (.login "anna" "p" "10.0.0.1"), .start (.changePassword sampleUser.userId "p" "0123456789abcdef"),
   .start (.userForSession "token" "10.0.0.1"), .move 0 ⟨1, "", "", ""⟩, .move 1 ⟨2, "", "", ""⟩,
   .move 1 ⟨3, "", "t", ""⟩, .move 0 ⟨4, "token", "", ""⟩, .move 2 ⟨5, "", "", ""⟩]

theorem changeDuringLogin_history : ((program plainDerive).run sampleWorld changeDuringLogin).shared.history =
    [.changedPassword sampleUser.userId 0, .loggedIn sampleUser.userId 0 (sessionHash "token") (0, 0)] ++
      [.accepted sampleUser.userId (sessionHash "token")] := by
  decide +kernel

/-- The session of the login is accepted after the password was changed. -/
theorem revoked_session_accepted : (program plainDerive).Each FreshToken sampleWorld changeDuringLogin ∧
    ¬ (program plainDerive).Always (fun w => Throughout Unrevoked w.shared.history) sampleWorld changeDuringLogin := by
  refine ⟨by decide +kernel, ?_⟩
  intro h
  have hgood := h.last _ _ _ changeDuringLogin_history
  apply hgood 0 (.inl ⟨(0, 0), by simp⟩)
  exact ⟨.changedPassword sampleUser.userId 0, by simp, by simp [revokes]⟩

end Revocation

/-! ## Lockout -/

def touches (userId : String) : Commit → Bool
  | .failed v _ _ _ | .loggedIn v _ _ _ | .changedPassword v _ | .updated v _ => decide (v = userId)
  | .accepted _ _ => false

def locks (userId : String) : Commit → Bool
  | .failed v _ _ after => decide (v = userId ∧ after.2 ≠ 0)
  | _ => false

/-- The failed checks of the account after a further commit; one that sets the counter to zero resets it. -/
def failuresAfter (userId : String) (n : Nat) : Commit → Nat
  | .failed v _ _ after => if v = userId then (if after.1 = 0 then 0 else n + 1) else n
  | .loggedIn v _ _ _ => if v = userId then 0 else n
  | _ => n

/-- The failed checks of the account since the last commit that reset its counter. -/
def failuresSinceReset (userId : String) (history : List Commit) : Nat := history.foldl (failuresAfter userId) 0

/-- What the lockout promises of a commit of the account, given the commits before it: a failed check is
counted or locks the account, there are never more of them without a reset than the limit and the last
one locks, and a login that read the row before a lock was set does not shorten or clear the lock. -/
def LockoutExact (userId : String) (pre : List Commit) (c : Commit) : Prop :=
  match c with
  | .failed v seen before after => v = userId →
      (after.1 = before.1 + 1 ∨ (maxFailedAttempts ≤ before.1 + 1 ∧ after.1 = 0 ∧ after.2 ≠ 0)) ∧
      failuresSinceReset userId pre < maxFailedAttempts ∧
      (failuresSinceReset userId pre + 1 = maxFailedAttempts → after.2 ≠ 0) ∧
      (Since (locks userId) seen pre → before.2 ≤ after.2)
  | .loggedIn v seen _ before => v = userId → Since (locks userId) seen pre → before.2 = 0
  | _ => True

theorem touches_of_locks {c : Commit} (h : locks userId c = true) : touches userId c = true := by
  cases c <;> simp_all [locks, touches]

theorem since_mono {kind' : Commit → Bool} (hk : ∀ c, kind c = true → kind' c = true) (h : Since kind seen history) :
    Since kind' seen history := by
  obtain ⟨c, hc, hkind⟩ := h
  exact ⟨c, hc, hk c hkind⟩

theorem failuresSinceReset_snoc (userId : String) (history : List Commit) (c : Commit) :
    failuresSinceReset userId (history ++ [c]) = failuresAfter userId (failuresSinceReset userId history) c := by
  simp [failuresSinceReset]

theorem failedGuard_cases (row : UserRow) (now : Nat) :
    (row.failedAttempts + 1 < maxFailedAttempts ∧ failedGuard row now = (row.failedAttempts + 1, 0)) ∨
      (maxFailedAttempts ≤ row.failedAttempts + 1 ∧ failedGuard row now = (0, now + lockTime)) := by
  unfold failedGuard
  by_cases h : row.failedAttempts + 1 ≥ maxFailedAttempts
  · right
    have hpos : now + lockTime ≠ 0 := by
      unfold lockTime
      omega
    refine ⟨h, ?_⟩
    simp only [if_pos h, if_pos hpos]
  · left
    exact ⟨by omega, by simp [h]⟩

section Lockout

variable {derive : String → String → String}

/-- No commit on the account lies between the read of a `login` and the write that it is about to make. -/
def Unraced (w : World Ledger Call) (e : Event Request Moment) : Prop :=
  ∀ i moment c, e = .move i moment → w.calls[i]? = some c → ∀ row now seen,
    (c.phase = .wrong row now seen ∨ c.phase = .right row now seen) →
      ¬ Since (touches row.userId) seen w.shared.history

/-- Only logins are started. -/
def OnlyLogins (events : List (Event Request Moment)) : Prop :=
  ∀ request, .start request ∈ events → ∃ username password ip, request = .login username password ip

/-- The tables and the history, as far as the account's counter goes. -/
structure CounterExact (userId : String) (l : Ledger) : Prop where
  distinct : (l.store.users.map UserRow.userId).Nodup
  exact : Throughout (LockoutExact userId) l.history
  counted : failuresSinceReset userId l.history ≤ (l.store.guard userId).1
  below : (l.store.guard userId).1 < maxFailedAttempts ∨ failuresSinceReset userId l.history = 0

/-- A login that is about to write: unless the account was written since, the row is as it was read. -/
structure Waiting (l : Ledger) (c : Call) : Prop where
  login : ∃ username password ip, c.request = .login username password ip
  read : ∀ row now seen, (c.phase = .wrong row now seen ∨ c.phase = .right row now seen) →
    seen ≤ l.history.length ∧ (l.store.byId row.userId).isSome = true ∧
      (¬ Since (touches row.userId) seen l.history → l.store.guard row.userId = row.guard)

theorem guard_written (hf : ∀ r, (f r).userId = r.userId) (hg : ∀ r, (f r).guard = g)
    (hsome : (s.byId userId).isSome = true) (v : String) :
    (s.update userId f).guard v = if v = userId then g else s.guard v := by
  by_cases hv : v = userId
  · subst hv
    obtain ⟨r, hr⟩ := Option.isSome_iff_exists.mp hsome
    rw [Store.guard, Store.byId_update s v hf, if_pos rfl, hr, if_pos rfl]
    exact hg r
  · rw [Store.guard_update s userId hf hv, if_neg hv]

/-- A commit of one account that sets its counter and lock to `g`. -/
structure Writes (l l' : Ledger) (entry : Commit) (userId : String) (g : Nat × Nat) : Prop where
  hist : l'.history = l.history ++ [entry]
  touch : ∀ v, touches v entry = decide (userId = v)
  ids : l'.store.users.map UserRow.userId = l.store.users.map UserRow.userId
  found : ∀ v, (l'.store.byId v).isSome = (l.store.byId v).isSome
  guard : ∀ v, l'.store.guard v = if v = userId then g else l.store.guard v

variable {l : Ledger} {moment : Moment}

theorem Writes.of_update
    (hist : l'.history = l.history ++ [entry]) (touch : ∀ v, touches v entry = decide (userId = v))
    (users : l'.store.users = (l.store.update userId f).users) (hf : ∀ r, (f r).userId = r.userId)
    (hg : ∀ r, (f r).guard = g) (hsome : (l.store.byId userId).isSome = true) : Writes l l' entry userId g := by
  have hbyId : ∀ v, l'.store.byId v = (l.store.update userId f).byId v := by
    intro v
    unfold Store.byId
    rw [users]
  refine ⟨hist, touch, ?_, ?_, ?_⟩
  · rw [users, Store.ids_update l.store userId hf]
  · intro v
    rw [hbyId, Store.byId_update l.store userId hf]
    split
    · rw [Option.isSome_map]
    · rfl
  · intro v
    rw [← guard_written hf hg hsome, Store.guard, hbyId, Store.guard]

theorem Waiting.frame (h : Waiting l c) (hw : Writes l l' entry userId g) : Waiting l' c := by
  refine ⟨h.login, ?_⟩
  intro row now seen hphase
  obtain ⟨hseen, hsome, hsame⟩ := h.read row now seen hphase
  refine ⟨?_, ?_, ?_⟩
  · rw [hw.hist, List.length_append]
    omega
  · rw [hw.found]
    exact hsome
  · intro hnot
    rw [hw.hist] at hnot
    have hne : row.userId ≠ userId := by
      intro heq
      apply hnot
      exact since_last hseen (by rw [hw.touch, heq]; simp)
    rw [hw.guard, if_neg hne]
    exact hsame fun hs => hnot (hs.snoc entry)

/-- What a block of a login does: nothing to the accounts, or one write that goes back to a row that is
still as it was read. -/
theorem login_effect (hc : Waiting l c)
    (hraced : ∀ row now seen, (c.phase = .wrong row now seen ∨ c.phase = .right row now seen) →
      ¬ Since (touches row.userId) seen l.history)
    (heffect : Effect derive moment l c l') :
    (l'.history = l.history ∧ l'.store.users = l.store.users) ∨
      (∃ row now seen, ¬ Since (touches row.userId) seen l.history ∧ l.store.guard row.userId = row.guard ∧
        Writes l l' (.failed row.userId seen (l.store.guard row.userId) (failedGuard row now)) row.userId
          (failedGuard row now)) ∨
      (∃ (row : UserRow) (seen : Nat) (hash : String), ¬ Since (touches row.userId) seen l.history ∧
        Writes l l' (.loggedIn row.userId seen hash (l.store.guard row.userId)) row.userId (0, 0)) := by
  obtain ⟨username, password, ip, hlogin⟩ := hc.login
  cases heffect with
  | quiet hist users _ => exact .inl ⟨hist, users⟩
  | @failed row now seen phase =>
    obtain ⟨-, hsome, hsame⟩ := hc.read row now seen (.inl phase)
    have hnot := hraced row now seen (.inl phase)
    refine .inr (.inl ⟨row, now, seen, hnot, hsame hnot, ?_⟩)
    exact .of_update rfl (fun _ => rfl) rfl (fun _ => rfl) (fun _ => rfl) hsome
  | @loggedIn _ row now seen phase hist users _ =>
    obtain ⟨-, hsome, -⟩ := hc.read row now seen (.inr phase)
    refine .inr (.inr ⟨row, seen, sessionHash moment.token, hraced row now seen (.inr phase), ?_⟩)
    exact .of_update hist (fun _ => rfl) users (fun _ => rfl) (fun _ => rfl) hsome
  | accepted _ request =>
    obtain ⟨token, ip', hrequest⟩ := request
    rw [hlogin] at hrequest
    cases hrequest
  | changed _ request =>
    obtain ⟨raw, current, hrequest⟩ := request
    rw [hlogin] at hrequest
    cases hrequest
  | updated _ _ request =>
    obtain ⟨raw, u, hrequest⟩ := request
    rw [hlogin] at hrequest
    cases hrequest

theorem CounterExact.failed (h : CounterExact userId l) (hnot : ¬ Since (touches row.userId) seen l.history)
    (hsame : l.store.guard row.userId = row.guard)
    (hw : Writes l l' (.failed row.userId seen (l.store.guard row.userId) (failedGuard row now)) row.userId
      (failedGuard row now)) : CounterExact userId l' := by
  have hbound : failuresSinceReset userId l.history < maxFailedAttempts := by
    have hcounted := h.counted
    rcases h.below with hlt | hzero
    · omega
    · rw [hzero]
      decide
  have hcases := failedGuard_cases row now
  have hattempts : row.guard.1 = row.failedAttempts := rfl
  refine ⟨hw.ids ▸ h.distinct, ?_, ?_, ?_⟩
  · rw [hw.hist]
    refine h.exact.snoc ?_
    intro hv
    subst hv
    have hcounted := h.counted
    rw [hsame, hattempts] at hcounted
    refine ⟨?_, hbound, ?_, ?_⟩
    · rw [hsame, hattempts]
      rcases hcases with ⟨-, hg⟩ | ⟨hle, hg⟩
      · exact .inl (by rw [hg])
      · refine .inr ⟨hle, by rw [hg], ?_⟩
        rw [hg]
        unfold lockTime
        simp
    · intro hmax
      rcases hcases with ⟨hlt, -⟩ | ⟨-, hg⟩
      · omega
      · rw [hg]
        unfold lockTime
        simp
    · intro hlock
      exact absurd (since_mono (fun _ => touches_of_locks) hlock) hnot
  · rw [hw.hist, failuresSinceReset_snoc, hw.guard]
    by_cases hv : row.userId = userId
    · subst hv
      have hcounted := h.counted
      rw [hsame, hattempts] at hcounted
      simp only [failuresAfter, if_true]
      rcases hcases with ⟨-, hg⟩ | ⟨-, hg⟩
      · rw [hg, if_neg (Nat.succ_ne_zero _)]
        omega
      · rw [hg, if_pos rfl]
    · simp only [failuresAfter, if_neg hv, if_neg (Ne.symm hv)]
      exact h.counted
  · rw [hw.hist, failuresSinceReset_snoc, hw.guard]
    by_cases hv : row.userId = userId
    · subst hv
      simp only [failuresAfter, if_true]
      rcases hcases with ⟨hlt, hg⟩ | ⟨-, hg⟩
      · rw [hg]
        exact .inl hlt
      · rw [hg]
        exact .inr rfl
    · simp only [failuresAfter, if_neg hv, if_neg (Ne.symm hv)]
      exact h.below

theorem CounterExact.loggedIn (h : CounterExact userId l) (hnot : ¬ Since (touches row.userId) seen l.history)
    (hw : Writes l l' (.loggedIn row.userId seen hash (l.store.guard row.userId)) row.userId (0, 0)) :
    CounterExact userId l' := by
  refine ⟨hw.ids ▸ h.distinct, ?_, ?_, ?_⟩
  · rw [hw.hist]
    refine h.exact.snoc ?_
    intro hv hlock
    subst hv
    exact absurd (since_mono (fun _ => touches_of_locks) hlock) hnot
  · rw [hw.hist, failuresSinceReset_snoc, hw.guard]
    by_cases hv : row.userId = userId
    · subst hv
      simp [failuresAfter]
    · simp only [failuresAfter, if_neg hv, if_neg (Ne.symm hv)]
      exact h.counted
  · rw [hw.hist, failuresSinceReset_snoc, hw.guard]
    by_cases hv : row.userId = userId
    · subst hv
      right
      simp [failuresAfter]
    · simp only [failuresAfter, if_neg hv, if_neg (Ne.symm hv)]
      exact h.below

theorem loginRead_row {username password : String}
    (h : loginRead derive moment username password l = .wrong row now seen ∨
      loginRead derive moment username password l = .right row now seen) :
    row ∈ l.store.users ∧ seen = l.history.length := by
  unfold loginRead at h
  cases hname : checkUsername username with
  | error e =>
    rw [hname] at h
    rcases h with h | h <;> cases h
  | ok name =>
    simp only [hname] at h
    cases hrow : l.store.byName name with
    | none =>
      simp only [hrow] at h
      rcases h with h | h <;> cases h
    | some r =>
      simp only [hrow] at h
      have hmem := List.mem_of_find?_eq_some hrow
      split at h
      · rcases h with h | h <;> cases h
      · split at h
        · rcases h with h | h
          · cases h
          · cases h
            exact ⟨hmem, rfl⟩
        · rcases h with h | h
          · cases h
            exact ⟨hmem, rfl⟩
          · cases h

section Login

variable (moment : Moment) (l : Ledger) (username password ip : String)

theorem act_ready : act derive moment l ⟨.login username password ip, .ready⟩ =
    (l, ⟨.login username password ip, loginRead derive moment username password l⟩) := by
  simp only [act]

theorem act_wrong (row : UserRow) (now seen : Nat) : act derive moment l ⟨.login username password ip, .wrong row now seen⟩ =
    (loginFail moment row now seen l, ⟨.login username password ip, .done (.ok none)⟩) := by
  simp only [act]

theorem act_right (row : UserRow) (now seen : Nat) : act derive moment l ⟨.login username password ip, .right row now seen⟩ =
    ((loginSucceed moment ip row now seen l).1,
      ⟨.login username password ip, .done (loginSucceed moment ip row now seen l).2⟩) := by
  simp only [act]

end Login

theorem Waiting.done {username password ip : String} {reply : Except Raised (Option UserRow)} :
    Waiting l ⟨.login username password ip, .done reply⟩ := by
  refine ⟨⟨username, password, ip, rfl⟩, ?_⟩
  intro row now seen hphase
  rcases hphase with hphase | hphase <;> cases hphase

theorem Waiting.moved (hdistinct : (l.store.users.map UserRow.userId).Nodup)
    (h : Waiting l c) : Waiting (act derive moment l c).1 (act derive moment l c).2 := by
  obtain ⟨request, phase⟩ := c
  obtain ⟨username, password, ip, hlogin⟩ := h.login
  obtain rfl : request = .login username password ip := hlogin
  cases phase with
  | ready =>
    rw [act_ready]
    refine ⟨⟨username, password, ip, rfl⟩, ?_⟩
    intro row now seen hphase
    dsimp only at hphase ⊢
    obtain ⟨hmem, rfl⟩ := loginRead_row hphase
    have hfound := Store.byId_of_mem hdistinct hmem
    refine ⟨le_refl _, ?_, fun _ => ?_⟩
    · rw [hfound]
      rfl
    · rw [Store.guard, hfound]
      rfl
  | wrong row now seen =>
    rw [act_wrong]
    dsimp only
    exact .done
  | right row now seen =>
    rw [act_right]
    dsimp only
    exact .done
  | verified userId seen =>
    simp only [act]
    exact h
  | done reply =>
    simp only [act]
    exact h

/-- The invariant of a run of logins, for one account. -/
structure LoginsExact (userId : String) (w : World Ledger Call) : Prop where
  ledger : CounterExact userId w.shared
  calls : ∀ c ∈ w.calls, Waiting w.shared c

theorem CounterExact.of_quiet (h : CounterExact userId l)
    (hist : l'.history = l.history) (users : l'.store.users = l.store.users) : CounterExact userId l' := by
  have hguard : l'.store.guard userId = l.store.guard userId := by
    unfold Store.guard Store.byId
    rw [users]
  exact ⟨users ▸ h.distinct, hist ▸ h.exact, by rw [hist, hguard]; exact h.counted,
    by rw [hist, hguard]; exact h.below⟩

theorem Waiting.of_quiet (h : Waiting l c) (hist : l'.history = l.history)
    (users : l'.store.users = l.store.users) : Waiting l' c := by
  refine ⟨h.login, ?_⟩
  intro row now seen hphase
  have hread := h.read row now seen hphase
  unfold Store.guard Store.byId at *
  rw [hist, users]
  exact hread

theorem LoginsExact.move (derive : String → String → String)
    (h : LoginsExact userId w) (moment : Moment) (hget : w.calls[i]? = some c)
    (hraced : ∀ row now seen, (c.phase = .wrong row now seen ∨ c.phase = .right row now seen) →
      ¬ Since (touches row.userId) seen w.shared.history) :
    LoginsExact userId ⟨(act derive moment w.shared c).1, w.calls.set i (act derive moment w.shared c).2⟩ := by
  have hc := h.calls c (List.mem_of_getElem? hget)
  have heffect := login_effect hc hraced (act_effect derive moment w.shared c)
  have hmoved : Waiting (act derive moment w.shared c).1 (act derive moment w.shared c).2 :=
    hc.moved h.ledger.distinct
  have hcalls : (∀ c' ∈ w.calls, Waiting (act derive moment w.shared c).1 c') →
      ∀ c' ∈ w.calls.set i (act derive moment w.shared c).2, Waiting (act derive moment w.shared c).1 c' := by
    intro hframe c' hc'
    rcases List.mem_or_eq_of_mem_set hc' with hc' | rfl
    · exact hframe c' hc'
    · exact hmoved
  rcases heffect with ⟨hist, users⟩ | ⟨row, now, seen, hnot, hsame, hw⟩ | ⟨row, seen, hash, hnot, hw⟩
  · exact ⟨h.ledger.of_quiet hist users, hcalls fun c' hc' => (h.calls c' hc').of_quiet hist users⟩
  · exact ⟨h.ledger.failed hnot hsame hw, hcalls fun c' hc' => (h.calls c' hc').frame hw⟩
  · exact ⟨h.ledger.loggedIn hnot hw, hcalls fun c' hc' => (h.calls c' hc').frame hw⟩

theorem program_act (derive : String → String → String) : (program derive).act = act derive := rfl

theorem program_after_start (derive : String → String → String) (w : World Ledger Call) (r : Request) :
    (program derive).after w (.start r) = ⟨w.shared, w.calls ++ [⟨r, .ready⟩]⟩ := rfl

theorem program_after_move (derive : String → String → String) (moment : Moment) (h : w.calls[i]? = some c) :
    (program derive).after w (.move i moment) =
      ⟨(act derive moment w.shared c).1, w.calls.set i (act derive moment w.shared c).2⟩ := by
  rw [Program.after_move h, program_act]

theorem LoginsExact.start (h : LoginsExact userId w) {r : Request}
    (hr : ∃ username password ip, r = .login username password ip) :
    LoginsExact userId ⟨w.shared, w.calls ++ [⟨r, .ready⟩]⟩ := by
  refine ⟨h.ledger, ?_⟩
  intro c hc
  rcases List.mem_append.mp hc with hc | hc
  · exact h.calls c hc
  · rw [List.mem_singleton.mp hc]
    refine ⟨hr, ?_⟩
    intro row now seen hphase
    rcases hphase with hphase | hphase <;> cases hphase

theorem LoginsExact.always (derive : String → String → String) (events : List (Event Request Moment))
     (h : LoginsExact userId w) (hlogins : OnlyLogins events)
    (hraced : (program derive).Each Unraced w events) : (program derive).Always (LoginsExact userId) w events := by
  induction events generalizing w with
  | nil => exact h
  | cons e events ih =>
    have hrest : OnlyLogins events := fun r hr => hlogins r (List.mem_cons_of_mem _ hr)
    refine ⟨h, ih ?_ hrest hraced.2⟩
    cases e with
    | start r =>
      rw [program_after_start]
      exact h.start (hlogins r List.mem_cons_self)
    | move i moment =>
      cases hget : w.calls[i]? with
      | none =>
        rw [Program.after_move_none hget]
        exact h
      | some c =>
        rw [program_after_move derive moment hget]
        exact h.move derive moment hget (hraced.1 i moment c rfl hget)

/-- In every run of logins in which no commit on an account falls between the read and the write of a
login of that account: every failed check is counted or locks the account, no more of them happen without
a reset than the limit allows and the last of them locks, and no login that read the row before a lock
was set shortens or clears the lock. -/
theorem lockout_over_runs (derive : String → String → String) (store : Store)
    (hdistinct : (store.users.map UserRow.userId).Nodup) (userId : String) (events : List (Event Request Moment))
    (hlogins : OnlyLogins events) (hraced : (program derive).Each Unraced ⟨⟨store, []⟩, []⟩ events) :
    (program derive).Always (fun w => Throughout (LockoutExact userId) w.shared.history) ⟨⟨store, []⟩, []⟩ events := by
  have hinit : LoginsExact userId ⟨⟨store, []⟩, []⟩ :=
    ⟨⟨hdistinct, .nil, Nat.zero_le _, .inr rfl⟩, by simp⟩
  exact (LoginsExact.always derive events hinit hlogins hraced).mono fun w hw => hw.ledger.exact

/-- What `Unraced` asks of the phase of the call that moves. -/
def Phase.Unraced (history : List Commit) : Phase → Prop
  | .wrong row _ seen | .right row _ seen => ¬ Since (touches row.userId) seen history
  | _ => True

instance (history : List Commit) : ∀ phase : Phase, Decidable (phase.Unraced history)
  | .wrong row _ seen => inferInstanceAs (Decidable (¬ Since (touches row.userId) seen history))
  | .right row _ seen => inferInstanceAs (Decidable (¬ Since (touches row.userId) seen history))
  | .ready | .verified _ _ | .done _ => inferInstanceAs (Decidable True)

theorem unraced_iff {e : Event Request Moment} :
    Unraced w e ↔ e.OnCall (fun _ _ c => c.phase.Unraced w.shared.history) w.calls := by
  rw [Event.onCall_iff]
  refine forall₃_congr fun i moment c => imp_congr_right fun _ => imp_congr_right fun _ => ?_
  cases c.phase <;> simp [Phase.Unraced]

instance {e : Event Request Moment} : Decidable (Unraced w e) := decidable_of_iff _ unraced_iff.symm

/-- The two blocks of a call, one after the other. -/
def wholeCall (i now : Nat) : List (Event Request Moment) := [.move i ⟨now, "", "", ""⟩, .move i ⟨now + 1, "token", "", ""⟩]

/-- Five logins with a wrong password, one after the other; then one with the right password while the account is locked,
and one when the lock has run out. -/
def lockedOut : List (Event Request Moment) :=
  List.replicate 5 (.start (.login "anna" "x" "10.0.0.1")) ++ List.replicate 2 (.start (.login "anna" "p" "10.0.0.1")) ++
    (List.range 5).flatMap (fun i => wholeCall i (2 * i)) ++ wholeCall 5 20 ++ wholeCall 6 400000000

/-- Each failed check is counted, the fifth one locks the account, and the lock is not cleared before its time. -/
theorem lockout_over_guesses : (program plainDerive).Always
    (fun w => Throughout (LockoutExact sampleUser.userId) w.shared.history) sampleWorld lockedOut ∧
    ((program plainDerive).run sampleWorld lockedOut).shared.history =
      [.failed sampleUser.userId 0 (0, 0) (1, 0), .failed sampleUser.userId 1 (1, 0) (2, 0),
        .failed sampleUser.userId 2 (2, 0) (3, 0), .failed sampleUser.userId 3 (3, 0) (4, 0),
        .failed sampleUser.userId 4 (4, 0) (0, 300000008),
        .loggedIn sampleUser.userId 5 (sessionHash "token") (0, 300000008)] := by
  refine ⟨lockout_over_runs plainDerive _ (by decide) _ _ ?_ (by decide +kernel), by decide +kernel⟩
  intro request hrequest
  simp [lockedOut, wholeCall] at hrequest
  rcases hrequest with rfl | rfl
  · exact ⟨_, _, _, rfl⟩
  · exact ⟨_, _, _, rfl⟩

/-- Two logins with a wrong password read the row before either of them writes it. -/
def twoGuesses : List (Event Request Moment) :=
  [.start (.login "anna" "x" "10.0.0.1"), .start (.login "anna" "y" "10.0.0.2"), .move 0 ⟨1, "", "", ""⟩,
   .move 1 ⟨2, "", "", ""⟩, .move 0 ⟨3, "", "", ""⟩, .move 1 ⟨4, "", "", ""⟩]

theorem twoGuesses_history : ((program plainDerive).run sampleWorld twoGuesses).shared.history =
    [.failed sampleUser.userId 0 (0, 0) (1, 0)] ++ [.failed sampleUser.userId 0 (1, 0) (1, 0)] := by
  decide

/-- The second failed check is not counted. -/
theorem second_guess_uncounted : ¬ (program plainDerive).Always
    (fun w => Throughout (LockoutExact sampleUser.userId) w.shared.history) sampleWorld twoGuesses := by
  intro h
  have hgood := h.last _ _ _ twoGuesses_history
  have hcounted := (hgood rfl).1
  revert hcounted
  decide

end Lockout

/-! ## The last administrator -/

section Administrators

variable {derive : String → String → String} {l : Ledger} {moment : Moment}

/-- Every account has an id of its own, and some administrator is enabled. -/
structure Administered (rows : List UserRow) : Prop where
  ids : (rows.map UserRow.userId).Nodup
  enabled : ∃ r ∈ rows, r.role = .admin ∧ r.enabled = true

theorem Administered.update (h : Administered s.users) (hf : ∀ r, (f r).userId = r.userId)
    (hkept : ∀ r ∈ s.users, r.userId = userId → r.role = .admin → r.enabled = true →
      ((f r).role = .admin ∧ (f r).enabled = true) ∨ 1 < adminCount s) : Administered (s.update userId f).users := by
  refine ⟨Store.ids_update s userId hf ▸ h.ids, ?_⟩
  by_contra hnone
  have hid : ∀ r ∈ s.users, r.role = .admin ∧ r.enabled = true → r.userId = userId := by
    intro r hr hadmin
    by_contra hne
    exact hnone ⟨r, List.mem_map.mpr ⟨r, hr, if_neg hne⟩, hadmin⟩
  obtain ⟨r, hr, hadmin⟩ := h.enabled
  rcases hkept r hr (hid r hr hadmin) hadmin.1 hadmin.2 with hstays | hmany
  · exact hnone ⟨f r, List.mem_map.mpr ⟨r, hr, if_pos (hid r hr hadmin)⟩, hstays⟩
  · have hle : adminCount s ≤ (s.users.map UserRow.userId).count userId := by
      rw [List.count, List.countP_map]
      exact List.countP_mono_left fun r hr hadmin => by simpa using hid r hr (by simpa using hadmin)
    have hone := List.nodup_iff_count_le_one.mp h.ids userId
    omega

theorem updateUser_administered {raw : String} {u : UserUpdate} {r : Ledger × Option UserRow}
    (h : Administered l.store.users) (hr : updateUser derive moment raw u l = .ok r) : Administered r.1.store.users := by
  simp only [updateUser, bind_ok] at hr
  obtain ⟨userId, -, role, -, _, -, hr⟩ := hr
  cases hrow : l.store.byId userId with
  | none =>
    rw [hrow] at hr
    cases hr
  | some current =>
    rw [hrow] at hr
    simp only [bind_ok, require_ok, pure_ok, exists_const] at hr
    obtain ⟨hlast, rfl⟩ := hr
    have hupdated : Administered (l.store.update userId
        (updatedRow moment u role (u.password.map (passwordRecord derive moment)))).users := by
      refine h.update (fun r => ?_) ?_
      · unfold updatedRow
        split <;> rfl
      · rintro r hr rfl hrole henabled
        obtain rfl : r = current := Option.some.inj ((Store.byId_of_mem h.ids hr).symm.trans hrow)
        unfold updatedRow
        grind
    simp only
    split <;> exact hupdated

theorem Administered.act (h : Administered l.store.users) (derive : String → String → String) (moment : Moment)
    (c : Call) : Administered (act derive moment l c).1.store.users := by
  have heffect := act_effect derive moment l c
  obtain ⟨request, phase⟩ := c
  cases request with
  | updateUser raw u =>
    cases phase with
    | ready =>
      simp only [WorkspaceAuth.act]
      cases hr : updateUser derive moment raw u l with
      | error e => exact h
      | ok r => exact updateUser_administered h hr
    | _ => exact h
  | _ =>
    generalize (WorkspaceAuth.act derive moment l _).1 = l' at heffect ⊢
    cases heffect with
    | quiet _ users _ => exact users ▸ h
    | failed _ => exact h.update (fun _ => rfl) fun _ _ _ hrole henabled => .inl ⟨hrole, henabled⟩
    | loggedIn _ _ users _ =>
      exact users ▸ h.update (fun _ => rfl) fun _ _ _ hrole henabled => .inl ⟨hrole, henabled⟩
    | accepted _ _ => exact h
    | changed _ _ => exact h.update (fun _ => rfl) fun _ _ _ hrole henabled => .inl ⟨hrole, henabled⟩
    | updated _ _ request =>
      obtain ⟨_, _, hrequest⟩ := request
      cases hrequest

/-- However requests interleave, some enabled administrator is left. -/
theorem administrator_remains (derive : String → String → String) (h : Administered w.shared.store.users)
    (events : List (Event Request Moment)) : Administered ((program derive).run w events).shared.store.users := by
  refine Program.run_invariant (I := fun w : World Ledger Call => Administered w.shared.store.users) (fun w e hw => ?_) h events
  rcases (program derive).after_cases w e with ⟨_, -, hafter⟩ | ⟨_, env, c, -, -, hafter⟩ | ⟨_, _, -, -, hafter⟩
  · exact hafter ▸ hw
  · exact hafter ▸ hw.act derive env c
  · rw [hafter]
    exact hw

/-- The only administrator is to become a user. -/
theorem administrator_remains_alone : Administered ((program plainDerive).run
    ⟨⟨⟨[{ sampleUser with role := .admin }], []⟩, []⟩, []⟩ [.start (.updateUser sampleUser.userId { role := some "user" }),
      .move 0 ⟨1, "", "", ""⟩]).shared.store.users :=
  administrator_remains plainDerive ⟨by decide, by decide⟩ _

end Administrators

end WorkspaceAuth

end ThreeAgent

/-
Accounts and sessions (`workspace_auth.py`): `login`, `user_for_session`,
`logout`, `change_password` and `update_user` as sequences of atomic blocks,
one for each connection, over the two tables.

`scrypt` is a parameter (`derive`). Times are in microseconds. Beside the
tables the shared state keeps a history that the code does not have: the
commits in their order, each write with the number of commits that its call
had seen when it read the row. Only the statements read it.
-/
import ThreeAgent.Checks
import ThreeAgent.Lib.Interleaving

namespace ThreeAgent.WorkspaceAuth

open PyText Outcome Interleaving

def sessionTtl : Nat := 12 * 60 * 60 * 1000000
def maxFailedAttempts : Nat := 5
def lockTime : Nat := 5 * 60 * 1000000

inductive Role where
  | user
  | admin
  deriving DecidableEq, Repr

/-- A row of `workspace_users`. -/
structure UserRow where
  userId : String
  username : String
  displayName : String := ""
  department : String := ""
  title : String := ""
  role : Role := .user
  passwordSalt : String
  passwordHash : String
  enabled : Bool := true
  bootstrapAdmin : Bool := false
  failedAttempts : Nat := 0
  lockedUntil : Nat := 0
  createdAt : String := ""
  updatedAt : String := ""
  deriving DecidableEq, Repr

/-- A row of `workspace_auth_sessions`. -/
structure SessionRow where
  sessionHash : String
  userId : String
  clientIpHash : String
  createdAt : Nat
  expiresAt : Nat
  deriving DecidableEq, Repr

structure Store where
  users : List UserRow
  sessions : List SessionRow
  deriving DecidableEq, Repr

/-! ## Checks -/

def valueError (message : String) : Raised := ⟨.valueError, message⟩

/-- `USERNAME_RE.fullmatch`. -/
def usernameRe (cs : List Char) : Bool :=
  decide (3 ≤ cs.length ∧ cs.length ≤ 64) && cs.all fun c => isAsciiAlnum c || c ∈ ['.', '_', '-']

/-- `_username`. -/
def checkUsername (value : String) : Except Raised String := do
  require (usernameRe (strip value).toList = true)
    (valueError "Username must be 3-64 characters using letters, numbers, '.', '_' or '-'")
  return strip value

/-- `_user_id`. -/
def checkUserId (value : String) : Except Raised String := do
  let text := lower (strip value)
  require (startsWith text "usr_" = true ∧ (text.toList.drop 4).length = 16 ∧
    (text.toList.drop 4).all Sha256.isHexDigit = true) (valueError "Invalid user_id")
  return text

/-- `_role`. -/
def checkRole (value : String) : Except Raised Role :=
  if lower (strip value) = "user" then return .user
  else if lower (strip value) = "admin" then return .admin
  else throw (valueError "Role must be 'user' or 'admin'")

/-- `_password`. -/
def checkPassword (value : String) : Except Raised Unit := do
  require (16 ≤ value.toList.length) (valueError "Password must contain at least 16 characters")
  require (value.toList.length ≤ 512) (valueError "Password is too long")

/-- `_session_hash`. -/
@[irreducible] def sessionHash (token : String) : String := Sha256.hexdigest token

/-- `_ip_hash`. -/
@[irreducible] def ipHash (clientIp : String) : String := Sha256.hexdigest ("workspace-session-ip-v1:" ++ strip clientIp)

/-- Equality under `COLLATE NOCASE`. -/
def sameNoCase (a b : String) : Bool :=
  let fold (s : String) := s.toList.map fun c => if 'A' ≤ c ∧ c ≤ 'Z' then Char.ofNat (c.toNat + 32) else c
  decide (fold a = fold b)

namespace Store

/-- `SELECT * FROM workspace_users WHERE username=? COLLATE NOCASE`. -/
def byName (s : Store) (username : String) : Option UserRow := s.users.find? fun r => sameNoCase r.username username

/-- `SELECT * FROM workspace_users WHERE user_id=?`. -/
def byId (s : Store) (userId : String) : Option UserRow := s.users.find? fun r => r.userId = userId

/-- `UPDATE workspace_users SET ... WHERE user_id=?`. -/
def update (s : Store) (userId : String) (f : UserRow → UserRow) : Store :=
  { s with users := s.users.map fun r => if r.userId = userId then f r else r }

/-- `DELETE FROM workspace_auth_sessions WHERE ...`. -/
def deleteSessions (s : Store) (p : SessionRow → Bool) : Store := { s with sessions := s.sessions.filter (!p ·) }

end Store

/-! ## Requests -/

/-- The arguments of `update_user`. -/
structure UserUpdate where
  displayName : Option String := none
  department : Option String := none
  title : Option String := none
  role : Option String := none
  enabled : Option Bool := none
  newPassword : Option String := none
  deriving DecidableEq, Repr

inductive Request where
  | login (username password clientIp : String)
  | userForSession (token clientIp : String)
  | logout (token : String)
  | changePassword (userId currentPassword newPassword : String)
  | updateUser (userId : String) (update : UserUpdate)
  deriving DecidableEq, Repr

/-- A commit that wrote. `seen` is the number of commits before the read that the write goes back to. -/
inductive Commit where
  /-- a failed check, with the counter and the lock before and after -/
  | failed (userId : String) (seen : Nat) (before after : Nat × Nat)
  /-- a successful `login`, its session, and the counter and the lock before -/
  | loggedIn (userId : String) (seen : Nat) (sessionHash : String) (before : Nat × Nat)
  /-- `user_for_session` accepted a session -/
  | accepted (userId : String) (sessionHash : String)
  /-- `change_password` -/
  | changedPassword (userId : String) (seen : Nat)
  /-- `update_user`, and whether it revoked the sessions -/
  | updated (userId : String) (revoked : Bool)
  deriving DecidableEq, Repr

/-- The tables and the history of commits. -/
structure Ledger where
  store : Store
  history : List Commit := []
  deriving DecidableEq, Repr

/-- How far a request has come. -/
inductive Phase where
  | ready
  /-- `login` found a wrong password against the row it read -/
  | wrong (row : UserRow) (now : Nat) (seen : Nat)
  /-- `login` found the right password against the row it read -/
  | right (row : UserRow) (now : Nat) (seen : Nat)
  /-- `change_password` checked the current password against the row it read -/
  | verified (userId : String) (seen : Nat)
  | done (reply : Except Raised (Option UserRow))

structure Call where
  request : Request
  phase : Phase

/-- What a step takes from outside: the time, a random token and salt, and the text of the time. -/
structure Moment where
  now : Nat
  token : String := ""
  salt : String := ""
  stamp : String := ""

/-- The counter and the lock of an account. -/
def UserRow.guard (r : UserRow) : Nat × Nat := (r.failedAttempts, r.lockedUntil)

namespace Store

/-- The counter and the lock that the row of a user holds. -/
def guard (s : Store) (userId : String) : Nat × Nat := ((s.byId userId).map UserRow.guard).getD (0, 0)

end Store

/-! ## The blocks -/

section Blocks

variable (derive : String → String → String)

/-- `_password_record`, of a password that was checked. -/
def passwordRecord (moment : Moment) (password : String) : String × String := (moment.salt, derive password moment.salt)

/-- `_matches`. -/
def matchesPassword (password : String) (row : UserRow) : Bool :=
  decide (derive password row.passwordSalt = row.passwordHash)

/-- The first block of `login`, and the password check on the row it read. -/
def loginRead (moment : Moment) (username password : String) (l : Ledger) : Phase :=
  match checkUsername username with
  | .error _ => .done (.ok none)
  | .ok username =>
    match l.store.byName username with
    | none => .done (.ok none)
    | some row =>
      if row.enabled = false ∨ row.lockedUntil > moment.now then .done (.ok none)
      else if matchesPassword derive password row then .right row moment.now l.history.length
      else .wrong row moment.now l.history.length

/-- The counter and the lock that `login` writes back after a failed check. -/
def failedGuard (row : UserRow) (now : Nat) : Nat × Nat :=
  let attempts := row.failedAttempts + 1
  let locked := if attempts ≥ maxFailedAttempts then now + lockTime else 0
  (if locked ≠ 0 then 0 else attempts, locked)

/-- The block of `login` after a failed check. -/
def loginFail (moment : Moment) (row : UserRow) (now seen : Nat) (l : Ledger) : Ledger :=
  let written := failedGuard row now
  { store := l.store.update row.userId fun r =>
      { r with failedAttempts := written.1, lockedUntil := written.2, updatedAt := moment.stamp }
    history := l.history ++ [.failed row.userId seen (l.store.guard row.userId) written] }

/-- The block of `login` after a check that matched. A session hash that is taken ends it with an
`IntegrityError`, and the transaction is rolled back. -/
def loginSucceed (moment : Moment) (clientIp : String) (row : UserRow) (now seen : Nat) (l : Ledger) :
    Ledger × Except Raised (Option UserRow) :=
  let hash := sessionHash moment.token
  let cleared := (l.store.update row.userId fun r =>
    { r with failedAttempts := 0, lockedUntil := 0, updatedAt := moment.stamp }).deleteSessions fun s => s.expiresAt < now
  if cleared.sessions.any (fun s => s.sessionHash = hash) then
    (l, .error ⟨.integrityError, "UNIQUE constraint failed: workspace_auth_sessions.session_hash"⟩)
  else
    ({ store := { cleared with
        sessions := cleared.sessions ++ [⟨hash, row.userId, ipHash clientIp, now, now + sessionTtl⟩] }
       history := l.history ++ [.loggedIn row.userId seen hash (l.store.guard row.userId)] },
     .ok (cleared.byId row.userId))

/-- `user_for_session`. -/
def userForSession (moment : Moment) (token clientIp : String) (l : Ledger) : Ledger × Except Raised (Option UserRow) :=
  if token = "" then (l, .ok none)
  else
    let digest := sessionHash token
    match l.store.sessions.find? fun s => s.sessionHash = digest with
    | none => (l, .ok none)
    | some session =>
      match l.store.byId session.userId with
      | none => (l, .ok none)
      | some row =>
        if session.expiresAt < moment.now ∨ session.clientIpHash ≠ ipHash clientIp ∨ row.enabled = false then
          ({ l with store := l.store.deleteSessions fun s => s.sessionHash = digest }, .ok none)
        else ({ l with history := l.history ++ [.accepted session.userId digest] }, .ok (some row))

/-- `logout`. -/
def logout (token : String) (l : Ledger) : Ledger :=
  if token = "" then l
  else { l with store := l.store.deleteSessions fun s => s.sessionHash = sessionHash token }

/-- The first block of `change_password`, and the check of the current password. -/
def changeRead (userId currentPassword newPassword : String) (l : Ledger) : Except Raised Phase := do
  let userId ← checkUserId userId
  checkPassword newPassword
  match l.store.byId userId with
  | none => throw (valueError "Current password is incorrect")
  | some row =>
    require (matchesPassword derive currentPassword row = true) (valueError "Current password is incorrect")
    return .verified userId l.history.length

/-- The second block of `change_password`. -/
def changeWrite (moment : Moment) (userId newPassword : String) (seen : Nat) (l : Ledger) : Ledger :=
  let record := passwordRecord derive moment newPassword
  { store := (l.store.update userId fun r =>
      { r with passwordSalt := record.1, passwordHash := record.2, failedAttempts := 0, lockedUntil := 0,
               updatedAt := moment.stamp }).deleteSessions fun s => s.userId = userId
    history := l.history ++ [.changedPassword userId seen] }

/-- `str(value)[:120]` of a field that is given. -/
def clipped (value : Option String) (old : String) : String :=
  match value with
  | some value => String.ofList (value.toList.take 120)
  | none => old

/-- `_admin_count`. -/
def adminCount (s : Store) : Nat := s.users.countP fun r => r.role = .admin && r.enabled

/-- The new row of `update_user`. -/
def updatedRow (moment : Moment) (u : UserUpdate) (role : Option Role) (record : Option (String × String))
    (r : UserRow) : UserRow :=
  let r := { r with displayName := clipped u.displayName r.displayName
                    department := clipped u.department r.department
                    title := clipped u.title r.title
                    role := role.getD r.role
                    enabled := u.enabled.getD r.enabled
                    updatedAt := moment.stamp }
  match record with
  | some record =>
    { r with passwordSalt := record.1, passwordHash := record.2, failedAttempts := 0, lockedUntil := 0 }
  | none => r

/-- An argument that is checked only when it is given. -/
def checkGiven {α β : Type} (check : α → Except Raised β) : Option α → Except Raised (Option β)
  | none => return none
  | some a => some <$> check a

/-- `if new_password`: an empty text is no new password. -/
def UserUpdate.password (u : UserUpdate) : Option String := u.newPassword.filter (· ≠ "")

/-- `update_user`. -/
def updateUser (moment : Moment) (userId : String) (u : UserUpdate) (l : Ledger) : Except Raised (Ledger × Option UserRow) := do
  let userId ← checkUserId userId
  let role ← checkGiven checkRole u.role
  let _ ← checkGiven checkPassword u.password
  let record := u.password.map (passwordRecord derive moment)
  match l.store.byId userId with
  | none => throw ⟨.keyError, "User not found"⟩
  | some current =>
    require (¬ (current.role = .admin ∧ current.enabled = true ∧
        (role.getD current.role ≠ .admin ∨ u.enabled.getD current.enabled = false) ∧ adminCount l.store ≤ 1))
      (valueError "Cannot disable or demote the last enabled administrator")
    let revoked := decide (u.enabled = some false) || record.isSome
    let written := l.store.update userId (updatedRow moment u role record)
    let store := if revoked then written.deleteSessions fun s => s.userId = userId else written
    return ({ store := store, history := l.history ++ [.updated userId revoked] }, store.byId userId)

/-- The next atomic block of a call. -/
def act (moment : Moment) (l : Ledger) (c : Call) : Ledger × Call :=
  match c.phase, c.request with
  | .ready, .login username password _ => (l, { c with phase := loginRead derive moment username password l })
  | .wrong row now seen, .login _ _ _ => (loginFail moment row now seen l, { c with phase := .done (.ok none) })
  | .right row now seen, .login _ _ clientIp =>
    let done := loginSucceed moment clientIp row now seen l
    (done.1, { c with phase := .done done.2 })
  | .ready, .userForSession token clientIp =>
    let done := userForSession moment token clientIp l
    (done.1, { c with phase := .done done.2 })
  | .ready, .logout token => (logout token l, { c with phase := .done (.ok none) })
  | .ready, .changePassword userId current new =>
    match changeRead derive userId current new l with
    | .error e => (l, { c with phase := .done (.error e) })
    | .ok phase => (l, { c with phase := phase })
  | .verified userId seen, .changePassword _ _ new =>
    (changeWrite derive moment userId new seen l, { c with phase := .done (.ok none) })
  | .ready, .updateUser userId u =>
    match updateUser derive moment userId u l with
    | .error e => (l, { c with phase := .done (.error e) })
    | .ok (l', row) => (l', { c with phase := .done (.ok row) })
  | _, _ => (l, c)

/-- The requests that run over one user store. -/
def program : Program Ledger Call Request Moment where
  init request := ⟨request, .ready⟩
  act := act derive

end Blocks

end ThreeAgent.WorkspaceAuth

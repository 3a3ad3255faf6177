/-
Projects and conversations (`chat_history.py`): the calls of
`ProjectConversationStore` that write the two tables, as sequences of atomic
blocks, one for each connection.

The checks of a call (the conversation and the project are the owner's, an
archived conversation is not pinned) are made in connections of their own,
before the one that writes; no foreign key backs them. The messages of a
conversation and the listings are left out.
-/
import ThreeAgent.Checks
import ThreeAgent.Lib.Interleaving

namespace ThreeAgent.ChatHistory

open PyText Outcome Interleaving

/-- A row of `chat_conversations`; an empty `projectId` is the unfiled list. -/
structure ConversationRow where
  conversationId : String
  ownerKey : String
  title : String
  pinned : Bool := false
  archived : Bool := false
  projectId : String := ""
  createdAt : String
  updatedAt : String
  deriving DecidableEq, Repr

/-- A row of `workspace_projects`. -/
structure ProjectRow where
  projectId : String
  ownerKey : String
  name : String
  createdAt : String
  updatedAt : String
  deriving DecidableEq, Repr

structure ChatStore where
  conversations : List ConversationRow := []
  projects : List ProjectRow := []
  deriving DecidableEq, Repr

/-! ## Checks of the arguments -/

/-- `_CONVERSATION_ID_RE` and `_PROJECT_ID_RE`: `^[a-f0-9]{16}$`. -/
def idRe (s : String) : Bool := s.toList.length == 16 && s.toList.all Sha256.isHexDigit

def checkedId (message value : String) : Except Raised String := do
  require (idRe (lower (strip value)) = true) ⟨.valueError, message⟩
  return lower (strip value)

/-- `_conversation_id`. -/
def checkConversationId (value : String) : Except Raised String := checkedId "Invalid conversation_id" value

/-- `_project_id`. -/
def checkProjectId (value : String) : Except Raised String := checkedId "Invalid project_id" value

/-- `" ".join(str(value or "").split()).strip()`. -/
def singleSpaced (value : String) : String := strip (join ' ' (splitWs value))

/-- `_title`. -/
def titleOf (value : String) : String :=
  let text := singleSpaced value
  String.ofList ((if text = "" then "New chat" else text).toList.take 96)

/-- `_project_name`. -/
def projectName (value : String) : Except Raised String := do
  require (singleSpaced value ≠ "") ⟨.valueError, "Project name cannot be empty"⟩
  return String.ofList ((singleSpaced value).toList.take 64)

/-- The owner of a new row. -/
def checkOwner (ownerKey : String) : Except Raised String := do
  require (strip ownerKey ≠ "") ⟨.valueError, "owner_key is required"⟩
  return strip ownerKey

/-! ## Lookups -/

namespace ConversationRow

/-- `WHERE conversation_id = ? AND owner_key = ?`. -/
def Is (owner id : String) (r : ConversationRow) : Prop := r.conversationId = id ∧ r.ownerKey = owner

instance (owner id : String) (r : ConversationRow) : Decidable (r.Is owner id) :=
  inferInstanceAs (Decidable (_ ∧ _))

/-- `WHERE owner_key = ? AND project_id = ?`. -/
def IsIn (owner project : String) (r : ConversationRow) : Prop := r.ownerKey = owner ∧ r.projectId = project

instance (owner project : String) (r : ConversationRow) : Decidable (r.IsIn owner project) :=
  inferInstanceAs (Decidable (_ ∧ _))

end ConversationRow

namespace ProjectRow

/-- `WHERE project_id = ? AND owner_key = ?`. -/
def Is (owner id : String) (p : ProjectRow) : Prop := p.projectId = id ∧ p.ownerKey = owner

instance (owner id : String) (p : ProjectRow) : Decidable (p.Is owner id) :=
  inferInstanceAs (Decidable (_ ∧ _))

/-- The key of `UNIQUE(owner_key, name COLLATE NOCASE)`: ASCII letters are compared without their case. -/
def nameKey (owner name : String) : String × List Char :=
  (owner, name.toList.map fun c => if 'A' ≤ c ∧ c ≤ 'Z' then Char.ofNat (c.toNat + 32) else c)

def key (p : ProjectRow) : String × List Char := nameKey p.ownerKey p.name

end ProjectRow

/-- `_owned_row`. -/
def ownedRow (s : ChatStore) (owner conversationId : String) : Except Raised ConversationRow := do
  let id ← checkConversationId conversationId
  orRaise (s.conversations.find? (·.Is owner id)) ⟨.keyError, "Conversation not found"⟩

/-- `_owned_project`. -/
def ownedProject (s : ChatStore) (owner projectId : String) : Except Raised ProjectRow := do
  let id ← checkProjectId projectId
  orRaise (s.projects.find? (·.Is owner id)) ⟨.keyError, "Project not found"⟩

/-! ## Calls -/

inductive ChatRequest where
  | createConversation (owner title : String)
  | createProject (owner name : String)
  | renameProject (owner projectId name : String)
  | deleteProject (owner projectId : String)
  | moveConversation (owner conversationId : String) (projectId : Option String)
  | setPinned (owner conversationId : String) (pinned : Bool)
  | setArchived (owner conversationId : String) (archived : Bool)
  | deleteConversation (owner conversationId : String)
  deriving DecidableEq, Repr

/-- What the writing connection of a call executes, the ids as they were read. -/
inductive ChatWrite where
  | rename (owner projectId name : String)
  | deleteProject (owner projectId : String)
  | move (owner conversationId target : String)
  | pin (owner conversationId : String) (pinned : Bool)
  | archive (owner conversationId : String) (archived : Bool)
  | deleteConversation (owner conversationId : String)
  deriving DecidableEq, Repr

inductive ChatReply where
  | created (conversationId : String)
  | conversation (row : ConversationRow)
  | project (row : ProjectRow) (conversationCount totalConversationCount : Nat)
  | projectDeleted (projectId : String) (detached : Nat)
  | conversationDeleted (conversationId : String)
  deriving DecidableEq, Repr

inductive ChatPhase where
  | ready
  /-- The conversation of a move is found; the project is looked up next. -/
  | locating (owner conversationId projectId : String)
  | writing (w : ChatWrite)
  /-- The answer is read back. -/
  | readingConversation (owner conversationId : String)
  | readingProject (owner projectId : String)
  | done (reply : Except Raised ChatReply)
  deriving DecidableEq

structure ChatCall where
  request : ChatRequest
  phase : ChatPhase
  deriving DecidableEq

/-- What a block takes from the environment: the time and `uuid.uuid4().hex[:16]`. -/
structure ChatMoment where
  now : String
  token : String
  deriving DecidableEq, Repr

/-- `create_conversation`. -/
def createConversation (s : ChatStore) (moment : ChatMoment) (owner title : String) :
    Except Raised (ChatStore × ChatPhase) := do
  let owner ← checkOwner owner
  require (∀ r ∈ s.conversations, r.conversationId ≠ moment.token)
    ⟨.integrityError, "UNIQUE constraint failed: chat_conversations.conversation_id"⟩
  let row : ConversationRow :=
    { conversationId := moment.token, ownerKey := owner, title := titleOf title, createdAt := moment.now,
      updatedAt := moment.now }
  return ({ s with conversations := s.conversations ++ [row] }, .done (.ok (.created moment.token)))

/-- `A project with this name already exists`. -/
def nameTaken : Raised := ⟨.valueError, "A project with this name already exists"⟩

/-- `create_project`: either constraint that fails is reported as the name's. -/
def createProject (s : ChatStore) (moment : ChatMoment) (owner name : String) :
    Except Raised (ChatStore × ChatPhase) := do
  let owner ← checkOwner owner
  let name ← projectName name
  let row : ProjectRow :=
    { projectId := moment.token, ownerKey := owner, name := name, createdAt := moment.now, updatedAt := moment.now }
  require (∀ p ∈ s.projects, p.projectId ≠ moment.token ∧ p.key ≠ row.key) nameTaken
  return ({ s with projects := s.projects ++ [row] }, .readingProject owner moment.token)

/-- The checks of a call, up to its writing connection. -/
def prepare (s : ChatStore) (moment : ChatMoment) : ChatRequest → Except Raised (ChatStore × ChatPhase)
  | .createConversation owner title => createConversation s moment owner title
  | .createProject owner name => createProject s moment owner name
  | .renameProject owner projectId name => do
    let row ← ownedProject s owner projectId
    let name ← projectName name
    return (s, .writing (.rename owner row.projectId name))
  | .deleteProject owner projectId => do
    let row ← ownedProject s owner projectId
    return (s, .writing (.deleteProject owner row.projectId))
  | .moveConversation owner conversationId projectId => do
    let row ← ownedRow s owner conversationId
    let target := lower (strip (projectId.getD ""))
    if target = "" then return (s, .writing (.move owner row.conversationId ""))
    else return (s, .locating owner row.conversationId target)
  | .setPinned owner conversationId pinned => do
    let row ← ownedRow s owner conversationId
    require (¬ (pinned = true ∧ row.archived = true)) ⟨.valueError, "Archived conversations cannot be pinned"⟩
    return (s, .writing (.pin owner row.conversationId pinned))
  | .setArchived owner conversationId archived => do
    let row ← ownedRow s owner conversationId
    return (s, .writing (.archive owner row.conversationId archived))
  | .deleteConversation owner conversationId => do
    let row ← ownedRow s owner conversationId
    return (s, .writing (.deleteConversation owner row.conversationId))

/-- `UPDATE chat_conversations SET … WHERE conversation_id = ? AND owner_key = ?`. -/
def ChatStore.updateConversation (s : ChatStore) (owner id : String) (f : ConversationRow → ConversationRow) :
    List ConversationRow := s.conversations.map fun r => if r.Is owner id then f r else r

/-- `UPDATE workspace_projects SET … WHERE project_id = ? AND owner_key = ?`. -/
def ChatStore.updateProject (s : ChatStore) (owner id : String) (f : ProjectRow → ProjectRow) : List ProjectRow :=
  s.projects.map fun p => if p.Is owner id then f p else p

/-- `rename_project` against the constraint on names. -/
def renameProject (s : ChatStore) (now owner id name : String) : Except Raised (ChatStore × ChatPhase) := do
  require ((∃ p ∈ s.projects, p.Is owner id) →
    ∀ p ∈ s.projects, ¬ p.Is owner id → p.key ≠ ProjectRow.nameKey owner name) nameTaken
  return ({ s with projects := s.updateProject owner id fun p => { p with name := name, updatedAt := now } },
    .readingProject owner id)

/-- `delete_project`: the conversations are detached and the project is deleted, or neither. -/
def deleteProject (s : ChatStore) (now owner id : String) : Except Raised (ChatStore × ChatPhase) := do
  require ((s.projects.filter (·.Is owner id)).length = 1) ⟨.keyError, "Project not found"⟩
  return (
    { conversations := s.conversations.map fun r =>
        if r.IsIn owner id then { r with projectId := "", updatedAt := now } else r
      projects := s.projects.filter (¬ ·.Is owner id) },
    .done (.ok (.projectDeleted id (s.conversations.filter (·.IsIn owner id)).length)))

/-- `delete_conversation`. -/
def deleteConversation (s : ChatStore) (owner id : String) : Except Raised (ChatStore × ChatPhase) := do
  require ((s.conversations.filter (·.Is owner id)).length = 1) ⟨.keyError, "Conversation not found"⟩
  return ({ s with conversations := s.conversations.filter (¬ ·.Is owner id) }, .done (.ok (.conversationDeleted id)))

/-- The writing connection of a call. -/
def commit (s : ChatStore) (now : String) : ChatWrite → Except Raised (ChatStore × ChatPhase)
  | .rename owner id name => renameProject s now owner id name
  | .deleteProject owner id => deleteProject s now owner id
  | .move owner id target =>
    .ok ({ conversations := s.updateConversation owner id fun r => { r with projectId := target, updatedAt := now }
           projects := if target = "" then s.projects
             else s.updateProject owner target fun p => { p with updatedAt := now } },
      .readingConversation owner id)
  | .pin owner id pinned =>
    .ok ({ s with conversations := s.updateConversation owner id fun r => { r with pinned := pinned, updatedAt := now } },
      .readingConversation owner id)
  | .archive owner id archived =>
    .ok ({ s with conversations := s.updateConversation owner id fun r =>
             { r with archived := archived, pinned := if archived then false else r.pinned, updatedAt := now } },
      .readingConversation owner id)
  | .deleteConversation owner id => deleteConversation s owner id

/-- The answer of `get_project`. -/
def projectReply (s : ChatStore) (owner id : String) : Except Raised ChatReply := do
  let row ← ownedProject s owner id
  let filed := s.conversations.filter (·.IsIn owner row.projectId)
  return .project row (filed.filter (¬ ·.archived)).length filed.length

/-- The next atomic block of a call. -/
def chatBlock (moment : ChatMoment) (s : ChatStore) (request : ChatRequest) :
    ChatPhase → Except Raised (ChatStore × ChatPhase)
  | .ready => prepare s moment request
  | .locating owner conversationId projectId => do
    let project ← ownedProject s owner projectId
    return (s, .writing (.move owner conversationId project.projectId))
  | .writing w => commit s moment.now w
  -- The read-back takes several connections, which write nothing, so the tables of a run are those of this one block.
  -- Each names the owner: an answer may mix the moments of the fields, not their owner.
  | .readingConversation owner id => do return (s, .done (.ok (.conversation (← ownedRow s owner id))))
  | .readingProject owner id => do return (s, .done (.ok (← projectReply s owner id)))
  | .done reply => return (s, .done reply)

/-- A block that raises ends the call and is rolled back. -/
def chatAct (moment : ChatMoment) (s : ChatStore) (c : ChatCall) : ChatStore × ChatCall :=
  match chatBlock moment s c.request c.phase with
  | .ok (s', phase) => (s', { c with phase := phase })
  | .error e => (s, { c with phase := .done (.error e) })

/-- The calls on one store. -/
def chatProgram : Program ChatStore ChatCall ChatRequest ChatMoment where
  init request := ⟨request, .ready⟩
  act := chatAct

end ThreeAgent.ChatHistory

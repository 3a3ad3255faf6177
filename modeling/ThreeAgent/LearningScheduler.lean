/-
One tick of the background reflection scheduler
(`adaptive_learning_scheduler.py`). It discovers the tasks that are done among
the configured ones, newest first and up to the scan limit, and processes them
in turn until the item limit, the deadline or a resource reason stops it.

The objects that the scheduler is given are parameters: the artifact files,
the admission, the receipts, the reflection, the resource policy and the clock
act on a world that the model leaves open. Times are what the clock says.
-/
import ThreeAgent.LearningContract
import ThreeAgent.Lib.Action
import ThreeAgent.Lib.Dict

namespace ThreeAgent.LearningScheduler

open Action Outcome PyDict PyText

def fail (code : String) : Raised := ⟨.learningSchedulerError, code⟩

def maxConfiguredTasks : Nat := 128

def maxItemsLimit : Int := 32

def maxScanLimit : Int := 128

def maxWallTimeSeconds : Int := 3600

/-! ## The configuration -/

structure ScheduledTaskDomain where
  taskId : String
  domain : String
  deriving DecidableEq, Repr

def ScheduledTaskDomain.validate (entry : ScheduledTaskDomain) : Except Raised Unit := do
  require (idRe (strip entry.taskId) = true) (fail "SCHEDULER_TASK_ID_INVALID")
  require (lower (strip entry.domain) ∈ AdaptiveLearning.domains) (fail "SCHEDULER_DOMAIN_INVALID")
  require (strip entry.taskId = entry.taskId ∧ lower (strip entry.domain) = entry.domain)
    (fail "SCHEDULER_DOMAIN_BINDING_NOT_CANONICAL")

/-- `AUTHORITY_TYPES`. -/
def authorityTypes : List String := ["operator", "workflow", "policy"]

structure AdaptiveLearningSchedulerConfig where
  enabled : Bool := false
  maxItems : Int := 4
  maxScanItems : Int := 16
  maxWallTimeSeconds : Int := 300
  authorityType : String := "policy"
  authorityId : String := "policy:adaptive-learning-scheduler-v1"
  taskDomains : List ScheduledTaskDomain := []
  deriving DecidableEq, Repr

namespace AdaptiveLearningSchedulerConfig

/-- One round of the loop over the limits. -/
def checkLimit (value maximum : Int) (reason : String) : Except Raised Unit :=
  require (1 ≤ value ∧ value ≤ maximum) (fail reason)

/-- The loop over the bindings, with the ids that it has seen. -/
def checkDomains (seen : List String) : List ScheduledTaskDomain → Except Raised Unit
  | [] => return ⟨⟩
  | entry :: entries => do
    entry.validate
    require (entry.taskId ∉ seen) (fail "SCHEDULER_TASK_DOMAIN_DUPLICATE")
    checkDomains (entry.taskId :: seen) entries

def validate (c : AdaptiveLearningSchedulerConfig) : Except Raised Unit := do
  checkLimit c.maxItems maxItemsLimit "SCHEDULER_MAX_ITEMS_INVALID"
  checkLimit c.maxScanItems maxScanLimit "SCHEDULER_MAX_SCAN_ITEMS_INVALID"
  checkLimit c.maxWallTimeSeconds LearningScheduler.maxWallTimeSeconds "SCHEDULER_MAX_WALL_TIME_INVALID"
  require (c.maxItems ≤ c.maxScanItems) (fail "SCHEDULER_SCAN_LIMIT_BELOW_ITEM_LIMIT")
  require (lower (strip c.authorityType) ∈ authorityTypes) (fail "SCHEDULER_AUTHORITY_TYPE_INVALID")
  require (lower (strip c.authorityType) = c.authorityType) (fail "SCHEDULER_AUTHORITY_TYPE_NOT_CANONICAL")
  require (idRe (strip c.authorityId) = true ∧ strip c.authorityId = c.authorityId) (fail "SCHEDULER_AUTHORITY_ID_INVALID")
  require (c.taskDomains.length ≤ maxConfiguredTasks) (fail "SCHEDULER_TASK_DOMAINS_INVALID")
  checkDomains [] c.taskDomains

def domainMap (c : AdaptiveLearningSchedulerConfig) : Except Raised (Dict String) := do
  c.validate
  return c.taskDomains.foldl (fun d entry => PyDict.set d entry.taskId entry.domain) []

end AdaptiveLearningSchedulerConfig

/-! ## Discovery -/

/-- The columns of `tasks` that discovery reads. -/
structure TaskRow where
  taskId : String
  status : String
  updatedAt : String
  deriving DecidableEq, Repr

/-- The columns of `artifacts` that discovery reads. -/
structure ArtifactRow where
  id : Int
  taskId : String
  artifactType : String
  path : String
  deriving DecidableEq, Repr

structure Tables where
  tasks : List TaskRow := []
  artifacts : List ArtifactRow := []
  deriving DecidableEq, Repr

structure LearningSourceHandle where
  taskId : String
  manifestRecordPath : String
  deriving DecidableEq, Repr

/-- `ORDER BY t.updated_at DESC, t.task_id`. -/
def newestLE (a b : TaskRow) : Bool := decide (b.updatedAt < a.updatedAt ∨ a.updatedAt = b.updatedAt ∧ a.taskId ≤ b.taskId)

/-- The path of the last manifest that is registered for a task, empty where there is none. -/
def manifestRecord (artifacts : List ArtifactRow) (taskId : String) : String :=
  let rows := artifacts.filter fun a => a.taskId = taskId ∧ a.artifactType = "workflow_manifest_json"
  ((rows.insertionSort fun a b => b.id ≤ a.id).head?.map (·.path)).getD ""

/-- `discover_done`. -/
def discoverDone (db : Tables) (configuredTaskIds : List String) (limit : Int) :
    Except Raised (List LearningSourceHandle) := do
  if configuredTaskIds = [] then return []
  else do
    require (1 ≤ limit ∧ limit ≤ maxScanLimit) (fail "SCHEDULER_DISCOVERY_LIMIT_INVALID")
    require (configuredTaskIds.length ≤ maxConfiguredTasks) (fail "SCHEDULER_DISCOVERY_TASK_SET_TOO_LARGE")
    let rows := db.tasks.filter fun t => t.status = "DONE" ∧ t.taskId ∈ configuredTaskIds
    return ((rows.insertionSort (newestLE · ·)).take limit.toNat).map fun t =>
      { taskId := t.taskId, manifestRecordPath := manifestRecord db.artifacts t.taskId }

/-! ## What a task comes to -/

inductive ItemResult where
  | staged
  | noLearningValue
  | skipped
  | recoveryRequired
  | failed
  | rejected
  deriving DecidableEq, Repr

inductive StopReason where
  | disabled
  | complete
  | maxItems
  | wallTime
  | higherPriorityWork
  | resourceGuard
  | resourcePressure
  deriving DecidableEq, Repr

structure SchedulerItemOutcome where
  taskId : String
  result : ItemResult
  reasonCode : Option String
  domain : Option String := none
  admissionId : Option String := none
  candidateId : Option String := none
  candidateSha256 : Option String := none
  deriving DecidableEq, Repr

structure SchedulerRunReceipt where
  enabled : Bool
  attempted : Nat
  staged : Nat
  noLearningValue : Nat
  skipped : Nat
  recoveryRequired : Nat
  failed : Nat
  elapsedMs : Int
  stopReason : StopReason
  outcomes : List SchedulerItemOutcome
  deriving DecidableEq, Repr

/-- `_RESOURCE_STOP_REASONS`. -/
def resourceStopReasons : Dict StopReason :=
  [("SCHEDULER_HIGHER_PRIORITY_WORK_ACTIVE", .higherPriorityWork),
   ("SCHEDULER_PRIORITY_STATE_UNAVAILABLE", .resourceGuard),
   ("SCHEDULER_PRIORITY_STATE_INVALID", .resourceGuard),
   ("SCHEDULER_RESOURCE_ADMISSION_DENIED", .resourcePressure)]

/-- The reason to stop the tick that an outcome gives. -/
def SchedulerItemOutcome.stops (item : SchedulerItemOutcome) : Option StopReason :=
  item.reasonCode.bind (get? resourceStopReasons)

/-- An exception inside `_process`, by its class, with its reason code. -/
inductive Failure where
  | admission (reasonCode : String)
  | reflection (reasonCode : String)
  | scheduler (reasonCode : String)
  | contract (reasonCode : String)
  | other
  deriving DecidableEq, Repr

/-- `_safe_reason`. -/
def Failure.safeReason : Failure → String
  | .admission code | .reflection code | .scheduler code | .contract code => String.ofList (code.toList.takeWhile (· ≠ ':'))
  | .other => "SCHEDULER_SOURCE_PROCESSING_FAILED"

/-- What each handler of `_process` makes of its exception. -/
def Failure.result (e : Failure) : ItemResult :=
  match e with
  | .admission _ => .rejected
  | .reflection _ =>
    if e.safeReason = "REFLECTION_ALREADY_COMPLETED" then .skipped
    else if e.safeReason = "REFLECTION_CLAIM_RECOVERY_REQUIRED" then .recoveryRequired
    else .failed
  | .scheduler _ | .contract _ => if has resourceStopReasons e.safeReason then .skipped else .rejected
  | .other => .failed

/-- The fields of the envelope that the scheduler reads. -/
structure VerifiedLearningSourceEnvelope where
  admissionId : String
  taskId : String
  sensitivity : String
  evidenceHashes : List String
  deriving DecidableEq, Repr

/-- The fields of a receipt that the scheduler reads. -/
structure ReflectionReceipt where
  status : String
  candidateSha256 : Option String
  deriving DecidableEq, Repr

structure ReflectionOutcome where
  result : ItemResult
  candidateId : Option String
  candidateSha256 : Option String
  deriving DecidableEq, Repr

/-- The objects of a scheduler, over a world `σ`, bindings `β` and evidence `ε`. -/
structure Collaborators (σ β ε : Type) where
  /-- The tables of the task store. -/
  tables : σ → Tables
  /-- `_trusted_registered_path(raw_path, reason_prefix="SCHEDULER_MANIFEST")`. -/
  trustedPath : String → Act σ Failure String
  /-- `admission.admit(task_id, manifest_path)`. -/
  admitManifest : String → String → Act σ Failure VerifiedLearningSourceEnvelope
  /-- `ReflectionDomainBinding.create(envelope, domain, authority_type, authority_id)`. -/
  bindDomain : VerifiedLearningSourceEnvelope → String → String → String → Except Failure β
  /-- `reflection.receipt_store.read(admission_id, domain)`. -/
  readReceipt : String → String → Act σ Failure (Option ReflectionReceipt)
  /-- `source_provider.load_evidence(task_id, evidence_hashes)`. -/
  loadEvidence : String → List String → Act σ Failure ε
  /-- `reflection.reflect_and_stage(envelope, binding, evidence)`. -/
  reflectAndStage : VerifiedLearningSourceEnvelope → β → ε → Act σ Failure ReflectionOutcome

/-- A resource policy: what `with policy.admit():` makes of its body. -/
structure ResourcePolicy (σ : Type) where
  admitted : Act σ Failure ReflectionOutcome → Act σ Failure ReflectionOutcome

/-- A clock: its reading, a reading so many seconds later, whether a reading has reached another, and the
milliseconds from one to another. -/
structure Clock (σ τ : Type) where
  read : σ → τ × σ
  later : τ → Int → τ
  reached : τ → τ → Bool
  elapsedMs : τ → τ → Int

/-! ## The scheduler -/

/-- A scheduler that its constructor has returned. -/
structure AdaptiveLearningScheduler (σ τ β ε : Type) where
  config : AdaptiveLearningSchedulerConfig
  parts : Collaborators σ β ε
  resourcePolicy : Option (ResourcePolicy σ)
  clock : Clock σ τ
  valid : config.validate = .ok ⟨⟩
  governed : config.enabled = true → resourcePolicy.isSome = true

variable {σ τ β ε : Type}

/-- `AdaptiveLearningScheduler.__init__`. -/
def AdaptiveLearningScheduler.create (config : AdaptiveLearningSchedulerConfig) (parts : Collaborators σ β ε)
    (resourcePolicy : Option (ResourcePolicy σ)) (clock : Clock σ τ) : Except Raised (AdaptiveLearningScheduler σ τ β ε) :=
  match h : config.validate with
  | .error e => .error e
  | .ok _ =>
    if hpolicy : config.enabled = true → resourcePolicy.isSome = true then
      .ok ⟨config, parts, resourcePolicy, clock, h, hpolicy⟩
    else .error (fail "SCHEDULER_RESOURCE_POLICY_REQUIRED")

namespace AdaptiveLearningScheduler

variable (s : AdaptiveLearningScheduler σ τ β ε)

/-- `source_provider.manifest_path`. -/
def manifestPath (handle : LearningSourceHandle) : Act σ Failure String := fun w =>
  if handle.manifestRecordPath = "" then (.error (.scheduler "SCHEDULER_MANIFEST_NOT_REGISTERED"), w)
  else s.parts.trustedPath handle.manifestRecordPath w

/-- The first steps of `_process`. -/
def admitSource (handle : LearningSourceHandle) : Act σ Failure VerifiedLearningSourceEnvelope := do
  let path ← s.manifestPath handle
  s.parts.admitManifest handle.taskId path

/-- `_preflight_receipt`. -/
def preflightReceipt (envelope : VerifiedLearningSourceEnvelope) (domain : String) :
    Act σ Failure (Option SchedulerItemOutcome) := do
  match ← s.parts.readReceipt envelope.admissionId domain with
  | none => return none
  | some existing =>
    if existing.status = "completed" then
      return some {
        taskId := envelope.taskId
        result := .skipped
        reasonCode := some "REFLECTION_ALREADY_COMPLETED"
        domain := some domain
        admissionId := some envelope.admissionId
        candidateSha256 := existing.candidateSha256 }
    else
      return some {
        taskId := envelope.taskId
        result := .recoveryRequired
        reasonCode := some "REFLECTION_CLAIM_RECOVERY_REQUIRED"
        domain := some domain
        admissionId := some envelope.admissionId }

/-- The reflection of an admitted source under the resource policy. -/
def reflect (envelope : VerifiedLearningSourceEnvelope) (binding : β) (evidence : ε) : Act σ Failure ReflectionOutcome :=
  match s.resourcePolicy with
  | none => fun w => (.error (.scheduler "SCHEDULER_RESOURCE_POLICY_REQUIRED"), w)
  | some policy => policy.admitted (s.parts.reflectAndStage envelope binding evidence)

/-- The steps of `_process` once the source is admitted. -/
def processAdmitted (handle : LearningSourceHandle) (domain : String) (envelope : VerifiedLearningSourceEnvelope) :
    Act σ Failure SchedulerItemOutcome := do
  if envelope.sensitivity = "secret" then
    return {
      taskId := handle.taskId
      result := .rejected
      reasonCode := some "REFLECTION_SECRET_NOT_SUPPORTED"
      domain := some domain
      admissionId := some envelope.admissionId }
  else do
    let binding ← fun w => (s.parts.bindDomain envelope domain s.config.authorityType s.config.authorityId, w)
    match ← s.preflightReceipt envelope domain with
    | some preflight => return preflight
    | none => do
      let evidence ← s.parts.loadEvidence handle.taskId envelope.evidenceHashes
      let outcome ← s.reflect envelope binding evidence
      return {
        taskId := handle.taskId
        result := outcome.result
        reasonCode := none
        domain := some domain
        admissionId := some envelope.admissionId
        candidateId := outcome.candidateId
        candidateSha256 := outcome.candidateSha256 }

/-- The outcome of a task whose processing raised. -/
def failed (handle : LearningSourceHandle) (domain : String) (admissionId : Option String) (e : Failure) :
    SchedulerItemOutcome where
  taskId := handle.taskId
  result := e.result
  reasonCode := some e.safeReason
  domain := some domain
  admissionId := admissionId

/-- `_process`. -/
def process (handle : LearningSourceHandle) (domain : String) (w : σ) : SchedulerItemOutcome × σ :=
  match s.admitSource handle w with
  | (.error e, w) => (failed handle domain none e, w)
  | (.ok envelope, w) =>
    match s.processAdmitted handle domain envelope w with
    | (.error e, w) => (failed handle domain (some envelope.admissionId) e, w)
    | (.ok item, w) => (item, w)

/-- The loop of `run_once` over the handles, with the outcomes so far. -/
def loop (domainMap : Dict String) (deadline : τ) :
    List LearningSourceHandle → List SchedulerItemOutcome → σ → (List SchedulerItemOutcome × StopReason) × σ
  | [], outcomes, w => ((outcomes, .complete), w)
  | handle :: handles, outcomes, w =>
    if s.config.maxItems ≤ outcomes.length then ((outcomes, .maxItems), w)
    else
      let (now, w) := s.clock.read w
      if s.clock.reached now deadline then ((outcomes, .wallTime), w)
      else
        match get? domainMap handle.taskId with
        | none => loop domainMap deadline handles outcomes w
        | some domain =>
          let (item, w) := s.process handle domain w
          match item.stops with
          | some reason => ((outcomes ++ [item], reason), w)
          | none => loop domainMap deadline handles (outcomes ++ [item]) w

/-- The receipt of a tick that is not enabled. -/
def disabledReceipt : SchedulerRunReceipt where
  enabled := false
  attempted := 0
  staged := 0
  noLearningValue := 0
  skipped := 0
  recoveryRequired := 0
  failed := 0
  elapsedMs := 0
  stopReason := .disabled
  outcomes := []

/-- The receipt of a tick. -/
def runReceipt (outcomes : List SchedulerItemOutcome) (stopReason : StopReason) (elapsedMs : Int) : SchedulerRunReceipt where
  enabled := true
  attempted := outcomes.length
  staged := outcomes.countP (·.result = .staged)
  noLearningValue := outcomes.countP (·.result = .noLearningValue)
  skipped := outcomes.countP (·.result = .skipped)
  recoveryRequired := outcomes.countP (·.result = .recoveryRequired)
  failed := outcomes.countP fun item => item.result = .failed ∨ item.result = .rejected
  elapsedMs := elapsedMs
  stopReason := stopReason
  outcomes := outcomes

/-- `run_once`. -/
def runOnce : Act σ Raised SchedulerRunReceipt := fun w =>
  let (started, w) := s.clock.read w
  if s.config.enabled = false then (.ok disabledReceipt, w)
  else
    match s.config.domainMap with
    | .error e => (.error e, w)
    | .ok domainMap =>
      match discoverDone (s.parts.tables w) (keys domainMap) s.config.maxScanItems with
      | .error e => (.error e, w)
      | .ok handles =>
        let deadline := s.clock.later started s.config.maxWallTimeSeconds
        let ((outcomes, stopReason), w) := s.loop domainMap deadline handles [] w
        let (now, w) := s.clock.read w
        (.ok (runReceipt outcomes stopReason (max 0 (s.clock.elapsedMs started now))), w)

end AdaptiveLearningScheduler

end ThreeAgent.LearningScheduler

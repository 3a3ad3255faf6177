/-
The exceptions the modelled modules raise: the class that decides which
`except` clause catches it, and the code or message it carries.
-/
import ThreeAgent.Lib.Outcome

namespace ThreeAgent

inductive ErrorClass where
  | valueError
  | typeError
  | keyError
  | attributeError
  | overflowError
  | runtimeError
  | stopIteration
  | indexError
  | integrityError
  | operationalError
  | capabilityAuthorityDenied
  | persistentSchedulerError
  | taskContextError
  | workflowDesignError
  | executionPlanError
  | executionObservationError
  | runtimeSchedulerError
  | executionSchedulerError
  | executionCheckpointError
  | executionWriterFenceError
  | executionDispatchBudgetError
  | runtimeWriterLeaseError
  | executionBudgetExceeded
  | harnessMemoryError
  | learningContractError
  | adaptiveLearningStoreError
  | learningCheckpointError
  | securityWorkflowError
  | securityWorkflowDenied
  | securityWorkflowAuditError
  | securityCapabilityError
  | securityOperationPlanError
  | securityOperationBindingError
  | monitoringContractError
  | edgeBackpressure
  | monitoringRunAlreadyLocked
  | resourceAdmissionError
  | resourceBusyError
  | workflowDraftError
  | workflowDraftConflict
  | workflowDraftNotFound
  | osError
  | permissionError
  | unicodeError
  | knowledgePlaneError
  | securityAssetOnboardingConflict
  | learningEffectivenessError
  | learningRetrievalError
  | learningCurationError
  | curationRevisionError
  | curationRevisionAuthorizationError
  | curationRevisionContractError
  | curationRevisionWorkerError
  | candidateSkillError
  | candidateSkillSupersessionError
  | skillSecurityError
  | runtimeCheckpointError
  | runtimeDispatchRecoveryError
  | workflowStateError
  | outboundDlpError
  | promotionGateError
  | adaptiveLearningContradictionError
  | adaptiveLearningLifecycleError
  | contextCompilerError
  | contextManifestError
  | learningSchedulerError
  | harnessCheckpointError
  | pcapEvidenceError
  | pcapEvidenceDenied
  | reflectionError
  | reflectionContractError
  | taskContractError
  | learningAdmissionError
  | uploadSecurityError
  deriving DecidableEq, Repr

namespace ErrorClass

/-- `ValueError` and its subclasses. -/
def isValueError : ErrorClass → Bool
  | .valueError | .persistentSchedulerError | .taskContextError | .workflowDesignError
  | .executionPlanError | .executionObservationError | .runtimeSchedulerError | .harnessMemoryError
  | .learningContractError | .adaptiveLearningStoreError | .learningCheckpointError | .securityWorkflowError
  | .securityWorkflowAuditError | .securityCapabilityError | .securityOperationPlanError
  | .securityOperationBindingError | .monitoringContractError | .workflowDraftError
  | .workflowDraftConflict | .unicodeError | .knowledgePlaneError | .learningEffectivenessError
  | .learningRetrievalError | .learningCurationError | .curationRevisionError | .curationRevisionContractError
  | .candidateSkillError | .candidateSkillSupersessionError | .runtimeCheckpointError | .runtimeDispatchRecoveryError
  | .workflowStateError | .promotionGateError | .adaptiveLearningContradictionError
  | .adaptiveLearningLifecycleError | .contextCompilerError | .contextManifestError
  | .learningSchedulerError | .harnessCheckpointError | .pcapEvidenceError | .reflectionError
  | .reflectionContractError | .taskContractError | .learningAdmissionError | .uploadSecurityError => true
  | _ => false

/-- `RuntimeError` and its subclasses. -/
def isRuntimeError : ErrorClass → Bool
  | .runtimeError | .executionSchedulerError | .executionCheckpointError | .executionWriterFenceError
  | .executionDispatchBudgetError | .runtimeWriterLeaseError | .executionBudgetExceeded | .edgeBackpressure
  | .monitoringRunAlreadyLocked | .securityAssetOnboardingConflict | .curationRevisionWorkerError
  | .skillSecurityError | .resourceAdmissionError | .resourceBusyError => true
  | _ => false

end ErrorClass

/-- A raised exception. -/
structure Raised where
  cls : ErrorClass
  code : String
  deriving DecidableEq, Repr

end ThreeAgent

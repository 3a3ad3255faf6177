import ThreeAgent.EdgeAgentFacts
import ThreeAgent.ExecutionBudgetFacts
import ThreeAgent.ForensicStoreFacts
import ThreeAgent.LearningStoreFacts
import ThreeAgent.SecurityWorkflowFacts
import ThreeAgent.WorkspaceAuthFacts
import ThreeAgent.ApprovalFloorFacts
import ThreeAgent.ChatHistoryFacts
import ThreeAgent.ChatOwnerFacts
import ThreeAgent.DiscoveryFacts
import ThreeAgent.ModelResidencyFacts
import ThreeAgent.ReadyDispatchFacts
import ThreeAgent.ReportingFacts
import ThreeAgent.CronFacts
import ThreeAgent.CronFieldFacts
import ThreeAgent.CheckpointCodecFacts
import ThreeAgent.DenyByDefaultFacts
import ThreeAgent.TaskIdsFacts
import ThreeAgent.RuntimeCodecFacts
import ThreeAgent.PromotionGateFacts
import ThreeAgent.ParsedReplayFacts
import ThreeAgent.ResourceDecisionFacts
import ThreeAgent.EvidencePackingFacts
import ThreeAgent.ContextManifestFacts
import ThreeAgent.LearningSchedulerFacts
import ThreeAgent.ReadBackFacts
import ThreeAgent.SecureQueryFacts
import ThreeAgent.HarnessCheckpointFacts
import ThreeAgent.FlowProcessFacts
import ThreeAgent.ProcessTreeFacts
import ThreeAgent.PcapEvidenceFacts
import ThreeAgent.AssetDependencyFacts
import ThreeAgent.ChatContextFacts
import ThreeAgent.HealthEvaluatorFacts
import ThreeAgent.KnowledgeIndexFacts
import ThreeAgent.PrefixReuseFacts
import ThreeAgent.SchedulerTimes
import ThreeAgent.ResearchSynthesisFacts

import CrmBot.CapacityAdmissionQueue.DrainBudget
import CrmBot.Compaction.ClaimPartition
import CrmBot.Python.PyValue
import CrmBot.WorkflowRuntime.CommandLog
import CrmBot.ExecutionRuntime.ExecutionStore
import CrmBot.LlmRuntime.RouteCapacity
import CrmBot.LlmRuntime.RouteCatalog
import CrmBot.ClaimBuilder.DispatchPayload
import CrmBot.ClaimBuilder.CapacityWindowWakeup
import CrmBot.ClaimBuilder.PrepareDispatchBatch
import CrmBot.Library.Delimited
import CrmBot.ClaimBuilder.PrepareLoop
import CrmBot.ClaimBuilder.DirectPreparePayload
import CrmBot.ClaimBuilder.PrepareCommand
import CrmBot.ExecutionRuntime.AttemptFrame
import CrmBot.ClaimBuilder.AttemptHistory
import CrmBot.ClaimBuilder.BatchAttempts
import CrmBot.ClaimBuilder.AttemptIdentity
import CrmBot.ClaimBuilder.PrepareHistory
import CrmBot.ClaimBuilder.AmpleCapacity
import CrmBot.ExecutionRuntime.ItemScope
import CrmBot.ClaimBuilder.WorkflowIsolation
import CrmBot.ExecutionQueue.QueueRepository
import CrmBot.ExecutionQueue.WorkerLoop
import CrmBot.ExecutionQueue.WorkerFencing
import CrmBot.KnowledgeExtraction.WorkflowState
import CrmBot.ExecutionRuntime.EnsureScheduled
import CrmBot.ClaimBuilder.ScheduleSectionWork
import CrmBot.KnowledgeExtraction.SagaReconcile
import CrmBot.KnowledgeExtraction.ReconcileProgress
import CrmBot.KnowledgeExtraction.WorkflowWriters
import CrmBot.KnowledgeExtraction.PauseKept
import CrmBot.CapacityAdmissionQueue.WindowLedger
import CrmBot.Python.PyObject
import CrmBot.WorkflowRuntime.AppendAgain
import CrmBot.ClaimBuilder.DrainBridge
import CrmBot.ClaimBuilder.NextBatchQueued
import CrmBot.CapacityAdmissionQueue.ProjectionWriter
import CrmBot.ClaimBuilder.ProjectionAgreement
import CrmBot.LlmRuntime.GroqResponse
import CrmBot.Python.Text
import CrmBot.ClaimBuilder.OutputValidation
import CrmBot.ClaimBuilder.AttemptDecision
import CrmBot.ExecutionRuntime.RecordedOutcome
import CrmBot.ClaimBuilder.ExecuteAttempt
import CrmBot.ClaimBuilder.ExecuteSection
import CrmBot.ClaimBuilder.TruncatedOutput
import CrmBot.ClaimBuilder.DraftClaims
import CrmBot.ClaimBuilder.ClaimsKept
import CrmBot.ClaimBuilder.ClaimReplay
import CrmBot.ClaimBuilder.ClaimAnswer
import CrmBot.ClaimBuilder.ClaimRuns
import CrmBot.WorkflowRuntime.StatusMonotone
import CrmBot.ExecutionRuntime.WorkItemRuns
import CrmBot.ExecutionRuntime.StoreRuns
import CrmBot.ExecutionRuntime.RowRefinement
import CrmBot.ExecutionRuntime.OutcomeKept
import CrmBot.ExecutionRuntime.LeaseFencing
import CrmBot.CapacityAdmissionQueue.FreezeHonoured
import CrmBot.CapacityAdmissionQueue.LaneExclusion
import CrmBot.CapacityAdmissionQueue.AdmissionPass
import CrmBot.CapacityAdmissionQueue.OrphanLease
import CrmBot.CapacityAdmissionQueue.AdmissionReport
import CrmBot.WorkflowRuntime.EventDelivery
import CrmBot.ClaimBuilder.RouteBudget
import CrmBot.ClaimBuilder.DoubledRoute
import CrmBot.ClaimBuilder.SplitCommand
import CrmBot.Compaction.NodeRefs
import CrmBot.ClaimBuilder.KeyedCommands
import CrmBot.ClaimBuilder.KeyAgreement
import CrmBot.Compaction.OutputContract
import CrmBot.Compaction.ReductionPlanner
import CrmBot.Compaction.ScheduledWork
import CrmBot.Compaction.ExecuteCompaction
import CrmBot.Compaction.InputCoverage
import CrmBot.Compaction.OutputEnricher
import CrmBot.Compaction.CompactedComparisons
import CrmBot.Compaction.ComponentTable
import CrmBot.Compaction.NodeAgreement
import CrmBot.Compaction.ReplayAgreement
import CrmBot.DocumentSegmentation.SegmentationBudget
import CrmBot.DocumentSegmentation.MarkdownSegmentationPolicy
import CrmBot.DocumentSegmentation.SourceUnits
import CrmBot.DocumentSegmentation.BlockContent
import CrmBot.DocumentSegmentation.UnitParts
import CrmBot.Compaction.ClaimLineage
import CrmBot.Compaction.PlannerDecisions
import CrmBot.Compaction.SeparationEdges
import CrmBot.Compaction.PlannerOutcomes
import CrmBot.Commercial.CommercialTruth
import CrmBot.Commercial.SurfaceFacts
import CrmBot.Commercial.PublishedSurface
import CrmBot.Commercial.UnpublishedFacts
import CrmBot.Commercial.DecimalText
import CrmBot.Commercial.PriceLookup
import CrmBot.Commercial.PriceSignature
import CrmBot.CapacityAdmissionQueue.AdmissionReservation
import CrmBot.CapacityAdmissionQueue.ReservationSafety
import CrmBot.CapacityAdmissionQueue.LaneMarks
import CrmBot.CapacityAdmissionQueue.LaneWakeup
import CrmBot.Compaction.BatchBudget
import CrmBot.Compaction.StoredRows
import CrmBot.Compaction.PipelineRuns
import CrmBot.Compaction.BatchCoverage
import CrmBot.ClaimBuilder.SplitSourceUnit
import CrmBot.CapacityRuntime.CapacityPolicy
import CrmBot.LlmRuntime.CapacityProjection
import CrmBot.LlmRuntime.BatchBudgetPolicy
import CrmBot.LlmRuntime.RoutePlanning
import CrmBot.LlmRuntime.ExecuteTask
import CrmBot.Compaction.OutputFormat
import CrmBot.ExecutionRuntime.SplitSupersede
import CrmBot.Compaction.ClaimGrouping
import CrmBot.Compaction.ClaimComponents
import CrmBot.Compaction.ClaimGroups
import CrmBot.ClaimBuilder.EmptyConfirmation
import CrmBot.CapacityAdmissionQueue.GreedyAdmission
import CrmBot.DocumentSegmentation.SectionContent
import CrmBot.DocumentSegmentation.CandidateHeading
import CrmBot.DocumentSegmentation.DocumentUnits
import CrmBot.CapacityAdmissionQueue.FitAgreement
import CrmBot.CapacityAdmissionQueue.StaleRow
import CrmBot.CapacityAdmissionQueue.FailingDrain
import CrmBot.ExecutionQueue.RetryPolicy
import CrmBot.ExecutionQueue.RetryRuns
import CrmBot.Library.Base64
import CrmBot.Library.Keyset
import CrmBot.Observability.FrontendEventCursor
import CrmBot.Observability.FrontendEventReplay
import CrmBot.Python.Numerals
import CrmBot.LlmRuntime.GroqRateLimitHeaders
import CrmBot.DocumentSegmentation.SectionOutline
import CrmBot.DocumentSegmentation.CandidateOutline
import CrmBot.DocumentSegmentation.EnclosingHeadings
import CrmBot.DocumentSegmentation.BalancedParts
import CrmBot.Commercial.PriceAcquisition
import CrmBot.Curation.EditablePayload
import CrmBot.Curation.EditableUpdates
import CrmBot.Curation.CurationItem
import CrmBot.Commercial.PriceText
import CrmBot.Commercial.PriceSpelling
import CrmBot.Commercial.MarkdownAcquisition
import CrmBot.Commercial.AcquisitionRows
import CrmBot.Compaction.ClaimClasses
import CrmBot.Compaction.GroupNames
import CrmBot.Library.FreshItems
import CrmBot.Compaction.GroupState
import CrmBot.Compaction.GroupSteps
import CrmBot.Compaction.RetiredPairs
import CrmBot.Compaction.PairRetirement
import CrmBot.Compaction.ReductionLoop
import CrmBot.Conversation.DecisionEngine
import CrmBot.Conversation.AgentNodes
import CrmBot.Conversation.AgentGraph
import CrmBot.Conversation.TurnRoutes
import CrmBot.Conversation.TurnSteps
import CrmBot.Conversation.HandoffConsent
import CrmBot.Conversation.LifecycleProgress
import CrmBot.Conversation.TechnicalIncidents
import CrmBot.Conversation.CarriedFlags
import CrmBot.Conversation.RepeatStreaks
import CrmBot.RuntimeGuards.MessageHandler
import CrmBot.RuntimeGuards.ThreadLock
import CrmBot.RuntimeGuards.ThreadSlots
import CrmBot.ManagerDesk.DeskState
import CrmBot.ManagerDesk.TicketCustody
import CrmBot.ManagerDesk.TicketHolders
import CrmBot.ClaimBuilder.PreparedEvents

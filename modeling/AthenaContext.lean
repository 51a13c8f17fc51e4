import AthenaContext.ActiveIndexUpdates
import AthenaContext.ArtifactRoundTrips
import AthenaContext.AuditHistories
import AthenaContext.AuthorityHistory
import AthenaContext.CanonicalExceptions
import AthenaContext.CanonicalJson
import AthenaContext.ChangeNormalization
import AthenaContext.ChangePersistence
import AthenaContext.CohortDecisionRecords
import AthenaContext.CohortDecisions
import AthenaContext.CollectedIncidents
import AthenaContext.ConditionalStores
import AthenaContext.ConditionalTables
import AthenaContext.ContextCalls
import AthenaContext.ContextMutations
import AthenaContext.ContextRecords
import AthenaContext.ContextStorage
import AthenaContext.ContextTransitions
import AthenaContext.ContractDocuments
import AthenaContext.ContractForms
import AthenaContext.ContractPatterns
import AthenaContext.ContradictoryRequirements
import AthenaContext.CorrelationConfidence
import AthenaContext.CorrelationConflicts
import AthenaContext.CorrelationContract
import AthenaContext.CorrelationDependency
import AthenaContext.CorrelationDigests
import AthenaContext.CorrelationEngine
import AthenaContext.CorrelationEnvelope
import AthenaContext.CorrelationEvidence
import AthenaContext.CorrelationIndex
import AthenaContext.CorrelationMatching
import AthenaContext.CorrelationNetworkChange
import AthenaContext.CorrelationRecords
import AthenaContext.CorrelationRules
import AthenaContext.CorrelationSelection
import AthenaContext.DecisionExclusivity
import AthenaContext.Dictionaries
import AthenaContext.DocumentDigests
import AthenaContext.DurableCommits
import AthenaContext.DurableLoading
import AthenaContext.DurablePartitions
import AthenaContext.DurableRecords
import AthenaContext.DurableSerializability
import AthenaContext.DurableTransactions
import AthenaContext.EvaluationAdministration
import AthenaContext.EvaluationAuthority
import AthenaContext.EvaluationCommits
import AthenaContext.EvaluationContract
import AthenaContext.EvaluationGuarantees
import AthenaContext.EvaluationProgress
import AthenaContext.EvaluationPublication
import AthenaContext.EvaluationRecords
import AthenaContext.EvaluationResults
import AthenaContext.EvaluationRuns
import AthenaContext.EventGridMessages
import AthenaContext.EventGridRedelivery
import AthenaContext.EventTimes
import AthenaContext.EvidenceRecords
import AthenaContext.FallibleResults
import AthenaContext.FaultReset
import AthenaContext.FeedArtifacts
import AthenaContext.FeedRegistryCounts
import AthenaContext.FeedRegistryRecords
import AthenaContext.FeedRegistryTable
import AthenaContext.GreedyMatchings
import AthenaContext.GregorianCalendar
import AthenaContext.GuidanceAdmission
import AthenaContext.GuidanceBudgets
import AthenaContext.GuidanceBundles
import AthenaContext.GuidanceCache
import AthenaContext.GuidancePublication
import AthenaContext.GuidanceWorkers
import AthenaContext.Histories
import AthenaContext.HullChains
import AthenaContext.HullClosures
import AthenaContext.IncidentAnchors
import AthenaContext.IncidentPublisher
import AthenaContext.IncidentReassessment
import AthenaContext.IncidentRecords
import AthenaContext.IndependentCorroboration
import AthenaContext.InstantTexts
import AthenaContext.IntervalChains
import AthenaContext.JsonSizes
import AthenaContext.JsonText
import AthenaContext.KeyedVersions
import AthenaContext.LinearLineages
import AthenaContext.NarrowingFolds
import AthenaContext.NotificationDelivery
import AthenaContext.NsgChainSearch
import AthenaContext.OrdinalCollections
import AthenaContext.PatchProposals
import AthenaContext.PolicyEvaluation
import AthenaContext.PolicyProofs
import AthenaContext.PolicyRecords
import AthenaContext.ProposalCalls
import AthenaContext.ProposalChallenges
import AthenaContext.ProposalDigests
import AthenaContext.ProposalGuarantees
import AthenaContext.ProposalHistories
import AthenaContext.ProposalRuns
import AthenaContext.ProposalSteps
import AthenaContext.PublishedEvaluations
import AthenaContext.PublishedLineage
import AthenaContext.RankedRepresentatives
import AthenaContext.ReassessmentRequests
import AthenaContext.RenderedResults
import AthenaContext.ReplayableMutations
import AthenaContext.ResidualRisk
import AthenaContext.ResourceIdentifiers
import AthenaContext.ResourceSelectors
import AthenaContext.ReviewedPublication
import AthenaContext.RoleExclusivity
import AthenaContext.RoleResolution
import AthenaContext.RollbackContent
import AthenaContext.SelectorDocuments
import AthenaContext.SelectorNarrowing
import AthenaContext.SharedTimestamps
import AthenaContext.SignalDetection
import AthenaContext.SignalDetector
import AthenaContext.SignalStateTable
import AthenaContext.SignedArtifacts
import AthenaContext.StagedDelivery
import AthenaContext.TextNormalization
import AthenaContext.ThresholdBounds
import AthenaContext.TimestampText
import AthenaContext.Transactions
import AthenaContext.TransitionNotifications
import AthenaContext.TransitionSystems
import AthenaContext.VersionedReads

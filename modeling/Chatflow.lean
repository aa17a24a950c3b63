import Chatflow.Channel.Call
import Chatflow.Conversation.Command
import Chatflow.Http.Service
import Chatflow.Journal
import Chatflow.Logging
import Chatflow.Proofs.AcceptedFlows
import Chatflow.Proofs.AcknowledgedDeliveries
import Chatflow.Proofs.AgentAssignments
import Chatflow.Proofs.AgentConversations
import Chatflow.Proofs.AgentMemory
import Chatflow.Proofs.BatchDeliveries
import Chatflow.Proofs.BreakerTraffic
import Chatflow.Proofs.CacheOutages
import Chatflow.Proofs.ChainedStarts
import Chatflow.Proofs.CompletedSessions
import Chatflow.Proofs.CompletionRequests
import Chatflow.Proofs.ConditionBranches
import Chatflow.Proofs.ConfirmedResets
import Chatflow.Proofs.ContactIsolation
import Chatflow.Proofs.DueBatches
import Chatflow.Proofs.FailedCalls
import Chatflow.Proofs.FailingRuns
import Chatflow.Proofs.FlowLookups
import Chatflow.Proofs.ForgottenCircuits
import Chatflow.Proofs.HandOffs
import Chatflow.Proofs.IdleWork
import Chatflow.Proofs.LastingInvariants
import Chatflow.Proofs.LastingRequests
import Chatflow.Proofs.LockQueues
import Chatflow.Proofs.LockRegistries
import Chatflow.Proofs.OncePerContact
import Chatflow.Proofs.PayloadLimits
import Chatflow.Proofs.PressedButtons
import Chatflow.Proofs.RacingWorkers
import Chatflow.Proofs.RateWindows
import Chatflow.Proofs.ReachableSteps
import Chatflow.Proofs.Readings
import Chatflow.Proofs.RepeatedDeliveries
import Chatflow.Proofs.ReplyRounds
import Chatflow.Proofs.ResolvedReplies
import Chatflow.Proofs.RotatorTurns
import Chatflow.Proofs.RunFrames
import Chatflow.Proofs.SavedSessions
import Chatflow.Proofs.StepLimits
import Chatflow.Proofs.StoredAddresses
import Chatflow.Proofs.TemplatePieces
import Chatflow.Proofs.TwinBreakers
import Chatflow.Proofs.UneventfulCalls
import Chatflow.Proofs.WeightedLots
import Chatflow.Proofs.WellFormedFlows
import Chatflow.Proofs.WrittenPayloads
import Chatflow.Rehearsal
import Chatflow.Service.Lifecycle
import Chatflow.Store.Command

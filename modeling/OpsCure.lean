import OpsCure.ActorTokens
import OpsCure.ApprovalGate
import OpsCure.Atomicity
import OpsCure.Attachments
import OpsCure.AutoDefer
import OpsCure.BodyLimit
import OpsCure.BulkClose
import OpsCure.CapabilityService
import OpsCure.ClaudeSessions
import OpsCure.CloseGates
import OpsCure.ClosedSessions
import OpsCure.CommandMirror
import OpsCure.DeltaSync
import OpsCure.DepthGuard
import OpsCure.DesignatedSpeaker
import OpsCure.DigestTotals
import OpsCure.Discovery
import OpsCure.DualWrite
import OpsCure.EventPages
import OpsCure.FailureBreaker
import OpsCure.FinalClose
import OpsCure.FinishedWork
import OpsCure.IdentityBinding
import OpsCure.IdleSweeps
import OpsCure.Invitations
import OpsCure.JobFencing
import OpsCure.JobOwnership
import OpsCure.KernelEvents
import OpsCure.LeaseFencing
import OpsCure.Maintenance
import OpsCure.MissedMessages
import OpsCure.NudgeWindows
import OpsCure.OperatorRole
import OpsCure.OrphanedTasks
import OpsCure.OverlookedMessages
import OpsCure.ProjectFinder
import OpsCure.ProjectFinds
import OpsCure.PushPull
import OpsCure.QuorumWindow
import OpsCure.ReadCursors
import OpsCure.ReadyQueue
import OpsCure.RecentEvents
import OpsCure.ReplyEdges
import OpsCure.ReplyRendering
import OpsCure.ResponseRouting
import OpsCure.RolloutRace
import OpsCure.RoundCap
import OpsCure.SequenceNumbers
import OpsCure.SpeechQuery
import OpsCure.StaleTasks
import OpsCure.StartOnce
import OpsCure.StateImage
import OpsCure.StatusCard
import OpsCure.StoredPolicy
import OpsCure.StreamOrder
import OpsCure.TaskNames
import OpsCure.TaskRollUp
import OpsCure.TaskWire
import OpsCure.ThreadSnapshot
import OpsCure.TrueReports
import OpsCure.UnreadCounts
import OpsCure.Verification
import OpsCure.WakeUps
import OpsCure.AuditTrail

import SpotSdk.Foundations.LabelledRuns
import SpotSdk.Common.ResponseProcessing
import SpotSdk.Lease.LeaseUseOutcome
import SpotSdk.Lease.LeaseClock
import SpotSdk.Foundations.LockedBlocks
import SpotSdk.Lease.WalletConcurrency
import SpotSdk.Lease.LeaseClient
import SpotSdk.Lease.WalletValidity
import SpotSdk.Lease.LeaseDelivery
import SpotSdk.Estop.EstopEndpoint
import SpotSdk.Foundations.WordNarrowing
import SpotSdk.Estop.EstopChallenge
import SpotSdk.Estop.CheckInReports
import SpotSdk.MessagePump.CallMachines
import SpotSdk.MessagePump.CallRuns
import SpotSdk.MessagePump.CallCorrectness
import SpotSdk.MessagePump.PumpShutdown
import SpotSdk.Foundations.ParentForest
import SpotSdk.Frames.FrameTree
import SpotSdk.Frames.Reparent
import SpotSdk.Frames.TreeValidation
import SpotSdk.Frames.RelativePoses
import SpotSdk.DataChunk.DataChunking
import SpotSdk.Lease.LeaseProcessors
import SpotSdk.GraphNav.GraphUpload
import SpotSdk.DataChunk.ChunkCompletions
import SpotSdk.Docking.BlockingDock
import SpotSdk.Docking.DockCancellation
import SpotSdk.Estop.EstopKeepAlive
import SpotSdk.Estop.StopLevelWait
import SpotSdk.Robot.RefreshLiveness
import SpotSdk.Robot.TimeSyncLifetime
import SpotSdk.Robot.TokenOwnership
import SpotSdk.Robot.TokenWatch
import SpotSdk.Frames.PoseInterpolation
import SpotSdk.TimeSync.TimeSyncEndpoint
import SpotSdk.TimeSync.TimeSyncAgreement
import SpotSdk.TimeSync.EstimateRequests
import SpotSdk.TimeSync.CommandStamps
import SpotSdk.TimeSync.ThreadLifecycle
import SpotSdk.ErrorCodes.RetError
import SpotSdk.MessagePump.ShutdownQuiet
import SpotSdk.Robot.ServiceClients
import SpotSdk.ErrorCodes.ErrorMessages
import SpotSdk.ErrorCodes.ErrorContracts
import SpotSdk.Foundations.BackOff
import SpotSdk.KeepAlive.DirectoryRegistration
import SpotSdk.KeepAlive.RegistrationFaults
import SpotSdk.KeepAlive.PayloadRegistration
import SpotSdk.KeepAlive.RetryBackOff
import SpotSdk.Lease.LeaseOrder
import SpotSdk.Frames.EdgePoses
import SpotSdk.Foundations.OrderedMap
import SpotSdk.Lease.LeaseRequests
import SpotSdk.Lease.ResourceHierarchy
import SpotSdk.Frames.Adjoints
import SpotSdk.Frames.PlanarPoses
import SpotSdk.Frames.VelocityFrames
import SpotSdk.MessagePump.CallInitiation
import SpotSdk.Power.PollingLoop
import SpotSdk.Power.PowerHelpers
import SpotSdk.TimeSync.TimeConversions
import SpotSdk.Common.RateLimiter
import SpotSdk.RobotCommand.CommandEndTimes
import SpotSdk.RobotCommand.SynchroCommands
import SpotSdk.Common.StatusClassification
import SpotSdk.Estop.EndpointAdoption
import SpotSdk.Robot.RefreshErrors
import SpotSdk.Foundations.TurnLoops
import SpotSdk.RobotCommand.FeedbackPolling
import SpotSdk.Robot.EnsureChannel
import SpotSdk.Robot.ChannelHistory
import SpotSdk.Robot.PromisedChannels
import SpotSdk.RobotCommand.FeedbackDecisions
import SpotSdk.ErrorCodes.ReverseAndMove
import SpotSdk.ErrorCodes.ContextMessages
import SpotSdk.Common.StripBytesFields
import SpotSdk.Common.HeaderHandling
import SpotSdk.DataBuffer.SignalSchemaKey
import SpotSdk.Robot.ServiceWait
import SpotSdk.Lease.RetainTurns
import SpotSdk.KeepAlive.StoppedThreads
import SpotSdk.Frames.PlanarFrames
import SpotSdk.Estop.ReportedStatus
import SpotSdk.Frames.TreeGrowth
import SpotSdk.Frames.UnitRotations
import SpotSdk.TimeSync.UpdatePacing
import SpotSdk.Frames.TurnAngles
import SpotSdk.Frames.EulerAngles
import SpotSdk.Robot.SdkSession
import SpotSdk.RobotCommand.BodyGoals
import SpotSdk.Foundations.ScopedPrograms
import SpotSdk.ErrorCodes.ContextScopes

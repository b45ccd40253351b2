import DevCommandCenter.Composer.Launches
import DevCommandCenter.Delegation.ApplyAndRemoval
import DevCommandCenter.Delegation.ApplyRetry
import DevCommandCenter.Device.Stream
import DevCommandCenter.DiffView.FileDiff
import DevCommandCenter.DiffView.Gaps
import DevCommandCenter.DiffView.Rows
import DevCommandCenter.DiffView.SplitRows
import DevCommandCenter.FileView.EditBuffer
import DevCommandCenter.FileView.LineCommands
import DevCommandCenter.FileView.MoveBack
import DevCommandCenter.FileView.MoveLines
import DevCommandCenter.FileView.SelectedLines
import DevCommandCenter.FileView.TextLines
import DevCommandCenter.FileView.UndoRuns
import DevCommandCenter.GuardedUndo.AllOrNothing
import DevCommandCenter.GuardedUndo.ArtifactStore
import DevCommandCenter.GuardedUndo.CaptureRace
import DevCommandCenter.GuardedUndo.CaptureStages
import DevCommandCenter.GuardedUndo.CoordinatorExclusion
import DevCommandCenter.GuardedUndo.ManifestEncoding
import DevCommandCenter.GuardedUndo.OrphanRecovery
import DevCommandCenter.GuardedUndo.PlannedChain
import DevCommandCenter.GuardedUndo.TrackedManifest
import DevCommandCenter.GuardedUndo.TrackedRecords
import DevCommandCenter.GuardedUndo.TurnReceipts
import DevCommandCenter.GuardedUndo.TurnUndo
import DevCommandCenter.Library.Framing
import DevCommandCenter.Library.PrefixCode
import DevCommandCenter.Library.Replace
import DevCommandCenter.Library.Text
import DevCommandCenter.MergeConflict.Blocks
import DevCommandCenter.Mobile.RewoundThread
import DevCommandCenter.Mobile.ThreadSyncRuns
import DevCommandCenter.Mobile.Triage
import DevCommandCenter.Pairing.DeviceInvariants
import DevCommandCenter.Provider.DeltaCoalescer
import DevCommandCenter.Provider.Handoff
import DevCommandCenter.Provider.HandoffBudget
import DevCommandCenter.Provider.TransitionLocks
import DevCommandCenter.Relay.LateClose
import DevCommandCenter.Remote.Bodies
import DevCommandCenter.Remote.NoiseAgreement
import DevCommandCenter.Remote.PairingLinks
import DevCommandCenter.Remote.ResumeCursor
import DevCommandCenter.Remote.SecureChannel
import DevCommandCenter.Remote.Sse
import DevCommandCenter.RemoteHub.OwnApproval
import DevCommandCenter.Requests.FirstAnswer
import DevCommandCenter.Requests.OneAnswer
import DevCommandCenter.Rewind.Frontier
import DevCommandCenter.Search.RewoundSearch
import DevCommandCenter.Session.BoundedBlock
import DevCommandCenter.Session.CanonicalLog
import DevCommandCenter.Session.CompactedCursor
import DevCommandCenter.Session.HistoryScope
import DevCommandCenter.Session.KeepAwake
import DevCommandCenter.Session.Objective
import DevCommandCenter.Session.ObjectiveBlock
import DevCommandCenter.Session.OneFate
import DevCommandCenter.Session.QueueRaces
import DevCommandCenter.Session.StrandedTurns
import DevCommandCenter.Session.SummaryCache
import DevCommandCenter.Terminal.Agreement
import DevCommandCenter.Terminals.OneShell
import DevCommandCenter.Terminals.Output
import DevCommandCenter.TextArea.Runs
import DevCommandCenter.Timeline.CompactedTimeline
import DevCommandCenter.Timeline.OneRow
import DevCommandCenter.Timeline.OpenPermissions
import DevCommandCenter.Timeline.ToolResults
import DevCommandCenter.UsageLimit.PlannedResumes
import DevCommandCenter.UsageLimit.ResumeCap
import DevCommandCenter.UsageLimit.ResumePlanner

import Fidget.Core.ScpRegistry
import Fidget.Core.ScpProfile
import Fidget.Lib.WritePlan
import Fidget.Core.ScpTransactionPlan
import Fidget.Core.ScpTransactionPlan.Verified
import Fidget.Core.ScpTransactionPlan.Startup
import Fidget.Core.ControllerEndpoint
import Fidget.Core.RecoveryJournal.Record
import Fidget.Core.RecoveryJournalV5
import Fidget.Core.RecoveryJournalV5.Verified
import Fidget.Core.RecoveryJournal
import Fidget.Core.RecoveryJournal.Verified
import Fidget.Core.StreamDecoder
import Fidget.Core.StreamDecoder.Chunking
import Fidget.Core.StreamDecoder.Ethernet
import Fidget.Hardware.Bench
import Fidget.Hardware.ScpCapture
import Fidget.Lib.GuardedLoop
import Fidget.Hardware.ScpCapture.Verified
import Fidget.Hardware.ScpBulkApply
import Fidget.Hardware.ScpBulkApply.Verified
import Fidget.Hardware.ScpBulkApply.Selector
import Fidget.Hardware.DiagnosticAcquisition
import Fidget.Hardware.DiagnosticPreview
import Fidget.Hardware.DiagnosticPreview.Recovery
import Fidget.Core.BridgeProtocol
import Fidget.Core.BridgeProtocol.Chunking
import Fidget.Lib.FloatText
import Fidget.Core.MvmeWorkspace
import Fidget.Core.MvmeInitScript.Lines
import Fidget.Core.MvmeInitScript
import Fidget.Core.GeneratedScript
import Fidget.Core.MvmeExport
import Fidget.Core.MvmeWorkspaceExport
import Fidget.Hardware.ScriptExecution
import Fidget.Hardware.ScriptExecution.Profile
import Fidget.Hardware.ScriptExecution.Literal
import Fidget.Core.RecoveryJournal.Install
import Fidget.Core.MvmeInitScript.Effects
import Fidget.Core.MvmeInitScript.Rollback
import Fidget.Core.MvmeWorkspace.InitScripts
import Fidget.Core.MvmeInitScript.Located
import Fidget.Core.MvmeInitScript.Attribution
import Fidget.Core.MvmeInitScript.Generated
import Fidget.Hardware.ScriptExecution.Evaluation
import Fidget.Hardware.ScriptExecution.RoundTrip
import Fidget.Core.MvmeWorkspaceExport.Copy
import Fidget.Core.MvmeInitScript.Conditional
import Fidget.Hardware.ScriptExecution.WorkspaceCopy
import Fidget.Core.RecoveryJournalV5.WriteAhead
import Fidget.Lib.EventLog
import Fidget.Hardware.Crate
import Fidget.Hardware.DiagnosticSource
import Fidget.Hardware.DiagnosticSource.WayBack
import Fidget.Hardware.DiagnosticAcquisition.Stop
import Fidget.Hardware.DiagnosticAcquisition.Stopped
import Fidget.Hardware.DiagnosticAcquisition.Start
import Fidget.Hardware.DiagnosticAcquisition.Journaled
import Fidget.Core.VmeProtocol
import Fidget.Core.RecoveryVerification
import Fidget.Hardware.DiagnosticAcquisition.Fingerprint
import Fidget.Lib.NumberedHistory
import Fidget.Lib.PartialOutcome
import Fidget.Hardware.VmeTransaction
import Fidget.Hardware.VmeTransaction.Interval
import Fidget.Hardware.VmeTransaction.Session
import Fidget.Hardware.PreparationSession
import Fidget.Hardware.TargetProbe
import Fidget.Hardware.ScpCapture.Rules
import Fidget.Hardware.PrepareTuningSession
import Fidget.Hardware.PrepareTuningSession.Accounted
import Fidget.Hardware.StartupPreparation
import Fidget.Hardware.StartupPreparation.Verified
import Fidget.Hardware.StartupPreparation.Undone
import Fidget.Hardware.DeterministicStartup
import Fidget.Hardware.ScpBulkApply.Confined
import Fidget.Hardware.DeterministicStartup.Verified
import Fidget.Lib.CallTrace
import Fidget.Hardware.SentWrites
import Fidget.Hardware.DiagnosticPreview.Parking
import Fidget.Hardware.DiagnosticSource.Parking
import Fidget.Hardware.ScpSingleRepair
import Fidget.Hardware.ScpSingleRepair.Parking
import Fidget.Hardware.ScpCapture.Parking
import Fidget.Hardware.ScpBulkApply.Parking
import Fidget.Hardware.SelectorTransactions
import Fidget.Hardware.ScpCapture.Events
import Fidget.Hardware.ScpCapture.Safe
import Fidget.Core.VmeProtocol.LocalReads
import Fidget.Hardware.ScpSingleRepair.Verified
import Fidget.Core.StreamDecoder.Reached
import Fidget.Core.MvmeInitScript.PartialOperations
import Fidget.Core.MvmeInitScript.SourceLines
import Fidget.Core.MvmeInitScript.NonInterference
import Fidget.Core.MvmeInitScript.Execution
import Fidget.Core.MvmeWorkspaceExport.Fence
import Fidget.Core.MvmeWorkspaceExport.Identifiers
import Fidget.Hardware.ScriptExecution.CopiedDocument
import Fidget.Hardware.BridgeLink.Delivered
import Fidget.Core.ScpTransactionPlan.Reapplied

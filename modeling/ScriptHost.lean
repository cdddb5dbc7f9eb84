import ScriptHost.Engine.Recording
import ScriptHost.Engine.Traced
import ScriptHost.Main
import ScriptHost.Proofs.ArenaAccounts
import ScriptHost.Proofs.ArenaHandles
import ScriptHost.Proofs.CallOrder
import ScriptHost.Proofs.ConfigDelivery
import ScriptHost.Proofs.FileWrites
import ScriptHost.Proofs.FirstLine
import ScriptHost.Proofs.HiddenFiles
import ScriptHost.Proofs.HistoryReload
import ScriptHost.Proofs.HistorySaves
import ScriptHost.Proofs.HistoryVisits
import ScriptHost.Proofs.HookEffects
import ScriptHost.Proofs.HostMemory
import ScriptHost.Proofs.HostReports
import ScriptHost.Proofs.IniBlock
import ScriptHost.Proofs.IniLines
import ScriptHost.Proofs.LibraryDiscovery
import ScriptHost.Proofs.LifecycleCalls
import ScriptHost.Proofs.LifecycleSteps
import ScriptHost.Proofs.LiveStrings
import ScriptHost.Proofs.Lockstep
import ScriptHost.Proofs.LoopSteps
import ScriptHost.Proofs.PathJoin
import ScriptHost.Proofs.PercentRuns
import ScriptHost.Proofs.PhaseMoves
import ScriptHost.Proofs.ProgramEnds
import ScriptHost.Proofs.RecordMembers
import ScriptHost.Proofs.RecorderStandsIn
import ScriptHost.Proofs.RefusedOperations
import ScriptHost.Proofs.ReplCalls
import ScriptHost.Proofs.ReplErrors
import ScriptHost.Proofs.ReplRun
import ScriptHost.Proofs.RequestActions
import ScriptHost.Proofs.RequestCalls
import ScriptHost.Proofs.SettingsArrays
import ScriptHost.Proofs.SettingsObjects
import ScriptHost.Proofs.Splitting
import ScriptHost.Proofs.StringRelease
import ScriptHost.Proofs.StringStock
import ScriptHost.Proofs.TextBytes
import ScriptHost.Proofs.WriterOffers
import ScriptHost.Session

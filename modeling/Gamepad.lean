import Gamepad.Main
import Gamepad.Proofs.BoundedQueue
import Gamepad.Proofs.HostRun
import Gamepad.Proofs.KeyStream
import Gamepad.Proofs.RecordedBus
import Gamepad.Proofs.RecordedRun
import Gamepad.Proofs.Slots
import Gamepad.Proofs.StaleHandles
import Gamepad.Proofs.ReplayReads
import Gamepad.Proofs.ReplayRun
import Gamepad.Proofs.TransferDiscipline
import Gamepad.Proofs.PlainConsole
import Gamepad.Proofs.ConsoleRefinement
import Gamepad.Proofs.ConfiguredBindings
import Gamepad.Proofs.RefusedLines
import Gamepad.Proofs.RegisteredSources
import Gamepad.Proofs.SessionIsolation
import Gamepad.Proofs.FiredControls
import Gamepad.Proofs.SilentReports
import Gamepad.Proofs.Standing
import Gamepad.Proofs.KeysAside
import Gamepad.Proofs.PlainChanges
import Gamepad.Proofs.FreshDevices
import Gamepad.Proofs.ScriptCalls
import Gamepad.Proofs.ServedSessions
import Gamepad.Proofs.QueueRuns
import Gamepad.Proofs.KeyCells
import Gamepad.Proofs.FiringOrder
import Gamepad.Proofs.PadTracking
import Gamepad.Proofs.TomlTexts
import Gamepad.Proofs.TomlValues
import Gamepad.Proofs.TomlDocuments
import Gamepad.Proofs.ConfigurationDocuments
import Gamepad.Proofs.SavedConfigurations
import Gamepad.Proofs.Attachments
import Gamepad.Proofs.Teardown
import Gamepad.Proofs.ReplayHistory
import Gamepad.Proofs.Numerals
import Gamepad.Proofs.WordLayout
import Gamepad.Proofs.BindingGrammar
import Gamepad.Proofs.BindingRuns
import Gamepad.Proofs.TypedBindings
import Gamepad.Proofs.BindingCalls
import Gamepad.Proofs.PackedReports
import Gamepad.Proofs.StickDirections
import Gamepad.Proofs.ReportFields
import Gamepad.Proofs.PollLines

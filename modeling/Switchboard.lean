import Switchboard.Frontend.Session
import Switchboard.LogSetup
import Switchboard.Machine.Reading
import Switchboard.Settings.Store
import Switchboard.Proofs.Registry.Run
import Switchboard.Proofs.Registry.Coherence
import Switchboard.Proofs.Registry.Exclusion
import Switchboard.Proofs.Registry.Ownership
import Switchboard.Proofs.Registry.Restart
import Switchboard.Proofs.Registry.Stamps
import Switchboard.Proofs.Registry.Lifecycle
import Switchboard.Proofs.Registry.FirstMapping
import Switchboard.Proofs.Watchdog.Memory
import Switchboard.Proofs.Watchdog.Patrol
import Switchboard.Proofs.Watchdog.Episodes
import Switchboard.Proofs.Traffic.Desk
import Switchboard.Proofs.Traffic.Run
import Switchboard.Proofs.Traffic.Accounting
import Switchboard.Proofs.Frontend.Keeps
import Switchboard.Proofs.Frontend.Requests
import Switchboard.Proofs.Frontend.Drains
import Switchboard.Proofs.Frontend.Acts
import Switchboard.Proofs.Frontend.Warnings
import Switchboard.Proofs.Frontend.DroppedQueues
import Switchboard.Proofs.Frontend.Commands
import Switchboard.Proofs.Workplace.Run
import Switchboard.Proofs.Traffic.Handlers
import Switchboard.Proofs.Traffic.Drains
import Switchboard.Proofs.Traffic.Session
import Switchboard.Proofs.Duration.RoundTrip
import Switchboard.Proofs.Toml.Quoting
import Switchboard.Proofs.Toml.Lines
import Switchboard.Proofs.Toml.Tables
import Switchboard.Proofs.Settings.RoundTrip
import Switchboard.Proofs.Workplace.InOrder
import Switchboard.Proofs.Workplace.Dialogs
import Switchboard.Proofs.Workplace.Session
import Switchboard.Proofs.Workplace.History
import Switchboard.Proofs.Frontend.Executions
import Switchboard.Proofs.Traffic.FirstMapping
import Switchboard.Proofs.Registry.Recovery
import Switchboard.Proofs.Traffic.LastSender
import Switchboard.Proofs.Registry.Reordering
import Switchboard.Proofs.Traffic.Reordering
import Switchboard.Proofs.Files.Path
import Switchboard.Proofs.Files.Tree
import Switchboard.Proofs.Settings.Store
import Switchboard.Proofs.Registry.Slots
import Switchboard.Proofs.Frontend.StallReports
import Switchboard.Proofs.Watchdog.Samples
import Switchboard.Proofs.Frontend.Undelivered
import Switchboard.Proofs.Registry.Finishing
import Switchboard.Proofs.Registry.Independence
import Switchboard.Proofs.Registry.Newcomers
import Switchboard.Proofs.Frontend.Subsystems
import Switchboard.Proofs.Registry.Capacity
import Switchboard.Proofs.Frontend.Names
import Switchboard.Proofs.Toml.DistinctKeys
import Switchboard.Proofs.Settings.Keys
import Switchboard.Proofs.Frontend.Calls
import Switchboard.Proofs.Frontend.AtRest
import Switchboard.Proofs.Workplace.Resets

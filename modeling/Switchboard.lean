import Switchboard.Checked
import Switchboard.Data.Table
import Switchboard.Duty
import Switchboard.Gpio.Backend
import Switchboard.Gpio.Character
import Switchboard.Gpio.Subscription
import Switchboard.Gpio.Waiting
import Switchboard.Json.Printer
import Switchboard.Json.Reader
import Switchboard.Log.Filter
import Switchboard.Main
import Switchboard.Number.Layout
import Switchboard.Program
import Switchboard.Report.File
import Switchboard.Rig
import Switchboard.Shown
import Switchboard.Startup
import Switchboard.Store.Tables
import Switchboard.Proofs.Claims
import Switchboard.Proofs.Pins
import Switchboard.Proofs.Deeds
import Switchboard.Proofs.LatchedStop
import Switchboard.Proofs.Marks
import Switchboard.Proofs.MaximumOn
import Switchboard.Proofs.MinimumOff
import Switchboard.Proofs.Moves
import Switchboard.Proofs.Energised
import Switchboard.Proofs.Exclusion
import Switchboard.Proofs.Runs
import Switchboard.Proofs.Parts
import Switchboard.Proofs.PendingPulse
import Switchboard.Proofs.StalePulse
import Switchboard.Proofs.OnPeriod
import Switchboard.Proofs.MinimumOn
import Switchboard.Proofs.PulseEnd
import Switchboard.Proofs.Truthful
import Switchboard.Proofs.Refusal
import Switchboard.Proofs.Accounts
import Switchboard.Proofs.WallClock
import Switchboard.Proofs.StartupPins
import Switchboard.Proofs.SwitchOff
import Switchboard.Proofs.Interference
import Switchboard.Proofs.StartupStore
import Switchboard.Proofs.Restart
import Switchboard.Proofs.Touches
import Switchboard.Proofs.InStep
import Switchboard.Proofs.GivenUp
import Switchboard.Proofs.ClaimHistory
import Switchboard.Proofs.Overflow
import Switchboard.Proofs.RealDuty
import Switchboard.Proofs.DutyBounds
import Switchboard.Proofs.PinConflict
import Switchboard.Proofs.RecordMap
import Switchboard.Proofs.StateRows
import Switchboard.Proofs.StoredValues
import Switchboard.Proofs.EdgeStream
import Switchboard.Proofs.OrderlyStop
import Switchboard.Proofs.Creation
import Switchboard.Proofs.Counters
import Switchboard.Proofs.Panics
import Switchboard.Proofs.CheckedCounters
import Switchboard.Proofs.GateForecast
import Switchboard.Proofs.Readback
import Switchboard.Proofs.AgeClass
import Switchboard.Proofs.SlicedWait

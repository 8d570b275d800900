import HomeEnergy.Main
import HomeEnergy.Pin
import HomeEnergy.Program.Rehearsal
import HomeEnergy.Proofs.Controller.FailSafe
import HomeEnergy.Proofs.Controller.Pace
import HomeEnergy.Proofs.Controller.Replay
import HomeEnergy.Proofs.Wire.Framing
import HomeEnergy.Proofs.House.Operations
import HomeEnergy.Proofs.Wire.Delivery
import HomeEnergy.Proofs.House.Commands
import HomeEnergy.Proofs.Controller.CutShort
import HomeEnergy.Proofs.Controller.Accounts
import HomeEnergy.Proofs.House.Steering
import HomeEnergy.Proofs.House.Outputs
import HomeEnergy.Proofs.Panel.Cells
import HomeEnergy.Proofs.Panel.Redraw
import HomeEnergy.Proofs.House.StatusRow
import HomeEnergy.Proofs.House.Summary
import HomeEnergy.Proofs.Controller.Embedding
import HomeEnergy.Proofs.Button.FlakyPin
import HomeEnergy.Proofs.Config.Guards
import HomeEnergy.Proofs.Wire.Parsing
import HomeEnergy.Proofs.Program.Samples
import HomeEnergy.Proofs.Clock.TrueTime
import HomeEnergy.Proofs.House.Charging
import HomeEnergy.Proofs.House.Settling
import HomeEnergy.Proofs.Text.Literals
import HomeEnergy.Proofs.House.Levels
import HomeEnergy.Proofs.Controller.WindButton
import HomeEnergy.Proofs.House.Resuming
import HomeEnergy.Proofs.Panel.Layout
import HomeEnergy.Proofs.House.Targets
import HomeEnergy.Proofs.Wire.Telemetry
import HomeEnergy.Proofs.Panel.Slots
import HomeEnergy.Proofs.Options.Language
import HomeEnergy.Proofs.Controller.Idling
import HomeEnergy.Proofs.House.ChargeGlyph
import HomeEnergy.Proofs.Wire.Samples
import HomeEnergy.Proofs.Csv
import HomeEnergy.Proofs.Panel.Buffer

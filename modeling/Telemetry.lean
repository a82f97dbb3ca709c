import Telemetry.Config.Json
import Telemetry.Main
import Telemetry.Point.Series
import Telemetry.Proofs.CommandLine.ForcedTag
import Telemetry.Proofs.Config.Identity
import Telemetry.Proofs.Entity.Forced
import Telemetry.Proofs.Entity.Site
import Telemetry.Proofs.Fleet.Boot
import Telemetry.Proofs.Fleet.Delivery
import Telemetry.Proofs.Fleet.Drain
import Telemetry.Proofs.Fleet.Identity
import Telemetry.Proofs.Fleet.Interleaving
import Telemetry.Proofs.Fleet.Pick
import Telemetry.Proofs.Fleet.Requirements
import Telemetry.Proofs.Fleet.Turns
import Telemetry.Proofs.Fleet.Uptime
import Telemetry.Proofs.Generator.Capacity
import Telemetry.Proofs.Generator.Moves
import Telemetry.Proofs.Generator.Totals
import Telemetry.Proofs.Grid.Cells
import Telemetry.Proofs.Grid.Times
import Telemetry.Proofs.Output.Exchange
import Telemetry.Proofs.Point.Reading
import Telemetry.Proofs.Point.Structure
import Telemetry.Proofs.Random.Layout
import Telemetry.Proofs.Template.Limit
import Telemetry.Proofs.Template.Normal

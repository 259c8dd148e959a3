import DesiredState.Catalog.Samples
import DesiredState.CommandLine
import DesiredState.Device.CallLog
import DesiredState.Main
import DesiredState.Proofs.Attributes.History
import DesiredState.Proofs.Catalog.Dangling
import DesiredState.Proofs.Catalog.Frame
import DesiredState.Proofs.Catalog.Globals.RoundTrip
import DesiredState.Proofs.Catalog.LogEndpoint
import DesiredState.Proofs.Catalog.LogicalNames
import DesiredState.Proofs.Catalog.NatPool.PortRange
import DesiredState.Proofs.Catalog.NatPool.RoundTrip
import DesiredState.Proofs.Catalog.Provisioning.Level
import DesiredState.Proofs.Catalog.Provisioning.Reboot
import DesiredState.Proofs.Catalog.Repetition
import DesiredState.Proofs.Catalog.Resumption
import DesiredState.Proofs.Catalog.Spelling
import DesiredState.Proofs.Catalog.Target
import DesiredState.Proofs.Catalog.Termination
import DesiredState.Proofs.Catalog.Virtual.Destination
import DesiredState.Proofs.Catalog.Virtual.Repetition
import DesiredState.Proofs.Conversation
import DesiredState.Proofs.Device.Issued
import DesiredState.Proofs.Json.RoundTrip
import DesiredState.Proofs.Pass.Arrangement
import DesiredState.Proofs.Pass.Course
import DesiredState.Proofs.Pass.Creation
import DesiredState.Proofs.Pass.DryRun
import DesiredState.Proofs.Pass.Minutes
import DesiredState.Proofs.Pass.Setback
import DesiredState.Proofs.Pass.Success
import DesiredState.Proofs.Schema.Dangling
import DesiredState.Proofs.Schema.Exactness
import DesiredState.Proofs.Schema.Order
import DesiredState.Proofs.Schema.RoundTrip
import DesiredState.Proofs.Schema.Want
import DesiredState.Proofs.Schema.Wire
import DesiredState.Proofs.Wait
import DesiredState.Proofs.Wait.Allowance
import DesiredState.Proofs.Wait.Deadline
import DesiredState.Proofs.Wait.Outage

import BuildWatch.Main
import BuildWatch.Proofs.Client.BaseAddress
import BuildWatch.Proofs.Client.Frames
import BuildWatch.Proofs.Client.Requests
import BuildWatch.Proofs.Client.Taxonomy
import BuildWatch.Proofs.Command.Printing
import BuildWatch.Proofs.Command.Reporting
import BuildWatch.Proofs.Follow.Agreement
import BuildWatch.Proofs.Follow.Closing
import BuildWatch.Proofs.Follow.DeepLink
import BuildWatch.Proofs.Follow.Entering
import BuildWatch.Proofs.Follow.Flags
import BuildWatch.Proofs.Follow.LastOpen
import BuildWatch.Proofs.Follow.ListOnScreen
import BuildWatch.Proofs.Follow.Loading
import BuildWatch.Proofs.Follow.Screen
import BuildWatch.Proofs.Follow.Setbacks
import BuildWatch.Proofs.Follow.Streaming
import BuildWatch.Proofs.Rehearsal.Halting
import BuildWatch.Proofs.Rehearsal.Polling
import BuildWatch.Proofs.Terminal.Histories
import BuildWatch.Proofs.View.Independence
import BuildWatch.Proofs.View.Publishing
import BuildWatch.Proofs.Wire.Lossless
import BuildWatch.Proofs.Wire.RoundTrip
import BuildWatch.Proofs.Wire.SettingsFile
import BuildWatch.Proofs.Wire.Tolerance
import BuildWatch.Rehearsal.Probe
import BuildWatch.Rehearsal.Scenario
import BuildWatch.Signal

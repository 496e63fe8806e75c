import Wordwalk.CommandLine.Run
import Wordwalk.Main
import Wordwalk.Proofs.Disk.Enumerate
import Wordwalk.Proofs.Operation.Replace
import Wordwalk.Proofs.Replacement
import Wordwalk.Proofs.Walk.Ignore
import Wordwalk.Proofs.Operation.Stop
import Wordwalk.Proofs.Text.Blanks
import Wordwalk.Proofs.Replacement.Twice
import Wordwalk.Proofs.CommandLine.Effect
import Wordwalk.Proofs.Operation.Reach
import Wordwalk.Proofs.Operation.DryRun
import Wordwalk.Proofs.Walk.Distinct
import Wordwalk.Proofs.Operation.Count
import Wordwalk.Proofs.Operation.Found
import Wordwalk.Proofs.Replacement.Parting
import Wordwalk.Proofs.Operation.Again
import Wordwalk.Proofs.Walk.Hidden
import Wordwalk.Proofs.CommandLine.Flags
import Wordwalk.Proofs.CommandLine.Settings
import Wordwalk.Proofs.Replacement.Rejoined
import Wordwalk.Proofs.Text.Cut
import Wordwalk.Proofs.Operation.Progress
import Wordwalk.Proofs.Operation.Tally
import Wordwalk.Proofs.CommandLine.Agreement
import Wordwalk.Proofs.Text.Spacing
import Wordwalk.Proofs.Text.Joined
import Wordwalk.Proofs.Operation.Lines
import Wordwalk.Proofs.Operation.Status
import Wordwalk.Proofs.Replacement.Valid
import Wordwalk.Proofs.Walk.Tour
import Wordwalk.Proofs.Walk.Cancel
import Wordwalk.Proofs.Walk.Ends
import Wordwalk.Proofs.Walk.Root
import Wordwalk.Proofs.Walk.Faults
import Wordwalk.Proofs.Walk.Patterns
import Wordwalk.Proofs.Failure
import Wordwalk.Proofs.Settings.Json

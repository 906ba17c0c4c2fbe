import DeltaLint.Main
import DeltaLint.Pattern.Language
import DeltaLint.Proofs.Git.Blame
import DeltaLint.Proofs.Job
import DeltaLint.Proofs.Selection
import DeltaLint.Proofs.Visit
import DeltaLint.Proofs.Run
import DeltaLint.Proofs.Git.Quoting
import DeltaLint.Proofs.Pattern.Hole
import DeltaLint.Proofs.Pattern.Length
import DeltaLint.Proofs.Pattern.EscapeHole
import DeltaLint.Proofs.Pattern.GroupHole
import DeltaLint.Proofs.Pattern.ClassHole
import DeltaLint.Proofs.Pattern.ClassAlike
import DeltaLint.Proofs.Pattern.TokenHole
import DeltaLint.Proofs.Pattern.Tokens
import DeltaLint.Proofs.Pattern.Nesting
import DeltaLint.Proofs.LineFilter
import DeltaLint.Proofs.Accepted
import DeltaLint.Proofs.Pattern.Modes
import DeltaLint.Proofs.Linting
import DeltaLint.Proofs.Preparation
import DeltaLint.Proofs.Stopping
import DeltaLint.Proofs.Aborted
import DeltaLint.Proofs.Report.Json
import DeltaLint.Proofs.Membership
import DeltaLint.Proofs.Registry
import DeltaLint.Proofs.Comments
import DeltaLint.Proofs.Config
import DeltaLint.Proofs.Hint
import DeltaLint.Proofs.Coverage
import DeltaLint.Proofs.Named
import DeltaLint.Proofs.Tracked
import DeltaLint.Proofs.Narrowing
import DeltaLint.Proofs.Sandbox.Tree
import DeltaLint.Proofs.Pattern.Literal
import DeltaLint.Proofs.Pattern.Footprint
import DeltaLint.Proofs.Tagged
import DeltaLint.Proofs.Git.Porcelain
import DeltaLint.Proofs.Git.Spelling
import DeltaLint.Proofs.Git.Status
import DeltaLint.Proofs.Root
import DeltaLint.Proofs.Extension
import DeltaLint.Proofs.Silence
import DeltaLint.Proofs.Report.JsonText
import DeltaLint.Proofs.Decoding
import DeltaLint.Proofs.Projection
import DeltaLint.Proofs.CommandLine
import DeltaLint.Proofs.Shown
import DeltaLint.Proofs.Expansion
import DeltaLint.Proofs.Report.Style
import DeltaLint.Proofs.Alike
import DeltaLint.Proofs.Colour

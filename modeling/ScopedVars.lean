import ScopedVars.Main
import ScopedVars.Program
import ScopedVars.Proofs.Toml.Multiline
import ScopedVars.Store.Memory
import ScopedVars.Store.Wrapped
import ScopedVars.Proofs.Toml.Written
import ScopedVars.Proofs.Toml.RoundTrip
import ScopedVars.Proofs.Running
import ScopedVars.Proofs.Store.Persistence
import ScopedVars.Proofs.Store.Refinement
import ScopedVars.Proofs.Attempts
import ScopedVars.Proofs.Session.Turns
import ScopedVars.Proofs.Session.Replay
import ScopedVars.Proofs.Session.Ending
import ScopedVars.Proofs.Store.Correspondence
import ScopedVars.Proofs.Session.Correspondence
import ScopedVars.Proofs.Session.Flags
import ScopedVars.Proofs.Store.Stages
import ScopedVars.Proofs.Store.Recording
import ScopedVars.Proofs.Commands.Failing
import ScopedVars.Proofs.Commands.Frame
import ScopedVars.Proofs.Session.Operands
import ScopedVars.Proofs.Settings.RoundTrip
import ScopedVars.Proofs.Session.Keys
import ScopedVars.Proofs.Commands.Grammar
import ScopedVars.Proofs.Store.Limits
import ScopedVars.Proofs.Commands.Reports
import ScopedVars.Proofs.FileTree.Growth
import ScopedVars.Proofs.FileTree.Store
import ScopedVars.Proofs.Program.Courses
import ScopedVars.Proofs.Program.Confinement
import ScopedVars.Proofs.Program.ExitStatus
import ScopedVars.Proofs.Store.Rewriting
import ScopedVars.Proofs.Store.Changes
import ScopedVars.Proofs.Store.Overwriting
import ScopedVars.Proofs.Commands.Appending
import ScopedVars.Proofs.Commands.DryRuns
import ScopedVars.Proofs.Expansion
import ScopedVars.Proofs.Settings.Loading
import ScopedVars.Proofs.Settings.Layers
import ScopedVars.Proofs.Arguments.Options
import ScopedVars.Proofs.Arguments.Placement
import ScopedVars.Proofs.Store.Denial
import ScopedVars.Proofs.Session.Console
import ScopedVars.Proofs.Program.Framing
import ScopedVars.Proofs.Text.Words
import ScopedVars.Proofs.Session.Accepting
import ScopedVars.Proofs.Expansion.Pieces
import ScopedVars.Proofs.Expansion.References

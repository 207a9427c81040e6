import Stencil.Environment.Family
import Stencil.Expr.Parser
import Stencil.Main
import Stencil.Value.Inspect
import Stencil.Proofs.Block.Scan
import Stencil.Proofs.Expr.Parse
import Stencil.Proofs.Task.Sound
import Stencil.Proofs.Walk.Render
import Stencil.Proofs.Walk.Evaluate
import Stencil.Proofs.Task.Delay
import Stencil.Proofs.Program.Propagate
import Stencil.Proofs.Task.FailStop
import Stencil.Proofs.Catalog
import Stencil.Proofs.Task.Functions
import Stencil.Proofs.Task.Beside
import Stencil.Proofs.Task.Failure
import Stencil.Proofs.Task.Meanwhile
import Stencil.Proofs.Task.Interleave
import Stencil.Proofs.Task.Session
import Stencil.Proofs.Environment.History
import Stencil.Proofs.Environment.InPlace
import Stencil.Proofs.Environment.ByName
import Stencil.Proofs.Environment.Details
import Stencil.Proofs.Scope.Async
import Stencil.Proofs.Walk.Report
import Stencil.Proofs.Segment.Position
import Stencil.Proofs.Environment.Literal
import Stencil.Proofs.Expr.Offence
import Stencil.Proofs.Segment.Reference
import Stencil.Proofs.Frame.Follow
import Stencil.Proofs.Task.Fragments
import Stencil.Proofs.Frame.Gaps
import Stencil.Proofs.Task.Root
import Stencil.Proofs.Task.Stack
import Stencil.Proofs.Task.InTurn
import Stencil.Proofs.Modifier.Encoding
import Stencil.Proofs.Modifier.Truncate
import Stencil.Proofs.Catalog.Names
import Stencil.Proofs.Scope.Nested
import Stencil.Proofs.Walk.Parts

import Stencil.Extension.Environment
import Stencil.Extension.Handlers
import Stencil.Record
import Stencil.Render.Global
import Stencil.Proofs.Document.Grammar
import Stencil.Proofs.Document.Reading
import Stencil.Proofs.Document.Tiling
import Stencil.Proofs.Markup.Lexeme
import Stencil.Proofs.Markup.Printer
import Stencil.Proofs.Markup.Reading
import Stencil.Proofs.Markup.Written
import Stencil.Proofs.Markup.RoundTrip
import Stencil.Proofs.Handler.Registration
import Stencil.Proofs.Document.Invocation
import Stencil.Proofs.Document.Growth
import Stencil.Proofs.Render.Descent
import Stencil.Proofs.Render.Builtin
import Stencil.Proofs.Render.Confinement
import Stencil.Proofs.Render.Failures
import Stencil.Proofs.Render.Lineage
import Stencil.Proofs.Render.Frame
import Stencil.Proofs.Render.Inheritance
import Stencil.Proofs.Render.Comments
import Stencil.Proofs.Render.Modes
import Stencil.Proofs.Render.Fragments
import Stencil.Proofs.Render.Levels
import Stencil.Proofs.Text.Script
import Stencil.Proofs.Text.Quoted
import Stencil.Proofs.Render.Interpolation
import Stencil.Proofs.Handler.Refusal
import Stencil.Proofs.Document.Places
import Stencil.Proofs.Render.Evaluation
import Stencil.Proofs.Render.Phases
import Stencil.Proofs.Text.Literal
import Stencil.Proofs.Text.Entities
import Stencil.Proofs.Render.Loops
import Stencil.Proofs.Render.Choices
import Stencil.Proofs.Number.Integers
import Stencil.Proofs.Value.Order
import Stencil.Proofs.Value.Overflow
import Stencil.Proofs.Filter.Sorting
import Stencil.Proofs.Render.Captures
import Stencil.Proofs.Value.Equality
import Stencil.Proofs.Value.Arithmetic
import Stencil.Proofs.Markup.Variable
import Stencil.Proofs.Markup.Further
import Stencil.Proofs.Render.Abandonment
import Stencil.Proofs.Render.Ranges
import Stencil.Proofs.Filter.Integers
import Stencil.Proofs.Value.Import
import Stencil.Proofs.Render.Conditions
import Stencil.Proofs.Render.Output
import Stencil.Proofs.Render.Nesting
import Stencil.Proofs.Filter.Splitting
import Stencil.Proofs.Render.Maps

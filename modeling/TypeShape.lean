import TypeShape.Expr.Argument
import TypeShape.StaticType.Reader
import TypeShape.Diagnostic.Feed
import TypeShape.Diagnostic.Layout
import TypeShape.Dictionary
import TypeShape.Main
import TypeShape.Proofs.Description.Outcome
import TypeShape.Proofs.Description.Shape
import TypeShape.Proofs.Description.FirstRefusal
import TypeShape.Proofs.Description.EntryPoints
import TypeShape.Proofs.Description.NormalForm
import TypeShape.Proofs.StaticType.ReadBack
import TypeShape.Proofs.StaticType.Distinction
import TypeShape.Proofs.Description.Names
import TypeShape.Proofs.Description.Order
import TypeShape.Proofs.Description.Replay
import TypeShape.Proofs.Rendering.Described
import TypeShape.Proofs.Rendering.UniqueReading
import TypeShape.Proofs.Position
import TypeShape.Proofs.Description.Replacement
import TypeShape.Proofs.Description.Message
import TypeShape.Proofs.Text.Shortening
import TypeShape.Proofs.Text.ColonRuns
import TypeShape.Proofs.Text.ArgumentList
import TypeShape.Proofs.Text.Punctuation
import TypeShape.Proofs.Text.InPlace
import TypeShape.Proofs.Rendering.Shortening
import TypeShape.Proofs.Diagnostic.JsonReading
import TypeShape.Proofs.Diagnostic.Faithful
import TypeShape.Proofs.Diagnostic.Hashing
import TypeShape.Proofs.Text.Segments
import TypeShape.Proofs.Catalog.Agreement
import TypeShape.Proofs.Text.Stability
import TypeShape.Proofs.Log.Decision
import TypeShape.Proofs.Text.PatternDepth

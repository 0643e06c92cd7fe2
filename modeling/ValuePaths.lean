import ValuePaths.Log
import ValuePaths.Path.Basic
import ValuePaths.Shape.Basic
import ValuePaths.Shape.Catalog
import ValuePaths.Value.Basic
import ValuePaths.Hash.Fold
import ValuePaths.Hash.Buckets
import ValuePaths.Value.Table
import ValuePaths.Value.Hash
import ValuePaths.Value.Debug
import ValuePaths.Value.Plain
import ValuePaths.Number.Integer
import ValuePaths.Number.Binary
import ValuePaths.Number.Decimal
import ValuePaths.Number.Shortest
import ValuePaths.Text.Printable
import ValuePaths.Text.Extend
import ValuePaths.Text.Escape
import ValuePaths.Text.Case
import ValuePaths.Registry.Convert
import ValuePaths.Sample.Converters
import ValuePaths.Registry.Basic
import ValuePaths.Value.Collection
import ValuePaths.Access.Error
import ValuePaths.Access.Context
import ValuePaths.Access.Coerce
import ValuePaths.Access.Step
import ValuePaths.Access.Slot
import ValuePaths.Access.Walk
import ValuePaths.Access.Descriptor
import ValuePaths.Access.Api
import ValuePaths.Value.Edit
import ValuePaths.Proofs.Collection
import ValuePaths.Proofs.Logged
import ValuePaths.Proofs.Oblivious
import ValuePaths.Proofs.Walk
import ValuePaths.Proofs.Resolve
import ValuePaths.Proofs.Coerce
import ValuePaths.Proofs.Slot
import ValuePaths.Proofs.Typing
import ValuePaths.Proofs.Store
import ValuePaths.Proofs.Descriptor
import ValuePaths.Proofs.PathGrammar
import ValuePaths.Proofs.RoundTrip
import ValuePaths.Proofs.Frame
import ValuePaths.Proofs.Idempotence
import ValuePaths.Proofs.Conversion
import ValuePaths.Proofs.Refusal
import ValuePaths.Proofs.TypedAccess
import ValuePaths.Proofs.Order
import ValuePaths.Proofs.Lookup
import ValuePaths.Proofs.Alike
import ValuePaths.Proofs.Sites
import ValuePaths.Proofs.Puts
import ValuePaths.Proofs.Padding
import ValuePaths.Proofs.Tolerance
import ValuePaths.Proofs.RootLayers
import ValuePaths.Proofs.ShapePath
import ValuePaths.Proofs.Registration
import ValuePaths.Proofs.Commute
import ValuePaths.Proofs.Focus
import ValuePaths.Proofs.SetSubscript
import ValuePaths.Proofs.Bulk
import ValuePaths.Proofs.Subscripts
import ValuePaths.Proofs.Closure
import ValuePaths.Proofs.Reach
import ValuePaths.Proofs.FieldAccess
import ValuePaths.Proofs.Count
import ValuePaths.Proofs.RawText
import ValuePaths.Proofs.Faults
import ValuePaths.Proofs.StrictGenerics
import ValuePaths.Proofs.Layers
import ValuePaths.Proofs.Cache

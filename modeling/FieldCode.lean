import FieldCode.Document.Encode
import FieldCode.Proofs.Build.Run
import FieldCode.Main
import FieldCode.Proofs.Build.Validity
import FieldCode.Proofs.Graph.Reference
import FieldCode.Proofs.Number.RoundTrip
import FieldCode.Proofs.Build.Extension
import FieldCode.Proofs.Graph.Rebuild
import FieldCode.Proofs.Graph.Reorder
import FieldCode.Proofs.Graph.Addition
import FieldCode.Proofs.Number.Nearest
import FieldCode.Proofs.Number.Tried
import FieldCode.Proofs.Number.Middle
import FieldCode.Proofs.Number.ReadOnce
import FieldCode.Proofs.Build.Log
import FieldCode.Proofs.Graph.Independence
import FieldCode.Proofs.Graph.Mirror
import FieldCode.Proofs.Graph.Listing
import FieldCode.Proofs.Graph.Nesting
import FieldCode.Proofs.Number.FewestDigits
import FieldCode.Proofs.Command.JsonOutput
import FieldCode.Proofs.Number.Base
import FieldCode.Proofs.Number.IntegerNotation
import FieldCode.Proofs.Number.IntegerDefault
import FieldCode.Proofs.Text.ByteDefault
import FieldCode.Proofs.Text.StringDefault
import FieldCode.Proofs.Graph.QualifiedReference
import FieldCode.Proofs.Graph.MismatchedDefault
import FieldCode.Proofs.Number.Narrowing
import FieldCode.Proofs.Text.Case
import FieldCode.Proofs.Graph.PropertyName
import FieldCode.Proofs.Document.Normal
import FieldCode.Proofs.Number.NineDigits
import FieldCode.Proofs.Kind.Coverage

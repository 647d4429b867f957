import Delimited.Codec.Build
import Delimited.Proofs.Field.Agreement
import Delimited.Proofs.Field.Joining
import Delimited.Proofs.Field.Raw
import Delimited.Proofs.Instant
import Delimited.Proofs.Leaf.Bytes
import Delimited.Proofs.Leaf.Civil
import Delimited.Proofs.Leaf.Numbers
import Delimited.Proofs.Row.Blanks
import Delimited.Proofs.Row.Documented
import Delimited.Proofs.Row.EmptyComposite
import Delimited.Proofs.Row.Extension
import Delimited.Proofs.Row.Mapping
import Delimited.Proofs.Row.NestedNull
import Delimited.Proofs.Row.Reencoding
import Delimited.Proofs.Schema.Joining

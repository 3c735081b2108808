import UnicodeText.CanonicalOrder
import UnicodeText.Case.Full
import UnicodeText.Case.Simple
import UnicodeText.Category.Basic
import UnicodeText.Category.Name
import UnicodeText.Category.Set
import UnicodeText.Code
import UnicodeText.CombiningClass
import UnicodeText.Composition.Compaction
import UnicodeText.Composition.Pair
import UnicodeText.Data.BaseCode
import UnicodeText.Data.CaseMapping
import UnicodeText.Data.CombiningClass
import UnicodeText.Data.CombiningMark
import UnicodeText.Data.Composition
import UnicodeText.Data.Decomposition
import UnicodeText.Data.GeneralCategory
import UnicodeText.Data.SpecialCasing
import UnicodeText.Decomposition
import UnicodeText.Encoding.Basic
import UnicodeText.Encoding.CString
import UnicodeText.Encoding.Decoder
import UnicodeText.Encoding.Error
import UnicodeText.Encoding.Reading
import UnicodeText.Encoding.Utf16
import UnicodeText.Encoding.Utf32
import UnicodeText.Encoding.Utf8
import UnicodeText.Event
import UnicodeText.Form.Basic
import UnicodeText.Form.Bytes
import UnicodeText.Hangul
import UnicodeText.Mark
import UnicodeText.Proofs.CanonicalOrder
import UnicodeText.Proofs.CanonicalOrder.Runs
import UnicodeText.Proofs.Case.Forms
import UnicodeText.Proofs.Case.Scalars
import UnicodeText.Proofs.Case.Stability
import UnicodeText.Proofs.Category.Agreement
import UnicodeText.Proofs.Code
import UnicodeText.Proofs.Composition.Boundary
import UnicodeText.Proofs.Composition.Chain
import UnicodeText.Proofs.Composition.Composed
import UnicodeText.Proofs.Composition.LastMark
import UnicodeText.Proofs.Composition.Pair
import UnicodeText.Proofs.Composition.Reference
import UnicodeText.Proofs.Composition.Search
import UnicodeText.Proofs.Composition.Segment
import UnicodeText.Proofs.Composition.Settled
import UnicodeText.Proofs.Composition.Slice
import UnicodeText.Proofs.Decomposition.Entries
import UnicodeText.Proofs.Decomposition.Expansion
import UnicodeText.Proofs.Decomposition.Length
import UnicodeText.Proofs.Decomposition.Recursion
import UnicodeText.Proofs.Encoding.Boundary
import UnicodeText.Proofs.Encoding.CodeSpace
import UnicodeText.Proofs.Encoding.Decoder
import UnicodeText.Proofs.Encoding.Mapping
import UnicodeText.Proofs.Encoding.Progress
import UnicodeText.Proofs.Encoding.Readings
import UnicodeText.Proofs.Encoding.Reencoding
import UnicodeText.Proofs.Encoding.RoundTrip
import UnicodeText.Proofs.Encoding.Validation
import UnicodeText.Proofs.Equivalence.Basic
import UnicodeText.Proofs.Equivalence.Composition
import UnicodeText.Proofs.Form.Boundary
import UnicodeText.Proofs.Form.Bytes
import UnicodeText.Proofs.Form.Decomposed
import UnicodeText.Proofs.Form.Equivalence
import UnicodeText.Proofs.Form.Hangul
import UnicodeText.Proofs.Form.Scalars
import UnicodeText.Proofs.Form.Slice
import UnicodeText.Proofs.Hangul
import UnicodeText.Proofs.Machine.Basic
import UnicodeText.Proofs.Machine.CanonicalOrder
import UnicodeText.Proofs.Machine.Composition
import UnicodeText.Proofs.Machine.Decomposition
import UnicodeText.Proofs.Machine.Encoding
import UnicodeText.Proofs.Machine.Form
import UnicodeText.Proofs.Machine.Property
import UnicodeText.Proofs.Machine.Safety
import UnicodeText.Proofs.Machine.Table
import UnicodeText.Proofs.Machine.Validation
import UnicodeText.Proofs.Mark.Derivation
import UnicodeText.Proofs.Mark.Entries
import UnicodeText.Proofs.Mark.Strip
import UnicodeText.Proofs.Strings
import UnicodeText.Proofs.Table.Pages
import UnicodeText.Proofs.Table.Scan
import UnicodeText.Table.Block
import UnicodeText.Table.Packed
import UnicodeText.Table.Search
import UnicodeText.Text

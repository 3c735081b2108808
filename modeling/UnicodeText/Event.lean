import UnicodeText.Encoding.Decoder
import UnicodeText.Form.Basic

namespace UnicodeText

inductive Event where
  | configured (form : Form)
  | replaced (cause : Replacement)
  | outOfRange (code : Code)
deriving DecidableEq, Repr

namespace Event

def level : Event → String
  | configured _ => "DEBUG"
  | replaced _ | outOfRange _ => "TRACE"

def message : Event → String
  | configured form => s!"normalizer configured: {form.name}"
  | replaced cause => cause.message
  | outOfRange code => s!"code point {Text.upperHex 1 code.toNat} out of range, encoded as '?'"

end Event

def readingEvents (readings : List Reading) : List Event :=
  readings.filterMap fun r => r.replaced.map .replaced

def encodingEvents (codes : List Code) : List Event :=
  (codes.filter fun c => !decide (InCodeSpace c)).map .outOfRange

def mappingEvents (e : Encoding) (f : Code → Code) (units : List e.CodeUnit) : List Event :=
  (e.readings units).flatMap fun r => readingEvents [r] ++ encodingEvents [f r.code]

end UnicodeText

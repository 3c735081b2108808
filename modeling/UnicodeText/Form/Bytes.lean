import UnicodeText.CanonicalOrder
import UnicodeText.Composition.Compaction
import UnicodeText.Encoding.Basic
import UnicodeText.Form.Basic

namespace UnicodeText

namespace Form

def normalize (f : Form) (s : List Code) : List Code :=
  if f.isComposing then compose (decompose f.mode s) else decompose f.mode s

def isNormalized (f : Form) (s : List Code) : Bool := f.normalize s == s

def normalizeString (f : Form) (s : String) : String := textOf (f.normalize (codesOf s))

def normalizeUtf8 (f : Form) (units : List UInt8) : List UInt8 :=
  Encoding.utf8.encode (f.normalize (Encoding.utf8.decode units))

end Form

namespace Encoding

def normalized (e : Encoding) (form : Option Form) (units : List e.CodeUnit) : List Code :=
  match form with
  | some f => f.normalize (e.decode units)
  | none => e.decode units

def transcode (source target : Encoding) (form : Option Form) (units : List source.CodeUnit) :
    List target.CodeUnit :=
  target.encode (source.normalized form units)

end Encoding

end UnicodeText

import UnicodeText.Encoding.Basic

namespace UnicodeText

structure Decoder (e : Encoding) where
  remaining : List e.CodeUnit
  terminated : Bool

namespace Decoder

variable {e : Encoding}

def next (d : Decoder e) : Option Reading × Decoder e :=
  match d.remaining with
  | [] => (none, d)
  | first :: rest =>
    if d.terminated && e.isZero first then (none, { d with remaining := [] })
    else (some (e.read first rest), { d with remaining := rest.drop (e.read first rest).extra })

def advance : Nat → Decoder e → List Reading × Decoder e
  | 0, d => ([], d)
  | calls + 1, d =>
    let later := advance calls d.next.2
    (d.next.1.toList ++ later.1, later.2)

def collect (d : Decoder e) : List Reading × Decoder e := d.advance d.remaining.length

def sizeHint (d : Decoder e) : Nat × Nat :=
  let length := d.remaining.length
  if d.terminated then (0, length) else ((length + e.maxUnits - 1) / e.maxUnits, length)

def display (d : Decoder e) : String :=
  let units := ", ".intercalate (d.remaining.map fun u => toString (e.unitToNat u))
  s!"Decoder \x7b remaining: [{units}], terminated: {d.terminated} \x7d"

def mapWithin (f : Code → Code) : Nat → Decoder e → List e.CodeUnit
  | 0, _ => []
  | calls + 1, d =>
    match d.next with
    | (some r, later) => e.encodeCode (f r.code) ++ mapWithin f calls later
    | (none, _) => []

end Decoder

namespace Encoding

def decoder (e : Encoding) (units : List e.CodeUnit) : Decoder e := ⟨units, false⟩

def terminatedDecoder (e : Encoding) (units : List e.CodeUnit) : Decoder e := ⟨units, true⟩

def decodeTerminated (e : Encoding) (units : List e.CodeUnit) : List Code :=
  (e.terminatedDecoder units).collect.1.map Reading.code

def map (e : Encoding) (f : Code → Code) (units : List e.CodeUnit) : List e.CodeUnit :=
  (e.decoder units).mapWithin f units.length

end Encoding

end UnicodeText

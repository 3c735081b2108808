import UnicodeText.Decomposition
import UnicodeText.Text

namespace UnicodeText

inductive Form where
  | nfc
  | nfd
  | nfkc
  | nfkd
deriving DecidableEq, Repr

namespace Form

instance : Inhabited Form := ⟨nfc⟩

def all : List Form := [nfc, nfd, nfkc, nfkd]

def isComposing : Form → Bool
  | nfc | nfkc => true
  | nfd | nfkd => false

def mode : Form → Mode
  | nfc | nfd => .canonical
  | nfkc | nfkd => .compatibility

def isCompatibility (f : Form) : Bool := f.mode == .compatibility

def name : Form → String
  | nfc => "NFC"
  | nfd => "NFD"
  | nfkc => "NFKC"
  | nfkd => "NFKD"

structure Unknown where
  text : String
deriving DecidableEq, Repr

def Unknown.message (e : Unknown) : String :=
  "unknown normalization form: " ++ Text.quoted e.text ++ " (expected NFC, NFD, NFKC or NFKD)"

def parse (s : String) : Except Unknown Form :=
  match all.find? fun f => f.name.toList == (Text.trimmed s).map Char.toUpper with
  | some f => .ok f
  | none => .error ⟨s⟩

end Form

end UnicodeText

import UnicodeText.Code
import UnicodeText.Data.CaseMapping

/-!
Case mappings from one code to one code. Most codes need one target only; a code with two different
mappings stores one of them, and the other is found at the target.
-/

namespace UnicodeText

inductive CaseMapping where
  | identity
  | lower (target : Code)
  | upperTitle (target : Code)
  | upper (target : Code)
  | lowerThenUpper (target : Code)
  | upperThenTitle (target : Code)
  | titleThenLower (target : Code)
deriving DecidableEq, Repr

namespace CaseMapping

def target? : CaseMapping → Option Code
  | identity => none
  | lower target | upperTitle target | upper target => some target
  | lowerThenUpper target | upperThenTitle target | titleThenLower target => some target

def ofCell (cell : Nat) : CaseMapping :=
  let target := UInt32.ofNat (cell % 0x100000)
  match cell / 0x100000 with
  | 1 => lower target
  | 2 => upperTitle target
  | 3 => upper target
  | 4 => lowerThenUpper target
  | 5 => upperThenTitle target
  | 6 => titleThenLower target
  | _ => identity

end CaseMapping

def caseMapping (c : Code) : CaseMapping :=
  if InCodeSpace c then .ofCell (Data.caseMapping.getD c.toNat 0) else .identity

def linkedCase (link c : Code) : Code := (caseMapping link).target?.getD c

def lowercase (c : Code) : Code :=
  match caseMapping c with
  | .lower low | .lowerThenUpper low => low
  | .titleThenLower title => linkedCase title c
  | _ => c

def uppercase (c : Code) : Code :=
  match caseMapping c with
  | .upperTitle up | .upper up | .upperThenTitle up => up
  | .lowerThenUpper low => linkedCase low c
  | _ => c

def titlecase (c : Code) : Code :=
  match caseMapping c with
  | .upperTitle title | .titleThenLower title => title
  | .upperThenTitle up => linkedCase up c
  | _ => c

end UnicodeText

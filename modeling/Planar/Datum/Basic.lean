/-! The data exchanged with the outside: nothing, truth values, numbers, texts,
lists and records of named fields. -/

namespace Planar

inductive Datum
  | null
  | bool (b : Bool)
  /-- The number `mantissa / 10 ^ places`. -/
  | number (mantissa : Int) (places : Nat)
  | text (s : String)
  | list (items : List Datum)
  | record (fields : List (String × Datum))
  deriving Inhabited

namespace Datum

def field? (name : String) : Datum → Option Datum
  | .record fields => fields.lookup name
  | _ => none

def bool? : Datum → Option Bool
  | .bool b => some b
  | _ => none

def text? : Datum → Option String
  | .text s => some s
  | _ => none

def list? : Datum → Option (List Datum)
  | .list items => some items
  | _ => none

def nat? : Datum → Option Nat
  | .number (.ofNat n) 0 => some n
  | _ => none

def isRecord : Datum → Bool
  | .record _ => true
  | _ => false

def ofChars (text : List Char) : Datum := .text (String.ofList text)

end Datum

end Planar

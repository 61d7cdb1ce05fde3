/-
JSON values, and reading them field by field.

Messages and answers travel as JSON. A record is an object with no field
that it does not know; a field may be required, or optional, in which case
null is as good as nothing. A choice is an object with one field, named for
the variant. Amounts are texts, because they do not fit in a number that
every reader understands; bytes are base64 texts.
-/
import TokenBridge.Amount
import TokenBridge.Codec.Base64
import TokenBridge.Text.Numeral

namespace TokenBridge.Wire

/-- A value as it goes over the wire. -/
inductive Json
  | null
  | bool (b : Bool)
  | int (n : Int)
  /-- A number that is not written as an integer; none is ever accepted. -/
  | fraction
  | str (text : String)
  | arr (items : List Json)
  | obj (fields : List (String × Json))
deriving Inhabited

-- ============================================================= reading a value

namespace Json

/-- A string. -/
def text? : Json → Option String
  | .str s => some s
  | _ => none

/-- A truth value. -/
def bool? : Json → Option Bool
  | .bool b => some b
  | _ => none

/-- A natural number below a limit. -/
def below? (limit : Nat) : Json → Option Nat
  | .int n => if 0 ≤ n ∧ n < limit then some n.toNat else none
  | _ => none

/-- A number of eight bytes. -/
def word64? (j : Json) : Option UInt64 := (j.below? word64Limit).map UInt64.ofNat

/-- A number of one byte. -/
def byte? (j : Json) : Option UInt8 := (j.below? 256).map UInt8.ofNat

/-- An amount: a numeral in a text. -/
def amount? : Json → Option Amount
  | .str s => (Text.readNumeral? 10 s.toList).bind Amount.ofNat?
  | _ => none

/-- Bytes: base64 in a text. -/
def bytes? : Json → Option (List UInt8)
  | .str s => Base64.decode? s
  | _ => none

/-- A list of strings. -/
def texts? : Json → Option (List String)
  | .arr items => items.mapM text?
  | _ => none

-- ============================================================ reading a record

/-- The fields of a record, none of them unknown. -/
def record? (known : List String) : Json → Option (List (String × Json))
  | .obj fields => if fields.all fun f => f.1 ∈ known then some fields else none
  | _ => none

/-- The name and the content of a variant. -/
def variant? : Json → Option (String × Json)
  | .obj [(name, content)] => some (name, content)
  | _ => none

end Json

/-- A field that must be there. -/
def required {α : Type} (fields : List (String × Json)) (name : String) (read : Json → Option α) :
    Option α :=
  (fields.lookup name).bind read

/-- A field that may be missing or null. -/
def optional {α : Type} (fields : List (String × Json)) (name : String) (read : Json → Option α) :
    Option (Option α) :=
  match fields.lookup name with
  | none => some none
  | some .null => some none
  | some j => (read j).map some

-- ==================================================================== writing

namespace Json

/-- Amounts are written as decimal strings. -/
def ofAmount (a : Amount) : Json := .str a.toText

/-- Bytes are written in base 64. -/
def ofBytes (bytes : List UInt8) : Json := .str (Base64.encode bytes)

/-- Words of eight bytes are written as numbers. -/
def ofWord64 (n : UInt64) : Json := .int n.toNat

/-- So are single bytes. -/
def ofByte (n : UInt8) : Json := .int n.toNat

/-- A value, or null where there is none. -/
def ofOption {α : Type} (write : α → Json) : Option α → Json
  | none => .null
  | some a => write a

end Json

end TokenBridge.Wire

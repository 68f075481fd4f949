import OrderLookup.Json.Numeral
import OrderLookup.Text.Quoted

/-!
# Why a document is refused

A document may break the grammar, end too early, or be well formed so far and not fit the record
that is read. Reading is one pass, and the first of these that is met is reported.
-/

namespace OrderLookup.Json

/-- What stood where another value was wanted. -/
inductive Found where
  | null
  | boolean (value : Bool)
  | number (value : Numeral)
  | text (value : String)
  | sequence
  | map
  deriving DecidableEq

inductive Wanted where
  | text
  | integer
  | sequence
  | record (name : String)
  deriving DecidableEq

inductive Mismatch where
  | wrongType (found : Found) (wanted : Wanted)
  | tooLarge (value : Nat)
  | duplicate (key : String)
  | missing (key : String)
  | tooShort (count : Nat) (record : String) (size : Nat)
  deriving DecidableEq

inductive Failure where
  | illFormed
  | cutShort
  | mismatch (cause : Mismatch)
  deriving DecidableEq

def Found.describe : Found → String
  | .null => "null"
  | .boolean value => if value then "boolean `true`" else "boolean `false`"
  | .number (.whole n) => "integer `" ++ natText n ++ "`"
  | .number (.negative n) => "integer `-" ++ natText n ++ "`"
  | .number (.real bits) => "floating point `" ++ Binary64.text bits ++ "`"
  | .text value => "string " ++ Text.Quoted.write value
  | .sequence => "sequence"
  | .map => "map"

def Wanted.describe : Wanted → String
  | .text => "a string"
  | .integer => "i64"
  | .sequence => "a sequence"
  | .record name => "struct " ++ name

def Mismatch.message : Mismatch → String
  | .wrongType found wanted =>
    "invalid type: " ++ found.describe ++ ", expected " ++ wanted.describe
  | .tooLarge value =>
    "invalid value: integer `" ++ natText value ++ "`, expected " ++ Wanted.integer.describe
  | .duplicate key => "duplicate field `" ++ key ++ "`"
  | .missing key => "missing field `" ++ key ++ "`"
  | .tooShort count record size =>
    "invalid length " ++ natText count ++ ", expected struct " ++ record ++ " with " ++
      natText size ++ " elements"

/-- What is reported of a failure, apart from its place in the document. -/
def Failure.message : Failure → String
  | .illFormed => "the document is ill-formed"
  | .cutShort => "the document ends too early"
  | .mismatch cause => cause.message

end OrderLookup.Json

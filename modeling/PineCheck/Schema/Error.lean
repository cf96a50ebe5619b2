import PineCheck.Value.Basic
/-!
# Schema errors

Checking a value against a schema reports every field that fails, each with where it is
(`loc`: the keys and list indices leading to it), why (`ErrorKind`) and the value found
there. Each kind has a short code and a sentence; the sentence of a bound names the bound.
-/

namespace PineCheck

/-- A step of the path to a field: a key of a mapping or an index of a list. -/
inductive LocPart where
  | key (name : String)
  | index (i : Nat)
  deriving DecidableEq, Repr

/-- The text of a path step. -/
def LocPart.text : LocPart → String
  | .key name => name
  | .index i => toString i

/-- Why a value does not fit its field. -/
inductive ErrorKind where
  /-- Not an integer, nor anything read as one. -/
  | intType
  /-- A text that is no integer. -/
  | intParsing
  /-- A number too large to be read as an integer. -/
  | intParsingSize
  /-- A float with a fractional part. -/
  | intFromFloat
  /-- An infinite or NaN float. -/
  | finiteNumber
  /-- A number below its least value. -/
  | greaterThanEqual (least : Int)
  /-- Not a boolean, nor anything read as one. -/
  | boolType
  /-- A text or number that is no boolean. -/
  | boolParsing
  /-- Not a text. -/
  | stringType
  /-- A text that is not valid Unicode. -/
  | stringUnicode
  /-- A text shorter than its least length. -/
  | stringTooShort (least : Nat)
  /-- Not a list. -/
  | listType
  /-- A list with too few items. -/
  | listTooShort (least actual : Nat)
  /-- Not the one allowed text. -/
  | literalError (expected : String)
  /-- A field that is not there. -/
  | missing
  /-- Not a mapping where a record of the named kind belongs. -/
  | modelType (name : String)
  /-- Not a float. -/
  | floatType
  /-- Not a mapping. -/
  | dictType
  /-- A check of the field itself failed, with its reason. -/
  | valueError (reason : String)
  deriving DecidableEq, Repr

namespace ErrorKind

/-- The short code of a kind. -/
def code : ErrorKind → String
  | .intType => "int_type"
  | .intParsing => "int_parsing"
  | .intParsingSize => "int_parsing_size"
  | .intFromFloat => "int_from_float"
  | .finiteNumber => "finite_number"
  | .greaterThanEqual _ => "greater_than_equal"
  | .boolType => "bool_type"
  | .boolParsing => "bool_parsing"
  | .stringType => "string_type"
  | .stringUnicode => "string_unicode"
  | .stringTooShort _ => "string_too_short"
  | .listType => "list_type"
  | .listTooShort _ _ => "too_short"
  | .literalError _ => "literal_error"
  | .missing => "missing"
  | .modelType _ => "model_type"
  | .floatType => "float_type"
  | .dictType => "dict_type"
  | .valueError _ => "value_error"

/-- The plural ending of a count. -/
def plural (n : Nat) (word : String) : String :=
  if n == 1 then word else word ++ "s"

/-- The sentence of a kind. -/
def message : ErrorKind → String
  | .intType => "Input should be a valid integer"
  | .intParsing => "Input should be a valid integer, unable to parse string as an integer"
  | .intParsingSize => "Unable to parse input string as an integer, exceeded maximum size"
  | .intFromFloat => "Input should be a valid integer, got a number with a fractional part"
  | .finiteNumber => "Input should be a finite number"
  | .greaterThanEqual least => s!"Input should be greater than or equal to {least}"
  | .boolType => "Input should be a valid boolean"
  | .boolParsing => "Input should be a valid boolean, unable to interpret input"
  | .stringType => "Input should be a valid string"
  | .stringUnicode => "Input should be a valid string, unable to parse raw data as a unicode string"
  | .stringTooShort least =>
    let unit := plural least "character"
    s!"String should have at least {least} {unit}"
  | .listType => "Input should be a valid list"
  | .listTooShort least actual =>
    let unit := plural least "item"
    s!"List should have at least {least} {unit} after validation, not {actual}"
  | .literalError expected => "Input should be '" ++ expected ++ "'"
  | .missing => "Field required"
  | .modelType name => "Input should be a valid dictionary or instance of " ++ name
  | .floatType => "Input should be a valid number"
  | .dictType => "Input should be a valid dictionary"
  | .valueError reason => "Value error, " ++ reason

end ErrorKind

/-- A field that failed its schema: where, why, and the value found. -/
structure SchemaError where
  loc : List LocPart
  kind : ErrorKind
  input : Value

/-- A schema error one step deeper: below a key or index. -/
def SchemaError.under (part : LocPart) (e : SchemaError) : SchemaError :=
  { e with loc := part :: e.loc }

end PineCheck

import BlobStorage.Time.Span
import BlobStorage.Value

/-!
Settings of the wrong type. A fault names the record that was being built and, for each field that
does not fit, the path to it, what was expected and what was given.
-/
namespace BlobStorage

/-- What a field expected and did not get. -/
inductive Expectation where
  | required
  | text
  | whole
  | wholeText
  | wholeSize
  | wholeFraction
  | finite
  | real
  | realText
  | flag
  | flagText
  | duration
  | durationText (fault : Time.SpanFault)
  | map
  | record (name : String)
  | instanceOf (name : String)
  | oneOf (names : List String)
  deriving Repr

namespace Expectation

def code : Expectation → String
  | required => "missing"
  | text => "string_type"
  | whole => "int_type"
  | wholeText => "int_parsing"
  | wholeSize => "int_parsing_size"
  | wholeFraction => "int_from_float"
  | finite => "finite_number"
  | real => "float_type"
  | realText => "float_parsing"
  | flag => "bool_type"
  | flagText => "bool_parsing"
  | duration => "time_delta_type"
  | durationText _ => "time_delta_parsing"
  | map => "dict_type"
  | record _ => "model_type"
  | instanceOf _ => "is_instance_of"
  | oneOf _ => "enum"

def alternatives : List String → String
  | [] => ""
  | [a] => quoted a
  | [a, b] => quoted a ++ " or " ++ quoted b
  | a :: rest => quoted a ++ ", " ++ alternatives rest

def sentence : Expectation → String
  | required => "Field required"
  | text => "Input should be a valid string"
  | whole => "Input should be a valid integer"
  | wholeText => "Input should be a valid integer, unable to parse string as an integer"
  | wholeSize => "Unable to parse input string as an integer, exceeded maximum size"
  | wholeFraction => "Input should be a valid integer, got a number with a fractional part"
  | finite => "Input should be a finite number"
  | real => "Input should be a valid number"
  | realText => "Input should be a valid number, unable to parse string as a number"
  | flag => "Input should be a valid boolean"
  | flagText => "Input should be a valid boolean, unable to interpret input"
  | duration => "Input should be a valid timedelta"
  | durationText fault => "Input should be a valid timedelta, " ++ fault.text
  | map => "Input should be a valid dictionary"
  | record name => "Input should be a valid dictionary or instance of " ++ name
  | instanceOf name => "Input should be an instance of " ++ name
  | oneOf names => "Input should be " ++ alternatives names

end Expectation

structure FieldFault where
  path : List String
  expected : Expectation
  /-- The given value as it would be written down, and the name of its type. -/
  given : String × String
  deriving Repr

structure SettingsFault where
  record : String
  fields : List FieldFault
  deriving Repr

namespace SettingsFault

/-- The longest front of a text that has no more than so many bytes. -/
def front : Nat → List Char → List Char
  | _, [] => []
  | room, c :: rest => if c.utf8Size ≤ room then c :: front (room - c.utf8Size) rest else []

/-- A value of more than 50 bytes keeps no more than its first 25 and its last 24. -/
def shortened (text : String) : String :=
  if 50 < text.utf8ByteSize then
    let chars := text.toList
    String.ofList (front 25 chars ++ "...".toList ++ (front 24 chars.reverse).reverse)
  else text

def FieldFault.text (f : FieldFault) : String :=
  ".".intercalate f.path ++ "\n  " ++ f.expected.sentence ++ " [type=" ++ f.expected.code
    ++ ", input_value=" ++ shortened f.given.1 ++ ", input_type=" ++ f.given.2
    ++ "]\n    For further information visit https:" ++ "//errors.pydantic.dev/2.14/v/"
    ++ f.expected.code

def text (f : SettingsFault) : String :=
  let count := f.fields.length
  toString count ++ " validation error" ++ (if count = 1 then "" else "s") ++ " for " ++ f.record
    ++ String.join (f.fields.map fun field => "\n" ++ FieldFault.text field)

end SettingsFault
end BlobStorage

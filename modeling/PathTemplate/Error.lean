import PathTemplate.Regex.Error
import PathTemplate.Key

namespace PathTemplate

inductive SyntaxReason where
  | unbalanced
  | nested
  | emptyGroup
  | unterminated
  | invalidPattern (e : Regex.Error)
  deriving Inhabited

def SyntaxReason.text : SyntaxReason → String
  | .unbalanced => "Unbalanced \x27)\x27"
  | .nested => "Nested \x27(\x27 in parameter group"
  | .emptyGroup => "Empty parameter group"
  | .unterminated => "Unterminated parameter group"
  | .invalidPattern e => "Invalid parameter pattern: " ++ e.message

structure TemplateError where
  reason : SyntaxReason
  template : String
  index : Nat
  deriving Inhabited

def TemplateError.message (e : TemplateError) : String :=
  e.reason.text ++ " at index " ++ toString e.index ++ " in " ++ Text.quote e.template

/-- Why a value cannot fill a parameter: no usable value for a parameter that needs one, a
sequence for one that does not repeat, an empty sequence for one that needs a value, or a text,
of the value or of an element, that does not match the pattern. -/
inductive Invalid where
  | missing (name : Key) (repeating : Bool)
  | repeated (name : Key)
  | empty (name : Key)
  | mismatch (name : Key) (pattern segment : String)
  | elementMismatch (name : Key) (pattern segment : String)
  deriving Inhabited

namespace Invalid

def param : Invalid → Key
  | .missing n _ | .repeated n | .empty n | .mismatch n _ _ | .elementMismatch n _ _ => n

def pattern? : Invalid → Option String
  | .mismatch _ p _ | .elementMismatch _ p _ => some p
  | _ => none

def value? : Invalid → Option String
  | .mismatch _ _ s | .elementMismatch _ _ s => some s
  | _ => none

def message : Invalid → String
  | .missing n r =>
    "Expected \"" ++ n.spelling ++ "\" to be " ++ (if r then "a sequence" else "a string")
  | .repeated n => "Expected \"" ++ n.spelling ++ "\" to not repeat, but got a sequence"
  | .empty n => "Expected \"" ++ n.spelling ++ "\" to not be empty"
  | .mismatch n p s =>
    "Expected \"" ++ n.spelling ++ "\" to match \"" ++ p ++ "\", but got \"" ++ s ++ "\""
  | .elementMismatch n p s =>
    "Expected all \"" ++ n.spelling ++ "\" to match \"" ++ p ++ "\", but got \"" ++ s ++ "\""

end Invalid

/-- Why an operation fails. `digitLimit` is the refusal to turn an int of more than
`maxDigits` digits into text. -/
inductive Error where
  | template (e : TemplateError)
  | regex (e : Regex.Error)
  | invalid (e : Invalid)
  | search (e : Regex.SearchError)
  | unknownRoute (key : Key)
  | routeWithoutValue (key : Key)
  | digitLimit
  deriving Inhabited

def Error.message : Error → String
  | .template e => e.message
  | .regex e => e.message
  | .invalid e => e.message
  | .search e => e.message
  | .unknownRoute k => "Invalid key: " ++ k.spelling
  | .routeWithoutValue k => "Route " ++ k.literal ++ " has no \x27value\x27 template"
  | .digitLimit =>
    "Exceeds the limit (" ++ toString maxDigits ++ " digits) for integer string conversion; " ++
      "use sys.set_int_max_str_digits() to increase the limit"

/-- A failure whose message names the key `k`: raised as it is when `k` may be turned into
text, and as the digit limit when writing the message fails. -/
def Error.naming (k : Key) (e : Error) : Error :=
  if k.writable then e else .digitLimit

def Invalid.raise (e : Invalid) : Error :=
  Error.naming e.param (.invalid e)

/-- A text that spells ints, refused at the digit limit unless all of them are `writable`. -/
def Error.withinDigits (writable : Bool) (text : String) : Except Error String :=
  if writable then .ok text else .error .digitLimit

def Key.render (k : Key) : Except Error String :=
  Error.withinDigits k.writable k.spelling

end PathTemplate

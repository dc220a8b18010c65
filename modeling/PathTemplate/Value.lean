import PathTemplate.Error
import PathTemplate.Decimal.Shortest
import PathTemplate.Text

namespace PathTemplate

/-- A value given to a parameter or a query. -/
inductive Value where
  | none
  | bool (b : Bool)
  | int (n : Int)
  | float (x : Float)
  | text (s : String)
  | list (items : List Value)
  | tuple (items : List Value)
  | map (entries : List (Key × Value))
  deriving Inhabited

/-- Keys with values, in the order keys were first given; giving a key again replaces its
value in place. -/
abbrev Mapping := List (Key × Value)

namespace Mapping

def get? (m : Mapping) (k : Key) : Option Value :=
  (m.find? (·.1.same k)).map (·.2)

def insert (m : Mapping) (k : Key) (v : Value) : Mapping :=
  if m.any (·.1.same k) then m.map fun (k', v') => if k'.same k then (k', v) else (k', v')
  else m ++ [(k, v)]

def ofPairs (pairs : List (Key × Value)) : Mapping :=
  pairs.foldl (fun m (k, v) => m.insert k v) []

end Mapping

def joinWith (sep : String) : List String → String
  | [] => ""
  | [s] => s
  | s :: rest => s ++ sep ++ joinWith sep rest

mutual

def Value.literal : Value → String
  | .text s => Text.quote s
  | v => Value.spelling v

/-- The text of a value, every int in it spelled in full: lists as `[a, b]`, tuples as
`(a, b)` or `(a,)`, mappings as `{k: v}`, truth values as `True` and `False`, nothing as
`None`, doubles by their shortest form. -/
def Value.spelling : Value → String
  | .none => "None"
  | .bool b => if b then "True" else "False"
  | .int n => toString n
  | .float x => Decimal.floatText x
  | .text s => s
  | .list items => "[" ++ joinWith ", " (Value.literals items) ++ "]"
  | .tuple [item] => "(" ++ Value.literal item ++ ",)"
  | .tuple items => "(" ++ joinWith ", " (Value.literals items) ++ ")"
  | .map entries => "\x7b" ++ joinWith ", " (Value.entryLiterals entries) ++ "\x7d"

def Value.literals : List Value → List String
  | [] => []
  | v :: vs => Value.literal v :: Value.literals vs

def Value.entryLiterals : List (Key × Value) → List String
  | [] => []
  | (k, v) :: rest => (k.literal ++ ": " ++ Value.literal v) :: Value.entryLiterals rest

end

mutual

def Value.writable : Value → Bool
  | .int n => (Key.int n).writable
  | .list items | .tuple items => Value.allWritable items
  | .map entries => Value.entriesWritable entries
  | _ => true

def Value.allWritable : List Value → Bool
  | [] => true
  | v :: vs => Value.writable v && Value.allWritable vs

def Value.entriesWritable : List (Key × Value) → Bool
  | [] => true
  | (k, v) :: rest => k.writable && Value.writable v && Value.entriesWritable rest

end

def Value.render (v : Value) : Except Error String :=
  Error.withinDigits v.writable v.spelling

end PathTemplate

import PathTemplate.Text

namespace PathTemplate

/-- A key of a mapping, or the name of a parameter. A truth value and the number it stands
for (true and 1, false and 0) are one key. -/
inductive Key where
  | text (s : String)
  | int (n : Int)
  | bool (b : Bool)
  | none
  deriving DecidableEq, Inhabited

def maxDigits : Nat := 4300

namespace Key

def number? : Key → Option Int
  | .int n => some n
  | .bool b => some (if b then 1 else 0)
  | _ => Option.none

/-- Whether two keys are the same key of a mapping. -/
def same : Key → Key → Bool
  | .text a, .text b => a == b
  | .none, .none => true
  | a, b =>
    match a.number?, b.number? with
    | some x, some y => x == y
    | _, _ => false

/-- Whether a key may be turned into text: every key but an int of more than `maxDigits`
digits. -/
def writable : Key → Bool
  | .int n => n.natAbs < Nat.pow 10 maxDigits
  | _ => true

def spelling : Key → String
  | .text s => s
  | .int n => toString n
  | .bool true => "True"
  | .bool false => "False"
  | .none => "None"

def literal : Key → String
  | .text s => Text.quote s
  | k => k.spelling

end Key

end PathTemplate

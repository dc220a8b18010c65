import PathTemplate.Template.Scanner
import PathTemplate.Regex.Match
import PathTemplate.Value
import PathTemplate.Text
import PathTemplate.Unicode.Case

namespace PathTemplate

/-- How a segment's text is encoded, given the parameter it is for, before it is checked and
written. -/
abbrev Encoder := String → Parameter → String

def Encoder.segment : Encoder := fun s _ => Text.encodeSegment s

def Encoder.identity : Encoder := fun s _ => s

def Encoder.upperCase : Encoder := fun s _ => s.toUpperFull

/-- The text of a double in a path: `NaN`, `Infinity`, `-Infinity`, a whole number for an
integral double below 10^21 in size, else its shortest form. -/
def floatSegment (x : Float) : String :=
  match Decimal.classify x with
  | .nan => "NaN"
  | .infinite neg => if neg then "-Infinity" else "Infinity"
  | .finite b =>
    match b.integral? with
    | some n => if n.natAbs < Nat.pow 10 21 then toString n else Decimal.floatText x
    | none => Decimal.floatText x

/-- The text a value stands for in a path, every int in it spelled in full: `true` and `false`
for truth values, doubles as `floatSegment` writes them, all else as its spelling. -/
def Value.segmentSpelling : Value → String
  | .bool b => if b then "true" else "false"
  | .float x => floatSegment x
  | v => v.spelling

def Value.segmentText (v : Value) : Except Error String :=
  Error.withinDigits v.writable v.segmentSpelling

/-- The value a mapping gives a parameter name: nothing for no mapping or an empty one; for a
number (or truth value) whose own key has no value, the value of its text, which must then be
written. -/
def lookupParam (params : Option Mapping) (name : Key) : Except Error Value :=
  match params with
  | none => .ok .none
  | some m =>
    if m.isEmpty then .ok .none
    else
      let v := (m.get? name).getD .none
      match v, name.number? with
      | .none, some _ => name.render.map fun text => (m.get? (.text text)).getD .none
      | _, _ => .ok v

/-- A template ready to build paths: its tokens and the check of each parameter pattern. -/
structure Builder where
  tokens : List Token
  checks : List (String × Regex)

namespace Builder

def ofTokens (tokens : List Token) : Except Error Builder := do
  let checks ← (Token.params tokens).mapM fun p =>
    match Regex.compile ("(?:" ++ p.pattern ++ ")") Regex.Flags.none with
    | .ok r => .ok (p.pattern, r)
    | .error e => .error (Error.regex e)
  return ⟨tokens, checks⟩

def ofTemplate (o : Options) (template : String) : Except Error Builder := do
  ofTokens (← Template.parse o template)

def passes (b : Builder) (pattern segment : String) : Except Error Bool :=
  match b.checks.lookup pattern with
  | some r =>
    match r.fullMatch segment with
    | .ok m => .ok m.isSome
    | .error e => .error (.search e)
  | none => .ok false

def fillEach (b : Builder) (p : Parameter) (enc : Encoder) : Nat → List Value → Except Error String
  | _, [] => .ok ""
  | i, v :: vs => do
    let segment := enc (← v.segmentText) p
    if ← b.passes p.pattern segment then
      let rest ← fillEach b p enc (i + 1) vs
      return (if i == 0 then p.lead else p.delimiter) ++ segment ++ rest
    else .error (Invalid.raise (.elementMismatch p.name p.pattern segment))

def fill (b : Builder) (p : Parameter) (enc : Encoder) (v : Value) : Except Error String :=
  match v with
  | .list items | .tuple items =>
    if !p.repeating then .error (Invalid.raise (.repeated p.name))
    else if items.isEmpty then
      (if p.optional then .ok "" else .error (Invalid.raise (.empty p.name)))
    else b.fillEach p enc 0 items
  | .text _ | .int _ | .float _ | .bool _ => do
    let segment := enc (← v.segmentText) p
    if ← b.passes p.pattern segment then .ok (p.lead ++ segment)
    else .error (Invalid.raise (.mismatch p.name p.pattern segment))
  | _ =>
    if p.optional then .ok (if p.partialSegment then p.lead else "")
    else .error (Invalid.raise (.missing p.name p.repeating))

/-- The path for a mapping of values (or none). -/
def generate (b : Builder) (params : Option Mapping) (enc : Encoder) : Except Error String := do
  let parts ← b.tokens.mapM fun
    | .literal text => .ok text
    | .param p => lookupParam params p.name >>= b.fill p enc
  return String.join parts

end Builder

end PathTemplate

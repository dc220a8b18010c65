import PathTemplate.Template.Scanner
import PathTemplate.Value

namespace PathTemplate

open Template

def Parameter.capture (p : Parameter) : String :=
  if p.repeating then
    "(?:" ++ p.pattern ++ ")(?:" ++ escapeLiteral p.delimiter ++ "(?:" ++ p.pattern ++ "))*"
  else p.pattern

def Token.source : Token → String
  | .literal text => escapeLiteral text
  | .param p =>
    let lead := escapeLiteral p.lead
    if p.optional then
      if p.partialSegment then lead ++ "(" ++ p.capture ++ ")?"
      else "(?:" ++ lead ++ "(" ++ p.capture ++ "))?"
    else lead ++ "(" ++ p.capture ++ ")"

namespace Template

def regexFlags (o : Options) : Regex.Flags :=
  if o.sensitive then Regex.Flags.none else Regex.Flags.caseless

def endsDelimited (o : Options) (tokens : List Token) : Bool :=
  match tokens.getLast? with
  | none => true
  | some (.literal text) =>
    match text.toList.getLast? with
    | some c => o.leadChars.contains c
    | none => false
  | some (.param _) => false

/-- The source of the pattern of tokens under options. -/
def patternSource (o : Options) (tokens : List Token) : String :=
  let delimiter := escapeLiteral o.segmentDelimiter
  let endsWith := joinWith "|" (o.endsWith.map escapeLiteral ++ ["\\Z"])
  let finish :=
    if o.anchorEnd then
      (if o.strict then "" else "(?:" ++ delimiter ++ ")?") ++
        (if endsWith == "\\Z" then "\\Z" else "(?=" ++ endsWith ++ ")")
    else
      (if o.strict then "" else "(?:" ++ delimiter ++ "(?=" ++ endsWith ++ "))?") ++
        (if endsDelimited o tokens then "" else "(?=" ++ delimiter ++ "|" ++ endsWith ++ ")")
  (if o.anchorStart then "^" else "") ++ String.join (tokens.map Token.source) ++ finish

def compileTokens (o : Options) (tokens : List Token) : Except Error Regex :=
  (Regex.compile (patternSource o tokens) (regexFlags o)).mapError .regex

/-- The number of `(` in a pattern's text that are not followed by `?`. -/
def groupOpenings : List Char → Nat
  | [] => 0
  | '(' :: '?' :: rest => groupOpenings rest
  | '(' :: rest => groupOpenings rest + 1
  | _ :: rest => groupOpenings rest

def positionalKeys (n : Nat) : List Parameter :=
  (List.range n).map fun (i : Nat) =>
    { name := .int (i : Int), lead := "", delimiter := "", optional := false, repeating := false,
      partialSegment := false, pattern := "" }

inductive RoutePattern where
  | template (s : String)
  | regex (r : Regex)
  | anyOf (items : List RoutePattern)

mutual

/-- The pattern of a route and its parameters, in order. -/
def RoutePattern.compile (o : Options) : RoutePattern → Except Error (Regex × List Parameter)
  | .template s => do
    let tokens ← parse o s
    return (← compileTokens o tokens, Token.params tokens)
  | .regex r => return (r, positionalKeys (groupOpenings r.source.toList))
  | .anyOf items => do
    let parts ← RoutePattern.compileAll o items
    let source := "(?:" ++ joinWith "|" (parts.map (·.1.source)) ++ ")"
    let r ← (Regex.compile source (regexFlags o)).mapError .regex
    return (r, parts.flatMap (·.2))

def RoutePattern.compileAll (o : Options) : List RoutePattern →
    Except Error (List (Regex × List Parameter))
  | [] => return []
  | p :: ps => do
    let first ← RoutePattern.compile o p
    return first :: (← RoutePattern.compileAll o ps)

end

end Template

end PathTemplate

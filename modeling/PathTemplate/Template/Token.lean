import PathTemplate.Key

namespace PathTemplate

/-- A parameter of a template. -/
structure Parameter where
  name : Key
  lead : String
  delimiter : String
  optional : Bool
  repeating : Bool
  partialSegment : Bool
  pattern : String
  deriving DecidableEq, Inhabited

/-- A piece of a template. -/
inductive Token where
  | literal (text : String)
  | param (p : Parameter)
  deriving DecidableEq, Inhabited

def Token.params (tokens : List Token) : List Parameter :=
  tokens.filterMap fun
    | .param p => some p
    | .literal _ => none

/-- How templates are read and turned into patterns. -/
structure Options where
  sensitive : Bool
  strict : Bool
  anchorStart : Bool
  anchorEnd : Bool
  delimiter : String
  delimiters : String
  endsWith : List String
  deriving Inhabited

/-- The options of express-style routes: case-insensitive, a trailing delimiter allowed,
anchored at both ends, segments delimited by `/`, leads `.` and `/`. -/
def Options.standard : Options :=
  ⟨false, false, true, true, "/", "./", []⟩

def Options.segmentDelimiter (o : Options) : String :=
  if o.delimiter.isEmpty then "/" else o.delimiter

def Options.leadChars (o : Options) : String :=
  if o.delimiters.isEmpty then "./" else o.delimiters

end PathTemplate

import PathTemplate.Text

namespace PathTemplate.Regex

/-- A cause for refusing a pattern. -/
inductive Fault where
  | trailingBackslash
  | missingName (what : String)
  | unterminatedName (terminator : Char)
  | badGroupName (name : String)
  | incompleteEscape (text : String)
  | badEscape (text : String)
  | octalTooLarge (text : String)
  | missingBrace
  | unknownCharName (name : String)
  | openGroupRef
  | lookbehindGroupRef
  | invalidGroupRef (n : Nat)
  | unterminatedSet
  | badRange (first last : String)
  | minOverMax
  | nothingToRepeat
  | multipleRepeat
  | unexpectedEnd
  | unknownGroupName (name : String)
  | unknownExtension (text : String)
  | unterminatedComment
  | unterminatedGroup
  | badGroupNumber
  | conditionalBranches
  | lateGlobalFlags
  | duplicateGroupName (name : String) (group previous : Nat)
  | tooManyGroups
  | unknownFlag
  | missingFlagEnd
  | missingFlag
  | missingColon
  | badInlineFlags (detail : String)
  | unbalancedParenthesis
  | variableLookbehind
  | lookbehindTooLong
  | templateRepeat (op : String)
  | countTooLarge
  | asciiAndUnicode
  | tooManyDigits (count : Nat)
  | invalidCode
  deriving Inhabited

def Fault.describe : Fault → String
  | .trailingBackslash => "bad escape (end of pattern)"
  | .missingName what => "missing " ++ what
  | .unterminatedName t => "missing " ++ t.toString ++ ", unterminated name"
  | .badGroupName n => "bad character in group name " ++ Text.quote n
  | .incompleteEscape t => "incomplete escape " ++ t
  | .badEscape t => "bad escape " ++ t
  | .octalTooLarge t => "octal escape value " ++ t ++ " outside of range 0-0o377"
  | .missingBrace => "missing " ++ "\x7b"
  | .unknownCharName n => "undefined character name " ++ Text.quote n
  | .openGroupRef => "cannot refer to an open group"
  | .lookbehindGroupRef => "cannot refer to group defined in the same lookbehind subpattern"
  | .invalidGroupRef n => "invalid group reference " ++ toString n
  | .unterminatedSet => "unterminated character set"
  | .badRange a b => "bad character range " ++ a ++ "-" ++ b
  | .minOverMax => "min repeat greater than max repeat"
  | .nothingToRepeat => "nothing to repeat"
  | .multipleRepeat => "multiple repeat"
  | .unexpectedEnd => "unexpected end of pattern"
  | .unknownGroupName n => "unknown group name " ++ Text.quote n
  | .unknownExtension t => "unknown extension " ++ t
  | .unterminatedComment => "missing ), unterminated comment"
  | .unterminatedGroup => "missing ), unterminated subpattern"
  | .badGroupNumber => "bad group number"
  | .conditionalBranches => "conditional backref with more than two branches"
  | .lateGlobalFlags => "global flags not at the start of the expression"
  | .duplicateGroupName n g p =>
    "redefinition of group name " ++ Text.quote n ++ " as group " ++ toString g ++
      "; was group " ++ toString p
  | .tooManyGroups => "too many groups"
  | .unknownFlag => "unknown flag"
  | .missingFlagEnd => "missing -, : or )"
  | .missingFlag => "missing flag"
  | .missingColon => "missing :"
  | .badInlineFlags d => "bad inline flags: " ++ d
  | .unbalancedParenthesis => "unbalanced parenthesis"
  | .variableLookbehind => "look-behind requires fixed-width pattern"
  | .lookbehindTooLong => "looks too much behind"
  | .templateRepeat op => "internal: unsupported template operator " ++ op
  | .countTooLarge => "the repetition number is too large"
  | .asciiAndUnicode => "ASCII and UNICODE flags are incompatible"
  | .tooManyDigits n =>
    "Exceeds the limit (4300 digits) for integer string conversion: value has " ++ toString n ++
      " digits; use sys.set_int_max_str_digits() to increase the limit"
  | .invalidCode => "invalid SRE code"

def Fault.isSyntax : Fault → Bool
  | .countTooLarge | .asciiAndUnicode | .tooManyDigits _ | .invalidCode => false
  | _ => true

/-- A refused pattern: the cause, the pattern, and the position where the cause was found
(none for causes found after reading, such as a lookbehind without fixed width). -/
structure Error where
  fault : Fault
  pattern : String
  pos : Option Nat
  deriving Inhabited

def lineAndColumn (text : List Char) (pos : Nat) : Nat × Nat :=
  let before := text.take pos
  let line := before.count '\n' + 1
  let lastBreak := (before.reverse.findIdx? (· == '\n')).map fun i => before.length - 1 - i
  (line, match lastBreak with | some b => pos - b | none => pos + 1)

def Error.message (e : Error) : String :=
  match e.pos with
  | none => e.fault.describe
  | some p =>
    let located := e.fault.describe ++ " at position " ++ toString p
    if e.pattern.contains '\n' then
      let (l, c) := lineAndColumn e.pattern.toList p
      located ++ " (line " ++ toString l ++ ", column " ++ toString c ++ ")"
    else located

/-- Why a search gives no answer. -/
inductive SearchError where
  | groupSpan
  | exhausted
  deriving Inhabited

def SearchError.message : SearchError → String
  | .groupSpan =>
    "The span of capturing group is wrong, please report a bug for the re module."
  | .exhausted => "The pattern needs more steps than the matcher allows on this text."

end PathTemplate.Regex

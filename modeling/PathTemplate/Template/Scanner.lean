import PathTemplate.Template.Token
import PathTemplate.Error
import PathTemplate.Regex.Parser

namespace PathTemplate.Template

def literalSpecials : List Char :=
  ['.', '+', '*', '?', '=', '^', '!', ':', '$', '{', '}', '(', ')', '[', ']', '|', '/', '\\']

def groupSpecials : List Char :=
  ['=', '!', ':', '$', '/', '(', ')']

def escapeAmong (specials : List Char) (s : String) : String :=
  String.ofList (s.toList.flatMap fun c => if specials.contains c then ['\\', c] else [c])

def escapeLiteral (s : String) : String :=
  escapeAmong literalSpecials s

def escapeGroup (s : String) : String :=
  escapeAmong groupSpecials s

/-- Where reading is: in text, after a backslash, in a name, in a group (or after a backslash
in one), with what the name or group has gathered, or just after a group, where a modifier
may follow. -/
inductive Mode where
  | literal
  | escape
  | name (text : String)
  | group (name : Option String) (start : Nat) (body : String)
  | groupEscape (name : Option String) (start : Nat) (body : String)
  | afterGroup (name : Option String) (body : String)

/-- What reading has produced: tokens so far, buffered text, whether an escape came since the
buffer was last emptied, and the number of the next unnamed parameter. -/
structure Scan where
  tokens : Array Token
  buffer : String
  escaped : Bool
  nextIndex : Nat

def Scan.initial : Scan :=
  ⟨#[], "", false, 0⟩

def isNameChar (c : Char) : Bool :=
  ('a' ≤ c && c ≤ 'z') || ('A' ≤ c && c ≤ 'Z') || ('0' ≤ c && c ≤ '9') || c == '_'

def isModifier (c : Char) : Bool :=
  c == '?' || c == '+' || c == '*'

def slotParameter (o : Options) (key : Key) (lead : String) (pattern : Option String)
    (modifier following : Option Char) : Parameter :=
  let delimiter := if lead.isEmpty then o.segmentDelimiter else lead
  { name := key, lead, delimiter
    optional := modifier == some '?' || modifier == some '*'
    repeating := modifier == some '+' || modifier == some '*'
    partialSegment := !lead.isEmpty && following.isSome && following != lead.toList.head?
    pattern := match pattern with
      | some body => escapeGroup body
      | none => "[^" ++ escapeLiteral delimiter ++ "]+?" }

namespace Scan

def flush (st : Scan) : Scan :=
  if st.buffer.isEmpty then st
  else { st with tokens := st.tokens.push (.literal st.buffer), buffer := "", escaped := false }

def takeLead (o : Options) (st : Scan) : String × Scan :=
  match st.buffer.toList.getLast? with
  | some c =>
    if !st.escaped && o.leadChars.contains c then
      (String.singleton c, { st with buffer := String.ofList st.buffer.toList.dropLast })
    else ("", st)
  | none => ("", st)

/-- Emit a parameter with its name (or the next number), its own pattern if it has one, its
modifier, and the character that follows it in the template. -/
def emit (o : Options) (name : Option String) (pattern : Option String) (modifier : Option Char)
    (following : Option Char) (st : Scan) : Scan :=
  let (lead, st) := st.takeLead o
  let st := st.flush
  let (key, st) := match name with
    | some n => (Key.text n, st)
    | none => (Key.int st.nextIndex, { st with nextIndex := st.nextIndex + 1 })
  { st with tokens := st.tokens.push (.param (slotParameter o key lead pattern modifier following)) }

end Scan

def literalStep (template : String) (c : Char) (rest : List Char) (pos : Nat) (st : Scan) :
    Except Error (Mode × Scan) :=
  if c == '\\' && !rest.isEmpty then .ok (.escape, st)
  else if c == ':' && (rest.head?.map isNameChar).getD false then .ok (.name "", st)
  else if c == '(' then .ok (.group none pos "", st)
  else if c == ')' then .error (.template ⟨.unbalanced, template, pos⟩)
  else .ok (.literal, { st with buffer := st.buffer.push c })

def checkGroup (template : String) (start : Nat) (body : String) : Except Error Unit :=
  if body.isEmpty then .error (.template ⟨.emptyGroup, template, start⟩)
  else
    match Regex.compile (escapeGroup body) Regex.Flags.none with
    | .ok _ => .ok ()
    | .error e =>
      if e.fault.isSyntax then .error (.template ⟨.invalidPattern e, template, start⟩)
      else .error (.regex e)

def paramEnd (o : Options) (template : String) (name pattern : Option String) (c : Char)
    (rest : List Char) (pos : Nat) (st : Scan) : Except Error (Mode × Scan) :=
  if isModifier c then .ok (.literal, st.emit o name pattern (some c) rest.head?)
  else literalStep template c rest pos (st.emit o name pattern none (some c))

/-- Read the characters `cs`, the first at position `pos`, in mode `mode`. -/
def scanFrom (o : Options) (template : String) : Mode → List Char → Nat → Scan →
    Except Error (List Token)
  | .group _ start _, [], _, _ | .groupEscape _ start _, [], _, _ =>
    .error (.template ⟨.unterminated, template, start⟩)
  | .name text, [], _, st => .ok (st.emit o (some text) none none none).flush.tokens.toList
  | .afterGroup name body, [], _, st => .ok (st.emit o name (some body) none none).flush.tokens.toList
  | _, [], _, st => .ok st.flush.tokens.toList
  | .literal, c :: rest, pos, st => do
    let (m, st) ← literalStep template c rest pos st
    scanFrom o template m rest (pos + 1) st
  | .escape, c :: rest, pos, st =>
    scanFrom o template .literal rest (pos + 1) { st with buffer := st.buffer.push c, escaped := true }
  | .name text, c :: rest, pos, st =>
    if isNameChar c then scanFrom o template (.name (text.push c)) rest (pos + 1) st
    else if c == '(' then scanFrom o template (.group (some text) pos "") rest (pos + 1) st
    else do
      let (m, st) ← paramEnd o template (some text) none c rest pos st
      scanFrom o template m rest (pos + 1) st
  | .afterGroup name body, c :: rest, pos, st => do
    let (m, st) ← paramEnd o template name (some body) c rest pos st
    scanFrom o template m rest (pos + 1) st
  | .group name start body, c :: rest, pos, st =>
    if c == '\\' then scanFrom o template (.groupEscape name start (body.push c)) rest (pos + 1) st
    else if c == '(' then .error (.template ⟨.nested, template, pos⟩)
    else if c == ')' then do
      checkGroup template start body
      scanFrom o template (.afterGroup name body) rest (pos + 1) st
    else scanFrom o template (.group name start (body.push c)) rest (pos + 1) st
  | .groupEscape name start body, c :: rest, pos, st =>
    scanFrom o template (.group name start (body.push c)) rest (pos + 1) st

/-- The tokens of a template. -/
def parse (o : Options) (template : String) : Except Error (List Token) :=
  scanFrom o template .literal template.toList 0 Scan.initial

end PathTemplate.Template

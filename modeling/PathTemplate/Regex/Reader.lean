import PathTemplate.Regex.Syntax
import PathTemplate.Regex.Error
import PathTemplate.Unicode.Identifier
import PathTemplate.Unicode.Classes

namespace PathTemplate.Regex

/-- A unit of pattern text: one character, or a backslash with the character after it. -/
inductive Tok where
  | plain (c : Char)
  | escaped (c : Char)
  deriving DecidableEq, Inhabited

def Tok.length : Tok → Nat
  | .plain _ => 1
  | .escaped _ => 2

def Tok.text : Tok → String
  | .plain c => String.singleton c
  | .escaped c => String.ofList ['\\', c]

def Tok.isChar (t : Tok) (c : Char) : Bool :=
  t == .plain c

/-- The state of reading: the text, the lookahead unit and what is known of the groups. -/
structure Reader where
  source : String
  text : Array Char
  index : Nat
  next : Option Tok
  flags : Flags
  names : List (String × Nat)
  widths : Array (Option (Nat × Nat))
  lookbehindFrom : Option Nat
  condRefs : List (Nat × Nat)

namespace Reader

def tell (r : Reader) : Nat :=
  r.index - (r.next.map Tok.length).getD 0

def groups (r : Reader) : Nat :=
  r.widths.size

def isClosed (r : Reader) (g : Nat) : Bool :=
  match r.widths[g]? with
  | some (some _) => true
  | _ => false

end Reader

/-- Reading a pattern, which may refuse it. -/
abbrev ReadM := StateT Reader (Except Error)

def failAt {α : Type} (f : Fault) (pos : Nat) : ReadM α := do
  throw ⟨f, (← get).source, some pos⟩

def failBack {α : Type} (f : Fault) (offset : Nat) : ReadM α := do
  let r ← get
  throw ⟨f, r.source, some (r.tell - offset)⟩

def advance : ReadM Unit := do
  let r ← get
  match r.text[r.index]? with
  | none => set { r with next := none }
  | some c =>
    if c == '\\' then
      match r.text[r.index + 1]? with
      | some d => set { r with next := some (.escaped d), index := r.index + 2 }
      | none => throw ⟨.trailingBackslash, r.source, some (r.text.size - 1)⟩
    else set { r with next := some (.plain c), index := r.index + 1 }

def peek : ReadM (Option Tok) :=
  return (← get).next

def take : ReadM (Option Tok) := do
  let t ← peek
  advance
  return t

def accept (c : Char) : ReadM Bool := do
  if (← peek) == some (.plain c) then
    advance
    return true
  else return false

def seek (i : Nat) : ReadM Unit := do
  modify fun r => { r with index := i }
  advance

def nextIs (p : Char → Bool) : ReadM Bool := do
  match ← peek with
  | some (.plain c) => return p c
  | _ => return false

def takeChars : Nat → (Char → Bool) → ReadM String
  | 0, _ => return ""
  | n + 1, p => do
    match ← peek with
    | some (.plain c) =>
      if p c then
        advance
        return String.singleton c ++ (← takeChars n p)
      else return ""
    | _ => return ""

def takeUntil (terminator : Char) (what : String) : Nat → String → ReadM String
  | 0, acc => return acc
  | fuel + 1, acc => do
    match ← take with
    | none =>
      if acc.isEmpty then failBack (.missingName what) 0
      else failBack (.unterminatedName terminator) acc.length
    | some t =>
      if t.isChar terminator then
        if acc.isEmpty then failBack (.missingName what) 1 else return acc
      else takeUntil terminator what fuel (acc ++ t.text)

def isAsciiLetter (c : Char) : Bool :=
  ('a' ≤ c && c ≤ 'z') || ('A' ≤ c && c ≤ 'Z')

def isDigitChar (c : Char) : Bool :=
  '0' ≤ c && c ≤ '9'

def isOctChar (c : Char) : Bool :=
  '0' ≤ c && c ≤ '7'

def isHexChar (c : Char) : Bool :=
  isDigitChar c || ('a' ≤ c && c ≤ 'f') || ('A' ≤ c && c ≤ 'F')

def hexValue (c : Char) : Nat :=
  if isDigitChar c then c.toNat - 48
  else if 'a' ≤ c && c ≤ 'f' then c.toNat - 87
  else c.toNat - 55

def digitsValue (base : Nat) (ds : List Char) : Nat :=
  ds.foldl (fun acc d => acc * base + hexValue d) 0

def isIdentifier (s : String) : Bool :=
  match s.toList with
  | [] => false
  | c :: cs =>
    Unicode.nameStartTable.contains c.toNat && cs.all (Unicode.nameContinueTable.contains ·.toNat)

def decimalValue? (c : Char) : Option Nat :=
  (Unicode.decimalTable.rangeOf? c.toNat).map fun (a, _) => (c.toNat - a) % 10

def underscoredDigits? : List Char → Option (List Nat)
  | [] => none
  | [c] => (decimalValue? c).map ([·])
  | c :: '_' :: rest => do
    let d ← decimalValue? c
    return d :: (← underscoredDigits? rest)
  | c :: rest => do
    let d ← decimalValue? c
    return d :: (← underscoredDigits? rest)

def maxDigits : Nat := 4300

def readInteger? (s : String) : Option Int :=
  let blank (c : Char) := Unicode.blankTable.contains c.toNat
  let core := ((s.toList.dropWhile blank).reverse.dropWhile blank).reverse
  let (negative, digits) := match core with
    | '-' :: ds => (true, ds)
    | '+' :: ds => (false, ds)
    | ds => (false, ds)
  match underscoredDigits? digits with
  | none => none
  | some ds =>
    if ds.length > maxDigits then none
    else
      let n : Nat := ds.foldl (fun acc d => acc * 10 + d) 0
      some (if negative then -(n : Int) else (n : Int))

def maxGroups : Nat := 1073741823

end PathTemplate.Regex

import PathTemplate.Regex.Syntax
import PathTemplate.Unicode.Case
import PathTemplate.Unicode.Classes

namespace PathTemplate.Regex

def caseClasses : List (List Nat) :=
  [[105, 305], [115, 383], [181, 956], [837, 953, 8126], [912, 8147], [944, 8163], [946, 976],
   [949, 1013], [952, 977], [954, 1008], [960, 982], [961, 1009], [962, 963], [966, 981],
   [1074, 7296], [1076, 7297], [1086, 7298], [1089, 7299], [1090, 7300, 7301], [1098, 7302],
   [1123, 7303], [7304, 42571], [7777, 7835], [64261, 64262]]

def caseClassOf (c : Nat) : List Nat :=
  (caseClasses.find? (·.contains c)).getD [c]

def isAsciiAlnum (c : Nat) : Bool :=
  (48 ≤ c && c ≤ 57) || (65 ≤ c && c ≤ 90) || (97 ≤ c && c ≤ 122)

def isWordChar (unicode : Bool) (c : Nat) : Bool :=
  if unicode then Unicode.wordTable.contains c else c < 128 && (isAsciiAlnum c || c == 95)

def isDigitCode (unicode : Bool) (c : Nat) : Bool :=
  if unicode then Unicode.decimalTable.contains c else 48 ≤ c && c ≤ 57

def isSpaceCode (unicode : Bool) (c : Nat) : Bool :=
  if unicode then Unicode.blankTable.contains c else (9 ≤ c && c ≤ 13) || c == 32

def ClassEscape.test (unicode : Bool) (k : ClassEscape) (c : Nat) : Bool :=
  match k with
  | .digit => isDigitCode unicode c
  | .notDigit => !isDigitCode unicode c
  | .space => isSpaceCode unicode c
  | .notSpace => !isSpaceCode unicode c
  | .word => isWordChar unicode c
  | .notWord => !isWordChar unicode c

namespace Flags

/-- The folding of case-insensitive comparison: simple lowercase, or ASCII lowercase under
the ASCII tables. -/
def fold (f : Flags) (c : Nat) : Nat :=
  if f.unicode then Unicode.toLower c else Unicode.toLowerAscii c

def hasCase (f : Flags) (c : Nat) : Bool :=
  if f.unicode then Unicode.isCased c else Unicode.isCasedAscii c

def unfold (f : Flags) (c : Nat) : List Nat :=
  if f.unicode then Unicode.lowerMap.preimages c
  else if 65 ≤ c && c ≤ 90 then []
  else if 97 ≤ c && c ≤ 122 then [c - 32, c]
  else [c]

def equals (f : Flags) (c : Nat) : List Nat :=
  if f.unicode then caseClassOf c else [c]

end Flags

/-- Whether the subject character `c` meets the pattern character `lit`. -/
def charMeets (f : Flags) (lit c : Nat) : Bool :=
  if f.ignoreCase && f.hasCase lit then (f.equals (f.fold lit)).contains (f.fold c)
  else c == lit

def astral : Nat := 65536

def rangeHasCase (f : Flags) (lo hi : Nat) : Bool :=
  if f.unicode then Unicode.casedTable.meets lo hi
  else (lo ≤ 90 && 65 ≤ hi) || (lo ≤ 122 && 97 ≤ hi)

def setFolds (f : Flags) (items : List SetItem) : Bool :=
  items.any fun
    | .char a => f.hasCase a || a ≥ astral
    | .range lo hi => hi ≥ astral || rangeHasCase f lo hi
    | .cls _ => false

def SetItem.holds (unicode : Bool) (c : Nat) : SetItem → Bool
  | .char a => c == a
  | .range lo hi => lo ≤ c && c ≤ hi
  | .cls k => k.test unicode c

def SetItem.holdsFolded (f : Flags) (l : Nat) : SetItem → Bool
  | .char a =>
    if a ≥ astral then l == a else (f.equals (f.fold a)).contains l
  | .range lo hi =>
    let top := min hi (astral - 1)
    let inPlane := (f.equals l).any fun y => (f.unfold y).any fun x => lo ≤ x && x ≤ top
    inPlane ||
      (hi ≥ astral &&
        ((lo ≤ l && l ≤ hi) || (lo ≤ Unicode.toUpperSingle l && Unicode.toUpperSingle l ≤ hi)))
  | .cls k => k.test f.unicode l

/-- Whether the subject character `c` meets a set. -/
def setMeets (f : Flags) (negated : Bool) (items : List SetItem) (c : Nat) : Bool :=
  let hit :=
    if f.ignoreCase && setFolds f items then items.any (SetItem.holdsFolded f (f.fold c))
    else items.any (SetItem.holds f.unicode c)
  hit != negated

end PathTemplate.Regex

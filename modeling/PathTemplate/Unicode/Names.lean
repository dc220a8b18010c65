import PathTemplate.Unicode.NameData

namespace PathTemplate.Unicode

def symbolCount : Nat := nameSymbols.length

def nameWordText : String := String.join nameWordParts.toList

def nameEntryText : String := String.join nameEntryParts.toList

def nameAliasText : String := String.join nameAliasParts.toList

def nameWords : Array String := (nameWordText.splitOn " ").toArray

def readWordRef : List Char → Option (Nat × List Char)
  | a :: rest =>
    let d := symbolValue a
    if d < oneSymbolWords then some (d, rest)
    else if d < oneSymbolWords + twoSymbolLeads then
      match rest with
      | b :: rest => some (oneSymbolWords + (d - oneSymbolWords) * symbolCount + symbolValue b, rest)
      | [] => none
    else
      match rest with
      | b :: c :: rest =>
        let high := (d - oneSymbolWords - twoSymbolLeads) * symbolCount + symbolValue b
        some (oneSymbolWords + twoSymbolLeads * symbolCount + high * symbolCount + symbolValue c,
          rest)
      | _ => none
  | [] => none

def readEntryWords : Nat → List Char → List Nat × List Char
  | 0, cs => ([], cs)
  | _ + 1, [] => ([], [])
  | _ + 1, ',' :: rest => ([], rest)
  | fuel + 1, cs =>
    match readWordRef cs with
    | some (w, rest) =>
      let (ws, after) := readEntryWords fuel rest
      (w :: ws, after)
    | none => ([], [])

def readGap : List Char → Nat × List Char
  | '!' :: a :: b :: c :: d :: rest =>
    let n := ((symbolValue a * symbolCount + symbolValue b) * symbolCount + symbolValue c) *
      symbolCount + symbolValue d
    (n, rest)
  | cs => (1, cs)

def entryWordBound : Nat := 64

/-- The code point whose formal name has the words `target`, reading entries from `cs`;
`code` is the code point of the entry before and `prev` the words of its name. -/
def findFormal (target : List String) : Nat → Nat → List String → List Char → Option Nat
  | 0, _, _, _ => none
  | _ + 1, _, _, [] => none
  | fuel + 1, code, prev, cs =>
    let (gap, cs) := readGap cs
    match cs with
    | [] => none
    | s :: cs =>
      let (refs, cs) := readEntryWords entryWordBound cs
      let words := prev.take (symbolValue s) ++ refs.map fun i => nameWords.getD i ""
      if words == target then some (code + gap)
      else findFormal target fuel (code + gap) words cs

def capitalHex? (cs : List Char) : Option Nat :=
  cs.foldl (fun acc c => acc.bind fun n =>
    if '0' ≤ c && c ≤ '9' then some (n * 16 + (c.toNat - 48))
    else if 'A' ≤ c && c ≤ 'F' then some (n * 16 + (c.toNat - 55))
    else none) (some 0)

def findAlias (target : String) : Option Nat :=
  (nameAliasText.splitOn ",").findSome? fun entry =>
    match entry.splitOn ";" with
    | [name, hex] => if name == target then capitalHex? hex.toList else none
    | _ => none

def longestPart (parts : List String) (cs : List Char) : Option (Nat × Nat) :=
  parts.zipIdx.foldl (fun best (part, i) =>
    let p := part.toList
    if cs.take p.length == p && best.all (p.length > ·.2) then some (i, p.length) else best)
    none

def syllable? (cs : List Char) : Option Nat := do
  let (l, n) ← longestPart syllableLeads cs
  let cs := cs.drop n
  let (v, n) ← longestPart syllableVowels cs
  let cs := cs.drop n
  let (t, n) ← longestPart syllableTails cs
  if cs.length == n then
    some (0xAC00 + (l * syllableVowels.length + v) * syllableTails.length + t)
  else none

def ideograph? (cs : List Char) : Option Nat := do
  if cs.length != 4 && cs.length != 5 then none
  else
    let c ← capitalHex? cs
    if unifiedIdeographs.any fun (a, b) => a ≤ c && c ≤ b then some c else none

/-- The code point that a character name names, if any. -/
def lookupName? (name : String) : Option Nat :=
  let cs := name.toList
  if "HANGUL SYLLABLE ".toList.isPrefixOf cs then syllable? (cs.drop 16)
  else if "CJK UNIFIED IDEOGRAPH-".toList.isPrefixOf cs then ideograph? (cs.drop 22)
  else
    let upper := String.ofList (cs.map Char.toUpper)
    match findFormal (upper.splitOn " ") nameEntryText.length 0 [] nameEntryText.toList with
    | some c => some c
    | none => findAlias upper

end PathTemplate.Unicode

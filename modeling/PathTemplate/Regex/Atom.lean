import PathTemplate.Regex.Reader
import PathTemplate.Unicode.Names

namespace PathTemplate.Regex

def checkLookbehindRef (g : Nat) : ReadM Unit := do
  let r ← get
  match r.lookbehindFrom with
  | none => return
  | some first =>
    if !r.isClosed g then failBack .openGroupRef 0
    else if g ≥ first then failBack .lookbehindGroupRef 0
    else return

def checkGroupName (name : String) (offset : Nat) : ReadM Unit := do
  if isIdentifier name then return
  else failBack (.badGroupName name) (name.length + offset)

def hexEscape (letter : Char) (digits : Nat) : ReadM (Nat × String) := do
  let ds ← takeChars digits isHexChar
  let esc := String.ofList ['\\', letter] ++ ds
  if esc.length != digits + 2 then failBack (.incompleteEscape esc) esc.length
  else return (digitsValue 16 ds.toList, esc)

def longEscape : ReadM Nat := do
  let (v, esc) ← hexEscape 'U' 8
  if v > 0x10FFFF then failBack (.badEscape esc) 10 else return v

def namedEscape : ReadM Nat := do
  if !(← accept '{') then failBack .missingBrace 0
  else
    let fuel := (← get).text.size + 1
    let name ← takeUntil '}' "character name" fuel ""
    match Unicode.lookupName? name with
    | some c => return c
    | none => failBack (.unknownCharName name) (name.length + 4)

def classEscape (c : Char) : ReadM SetItem := do
  match c with
  | 'a' => return .char 7
  | 'b' => return .char 8
  | 'f' => return .char 12
  | 'n' => return .char 10
  | 'r' => return .char 13
  | 't' => return .char 9
  | 'v' => return .char 11
  | '\\' => return .char 92
  | 'd' => return .cls .digit
  | 'D' => return .cls .notDigit
  | 's' => return .cls .space
  | 'S' => return .cls .notSpace
  | 'w' => return .cls .word
  | 'W' => return .cls .notWord
  | 'x' => return .char (← hexEscape 'x' 2).1
  | 'u' => return .char (← hexEscape 'u' 4).1
  | 'U' => return .char (← longEscape)
  | 'N' => return .char (← namedEscape)
  | c =>
    if isOctChar c then
      let ds ← takeChars 2 isOctChar
      let esc := String.ofList ['\\', c] ++ ds
      let v := digitsValue 8 (c :: ds.toList)
      if v > 0o377 then failBack (.octalTooLarge esc) esc.length else return .char v
    else if isDigitChar c || isAsciiLetter c then
      failBack (.badEscape (String.ofList ['\\', c])) 2
    else return .char c.toNat

/-- The meaning of a backslash escape outside a character set. -/
def escapeNode (c : Char) : ReadM Node := do
  match c with
  | 'A' => return .anchor .textStart
  | 'b' => return .anchor .boundary
  | 'B' => return .anchor .notBoundary
  | 'Z' => return .anchor .textEnd
  | 'd' => return .set false [.cls .digit]
  | 'D' => return .set false [.cls .notDigit]
  | 's' => return .set false [.cls .space]
  | 'S' => return .set false [.cls .notSpace]
  | 'w' => return .set false [.cls .word]
  | 'W' => return .set false [.cls .notWord]
  | 'a' => return .char 7
  | 'f' => return .char 12
  | 'n' => return .char 10
  | 'r' => return .char 13
  | 't' => return .char 9
  | 'v' => return .char 11
  | '\\' => return .char 92
  | 'x' => return .char (← hexEscape 'x' 2).1
  | 'u' => return .char (← hexEscape 'u' 4).1
  | 'U' => return .char (← longEscape)
  | 'N' => return .char (← namedEscape)
  | '0' => do
    let ds ← takeChars 2 isOctChar
    return .char (digitsValue 8 ('0' :: ds.toList))
  | c =>
    if isDigitChar c then
      -- an octal escape of three digits, or else a group number of one or two digits
      let mut digits := [c]
      match ← peek with
      | some (.plain d) =>
        if isDigitChar d then
          advance
          digits := [c, d]
          match ← peek with
          | some (.plain e) =>
            if isOctChar c && isOctChar d && isOctChar e then
              advance
              let esc := String.ofList ['\\', c, d, e]
              let v := digitsValue 8 [c, d, e]
              if v > 0o377 then failBack (.octalTooLarge esc) 4
              else return .char v
            else pure ()
          | _ => pure ()
        else pure ()
      | _ => pure ()
      let g := digitsValue 10 digits
      let escLength := digits.length + 1
      let r ← get
      if g < r.groups then
        if !r.isClosed g then failBack .openGroupRef escLength
        else
          checkLookbehindRef g
          return .backref g
      else failBack (.invalidGroupRef g) (escLength - 1)
    else if isAsciiLetter c then failBack (.badEscape (String.ofList ['\\', c])) 2
    else return .char c.toNat

def dedupe {α : Type} [DecidableEq α] : List α → List α
  | [] => []
  | x :: xs => x :: (dedupe xs).filter (· ≠ x)

def setItems (here : Nat) : Nat → List SetItem → ReadM (List SetItem)
  | 0, acc => return acc.reverse
  | fuel + 1, acc => do
    match ← take with
    | none => failAt .unterminatedSet here
    | some t =>
      if t.isChar ']' && !acc.isEmpty then return acc.reverse
      else
        let first ← match t with
          | .escaped c => classEscape c
          | .plain c => pure (SetItem.char c.toNat)
        if ← accept '-' then
          match ← take with
          | none => failAt .unterminatedSet here
          | some u =>
            if u.isChar ']' then return (SetItem.char 45 :: first :: acc).reverse
            else
              let last ← match u with
                | .escaped c => classEscape c
                | .plain c => pure (SetItem.char c.toNat)
              match first, last with
              | .char lo, .char hi =>
                if hi < lo then failBack (.badRange t.text u.text) (t.length + 1 + u.length)
                else setItems here fuel (.range lo hi :: acc)
              | _, _ => failBack (.badRange t.text u.text) (t.length + 1 + u.length)
        else setItems here fuel (first :: acc)

/-- A character set after its opening bracket at `here`. -/
def characterSet (here : Nat) : ReadM Node := do
  let negated ← accept '^'
  let items := dedupe (← setItems here ((← get).text.size + 1) [])
  match items with
  | [.char c] => return if negated then .notChar c else .char c
  | _ => return .set negated items

end PathTemplate.Regex

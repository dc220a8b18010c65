import PathTemplate.Regex.Reader
import PathTemplate.Unicode.Alpha

namespace PathTemplate.Regex

def digitRun : Nat → ReadM String
  | 0 => return ""
  | n + 1 => do
    if ← nextIs isDigitChar then
      let d ← take
      return (d.map Tok.text).getD "" ++ (← digitRun n)
    else return ""

def flagOfLetter? : Char → Option Flags
  | 'i' => some { Flags.none with ignoreCase := true }
  | 'L' => some { Flags.none with locale := true }
  | 'm' => some { Flags.none with multiline := true }
  | 's' => some { Flags.none with dotAll := true }
  | 'x' => some { Flags.none with verbose := true }
  | 'a' => some { Flags.none with ascii := true }
  | 't' => some { Flags.none with template := true }
  | 'u' => some { Flags.none with unicode := true }
  | _ => none

def Tok.flag? : Tok → Option Flags
  | .plain c => flagOfLetter? c
  | .escaped _ => none

def Tok.isAlpha : Tok → Bool
  | .plain c => Unicode.alphaTable.contains c.toNat
  | .escaped _ => false

def globalFlags (f : Flags) : Bool :=
  f.template

def flagsOn : Nat → Flags → Tok → ReadM (Flags × Tok)
  | 0, on, t => return (on, t)
  | fuel + 1, on, t => do
    match t.flag? with
    | none => return (on, t)
    | some f =>
      if t.isChar 'L' then
        failBack (.badInlineFlags "cannot use 'L' flag with a str pattern") 0
      else
        let on := on.union f
        if f.typeFlags.any && on.typeFlags != f.typeFlags then
          failBack (.badInlineFlags "flags 'a', 'u' and 'L' are incompatible") 0
        else
          match ← take with
          | none => failBack .missingFlagEnd 0
          | some u =>
            if u.isChar ')' || u.isChar '-' || u.isChar ':' then return (on, u)
            else if u.flag?.isNone then
              failBack (if u.isAlpha then .unknownFlag else .missingFlagEnd) u.length
            else flagsOn fuel on u

def flagsOff : Nat → Flags → Tok → ReadM Flags
  | 0, off, _ => return off
  | fuel + 1, off, t => do
    match t.flag? with
    | none => return off
    | some f =>
      if f.typeFlags.any then
        failBack (.badInlineFlags "cannot turn off flags 'a', 'u' and 'L'") 0
      else
        let off := off.union f
        match ← take with
        | none => failBack .missingColon 0
        | some u =>
          if u.isChar ':' then return off
          else if u.flag?.isNone then
            failBack (if u.isAlpha then .unknownFlag else .missingColon) u.length
          else flagsOff fuel off u

/-- Inline flags after `(?`, starting with the unit `t`: `none` for flags of the whole
pattern, `(?flags)`, which are recorded; else the flags a scoped group turns on and off. -/
def inlineFlags (t : Tok) : ReadM (Option (Flags × Flags)) := do
  let fuel := (← get).text.size + 1
  let (on, last) ← if t.isChar '-' then pure (Flags.none, t) else flagsOn fuel Flags.none t
  if last.isChar ')' then
    modify fun r => { r with flags := r.flags.union on }
    return none
  else if globalFlags on then failBack (.badInlineFlags "cannot turn on global flag") 1
  else
    let off ← if last.isChar '-' then do
        match ← take with
        | none => failBack .missingFlag 0
        | some u =>
          if u.flag?.isNone then failBack (if u.isAlpha then .unknownFlag else .missingFlag) u.length
          else flagsOff fuel Flags.none u
      else pure Flags.none
    if globalFlags off then failBack (.badInlineFlags "cannot turn off global flag") 1
    else if (on.inter off).any then failBack (.badInlineFlags "flag turned on and off") 1
    else return some (on, off)

end PathTemplate.Regex

import PathTemplate.Unicode.Classes

namespace PathTemplate.Decimal

def readDigits : List Char → Option (List Nat)
  | [] => some []
  | c :: '_' :: tail@(d :: _) =>
    if '0' ≤ c && c ≤ '9' && '0' ≤ d && d ≤ '9' then (readDigits tail).map ((c.toNat - 48) :: ·)
    else none
  | c :: rest =>
    if '0' ≤ c && c ≤ '9' then (readDigits rest).map ((c.toNat - 48) :: ·) else none

def digitsValue (ds : List Nat) : Nat :=
  ds.foldl (fun acc d => acc * 10 + d) 0

def splitAt? (p : Char → Bool) (cs : List Char) : List Char × Option (List Char) :=
  match cs.findIdx? p with
  | some i => (cs.take i, some (cs.drop (i + 1)))
  | none => (cs, none)

/-- The nearest double to `m · 10^e`, without computing powers for exponents far out of
range. -/
def scaled (m : Nat) (e : Int) : Float :=
  if m == 0 then 0.0
  else
    let size := (Nat.toDigits 10 m).length
    if e + size > 400 then 1.0 / 0.0
    else if e + size < -400 then 0.0
    else if e ≥ 0 then Float.ofScientific m false e.toNat
    else Float.ofScientific m true e.natAbs

def readUnsigned (cs : List Char) : Option Float :=
  let lower := cs.map Char.toLower
  if lower == "inf".toList || lower == "infinity".toList then some (1.0 / 0.0)
  else if lower == "nan".toList then some (0.0 / 0.0)
  else
    let (mantissa, exponent?) := splitAt? (fun c => c == 'e' || c == 'E') cs
    let (whole, fraction?) := splitAt? (· == '.') mantissa
    let fraction := fraction?.getD []
    match readDigits whole, readDigits fraction with
    | some ws, some fs =>
      if ws.isEmpty && fs.isEmpty then none
      else
        let exp? : Option Int := match exponent? with
          | none => some 0
          | some ('-' :: ds) => (readDigits ds).bind fun d => if d.isEmpty then none else some (-(digitsValue d : Int))
          | some ('+' :: ds) => (readDigits ds).bind fun d => if d.isEmpty then none else some (digitsValue d : Int)
          | some ds => (readDigits ds).bind fun d => if d.isEmpty then none else some (digitsValue d : Int)
        exp?.map fun e => scaled (digitsValue (ws ++ fs)) (e - fs.length)
    | _, _ => none

def asciiDigit (c : Char) : Char :=
  match Unicode.decimalTable.rangeOf? c.toNat with
  | some (a, _) => Char.ofNat (48 + (c.toNat - a) % 10)
  | none => c

/-- Read decimal text as a double. -/
def readFloat? (s : String) : Option Float :=
  let blank (c : Char) := Unicode.blankTable.contains c.toNat
  let cs := ((s.toList.dropWhile blank).reverse.dropWhile blank).reverse.map asciiDigit
  match cs with
  | '-' :: rest => (readUnsigned rest).map (- ·)
  | '+' :: rest => readUnsigned rest
  | _ => readUnsigned cs

end PathTemplate.Decimal

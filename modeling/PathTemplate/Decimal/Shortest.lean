namespace PathTemplate.Decimal

structure Binary where
  negative : Bool
  mantissa : Nat
  exponent : Int

inductive Kind where
  | finite (b : Binary)
  | infinite (negative : Bool)
  | nan

def classify (x : Float) : Kind :=
  let bits := x.toBits.toNat
  let negative := bits / Nat.pow 2 63 == 1
  let e : Nat := bits / Nat.pow 2 52 % 2048
  let f : Nat := bits % Nat.pow 2 52
  if e == 2047 then (if f == 0 then .infinite negative else .nan)
  else if e == 0 then .finite ⟨negative, f, -1074⟩
  else .finite ⟨negative, f + Nat.pow 2 52, (e : Int) - 1075⟩

def digitCount (n : Nat) : Nat :=
  (Nat.toDigits 10 n).length

def decimalExponent (num den : Nat) : Int :=
  if num ≥ den then (digitCount (num / den) : Int) - 1
  else -(digitCount ((den + num - 1) / num - 1) : Int)

structure Digits where
  digits : Nat
  exp : Int

/-- The reals that round to a finite positive double, scaled to whole numbers: `value`, the
half gaps `below` and `above`, all over `2^scale`, and whether the ends belong. -/
structure Interval where
  value : Nat
  below : Nat
  above : Nat
  scale : Nat
  closed : Bool

def Interval.of (m : Nat) (e : Int) : Interval :=
  let scale := (2 - e).toNat
  let shift := (e + scale).toNat
  let above := Nat.pow 2 (shift - 1)
  let below := if m == Nat.pow 2 52 && e > -1074 then Nat.pow 2 (shift - 2) else above
  { value := m * Nat.pow 2 shift, below, above, scale, closed := m % 2 == 0 }

def Interval.onGrid (iv : Interval) (k : Int) : Option Nat :=
  let up := Nat.pow 10 k.natAbs
  let (num, lo, hi, unit) :=
    if k ≥ 0 then (iv.value, iv.value - iv.below, iv.value + iv.above, up * Nat.pow 2 iv.scale)
    else (iv.value * up, (iv.value - iv.below) * up, (iv.value + iv.above) * up, Nat.pow 2 iv.scale)
  let inside (c : Nat) : Bool :=
    if iv.closed then lo ≤ c * unit && c * unit ≤ hi else lo < c * unit && c * unit < hi
  let c0 := num / unit
  let c1 := c0 + 1
  match inside c0, inside c1 with
  | true, true =>
    let d0 := num - c0 * unit
    let d1 := c1 * unit - num
    if d0 < d1 then some c0 else if d1 < d0 then some c1
    else if c0 % 2 == 0 then some c0 else some c1
  | true, false => some c0
  | false, true => some c1
  | false, false => none

def Digits.trim : Nat → Digits → Digits
  | 0, d => d
  | fuel + 1, d =>
    if d.digits % 10 == 0 && d.digits != 0 then Digits.trim fuel ⟨d.digits / 10, d.exp + 1⟩
    else d

/-- The fewest significant digits that read back as `m · 2^e` (`m > 0`). -/
def shortest (m : Nat) (e : Int) : Digits :=
  let iv := Interval.of m e
  let top := decimalExponent iv.value (Nat.pow 2 iv.scale)
  let found := (List.range 17).findSome? fun (i : Nat) =>
    let k : Int := top - (i : Int)
    (iv.onGrid k).map fun c => (⟨c, k⟩ : Digits)
  let d := found.getD ⟨m, 0⟩
  d.trim (digitCount d.digits)

def zeros (n : Nat) : String :=
  String.ofList (List.replicate n '0')

/-- Digits and exponent written out: positionally when the decimal point falls at position
-3 to 16 from the first digit, else as `d.ddde±XX`. -/
def layout (d : Digits) : String :=
  let ds := toString d.digits
  let n := ds.length
  let point : Int := n + d.exp
  if point ≤ -4 || point > 16 then
    let e := point - 1
    let mant := match ds.toList with
      | c :: rest => if rest.isEmpty then String.singleton c else String.singleton c ++ "." ++ String.ofList rest
      | [] => ds
    let expDigits := toString e.natAbs
    mant ++ "e" ++ (if e < 0 then "-" else "+") ++ (if expDigits.length < 2 then "0" ++ expDigits else expDigits)
  else if point ≤ 0 then "0." ++ zeros point.natAbs ++ ds
  else if point ≥ n then ds ++ zeros (point.toNat - n) ++ ".0"
  else String.ofList (ds.toList.take point.toNat) ++ "." ++ String.ofList (ds.toList.drop point.toNat)

/-- The shortest text of a double that reads back as it: `nan`, `inf`, `-inf`, `0.0`,
`-0.0`, or signed shortest digits. -/
def floatText (x : Float) : String :=
  match classify x with
  | .nan => "nan"
  | .infinite neg => if neg then "-inf" else "inf"
  | .finite b =>
    let sign := if b.negative then "-" else ""
    if b.mantissa == 0 then sign ++ "0.0" else sign ++ layout (shortest b.mantissa b.exponent)

def Binary.integral? (b : Binary) : Option Int :=
  let magnitude? : Option Nat :=
    if b.exponent ≥ 0 then some (b.mantissa * Nat.pow 2 b.exponent.toNat)
    else if b.mantissa % Nat.pow 2 b.exponent.natAbs == 0 then some (b.mantissa / Nat.pow 2 b.exponent.natAbs)
    else none
  magnitude?.map fun n => if b.negative then -(n : Int) else n

end PathTemplate.Decimal

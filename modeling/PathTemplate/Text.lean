import PathTemplate.Unicode.Printable

namespace PathTemplate.Text

def singleQuote : Char := Char.ofNat 39

def hexDigit (n : Nat) : Char :=
  if n < 10 then Char.ofNat (48 + n) else Char.ofNat (87 + n)

def hexPadded (width n : Nat) : List Char :=
  (List.range width).reverse.map fun i => hexDigit (n / Nat.pow 16 i % 16)

def quoteChar (q c : Char) : List Char :=
  let n := c.toNat
  if c == q || c == '\\' then ['\\', c]
  else if c == '\t' then ['\\', 't']
  else if c == '\n' then ['\\', 'n']
  else if c == '\r' then ['\\', 'r']
  else if n < 32 || n == 127 then '\\' :: 'x' :: hexPadded 2 n
  else if n < 127 || Unicode.printableTable.contains n then [c]
  else if n ≤ 0xff then '\\' :: 'x' :: hexPadded 2 n
  else if n ≤ 0xffff then '\\' :: 'u' :: hexPadded 4 n
  else '\\' :: 'U' :: hexPadded 8 n

def quoteFor (s : String) : Char :=
  if s.contains singleQuote && !s.contains '"' then '"' else singleQuote

/-- The quoted literal of a text. -/
def quote (s : String) : String :=
  let q := quoteFor s
  String.ofList (q :: s.toList.flatMap (quoteChar q) ++ [q])

def utf8Bytes (c : Char) : List Nat :=
  let n := c.toNat
  if n < 0x80 then [n]
  else if n < 0x800 then [0xC0 + n / 64, 0x80 + n % 64]
  else if n < 0x10000 then [0xE0 + n / 4096, 0x80 + n / 64 % 64, 0x80 + n % 64]
  else [0xF0 + n / 262144, 0x80 + n / 4096 % 64, 0x80 + n / 64 % 64, 0x80 + n % 64]

def upperHexDigit (n : Nat) : Char :=
  if n < 10 then Char.ofNat (48 + n) else Char.ofNat (55 + n)

def percentByte (b : Nat) : List Char :=
  ['%', upperHexDigit (b / 16), upperHexDigit (b % 16)]

def isUnreserved (c : Char) : Bool :=
  ('a' ≤ c && c ≤ 'z') || ('A' ≤ c && c ≤ 'Z') || ('0' ≤ c && c ≤ '9') ||
    c == '-' || c == '_' || c == '.' || c == '~'

def isSegmentSafe (c : Char) : Bool :=
  isUnreserved c || c == '!' || c == '*' || c == Char.ofNat 39 || c == '(' || c == ')'

def percentEncode (safe : Char → Bool) (s : String) : String :=
  String.ofList (s.toList.flatMap fun c => if safe c then [c] else (utf8Bytes c).flatMap percentByte)

/-- A path segment: percent-encoded but for ASCII letters, digits and `- _ . ~ ! * ' ( )`. -/
def encodeSegment (s : String) : String :=
  percentEncode isSegmentSafe s

/-- A form value: a space becomes `+`, all else but unreserved characters is percent-encoded. -/
def encodeFormValue (s : String) : String :=
  String.ofList (s.toList.flatMap fun c =>
    if c == ' ' then ['+'] else if isUnreserved c then [c] else (utf8Bytes c).flatMap percentByte)

end PathTemplate.Text

import PathTemplate.Regex.Program

namespace PathTemplate.Regex

/-- The registers of the machine. -/
structure Registers where
  cursor : Nat
  marks : Array (Option Nat)
  valid : Nat
  deriving Inhabited

namespace Registers

def start (groups p : Nat) : Registers :=
  { cursor := p, marks := Array.replicate (2 * groups) none, valid := 0 }

def setMark (r : Registers) (i p : Nat) : Registers :=
  let cleared := (List.range (i - r.valid)).foldl
    (fun m k => m.setIfInBounds (r.valid + k) none) r.marks
  { r with marks := cleared.setIfInBounds i (some p), valid := max r.valid (i + 1) }

def restore (r saved : Registers) : Registers :=
  { r with marks := saved.marks, valid := saved.valid }

def rewind (r saved : Registers) : Registers :=
  { r with valid := saved.valid }

/-- Restore what a construct saved: the marks too when inside a loop (`inLoop`), else only
their count. -/
def back (r saved : Registers) (inLoop : Bool) : Registers :=
  if inLoop then r.restore saved else r.rewind saved

def moveTo (r : Registers) (p : Nat) : Registers :=
  { r with cursor := p }

def marksOf? (r : Registers) (g : Nat) : Option (Nat × Nat) :=
  if 2 * g ≤ r.valid then
    match r.marks[2 * (g - 1)]?, r.marks[2 * (g - 1) + 1]? with
    | some (some a), some (some b) => some (a, b)
    | _, _ => none
  else none

def span? (r : Registers) (g : Nat) : Option (Nat × Nat) :=
  match r.marksOf? g with
  | some (a, b) => if a ≤ b then some (a, b) else none
  | none => none

end Registers

/-- A loop in progress: its shape, the number of iterations its next end completes, and
where the iteration before started. -/
structure Loop where
  lazy : Bool
  lo : Nat
  hi : Option Nat
  body : List Inst
  count : Nat
  lastStart : Option Nat
  deriving Inhabited

def anchorHolds (f : Flags) (s : Array Char) (pos : Nat) : Anchor → Bool
  | .lineStart => pos == 0 || (f.multiline && s[pos - 1]? == some '\n')
  | .lineEnd =>
    if f.multiline then pos == s.size || s[pos]? == some '\n'
    else pos == s.size || (pos + 1 == s.size && s[pos]? == some '\n')
  | .textStart => pos == 0
  | .textEnd => pos == s.size
  | .boundary =>
    s.size > 0 &&
      ((pos > 0 && (s[pos - 1]?.map (isWordChar f.unicode ·.toNat)).getD false) !=
        (s[pos]?.map (isWordChar f.unicode ·.toNat)).getD false)
  | .notBoundary =>
    s.size > 0 &&
      ((pos > 0 && (s[pos - 1]?.map (isWordChar f.unicode ·.toNat)).getD false) ==
        (s[pos]?.map (isWordChar f.unicode ·.toNat)).getD false)

def repeatsAt (f : Flags) (s : Array Char) (a b pos : Nat) : Bool :=
  pos + (b - a) ≤ s.size &&
    (List.range (b - a)).all fun i =>
      match s[a + i]?, s[pos + i]? with
      | some x, some y =>
        if f.ignoreCase then f.fold x.toNat == f.fold y.toNat else x == y
      | _, _ => false

def countRun (s : Array Char) (t : Test) (p : Nat) (most : Option Nat) (r : Registers) :
    Nat × Registers :=
  let limit := match most with
    | some m => min (p + m) s.size
    | none => s.size
  let c := t.span s p limit
  (c, if t.stepwise then r.moveTo (p + c) else r)

def seekBack (s : Array Char) (ch lo : Nat) : Nat → Nat → Option (Nat × Nat)
  | q, 0 => if lo == 0 && (s[q]?.map Char.toNat) == some ch then some (q, 0) else none
  | q, c + 1 =>
    if c + 1 < lo then none
    else if (s[q]?.map Char.toNat) == some ch then some (q, c + 1)
    else seekBack s ch lo (q - 1) c

/-- The machine over the text `s`; `whole` says that a match must reach the end of the text,
which a `succeed` at the top level checks (`top`). -/
structure Machine where
  text : Array Char
  whole : Bool

namespace Machine

mutual

/-- Run `code` from position `p` with the loops in progress (innermost first), and say
whether the rest of the pattern matched, with the registers it left; none when the fuel ran
out before the answer was known. -/
def run (m : Machine) : Nat → List Inst → List Loop → Bool → Nat → Registers →
    Option (Bool × Registers)
  | 0, _, _, _, _, _ => none
  | fuel + 1, code, loops, top, p, r =>
    match code with
    | [] => some (false, r)
    | .succeed :: _ =>
      if top && m.whole && p != m.text.size then some (false, r) else some (true, r.moveTo p)
    | .jump :: rest => m.run fuel rest loops top p r
    | .mark i :: rest => m.run fuel rest loops top p (r.setMark i p)
    | .test t :: rest =>
      if t.holdsAt m.text p then m.run fuel rest loops top (p + 1) r else some (false, r)
    | .anchor f a :: rest =>
      if anchorHolds f m.text p a then m.run fuel rest loops top p r else some (false, r)
    | .branch alts :: rest => m.tryEach fuel alts rest loops top p r r
    | .single greed lo hi t :: rest =>
      if p + lo > m.text.size then some (false, r)
      else
        let r := r.moveTo p
        match greed with
        | .possessive =>
          let (c, r) := countRun m.text t p hi r
          if c < lo then some (false, r) else m.run fuel rest loops top (p + c) r
        | .greedy =>
          let (c, r) := countRun m.text t p hi r
          if c < lo then some (false, r)
          else if (rest.head?.map Inst.isSucceed).getD false && p + c == m.text.size then
            some (true, r.moveTo (p + c))
          else
            match rest.head?.bind Inst.literal? with
            | some ch => m.backOffTo fuel ch lo rest loops top (p + c) c r r
            | none => m.backOff fuel lo rest loops top (p + c) c r r
        | .lazy =>
          let (c, r) := if lo == 0 then (0, r) else countRun m.text t p (some lo) r
          if c < lo then some (false, r)
          else if (rest.head?.map Inst.isSucceed).getD false &&
              !(top && m.whole && p + c != m.text.size) then
            some (true, r.moveTo (p + c))
          else m.creep fuel t hi rest loops top (p + c) c r r
    | .loop lazy lo hi body :: rest =>
      let l : Loop := { lazy, lo, hi, body, count := 0, lastStart := none }
      m.run fuel (.loopEnd :: rest) (l :: loops) top p (r.moveTo p)
    | .loopEnd :: rest =>
      match loops with
      | [] => some (false, r)
      | l :: outer =>
        let r := r.moveTo p
        let c := l.count
        let again := l.body ++ .loopEnd :: rest
        if c < l.lo then do
          let (ok, r1) ← m.run fuel again ({ l with count := c + 1 } :: outer) top p r
          if ok then some (true, r1) else some (false, r1.moveTo p)
        else if !l.lazy then do
          let (ok, r1) ←
            (if l.hi.all (c < ·) && l.lastStart != some p then do
              let (ok, r1) ←
                m.run fuel again ({ l with count := c + 1, lastStart := some p } :: outer) top p r
              if ok then some (true, r1) else some (false, (r1.restore r).moveTo p)
            else some (false, r))
          if ok then some (true, r1)
          else do
            let (ok, r2) ← m.run fuel rest outer top p r1
            if ok then some (true, r2) else some (false, r2.moveTo p)
        else do
          let (ok, r1) ← m.run fuel rest outer top p r
          if ok then some (true, r1)
          else
            let r2 := (r1.back r !outer.isEmpty).moveTo p
            if l.hi.any (c ≥ ·) || l.lastStart == some p then some (false, r2)
            else do
              let (ok, r3) ←
                m.run fuel again ({ l with count := c + 1, lastStart := some p } :: outer) top p r2
              if ok then some (true, r3) else some (false, r3.moveTo p)
    | .possessive lo hi body :: rest => do
      let (ok, r1) ← m.atLeast fuel body lo loops (r.moveTo p)
      if !ok then some (false, r1.moveTo p)
      else
        let r2 ← m.possess fuel body hi lo loops none r1
        m.run fuel rest loops top r2.cursor r2
    | .atomic body :: rest => do
      let (ok, r1) ← m.run fuel body loops false p (r.moveTo p)
      if ok then m.run fuel rest loops top r1.cursor r1 else some (false, r1.moveTo p)
    | .look negated back body :: rest =>
      if !negated then
        if p < back then some (false, r)
        else do
          let (ok, r1) ← m.run fuel body loops false (p - back) (r.moveTo (p - back))
          if ok then m.run fuel rest loops top p r1 else some (false, r1)
      else if p < back then m.run fuel rest loops top p r
      else do
        let (ok, r1) ← m.run fuel body loops false (p - back) (r.moveTo (p - back))
        if ok then some (false, r1)
        else m.run fuel rest loops top p (r1.back r !loops.isEmpty)
    | .backref f g :: rest =>
      match r.span? g with
      | some (a, b) =>
        if repeatsAt f m.text a b p then m.run fuel rest loops top (p + (b - a)) r
        else some (false, r)
      | none => some (false, r)
    | .ifGroup g yes no :: rest =>
      match (r.span? g).isSome, no with
      | true, some _ => m.run fuel (yes ++ .jump :: rest) loops top p r
      | true, none => m.run fuel (yes ++ rest) loops top p r
      | false, some n => m.run fuel (n ++ rest) loops top p r
      | false, none => m.run fuel rest loops top p r

/-- Try the alternatives of a branch at `p` in order, each followed by `rest`; `saved` holds
the registers from before the branch. An alternative that starts with an exact test the
character at `p` fails is passed over untried. -/
def tryEach (m : Machine) : Nat → List (List Inst) → List Inst → List Loop → Bool → Nat →
    Registers → Registers → Option (Bool × Registers)
  | 0, _, _, _, _, _, _, _ => none
  | _ + 1, [], _, _, _, _, _, r => some (false, r)
  | fuel + 1, alt :: alts, rest, loops, top, p, saved, r =>
    if (alt.head?.map (·.screensOut m.text p)).getD false then
      m.tryEach fuel alts rest loops top p saved r
    else do
      let (ok, r1) ← m.run fuel (alt ++ .jump :: rest) loops top p (r.moveTo p)
      if ok then some (true, r1)
      else m.tryEach fuel alts rest loops top p saved (r1.back saved !loops.isEmpty)

def backOff (m : Machine) : Nat → Nat → List Inst → List Loop → Bool → Nat → Nat →
    Registers → Registers → Option (Bool × Registers)
  | 0, _, _, _, _, _, _, _, _ => none
  | fuel + 1, lo, rest, loops, top, q, c, saved, r =>
    if c < lo then some (false, r)
    else do
      let (ok, r1) ← m.run fuel rest loops top q (r.moveTo q)
      if ok then some (true, r1)
      else
        let r2 := r1.back saved !loops.isEmpty
        if c == 0 then some (false, r2)
        else m.backOff fuel lo rest loops top (q - 1) (c - 1) saved r2

def backOffTo (m : Machine) : Nat → Nat → Nat → List Inst → List Loop → Bool → Nat → Nat →
    Registers → Registers → Option (Bool × Registers)
  | 0, _, _, _, _, _, _, _, _, _ => none
  | fuel + 1, ch, lo, rest, loops, top, q, c, saved, r =>
    match seekBack m.text ch lo q c with
    | none => some (false, r)
    | some (q, c) => do
      let (ok, r1) ← m.run fuel rest loops top q (r.moveTo q)
      if ok then some (true, r1)
      else
        let r2 := r1.back saved !loops.isEmpty
        if c == 0 then some (false, r2)
        else m.backOffTo fuel ch lo rest loops top (q - 1) (c - 1) saved r2

def creep (m : Machine) : Nat → Test → Option Nat → List Inst → List Loop → Bool → Nat →
    Nat → Registers → Registers → Option (Bool × Registers)
  | 0, _, _, _, _, _, _, _, _, _ => none
  | fuel + 1, t, hi, rest, loops, top, q, c, saved, r =>
    if hi.any (c > ·) then some (false, r)
    else do
      let (ok, r1) ← m.run fuel rest loops top q (r.moveTo q)
      if ok then some (true, r1)
      else
        let (k, r2) := countRun m.text t q (some 1) ((r1.back saved !loops.isEmpty).moveTo q)
        if k == 0 then some (false, r2)
        else m.creep fuel t hi rest loops top (q + 1) (c + 1) saved r2

def atLeast (m : Machine) : Nat → List Inst → Nat → List Loop → Registers →
    Option (Bool × Registers)
  | 0, _, _, _, _ => none
  | _ + 1, _, 0, _, r => some (true, r)
  | fuel + 1, body, n + 1, loops, r => do
    let (ok, r1) ← m.run fuel body loops false r.cursor r
    if ok then m.atLeast fuel body n loops r1 else some (false, r1)

/-- Match the body of a possessive repetition again and again from the cursor, `c` times
done, while fewer than `hi` are done and the last iteration moved the cursor (`prev` is where
it started). A failed iteration gives back its marks but not its cursor. -/
def possess (m : Machine) : Nat → List Inst → Option Nat → Nat → List Loop → Option Nat →
    Registers → Option Registers
  | 0, _, _, _, _, _, _ => none
  | fuel + 1, body, hi, c, loops, prev, r =>
    if hi.any (c ≥ ·) || prev == some r.cursor then some r
    else do
      let (ok, r1) ← m.run fuel body loops false r.cursor r
      if ok then m.possess fuel body hi (c + 1) loops (some r.cursor) r1
      else some (r1.restore r)

end

end Machine

end PathTemplate.Regex

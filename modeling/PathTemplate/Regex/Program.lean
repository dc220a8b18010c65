import PathTemplate.Regex.Char

namespace PathTemplate.Regex

/-- A test of one character, with the flags it was written under. -/
inductive Test where
  | char (f : Flags) (c : Nat)
  | notChar (f : Flags) (c : Nat)
  | any (all : Bool)
  | set (f : Flags) (negated : Bool) (items : List SetItem)
  deriving Inhabited

namespace Test

def meets : Test → Nat → Bool
  | .char f lit, c => charMeets f lit c
  | .notChar f lit, c => !charMeets f lit c
  | .any all, c => all || c != 10
  | .set f negated items, c => setMeets f negated items c

def holdsAt (t : Test) (s : Array Char) (p : Nat) : Bool :=
  match s[p]? with
  | some c => t.meets c.toNat
  | none => false

def codePoint? : Test → Option Nat
  | .char f c => if f.ignoreCase && f.hasCase c then none else some c
  | _ => none

def isPlainSet : Test → Bool
  | .set f _ items => !(f.ignoreCase && setFolds f items)
  | _ => false

def screens (t : Test) : Bool :=
  t.codePoint?.isSome || t.isPlainSet

def foldsWide (f : Flags) (c : Nat) : Bool :=
  caseClasses.any (·.contains (f.fold c))

def stepwise : Test → Bool
  | .set f _ items => f.ignoreCase && setFolds f items
  | .char f c | .notChar f c => f.ignoreCase && f.unicode && f.hasCase c && foldsWide f c
  | .any _ => false

def span (t : Test) (s : Array Char) (p limit : Nat) : Nat :=
  ((List.range (limit - p)).takeWhile fun i => t.holdsAt s (p + i)).length

end Test

/-- An instruction of the backtracking machine. -/
inductive Inst where
  | test (t : Test)
  | anchor (f : Flags) (a : Anchor)
  | mark (i : Nat)
  | branch (alternatives : List (List Inst))
  | jump
  | single (greed : Greed) (lo : Nat) (hi : Option Nat) (t : Test)
  | loop (lazy : Bool) (lo : Nat) (hi : Option Nat) (body : List Inst)
  | loopEnd
  | possessive (lo : Nat) (hi : Option Nat) (body : List Inst)
  | atomic (body : List Inst)
  | look (negated : Bool) (back : Nat) (body : List Inst)
  | backref (f : Flags) (g : Nat)
  | ifGroup (g : Nat) (yes : List Inst) (no : Option (List Inst))
  | succeed
  deriving Inhabited

namespace Inst

def isSucceed : Inst → Bool
  | .succeed => true
  | _ => false

def literal? : Inst → Option Nat
  | .test t => t.codePoint?
  | _ => none

def screensOut (i : Inst) (s : Array Char) (p : Nat) : Bool :=
  match i with
  | .test t => t.screens && !t.holdsAt s p
  | _ => false

end Inst

def Node.unit? (f : Flags) : Node → Option Test
  | .char c => some (.char f c)
  | .notChar c => some (.notChar f c)
  | .any => some (.any f.dotAll)
  | .set negated items => some (.set f negated items)
  | .seq [n] => n.unit? f
  | .group none on off body => body.unit? (f.scope on off)
  | _ => none

mutual

/-- The code of a node under flags `f`; `widthOf` gives group widths, which fix how far back
a lookbehind starts. -/
def Node.compile (widthOf : Nat → Nat × Nat) (f : Flags) : Node → List Inst
  | .char c => [.test (.char f c)]
  | .notChar c => [.test (.notChar f c)]
  | .any => [.test (.any f.dotAll)]
  | .set negated items => [.test (.set f negated items)]
  | .anchor a => [.anchor f a]
  | .group none on off body => body.compile widthOf (f.scope on off)
  | .group (some g) on off body =>
    .mark (2 * (g - 1)) :: body.compile widthOf (f.scope on off) ++ [.mark (2 * (g - 1) + 1)]
  | .atomic body => [.atomic (body.compile widthOf f ++ [.succeed])]
  | .quantified lo hi greed body =>
    match body.unit? f, greed with
    | some t, _ => [.single greed lo hi t]
    | none, .possessive => [.possessive lo hi (body.compile widthOf f ++ [.succeed])]
    | none, .greedy => [.loop false lo hi (body.compile widthOf f)]
    | none, .lazy => [.loop true lo hi (body.compile widthOf f)]
  | .look behind negated body =>
    let back := if behind then (body.width widthOf).1 else 0
    [.look negated back (body.compile widthOf f ++ [.succeed])]
  | .backref g => [.backref f g]
  | .cond g yes none => [.ifGroup g (yes.compile widthOf f) none]
  | .cond g yes (some no) => [.ifGroup g (yes.compile widthOf f) (some (no.compile widthOf f))]
  | .seq items => Node.compileSeq widthOf f items
  | .alt branches => [.branch (Node.compileEach widthOf f branches)]

def Node.compileSeq (widthOf : Nat → Nat × Nat) (f : Flags) : List Node → List Inst
  | [] => []
  | n :: ns => n.compile widthOf f ++ Node.compileSeq widthOf f ns

def Node.compileEach (widthOf : Nat → Nat × Nat) (f : Flags) : List Node → List (List Inst)
  | [] => []
  | n :: ns => n.compile widthOf f :: Node.compileEach widthOf f ns

end

inductive Lead where
  | literal
  | other
  | nothing
  deriving DecidableEq

mutual

def Node.lead (f : Flags) : Node → Lead
  | .char c => if f.ignoreCase && f.hasCase c then .other else .literal
  | .group _ on off body => body.lead (f.scope on off)
  | .seq items => Node.seqLead f items
  | _ => .other

def Node.seqLead (f : Flags) : List Node → Lead
  | [] => .nothing
  | n :: ns =>
    match n.lead f with
    | .nothing => Node.seqLead f ns
    | l => l

end

def Node.firstChars? (f : Flags) : List Node → Option (List SetItem)
  | [] => some []
  | .seq (.char c :: _) :: ns =>
    if f.ignoreCase && f.hasCase c then none
    else (Node.firstChars? f ns).map (.char c :: ·)
  | _ => none

/-- The set a match must start with, under flags `f`: found through leading groups (with
their scoped flags), as a set, an exact character, or the first characters of a choice; none
if case is ignored there and a member character or range has case, or a range reaches above
the basic multilingual plane. -/
def Node.leadingSet? (f : Flags) : Node → Option (Bool × List SetItem)
  | .seq (n :: _) => n.leadingSet? f
  | .group _ on off body => body.leadingSet? (f.scope on off)
  | .char c => if f.ignoreCase && f.hasCase c then none else some (false, [.char c])
  | .alt branches => (Node.firstChars? f branches).map ((false, ·))
  | .set negated items =>
    let cased := items.any fun
      | .char a => f.hasCase a
      | .range lo hi => hi ≥ astral || rangeHasCase f lo hi
      | .cls _ => false
    if f.ignoreCase && cased then none else some (negated, items)
  | _ => none

end PathTemplate.Regex

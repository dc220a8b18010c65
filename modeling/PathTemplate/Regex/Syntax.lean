namespace PathTemplate.Regex

/-- Matching options, or a change of them in a scoped group. -/
structure Flags where
  ignoreCase : Bool
  locale : Bool
  multiline : Bool
  dotAll : Bool
  verbose : Bool
  ascii : Bool
  unicode : Bool
  template : Bool
  deriving DecidableEq, Inhabited

namespace Flags

def none : Flags := ⟨false, false, false, false, false, false, false, false⟩

def caseless : Flags := { none with ignoreCase := true }

def union (a b : Flags) : Flags :=
  ⟨a.ignoreCase || b.ignoreCase, a.locale || b.locale, a.multiline || b.multiline,
   a.dotAll || b.dotAll, a.verbose || b.verbose, a.ascii || b.ascii,
   a.unicode || b.unicode, a.template || b.template⟩

def diff (a b : Flags) : Flags :=
  ⟨a.ignoreCase && !b.ignoreCase, a.locale && !b.locale, a.multiline && !b.multiline,
   a.dotAll && !b.dotAll, a.verbose && !b.verbose, a.ascii && !b.ascii,
   a.unicode && !b.unicode, a.template && !b.template⟩

def inter (a b : Flags) : Flags :=
  ⟨a.ignoreCase && b.ignoreCase, a.locale && b.locale, a.multiline && b.multiline,
   a.dotAll && b.dotAll, a.verbose && b.verbose, a.ascii && b.ascii,
   a.unicode && b.unicode, a.template && b.template⟩

def any (f : Flags) : Bool :=
  f.ignoreCase || f.locale || f.multiline || f.dotAll || f.verbose || f.ascii || f.unicode ||
    f.template

def typeFlags (f : Flags) : Flags :=
  { none with ascii := f.ascii, locale := f.locale, unicode := f.unicode }

def scope (f on off : Flags) : Flags :=
  let base := if on.typeFlags.any then f.diff f.typeFlags else f
  (base.union on).diff off

end Flags

inductive ClassEscape where
  | digit | notDigit | space | notSpace | word | notWord
  deriving DecidableEq, Inhabited

inductive SetItem where
  | char (c : Nat)
  | range (lo hi : Nat)
  | cls (k : ClassEscape)
  deriving DecidableEq, Inhabited

inductive Anchor where
  | lineStart
  | lineEnd
  | textStart
  | textEnd
  | boundary
  | notBoundary
  deriving DecidableEq, Inhabited

inductive Greed where
  | greedy
  | lazy
  | possessive
  deriving DecidableEq, Inhabited

/-- A regular expression. -/
inductive Node where
  | char (c : Nat)
  | notChar (c : Nat)
  | any
  | set (negated : Bool) (items : List SetItem)
  | anchor (a : Anchor)
  | group (index : Option Nat) (on off : Flags) (body : Node)
  | atomic (body : Node)
  | quantified (lo : Nat) (hi : Option Nat) (greed : Greed) (body : Node)
  | look (behind negated : Bool) (body : Node)
  | backref (index : Nat)
  | cond (index : Nat) (yes : Node) (no : Option Node)
  | seq (items : List Node)
  | alt (branches : List Node)
  deriving Inhabited

def maxRepeat : Nat := 4294967295

def maxCode : Nat := 4294967295

def capWidth (w : Nat × Nat) : Nat × Nat :=
  (min w.1 (maxRepeat - 1), min w.2 maxRepeat)

def addWidth (a b : Nat × Nat) : Nat × Nat := (a.1 + b.1, a.2 + b.2)

mutual

/-- The least and greatest number of characters the node matches; `widthOf i` is the width
of group `i`, which a backreference matches again. Every sequence caps its width, and so does
the body of a repetition before it is multiplied: a body that may repeat without bound counts
`maxRepeat` times its greatest width. -/
def Node.width (widthOf : Nat → Nat × Nat) : Node → Nat × Nat
  | .char _ | .notChar _ | .any | .set _ _ => (1, 1)
  | .anchor _ | .look _ _ _ => (0, 0)
  | .group _ _ _ body => Node.width widthOf body
  | .atomic body => Node.width widthOf body
  | .quantified lo hi _ body =>
    let w := capWidth (Node.width widthOf body)
    (w.1 * lo, w.2 * hi.getD maxRepeat)
  | .backref i => widthOf i
  | .cond _ yes none => (0, (Node.width widthOf yes).2)
  | .cond _ yes (some no) =>
    let a := Node.width widthOf yes
    let b := Node.width widthOf no
    (min a.1 b.1, max a.2 b.2)
  | .seq items => capWidth (Node.seqWidth widthOf items)
  | .alt branches => Node.altWidth widthOf branches

def Node.seqWidth (widthOf : Nat → Nat × Nat) : List Node → Nat × Nat
  | [] => (0, 0)
  | n :: ns => addWidth (Node.width widthOf n) (Node.seqWidth widthOf ns)

def Node.altWidth (widthOf : Nat → Nat × Nat) : List Node → Nat × Nat
  | [] => (maxRepeat - 1, 0)
  | n :: ns =>
    let a := Node.width widthOf n
    let b := Node.altWidth widthOf ns
    (min a.1 b.1, max a.2 b.2)

end

end PathTemplate.Regex

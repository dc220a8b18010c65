namespace PathTemplate.Unicode

/-- A class of code points as sorted, disjoint, closed ranges `(first, last)`. -/
structure RangeTable where
  ranges : Array (Nat × Nat)

namespace RangeTable

def memBetween (t : Array (Nat × Nat)) (c lo hi : Nat) : Bool :=
  if lo < hi then
    let mid := (lo + hi) / 2
    match t[mid]? with
    | none => false
    | some (a, b) =>
      if c < a then memBetween t c lo mid
      else if b < c then memBetween t c (mid + 1) hi
      else true
  else false
termination_by hi - lo

def contains (t : RangeTable) (c : Nat) : Bool :=
  memBetween t.ranges c 0 t.ranges.size

def findBetween (t : Array (Nat × Nat)) (c lo hi : Nat) : Option (Nat × Nat) :=
  if lo < hi then
    let mid := (lo + hi) / 2
    match t[mid]? with
    | none => none
    | some (a, b) =>
      if c < a then findBetween t c lo mid
      else if b < c then findBetween t c (mid + 1) hi
      else some (a, b)
  else none
termination_by hi - lo

def rangeOf? (t : RangeTable) (c : Nat) : Option (Nat × Nat) :=
  findBetween t.ranges c 0 t.ranges.size

def meets (t : RangeTable) (lo hi : Nat) : Bool :=
  t.ranges.any fun (a, b) => a ≤ hi && lo ≤ b

end RangeTable

/-- A run of a case mapping: `start`, `start + stride`, … up to `stop` map to `target`,
`target + stride`, … in the same order. -/
structure CaseRun where
  start : Nat
  stop : Nat
  stride : Nat
  target : Nat

/-- A one-to-one case mapping given by runs; a code point in no run maps to itself. -/
structure CaseMap where
  runs : Array CaseRun

namespace CaseMap

def find? (m : CaseMap) (c : Nat) : Option Nat :=
  m.runs.findSome? fun r =>
    if r.start ≤ c && c ≤ r.stop && (c - r.start) % r.stride == 0 then
      some (r.target + (c - r.start))
    else none

def apply (m : CaseMap) (c : Nat) : Nat :=
  (m.find? c).getD c

def preimages (m : CaseMap) (t : Nat) : List Nat :=
  let moved := m.runs.toList.filterMap fun r =>
    if r.target ≤ t && t - r.target ≤ r.stop - r.start && (t - r.target) % r.stride == 0 then
      some (r.start + (t - r.target))
    else none
  if (m.find? t).isNone then t :: moved else moved

end CaseMap

end PathTemplate.Unicode

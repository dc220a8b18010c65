import PathTemplate.Regex.Parser
import PathTemplate.Regex.Machine

namespace PathTemplate.Regex

/-- A match: where it starts and ends, and the span of each group that captured. -/
structure Match where
  start : Nat
  stop : Nat
  groups : List (Option (Nat × Nat))

mutual

/-- The weight of a pattern: its nodes, with the body of a repetition counted once for each
repetition it needs and once more. -/
def Node.weight : Node → Nat
  | .group _ _ _ body | .atomic body | .look _ _ body => body.weight + 1
  | .quantified lo _ _ body => (body.weight + 2) * (lo + 1)
  | .cond _ yes none => yes.weight + 1
  | .cond _ yes (some no) => yes.weight + no.weight + 1
  | .seq items => Node.listWeight items + 1
  | .alt branches => Node.listWeight branches + 1
  | _ => 1

def Node.listWeight : List Node → Nat
  | [] => 0
  | n :: ns => n.weight + Node.listWeight ns

end

def widthOf (r : Regex) (i : Nat) : Nat × Nat :=
  r.groupWidths[i]?.getD (0, 0)

def code (r : Regex) : List Inst :=
  r.root.compile r.widthOf r.flags ++ [.succeed]

def minWidth (r : Regex) : Nat :=
  (r.root.width r.widthOf).1

/-- The fuel for one run of the machine on `s`. -/
def budget (r : Regex) (s : Array Char) : Nat :=
  64 * (r.root.weight + 1) * (s.size + 1) + 4096

/-- The answer of one run of `code` from `start`, `whole` asking for a match that reaches the
end of the text: the registers of a match, none when there is no match, or an error when the
run ran out of fuel. -/
def attempt (r : Regex) (code : List Inst) (s : Array Char) (whole : Bool) (start : Nat) :
    Except SearchError (Option Registers) :=
  let m : Machine := { text := s, whole }
  match m.run (r.budget s) code [] true start (Registers.start r.groupCount start) with
  | some (true, regs) => .ok (some regs)
  | some (false, _) => .ok none
  | none => .error .exhausted

def matchOf (r : Regex) (start : Nat) (regs : Registers) : Except SearchError Match :=
  let groups := (List.range r.groupCount).map fun i => regs.marksOf? (i + 1)
  if groups.any fun g => (g.map fun (a, b) => a > b).getD false then .error .groupSpan
  else .ok { start, stop := regs.cursor, groups }

/-- The positions a search of `s` tries, from the left. -/
def candidates (r : Regex) (s : Array Char) : List Nat :=
  let n := s.size
  let least := r.minWidth
  if least == 0 || r.root.lead r.flags == .literal then List.range (n + 1)
  else
    match r.root.leadingSet? r.flags with
    | some (negated, items) =>
      let exact := { r.flags with ignoreCase := false }
      (List.range n).filter fun i =>
        (s[i]?.map fun c => setMeets exact negated items c.toNat).getD false
    | none => List.range (n - (least - 1) + 1)

def firstMatch (r : Regex) (code : List Inst) (s : Array Char) :
    List Nat → Except SearchError (Option (Nat × Registers))
  | [] => .ok none
  | i :: starts => do
    match ← r.attempt code s false i with
    | some regs => .ok (some (i, regs))
    | none => r.firstMatch code s starts

/-- The leftmost match in the text: the first position tried with a match. -/
def search (r : Regex) (text : String) : Except SearchError (Option Match) := do
  let s := text.toList.toArray
  if s.size < r.minWidth then return none
  match ← r.firstMatch r.code s (r.candidates s) with
  | some (i, regs) => some <$> r.matchOf i regs
  | none => return none

def fullMatch (r : Regex) (text : String) : Except SearchError (Option Match) := do
  let s := text.toList.toArray
  if s.size < r.minWidth then return none
  match ← r.attempt r.code s true 0 with
  | some regs => some <$> r.matchOf 0 regs
  | none => return none

end PathTemplate.Regex

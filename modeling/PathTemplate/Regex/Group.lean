import PathTemplate.Regex.Atom

namespace PathTemplate.Regex

def openGroup (name : Option String) : ReadM Nat := do
  let r ← get
  let g := r.groups
  set { r with widths := r.widths.push none }
  if g + 1 > maxGroups then failBack .tooManyGroups 0
  else
    match name with
    | none => return g
    | some n =>
      match r.names.lookup n with
      | some prev => failBack (.duplicateGroupName n g prev) (n.length + 1)
      | none =>
        modify fun r => { r with names := r.names ++ [(n, g)] }
        return g

def closeGroup (g : Nat) (body : Node) : ReadM Unit :=
  modify fun r =>
    let widthOf (i : Nat) : Nat × Nat := (r.widths[i]?.getD none).getD (0, 0)
    { r with widths := r.widths.set! g (some (body.width widthOf)) }

def conditionGroup (name : String) : ReadM Nat := do
  if isIdentifier name then
    match (← get).names.lookup name with
    | some g => return g
    | none => failBack (.unknownGroupName name) (name.length + 1)
  else
    match readInteger? name with
    | none => failBack (.badGroupName name) (name.length + 1)
    | some n =>
      if n < 0 then failBack (.badGroupName name) (name.length + 1)
      else
        let g := n.toNat
        if g == 0 then failBack .badGroupNumber (name.length + 1)
        else if g ≥ maxGroups then failBack (.invalidGroupRef g) (name.length + 1)
        else
          let r ← get
          if (r.condRefs.lookup g).isNone then
            set { r with condRefs := r.condRefs ++ [(g, r.tell - name.length - 1)] }
          return g

def Node.plainGroupBody? : Node → Option (List Node)
  | .group none on off (.seq items) => if on.any || off.any then none else some items
  | _ => none

def Node.isAnchor : Node → Bool
  | .anchor _ => true
  | _ => false

def Node.isQuantified : Node → Bool
  | .quantified _ _ _ _ => true
  | _ => false

def Node.sameUnit : Node → Node → Bool
  | .char a, .char b => a == b
  | .notChar a, .notChar b => a == b
  | .any, .any => true
  | .set n a, .set m b => n == m && a == b
  | .anchor a, .anchor b => a == b
  | .backref a, .backref b => a == b
  | _, _ => false

def sharedFirst? (branches : List (List Node)) : Option Node :=
  match branches with
  | [] => none
  | b :: bs =>
    match b with
    | [] => none
    | n :: _ => if bs.all (fun c => match c with | m :: _ => n.sameUnit m | [] => false) then some n else none

def factorPrefix : Nat → List (List Node) → List Node × List (List Node)
  | 0, bs => ([], bs)
  | fuel + 1, bs =>
    match sharedFirst? bs with
    | none => ([], bs)
    | some n =>
      let (pre, rest) := factorPrefix fuel (bs.map List.tail)
      (n :: pre, rest)

def Node.asSetItems? : Node → Option (List SetItem)
  | .char c => some [.char c]
  | .set false items => some items
  | _ => none

def branchesAsSet? (branches : List (List Node)) : Option (List SetItem) :=
  branches.foldr (fun b acc => match b, acc with
    | [n], some items => n.asSetItems?.map (· ++ items)
    | _, _ => none) (some [])

/-- A choice between branches, with shared starts moved out and single characters merged
into a set. -/
def choice (branches : List (List Node)) : List Node :=
  match branches with
  | [b] => b
  | _ =>
    let (pre, rest) := factorPrefix (branches.foldl (fun m b => max m b.length) 0) branches
    match branchesAsSet? rest with
    | some items => pre ++ [.set false (dedupe items)]
    | none => pre ++ [.alt (rest.map Node.seq)]

def unpackGroups (items : List Node) : List Node :=
  items.flatMap fun n => (n.plainGroupBody?).getD [n]

end PathTemplate.Regex

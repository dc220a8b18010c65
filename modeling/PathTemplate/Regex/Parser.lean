import PathTemplate.Regex.Atom
import PathTemplate.Regex.InlineFlags
import PathTemplate.Regex.Group

namespace PathTemplate.Regex

def Greed.opName : Greed → String
  | .greedy => "MAX_REPEAT"
  | .lazy => "MIN_REPEAT"
  | .possessive => "POSSESSIVE_REPEAT"


def skipComment : Nat → ReadM Unit
  | 0 => return
  | fuel + 1 => do
    match ← take with
    | none => return
    | some t => if t.isChar '\n' then return else skipComment fuel

def skipCommentGroup (start : Nat) : Nat → ReadM Unit
  | 0 => return
  | fuel + 1 => do
    if (← peek).isNone then failBack .unterminatedComment ((← get).tell - start)
    else
      match ← take with
      | some t => if t.isChar ')' then return else skipCommentGroup start fuel
      | none => return

def repeatCount (digits : String) : ReadM Nat := do
  if digits.length > maxDigits then throw ⟨.tooManyDigits digits.length, (← get).source, none⟩
  let n := digitsValue 10 digits.toList
  if n ≥ maxRepeat then throw ⟨.countTooLarge, (← get).source, none⟩ else return n

def Tok.isVerboseBlank (t : Tok) : Bool :=
  t.isChar ' ' || t.isChar '\t' || t.isChar '\n' || t.isChar '\r' || t.isChar '\x0b' ||
    t.isChar '\x0c'

def isSpecial (c : Char) : Bool :=
  ['.', '\\', '[', '{', '(', ')', '*', '+', '?', '^', '$', '|'].contains c

def quantifierCounts (c : Char) (here : Nat) : ReadM (Option (Nat × Option Nat)) := do
  match c with
  | '?' => return some (0, some 1)
  | '*' => return some (0, none)
  | '+' => return some (1, none)
  | _ =>
    if (← peek) == some (.plain '}') then return none
    else
      let fuel := (← get).text.size + 1
      let lo ← digitRun fuel
      let hi ← if ← accept ',' then digitRun fuel else pure lo
      if !(← accept '}') then
        seek here
        return none
      else
        let least ← if lo.isEmpty then pure 0 else repeatCount lo
        if hi.isEmpty then return some (least, none)
        else
          let most ← repeatCount hi
          if most < least then failBack .minOverMax ((← get).tell - here)
          else return some (least, some most)

inductive Opened where
  | node (n : Node)
  | comment
  | patternFlags

mutual

/-- Branches separated by `|`, up to a `)` or the end. `top` says whether this is the whole
pattern, where flags of the whole pattern may start the first branch. -/
def alternation : Nat → Bool → Bool → ReadM (List Node)
  | 0, _, _ => return []
  | fuel + 1, verbose, top => do
    let branches ← branchList fuel verbose top []
    return choice branches

def branchList : Nat → Bool → Bool → List (List Node) → ReadM (List (List Node))
  | 0, _, _, acc => return acc.reverse
  | fuel + 1, verbose, top, acc => do
    let b ← sequence fuel verbose (top && acc.isEmpty) []
    if ← accept '|' then
      let verbose ← if top then pure (← get).flags.verbose else pure verbose
      branchList fuel verbose top (b :: acc)
    else return (b :: acc).reverse

def sequence : Nat → Bool → Bool → List Node → ReadM (List Node)
  | 0, _, _, acc => return unpackGroups acc.reverse
  | fuel + 1, verbose, first, acc => do
    match ← peek with
    | none => return unpackGroups acc.reverse
    | some t =>
      if t.isChar '|' || t.isChar ')' then return unpackGroups acc.reverse
      else
        advance
        if verbose && t.isVerboseBlank then sequence fuel verbose first acc
        else if verbose && t.isChar '#' then
          skipComment ((← get).text.size + 1)
          sequence fuel verbose first acc
        else
          match t with
          | .escaped c => sequence fuel verbose first ((← escapeNode c) :: acc)
          | .plain c =>
            if !isSpecial c then sequence fuel verbose first (.char c.toNat :: acc)
            else if c == '[' then
              sequence fuel verbose first ((← characterSet ((← get).tell - 1)) :: acc)
            else if c == '?' || c == '*' || c == '+' || c == '{' then
              let here := (← get).tell
              match ← quantifierCounts c here with
              | none => sequence fuel verbose first (.char 123 :: acc)
              | some (lo, hi) =>
                match acc with
                | [] => failAt .nothingToRepeat (here - 1)
                | last :: rest =>
                  if last.isAnchor then failAt .nothingToRepeat (here - 1)
                  else if last.isQuantified then failAt .multipleRepeat (here - 1)
                  else
                    let body := match last.plainGroupBody? with
                      | some items => Node.seq items
                      | none => last
                    let greed ← do
                      if ← accept '?' then pure Greed.lazy
                      else if ← accept '+' then pure Greed.possessive
                      else pure Greed.greedy
                    sequence fuel verbose first (.quantified lo hi greed body :: rest)
            else if c == '.' then sequence fuel verbose first (.any :: acc)
            else if c == '^' then sequence fuel verbose first (.anchor .lineStart :: acc)
            else if c == '$' then sequence fuel verbose first (.anchor .lineEnd :: acc)
            else
              -- an opening parenthesis
              match ← groupAt fuel verbose first acc.isEmpty ((← get).tell - 1) with
              | .node n => sequence fuel verbose first (n :: acc)
              | .comment => sequence fuel verbose first acc
              | .patternFlags => sequence fuel (← get).flags.verbose first acc

def groupAt : Nat → Bool → Bool → Bool → Nat → ReadM Opened
  | 0, _, _, _, _ => return .comment
  | fuel + 1, verbose, first, atStart, start => do
    if ← accept '?' then
      match ← take with
      | none => failBack .unexpectedEnd 0
      | some t =>
        if t.isChar 'P' then
          if ← accept '<' then
            let name ← takeUntil '>' "group name" ((← get).text.size + 1) ""
            checkGroupName name 1
            return .node (← groupBody fuel verbose start true (some name) Flags.none Flags.none false)
          else if ← accept '=' then
            let name ← takeUntil ')' "group name" ((← get).text.size + 1) ""
            checkGroupName name 1
            match (← get).names.lookup name with
            | none => failBack (.unknownGroupName name) (name.length + 1)
            | some g =>
              if !(← get).isClosed g then failBack .openGroupRef (name.length + 1)
              else
                checkLookbehindRef g
                return .node (.backref g)
          else
            match ← take with
            | none => failBack .unexpectedEnd 0
            | some u => failBack (.unknownExtension ("?P" ++ u.text)) (u.length + 2)
        else if t.isChar ':' then
          return .node (← groupBody fuel verbose start false none Flags.none Flags.none false)
        else if t.isChar '#' then
          skipCommentGroup start ((← get).text.size + 1)
          return .comment
        else if t.isChar '=' || t.isChar '!' || t.isChar '<' then
          let (behind, negated) ← if t.isChar '<' then do
              match ← take with
              | none => failBack .unexpectedEnd 0
              | some u =>
                if u.isChar '=' then pure (true, false)
                else if u.isChar '!' then pure (true, true)
                else failBack (.unknownExtension ("?<" ++ u.text)) (u.length + 2)
            else pure (false, t.isChar '!')
          let outer := (← get).lookbehindFrom
          if behind && outer.isNone then
            modify fun r => { r with lookbehindFrom := some r.groups }
          let body ← alternation fuel verbose false
          if behind && outer.isNone then
            modify fun r => { r with lookbehindFrom := none }
          if !(← accept ')') then failAt .unterminatedGroup start
          else return .node (.look behind negated (.seq body))
        else if t.isChar '(' then
          let name ← takeUntil ')' "group name" ((← get).text.size + 1) ""
          let g ← conditionGroup name
          checkLookbehindRef g
          let yes ← sequence fuel verbose false []
          let no ← if ← accept '|' then do
              let no ← sequence fuel verbose false []
              if (← peek) == some (.plain '|') then failBack .conditionalBranches 0
              else pure (some (Node.seq no))
            else pure none
          if !(← accept ')') then failAt .unterminatedGroup start
          else return .node (.cond g (.seq yes) no)
        else if t.isChar '>' then
          return .node (← groupBody fuel verbose start false none Flags.none Flags.none true)
        else if t.flag?.isSome || t.isChar '-' then
          match ← inlineFlags t with
          | none =>
            if !first || !atStart then failBack .lateGlobalFlags ((← get).tell - start)
            else return .patternFlags
          | some (on, off) => return .node (← groupBody fuel verbose start false none on off false)
        else failBack (.unknownExtension ("?" ++ t.text)) (t.length + 1)
    else return .node (← groupBody fuel verbose start true none Flags.none Flags.none false)

def groupBody : Nat → Bool → Nat → Bool → Option String → Flags → Flags → Bool → ReadM Node
  | 0, _, _, _, _, _, _, _ => return .seq []
  | fuel + 1, verbose, start, capture, name, on, off, atomic => do
    let index ← if capture then some <$> openGroup name else pure none
    let body ← alternation fuel ((verbose || on.verbose) && !off.verbose) false
    if !(← accept ')') then failAt .unterminatedGroup start
    else
      match index with
      | some g => closeGroup g (.seq body)
      | none => pure ()
      if atomic then return .atomic (.seq body)
      else return .group index on off (.seq body)

end

mutual

def Node.compileFault (widthOf : Nat → Nat × Nat) (flags : Flags) : Node → Option Fault
  | .quantified _ _ g body =>
    if flags.template then some (.templateRepeat g.opName) else body.compileFault widthOf flags
  | .group _ on off body => body.compileFault widthOf (flags.scope on off)
  | .atomic body => body.compileFault widthOf flags
  | .look behind _ body =>
    if behind then
      let (lo, hi) := body.width widthOf
      if lo > maxCode then some .lookbehindTooLong
      else if lo != hi then some .variableLookbehind
      else body.compileFault widthOf flags
    else body.compileFault widthOf flags
  | .cond _ yes none => yes.compileFault widthOf flags
  | .cond _ yes (some no) => (yes.compileFault widthOf flags).or (no.compileFault widthOf flags)
  | .seq items => Node.listFault widthOf flags items
  | .alt branches => Node.listFault widthOf flags branches
  | _ => none

def Node.listFault (widthOf : Nat → Nat × Nat) (flags : Flags) : List Node → Option Fault
  | [] => none
  | n :: ns => (n.compileFault widthOf flags).or (Node.listFault widthOf flags ns)

end

def longestBack : Nat := Nat.pow 2 31

mutual

def Node.looksBackTooFar (widthOf : Nat → Nat × Nat) : Node → Bool
  | .look behind _ body =>
    (behind && (body.width widthOf).1 ≥ longestBack) || body.looksBackTooFar widthOf
  | .group _ _ _ body | .atomic body | .quantified _ _ _ body => body.looksBackTooFar widthOf
  | .cond _ yes none => yes.looksBackTooFar widthOf
  | .cond _ yes (some no) => yes.looksBackTooFar widthOf || no.looksBackTooFar widthOf
  | .seq items | .alt items => Node.anyLooksBackTooFar widthOf items
  | _ => false

def Node.anyLooksBackTooFar (widthOf : Nat → Nat × Nat) : List Node → Bool
  | [] => false
  | n :: ns => n.looksBackTooFar widthOf || Node.anyLooksBackTooFar widthOf ns

end

end PathTemplate.Regex

namespace PathTemplate

/-- A compiled pattern: its text, the flags of the whole pattern, its tree, the number of
capturing groups and the width of each (entry 0 stands for the whole match). -/
structure Regex where
  source : String
  flags : Regex.Flags
  root : Regex.Node
  groupCount : Nat
  groupWidths : Array (Nat × Nat)
  deriving Inhabited

namespace Regex

/-- Read and check a pattern under the given flags. -/
def compile (source : String) (flags : Flags) : Except Error Regex := do
  let text := source.toList.toArray
  let start : Reader :=
    { source, text, index := 0, next := none, flags, names := [], widths := #[some (0, 0)],
      lookbehindFrom := none, condRefs := [] }
  let budget := 8 * text.size + 16
  let read : ReadM (List Node) := do
    advance
    alternation budget flags.verbose true
  let (items, r) ← read.run start
  -- the tables of the whole pattern: Unicode unless ASCII is asked for
  let final ←
    if !r.flags.ascii then pure { r.flags with unicode := true }
    else if r.flags.unicode then throw ⟨Fault.asciiAndUnicode, source, none⟩
    else pure r.flags
  if r.next.isSome then throw ⟨Fault.unbalancedParenthesis, source, some r.tell⟩
  match r.condRefs.find? (fun (g, _) => g ≥ r.groups) with
  | some (g, pos) => throw ⟨Fault.invalidGroupRef g, source, some pos⟩
  | none => pure ()
  let widthOf (i : Nat) : Nat × Nat := (r.widths[i]?.getD none).getD (0, 0)
  let root := Node.seq items
  match root.compileFault widthOf final with
  | some f => throw ⟨f, source, none⟩
  | none => pure ()
  if root.looksBackTooFar widthOf then throw ⟨Fault.invalidCode, source, none⟩
  return { source, flags := final, root, groupCount := r.groups - 1,
           groupWidths := r.widths.map (·.getD (0, 0)) }

end Regex

end PathTemplate

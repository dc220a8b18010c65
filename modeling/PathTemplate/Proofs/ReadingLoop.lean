import Mathlib
import PathTemplate.Proofs.SyntaxFault

namespace PathTemplate

def Error.OfReading (e : Error) : Prop :=
  (∃ te, e = .template te) ∨ ∃ re : Regex.Error, re.fault.isSyntax = false ∧ e = .regex re

namespace Template

inductive Phase where
  | literal
  | escape
  | name
  | group
  deriving DecidableEq

/-- The variables of the reading loop: its state, the cursor, where the name being read starts,
where the group being read opened, the group's name, and what reading has produced. -/
structure Cursor where
  phase : Phase
  index : Nat
  nameStart : Nat
  groupStart : Nat
  name : Option String
  scan : Scan

namespace Cursor

def start : Cursor :=
  ⟨.literal, 0, 0, 0, none, Scan.initial⟩

def measure (t : String) (c : Cursor) : Nat × Nat :=
  (t.length - c.index, if c.phase = .name then 1 else 0)

end Cursor

def Scan.emitAt (o : Options) (cs : List Char) (name pattern : Option String) (index : Nat)
    (st : Scan) : Nat × Scan :=
  match cs[index]? with
  | some m =>
    if isModifier m then (index + 1, st.emit o name pattern (some m) cs[index + 1]?)
    else (index, st.emit o name pattern none (some m))
  | none => (index, st.emit o name pattern none none)

def textTurn (t : String) (c : Cursor) (ch : Char) : Except Error Cursor :=
  if ch == '\\' && c.index + 1 < t.length then .ok { c with phase := .escape, index := c.index + 1 }
  else if ch == ':' && (t.toList[c.index + 1]?.map isNameChar).getD false then
    .ok { c with phase := .name, nameStart := c.index + 1, index := c.index + 1 }
  else if ch == '(' then
    .ok { c with phase := .group, name := none, groupStart := c.index, index := c.index + 1 }
  else if ch == ')' then .error (.template ⟨.unbalanced, t, c.index⟩)
  else .ok { c with index := c.index + 1, scan := { c.scan with buffer := c.scan.buffer.push ch } }

def escapeTurn (c : Cursor) (ch : Char) : Cursor :=
  { c with phase := .literal, index := c.index + 1,
           scan := { c.scan with buffer := c.scan.buffer.push ch, escaped := true } }

def nameTurn (o : Options) (t : String) (c : Cursor) (ch : Char) : Cursor :=
  if isNameChar ch then { c with index := c.index + 1 }
  else
    let name := String.ofList (t.toList.extract c.nameStart c.index)
    if ch == '(' then
      { c with phase := .group, name := some name, groupStart := c.index, index := c.index + 1 }
    else
      let (index, scan) := c.scan.emitAt o t.toList (some name) none c.index
      { c with phase := .literal, name := some name, index, scan }

def groupTurn (o : Options) (t : String) (c : Cursor) (ch : Char) :
    Except Error (Option Cursor) :=
  if ch == '\\' then
    if c.index + 1 < t.length then .ok (some { c with index := c.index + 2 }) else .ok none
  else if ch == '(' then .error (.template ⟨.nested, t, c.index⟩)
  else if ch == ')' then do
    let pattern := String.ofList (t.toList.extract (c.groupStart + 1) c.index)
    checkGroup t c.groupStart pattern
    let (index, scan) := c.scan.emitAt o t.toList c.name (some pattern) (c.index + 1)
    return some { c with phase := .literal, index, scan }
  else .ok (some { c with index := c.index + 1 })

/-- One turn of the loop: the variables for the next turn, `none` when the loop ends here, or
the error the turn raises. The loop ends at the end of the template. -/
def step (o : Options) (t : String) (c : Cursor) : Except Error (Option Cursor) :=
  match t.toList[c.index]? with
  | none => .ok none
  | some ch =>
    match c.phase with
    | .literal => some <$> textTurn t c ch
    | .escape => .ok (some (escapeTurn c ch))
    | .name => .ok (some (nameTurn o t c ch))
    | .group => groupTurn o t c ch

def finish (o : Options) (t : String) (c : Cursor) : Except Error (List Token) :=
  match c.phase with
  | .group => .error (.template ⟨.unterminated, t, c.groupStart⟩)
  | .name =>
    let name := String.ofList (t.toList.extract c.nameStart t.length)
    .ok (c.scan.emitAt o t.toList (some name) none t.length).2.flush.tokens.toList
  | .literal | .escape => .ok c.scan.flush.tokens.toList

variable {o : Options} {t : String} {c c' : Cursor} {ch : Char}

theorem le_emitAt_index {cs : List Char} {name pattern : Option String} {i : Nat} {st : Scan} :
    i ≤ (st.emitAt o cs name pattern i).1 := by
  unfold Scan.emitAt
  split
  · split <;> simp
  · simp

theorem textTurn_index (h : textTurn t c ch = .ok c') : c'.index = c.index + 1 := by
  unfold textTurn at h
  split_ifs at h <;> cases h <;> rfl

theorem nameTurn_index :
    c.index < (nameTurn o t c ch).index ∨
      (nameTurn o t c ch).phase = .literal ∧ (nameTurn o t c ch).index = c.index := by
  unfold nameTurn
  split_ifs
  · simp
  · simp
  · -- the name is emitted, with the modifier under the cursor if there is one
    rcases Nat.lt_or_eq_of_le le_emitAt_index with h | h
    · exact .inl h
    · exact .inr ⟨rfl, h.symm⟩

theorem groupTurn_index (h : groupTurn o t c ch = .ok (some c')) : c.index < c'.index := by
  unfold groupTurn at h
  split_ifs at h
  · cases h; simp
  · cases h
  · simp only [bind, Except.bind, pure, Except.pure] at h
    split at h
    · cases h
    · cases h
      exact Nat.lt_of_lt_of_le (Nat.lt_succ_self _) le_emitAt_index
  · cases h; simp

theorem step_advances (h : step o t c = .ok (some c')) :
    c.index < t.length ∧
      (c.index < c'.index ∨ c.phase = .name ∧ c'.phase = .literal ∧ c'.index = c.index) := by
  unfold step at h
  split at h
  · cases h
  · rename_i ch hch
    have hlt : c.index < t.length := by
      rw [← String.length_toList]
      exact (List.getElem?_eq_some_iff.mp hch).1
    refine ⟨hlt, ?_⟩
    split at h
    · cases ht : textTurn t c ch with
      | error e => rw [ht] at h; cases h
      | ok c'' =>
        rw [ht] at h
        cases h
        exact .inl (by rw [textTurn_index ht]; omega)
    · cases h
      exact .inl (by simp [escapeTurn])
    · -- a name hands the character back, or moves on
      cases h
      exact nameTurn_index.imp id fun h => ⟨‹_›, h⟩
    · exact .inl (groupTurn_index h)

/-- What is left to read, then whether a name is being read, falls in lexicographic order at
every turn. -/
theorem step_measure_lt (h : step o t c = .ok (some c')) :
    Prod.Lex (· < ·) (· < ·) (c'.measure t) (c.measure t) := by
  obtain ⟨hlt, hmove | ⟨hname, hlit, hsame⟩⟩ := step_advances h
  · exact .left _ _ (by omega)
  · simp only [Cursor.measure, hname, hlit, hsame]
    exact .right _ (by decide)

/-- The loop, turn after turn, then what follows it. It ends because each turn lowers the
measure of its variables. -/
def run (o : Options) (t : String) (c : Cursor) : Except Error (List Token) :=
  match hstep : step o t c with
  | .error e => .error e
  | .ok none => finish o t c
  | .ok (some c') =>
    have := step_measure_lt hstep
    run o t c'
termination_by c.measure t
decreasing_by exact this

namespace Cursor

def mode (t : String) (c : Cursor) : Mode :=
  match c.phase with
  | .literal => .literal
  | .escape => .escape
  | .name => .name (String.ofList (t.toList.extract c.nameStart c.index))
  | .group =>
    .group c.name c.groupStart (String.ofList (t.toList.extract (c.groupStart + 1) c.index))

def resume (o : Options) (t : String) (c : Cursor) : Except Error (List Token) :=
  scanFrom o t (c.mode t) (t.toList.drop c.index) c.index c.scan

def Valid (c : Cursor) : Prop :=
  (c.phase = .name → c.nameStart ≤ c.index) ∧ (c.phase = .group → c.groupStart < c.index)

/-- What the outcome of a turn says of reading on from the cursor before it: the turn's error is
reading's error; where the loop ends, reading ends as `finish` does; and reading on from the
next cursor, which is valid, is reading on from this one. -/
def Continues (o : Options) (t : String) (c : Cursor) : Except Error (Option Cursor) → Prop
  | .error e => c.resume o t = .error e
  | .ok none => c.resume o t = finish o t c
  | .ok (some c') => c'.Valid ∧ c.resume o t = c'.resume o t

end Cursor

theorem ofList_extract_succ {cs : List Char} {a b : Nat} (hab : a ≤ b) (hb : cs[b]? = some ch) :
    String.ofList (cs.extract a (b + 1)) = (String.ofList (cs.extract a b)).push ch := by
  have hget : (cs.drop a)[b - a]? = some ch := by
    rw [List.getElem?_drop, Nat.add_sub_cancel' hab, hb]
  rw [← String.toList_inj]
  simp only [List.extract_eq_take_drop, String.toList_ofList, String.toList_push,
    Nat.sub_add_comm hab, List.take_add_one, hget, Option.toList_some]

theorem extract_of_length_le {cs : List Char} {a b : Nat} (hb : cs.length ≤ b) :
    cs.extract a b = cs.drop a := by
  rw [List.extract_eq_take_drop, List.take_of_length_le]
  simp only [List.length_drop]
  omega

variable {rest : List Char}

theorem length_of_drop_eq_cons {i : Nat} (hd : t.toList.drop i = ch :: rest) :
    t.length = i + rest.length + 1 := by
  have h := congrArg List.length hd
  simp only [List.length_drop, String.length_toList, List.length_cons] at h
  omega

theorem getElem?_succ_of_drop_eq_cons {l : List Char} {i : Nat} (hd : l.drop i = ch :: rest) :
    l[i + 1]? = rest.head? := by
  rw [← List.head?_drop, drop_succ_of_drop_eq_cons hd]

theorem textTurn_continues (hd : t.toList.drop c.index = ch :: rest) (hp : c.phase = .literal) :
    c.Continues o t (some <$> textTurn t c ch) := by
  have hlen : decide (c.index + 1 < t.length) = !rest.isEmpty := by
    have := length_of_drop_eq_cons hd
    cases rest <;> simp at this ⊢ <;> omega
  have hnext := getElem?_succ_of_drop_eq_cons hd
  have hres : c.resume o t = scanFrom o t .literal (ch :: rest) c.index c.scan := by
    simp only [Cursor.resume, Cursor.mode, hp, hd]
  have hrest := drop_succ_of_drop_eq_cons hd
  unfold textTurn
  simp only [scanFrom] at hres
  unfold literalStep at hres
  rw [hlen, hnext]
  -- both read the character alike: the same four ways on, or a stray `)` refused
  split_ifs at hres ⊢
  on_goal 4 => exact hres
  all_goals
    exact ⟨by simp [Cursor.Valid, hp], hres.trans (by simp [Cursor.resume, Cursor.mode, hp, hrest]; rfl)⟩

theorem paramEnd_resume {name pattern : Option String} {i : Nat} {s : Scan}
    (hd : t.toList.drop i = ch :: rest) :
    (do let (m, st) ← paramEnd o t name pattern ch rest i s; scanFrom o t m rest (i + 1) st) =
      scanFrom o t .literal (t.toList.drop (s.emitAt o t.toList name pattern i).1)
        (s.emitAt o t.toList name pattern i).1 (s.emitAt o t.toList name pattern i).2 := by
  have hnext := getElem?_succ_of_drop_eq_cons hd
  unfold paramEnd Scan.emitAt
  rw [getElem?_of_drop_eq_cons hd]
  by_cases hm : isModifier ch
  · simp only [hm, if_true, drop_succ_of_drop_eq_cons hd, hnext]
    rfl
  · simp only [hm, Bool.false_eq_true, if_false, hd]
    rfl

theorem afterGroup_resume {name : Option String} {body : String} {i : Nat} {s : Scan} :
    scanFrom o t (.afterGroup name body) (t.toList.drop i) i s =
      scanFrom o t .literal (t.toList.drop (s.emitAt o t.toList name (some body) i).1)
        (s.emitAt o t.toList name (some body) i).1 (s.emitAt o t.toList name (some body) i).2 := by
  cases hd : t.toList.drop i with
  | nil =>
    have hnone : t.toList[i]? = none := by
      rw [← List.head?_drop, hd]
      rfl
    simp only [Scan.emitAt, hnone, hd]
    rfl
  | cons d rest => exact paramEnd_resume hd

theorem nameTurn_continues (hd : t.toList.drop c.index = ch :: rest) (hp : c.phase = .name)
    (hv : c.nameStart ≤ c.index) : c.Continues o t (.ok (some (nameTurn o t c ch))) := by
  have hrest := drop_succ_of_drop_eq_cons hd
  have hres : c.resume o t = scanFrom o t (.name (String.ofList (t.toList.extract c.nameStart c.index)))
      (ch :: rest) c.index c.scan := by
    simp only [Cursor.resume, Cursor.mode, hp, hd]
  unfold nameTurn
  split_ifs with hn ho
  · -- a name character joins the name
    refine ⟨by simp [Cursor.Valid, hp]; omega, ?_⟩
    rw [hres]
    simp only [scanFrom, hn, if_true, Cursor.resume, Cursor.mode, hp, hrest,
      ofList_extract_succ hv (getElem?_of_drop_eq_cons hd)]
  · -- a `(` opens the name's group
    refine ⟨by simp [Cursor.Valid], ?_⟩
    rw [hres]
    simp only [scanFrom, hn, ho, Bool.false_eq_true, if_false, if_true, Cursor.resume, Cursor.mode, hrest]
    simp
  · -- the name ends, and the character under the cursor is its modifier or is read as text
    refine ⟨by simp [Cursor.Valid], ?_⟩
    rw [hres]
    simp only [scanFrom, hn, ho, Bool.false_eq_true, if_false]
    exact paramEnd_resume hd

theorem groupTurn_continues (hd : t.toList.drop c.index = ch :: rest) (hp : c.phase = .group)
    (hv : c.groupStart < c.index) : c.Continues o t (groupTurn o t c ch) := by
  have hrest := drop_succ_of_drop_eq_cons hd
  have hlen := length_of_drop_eq_cons hd
  have hres : c.resume o t = scanFrom o t (.group c.name c.groupStart
      (String.ofList (t.toList.extract (c.groupStart + 1) c.index))) (ch :: rest) c.index c.scan := by
    simp only [Cursor.resume, Cursor.mode, hp, hd]
  unfold groupTurn
  by_cases hb : ch = '\\'
  · subst hb
    cases rest with
    | nil =>
      -- a backslash that ends the template ends the loop, and the group is unterminated
      have hend : ¬c.index + 1 < t.length := by simp at hlen; omega
      rw [if_pos (by decide), if_neg hend]
      show c.resume o t = finish o t c
      rw [hres]
      simp [finish, hp, scanFrom]
    | cons d rest =>
      -- a backslash takes the character after it into the group
      have hnext : c.index + 1 < t.length := by simp at hlen; omega
      have hbody : String.ofList (t.toList.extract (c.groupStart + 1) (c.index + 2)) =
          ((String.ofList (t.toList.extract (c.groupStart + 1) c.index)).push '\\').push d := by
        rw [show c.index + 2 = c.index + 1 + 1 from rfl,
          ofList_extract_succ (by omega) (getElem?_of_drop_eq_cons hrest),
          ofList_extract_succ (by omega) (getElem?_of_drop_eq_cons hd)]
      rw [if_pos (by decide), if_pos hnext]
      refine ⟨by simp [Cursor.Valid, hp]; omega, ?_⟩
      rw [hres]
      simp only [scanFrom, BEq.rfl, if_true, Cursor.resume, Cursor.mode, hp,
        drop_succ_of_drop_eq_cons hrest, hbody]
  · by_cases ho : ch = '('
    · -- a `(` in a group is refused where it stands
      subst ho
      simp only [beq_iff_eq, hb, if_false, if_true]
      exact hres.trans rfl
    · by_cases hc : ch = ')'
      · -- a `)` checks the pattern and emits the parameter with it
        subst hc
        simp only [beq_iff_eq, hb, ho, if_false, if_true]
        cases hcheck : checkGroup t c.groupStart
            (String.ofList (t.toList.extract (c.groupStart + 1) c.index)) with
        | error e =>
          show c.resume o t = .error e
          rw [hres]
          simp only [scanFrom, beq_iff_eq, hb, ho, if_false, if_true, hcheck]
          rfl
        | ok u =>
          simp only [bind, Except.bind, pure, Except.pure]
          refine ⟨by simp [Cursor.Valid], ?_⟩
          rw [hres]
          simp only [scanFrom, beq_iff_eq, hb, ho, if_false, if_true, hcheck, bind, Except.bind]
          rw [← hrest]
          exact afterGroup_resume
      · -- any other character joins the pattern
        simp only [beq_iff_eq, hb, ho, hc, if_false]
        have hbody : String.ofList (t.toList.extract (c.groupStart + 1) (c.index + 1)) =
            (String.ofList (t.toList.extract (c.groupStart + 1) c.index)).push ch :=
          ofList_extract_succ (by omega) (getElem?_of_drop_eq_cons hd)
        refine ⟨by simp [Cursor.Valid, hp]; omega, ?_⟩
        rw [hres]
        simp only [scanFrom, beq_iff_eq, hb, ho, hc, if_false, Cursor.resume, Cursor.mode, hp, hrest,
          hbody]

theorem finish_continues (hd : t.toList.drop c.index = []) : c.Continues o t (.ok none) := by
  have hlen : t.toList.length ≤ c.index := List.drop_eq_nil_iff.mp hd
  show c.resume o t = finish o t c
  unfold Cursor.resume Cursor.mode finish
  rw [hd]
  cases c.phase with
  | literal => rfl
  | escape => rfl
  | name =>
    simp only [extract_of_length_le hlen, extract_of_length_le (Nat.le_of_eq String.length_toList),
      Scan.emitAt, List.getElem?_eq_none (Nat.le_of_eq String.length_toList)]
    rfl
  | group => rfl

theorem step_continues (hv : c.Valid) : c.Continues o t (step o t c) := by
  cases hd : t.toList.drop c.index with
  | nil =>
    have hnone : t.toList[c.index]? = none := by
      rw [← List.head?_drop, hd]
      rfl
    simp only [step, hnone]
    exact finish_continues hd
  | cons ch rest =>
    simp only [step, getElem?_of_drop_eq_cons hd]
    cases hp : c.phase with
    | literal => exact textTurn_continues hd hp
    | escape =>
      refine ⟨by simp [escapeTurn, Cursor.Valid], ?_⟩
      simp only [Cursor.resume, Cursor.mode, hp, hd, escapeTurn, drop_succ_of_drop_eq_cons hd]
      rfl
    | name => exact nameTurn_continues hd hp (hv.1 hp)
    | group => exact groupTurn_continues hd hp (hv.2 hp)

theorem run_eq_resume (hv : c.Valid) : run o t c = c.resume o t := by
  fun_induction run o t c with
  | case1 c e hstep =>
    have h := step_continues (o := o) (t := t) hv
    rw [hstep] at h
    exact h.symm
  | case2 c hstep =>
    have h := step_continues (o := o) (t := t) hv
    rw [hstep] at h
    exact h.symm
  | case3 c c' hstep _ ih =>
    have h := step_continues (o := o) (t := t) hv
    rw [hstep] at h
    exact (ih h.1).trans h.2.symm

theorem run_start (o : Options) (t : String) : run o t Cursor.start = parse o t :=
  (run_eq_resume (by simp [Cursor.Valid, Cursor.start])).trans rfl

theorem step_step_advances {c'' : Cursor} (h : step o t c = .ok (some c'))
    (h' : step o t c' = .ok (some c'')) : c.index < c''.index := by
  obtain ⟨-, hfirst⟩ := step_advances h
  obtain ⟨-, hsecond⟩ := step_advances h'
  rcases hfirst with hlt | ⟨-, hlit, hsame⟩
  · rcases hsecond with hlt' | ⟨-, -, hsame'⟩ <;> omega
  · -- after a handback the cursor is in text, where a turn moves it
    rcases hsecond with hlt' | ⟨hname, -, -⟩
    · omega
    · rw [hlit] at hname
      cases hname

theorem checkGroup_ofReading {start : Nat} {body : String} {e : Error}
    (h : checkGroup t start body = .error e) : e.OfReading := by
  unfold checkGroup at h
  split at h
  · cases h
    exact .inl ⟨_, rfl⟩
  · split at h
    · cases h
    · split at h
      · cases h
        exact .inl ⟨_, rfl⟩
      · cases h
        exact .inr ⟨_, Bool.eq_false_iff.mpr ‹_›, rfl⟩

theorem step_ofReading {e : Error} (h : step o t c = .error e) : e.OfReading := by
  unfold step at h
  split at h
  · cases h
  · split at h
    · -- in text only a stray `)` is refused
      unfold textTurn at h
      split_ifs at h <;> cases h
      exact .inl ⟨_, rfl⟩
    · cases h
    · cases h
    · -- in a group a `(` is refused, and so is a pattern that does not compile
      unfold groupTurn at h
      split_ifs at h
      · cases h
        exact .inl ⟨_, rfl⟩
      · cases hcheck : checkGroup t c.groupStart
            (String.ofList (t.toList.extract (c.groupStart + 1) c.index)) with
        | error e' =>
          simp only [hcheck] at h
          cases h
          exact checkGroup_ofReading hcheck
        | ok u =>
          simp only [hcheck] at h
          cases h

theorem finish_ofReading {e : Error} (h : finish o t c = .error e) : e.OfReading := by
  unfold finish at h
  split at h <;> cases h
  exact .inl ⟨_, rfl⟩

theorem run_ofReading {e : Error} (h : run o t c = .error e) : e.OfReading := by
  fun_induction run o t c with
  | case1 c e' hstep =>
    cases h
    exact step_ofReading hstep
  | case2 c hstep => exact finish_ofReading h
  | case3 c c' hstep _ ih => exact ih h

/-- The reading loop ends on every template: at each turn what is left to read, then whether a name
is being read, falls in lexicographic order; and it reads the template into what `parse` gives. -/
theorem reading_loop_terminates (o : Options) (t : String) :
    (∀ c c', step o t c = .ok (some c') →
      c.index < c'.index ∨ c.phase = .name ∧ c'.phase = .literal ∧ c'.index = c.index) ∧
    (∀ c c' c'', step o t c = .ok (some c') → step o t c' = .ok (some c'') →
      c.index < c''.index) ∧
    (∀ c c', step o t c = .ok (some c') →
      Prod.Lex (· < ·) (· < ·) (c'.measure t) (c.measure t)) ∧
    run o t Cursor.start = parse o t ∧
    ∀ e, parse o t = .error e → e.OfReading := by
  refine ⟨fun c c' h => (step_advances h).2, fun c c' c'' h h' => step_step_advances h h',
    fun c c' h => step_measure_lt h, run_start o t, fun e h => ?_⟩
  rw [← run_start] at h
  exact run_ofReading h

/-- A count of `2 ^ 32` in a named parameter's pattern is refused by the compiler for no syntax
error, and reading fails with the compiler's own error, not with a syntax error of the
template. -/
theorem parse_overflow_passes_through :
    ∃ re : Regex.Error, re.fault.isSyntax = false ∧
      parse Options.standard "/:id(\\d{4294967296})" = .error (.regex re) := by
  have hrefused : (((Regex.compile (escapeGroup "\\d{4294967296}") Regex.Flags.none).map
      fun _ => true).tryCatch fun e => .ok e.fault.isSyntax).toOption = some false := by
    decide +kernel
  obtain ⟨re, hcomp, hsyn⟩ : ∃ re, Regex.compile (escapeGroup "\\d{4294967296}")
      Regex.Flags.none = .error re ∧ re.fault.isSyntax = false := by
    -- the compilation is named before it is taken apart, so that no step evaluates it again
    generalize Regex.compile (escapeGroup "\\d{4294967296}") Regex.Flags.none = r at hrefused ⊢
    cases r with
    | ok _ => cases hrefused
    | error re =>
      exact ⟨re, rfl, by simpa [Except.tryCatch, Except.toOption, Except.map] using hrefused⟩
  have hchars : "/:id(\\d{4294967296})".toList =
      ['/', ':', 'i', 'd', '(', '\\', 'd', '{', '4', '2', '9', '4', '9', '6', '7', '2', '9', '6', '}',
        ')'] := by
    decide +kernel
  refine ⟨re, hsyn, ?_⟩
  -- reading fails with the first fault of the template's groups, which is this group's
  rw [← errorOf_eq_some_iff, errorOf_parse, firstFault, hchars]
  simp [groupFault, checkGroup, hcomp, hsyn]

end Template

end PathTemplate

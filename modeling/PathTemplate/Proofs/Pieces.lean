import Mathlib
import PathTemplate.Template.Scanner

namespace PathTemplate.Template

/-- A piece of a template. -/
inductive Piece where
  | plain (c : Char)
  | escaped (c : Char)
  | slot (name : Option String) (body : Option String) (modifier : Option Char)
  deriving DecidableEq

def Piece.source : Piece → List Char
  | .plain c => [c]
  | .escaped c => ['\\', c]
  | .slot name body modifier =>
    (name.map fun n => ':' :: n.toList).getD [] ++
      (body.map fun b => '(' :: b.toList ++ [')']).getD [] ++ modifier.toList

def groupBody : List Char → List Char × List Char
  | [] => ([], [])
  | '\\' :: c :: rest => (groupBody rest).map ('\\' :: c :: ·) id
  | ')' :: rest => ([], rest)
  | c :: rest => (groupBody rest).map (c :: ·) id

def takeModifier : List Char → Option Char × List Char
  | m :: rest => if isModifier m then (some m, rest) else (none, m :: rest)
  | [] => (none, [])

theorem groupBody_length_le (cs : List Char) : (groupBody cs).2.length ≤ cs.length := by
  fun_induction groupBody cs <;> simp_all <;> omega

theorem takeModifier_length_le (cs : List Char) : (takeModifier cs).2.length ≤ cs.length := by
  unfold takeModifier
  split
  · split <;> simp
  · simp

theorem length_le_of_dropWhile_eq {p : Char → Bool} {cs rest : List Char}
    (h : cs.dropWhile p = rest) : rest.length ≤ cs.length := by
  rw [← h]
  exact (List.dropWhile_suffix p).length_le

/-- The pieces of a template: `\X` is `X` escaped (a backslash at the very end stands for
itself), `:name` a slot with that name, `(body)` a slot with that group, `:name(body)` both, each
slot with the modifier that follows it. -/
def readPieces (cs : List Char) : List Piece :=
  match cs with
  | [] => []
  | '\\' :: c :: rest => .escaped c :: readPieces rest
  | ':' :: c :: rest =>
    if isNameChar c then
      let name := String.ofList ((c :: rest).takeWhile isNameChar)
      match h : (c :: rest).dropWhile isNameChar with
      | '(' :: more =>
        have := length_le_of_dropWhile_eq h
        .slot (some name) (some (String.ofList (groupBody more).1))
          (takeModifier (groupBody more).2).1 :: readPieces (takeModifier (groupBody more).2).2
      | after =>
        have := length_le_of_dropWhile_eq h
        .slot (some name) none (takeModifier after).1 :: readPieces (takeModifier after).2
    else .plain ':' :: readPieces (c :: rest)
  | '(' :: rest =>
    .slot none (some (String.ofList (groupBody rest).1)) (takeModifier (groupBody rest).2).1 ::
      readPieces (takeModifier (groupBody rest).2).2
  | c :: rest => .plain c :: readPieces rest
termination_by cs.length
decreasing_by
  all_goals simp only [List.length_cons] at *
  · omega
  · -- the name and the `(` are read before the group
    have h1 := takeModifier_length_le (groupBody more).2
    have h2 := groupBody_length_le more
    omega
  · have h1 := takeModifier_length_le after
    omega
  · omega
  · have h1 := takeModifier_length_le (groupBody rest).2
    have h2 := groupBody_length_le rest
    omega
  · omega

theorem head_sources_readPieces (cs : List Char) :
    ((readPieces cs).flatMap Piece.source).head? = cs.head? := by
  fun_cases readPieces cs <;> simp [Piece.source]

theorem readPieces_name_group {c : Char} {rest more : List Char} (hc : isNameChar c = true)
    (hdrop : (c :: rest).dropWhile isNameChar = '(' :: more) :
    readPieces (':' :: c :: rest) =
      .slot (some (String.ofList ((c :: rest).takeWhile isNameChar)))
        (some (String.ofList (groupBody more).1)) (takeModifier (groupBody more).2).1 ::
        readPieces (takeModifier (groupBody more).2).2 := by
  rw [readPieces]
  simp only [hc, if_true]
  split
  · rename_i more' heq
    rw [hdrop, List.cons.injEq] at heq
    rw [heq.2]
  · rename_i hne
    exact (hne more hdrop).elim

theorem readPieces_name {c : Char} {rest : List Char} (hc : isNameChar c = true)
    (hne : ∀ more, (c :: rest).dropWhile isNameChar = '(' :: more → False) :
    readPieces (':' :: c :: rest) =
      .slot (some (String.ofList ((c :: rest).takeWhile isNameChar))) none
        (takeModifier ((c :: rest).dropWhile isNameChar)).1 ::
        readPieces (takeModifier ((c :: rest).dropWhile isNameChar)).2 := by
  rw [readPieces]
  simp only [hc, if_true]

def Scan.feed (o : Options) (st : Scan) : List Piece → Scan
  | [] => st
  | .plain c :: ps => Scan.feed o { st with buffer := st.buffer.push c } ps
  | .escaped c :: ps => Scan.feed o { st with buffer := st.buffer.push c, escaped := true } ps
  | .slot name body m :: ps =>
    Scan.feed o (st.emit o name body m (ps.flatMap Piece.source).head?) ps

variable {o : Options} {tmpl : String}

theorem scanFrom_name_run (cs : List Char) (text : String) (pos : Nat) (st : Scan) :
    scanFrom o tmpl (.name text) cs pos st =
      scanFrom o tmpl (.name (String.ofList (text.toList ++ cs.takeWhile isNameChar)))
        (cs.dropWhile isNameChar) (pos + (cs.takeWhile isNameChar).length) st := by
  induction cs generalizing text pos with
  | nil => simp [String.ofList_toList]
  | cons c rest ih =>
    by_cases hc : isNameChar c
    · rw [scanFrom, if_pos hc, ih]
      simp [hc, String.toList_push, Nat.add_assoc, Nat.add_comm 1]
    · simp [hc, String.ofList_toList]

theorem scanFrom_group_ok {cs : List Char} {name : Option String} {start : Nat} {body : String}
    {pos : Nat} {st : Scan} {ts : List Token}
    (h : scanFrom o tmpl (.group name start body) cs pos st = .ok ts) :
    ∃ pos', scanFrom o tmpl (.afterGroup name (String.ofList (body.toList ++ (groupBody cs).1)))
      (groupBody cs).2 pos' st = .ok ts := by
  induction cs using groupBody.induct generalizing body pos with
  | case1 => simp [scanFrom] at h
  | case2 c rest ih =>
    simp only [scanFrom, beq_self_eq_true, if_true] at h
    obtain ⟨pos', h'⟩ := ih h
    refine ⟨pos', ?_⟩
    simpa [groupBody, String.toList_push] using h'
  | case3 rest =>
    refine ⟨pos + 1, ?_⟩
    simp only [scanFrom] at h
    cases hc : checkGroup tmpl start body with
    | error e => simp [hc] at h; cases h
    | ok u => simpa [groupBody, hc, String.ofList_toList, bind, Except.bind] using h
  | case4 c rest hesc hclose ih =>
    have hopen : c ≠ '(' := by
      rintro rfl
      simp [scanFrom] at h
    by_cases hb : c = '\\'
    · -- a backslash that ends the template leaves the group open
      subst hb
      cases rest with
      | nil => simp [scanFrom] at h
      | cons d rest => exact (hesc d rest rfl rfl).elim
    · have hclose' : c ≠ ')' := hclose
      simp only [scanFrom, beq_iff_eq, hb, hopen, hclose', if_false] at h
      obtain ⟨pos', h'⟩ := ih h
      refine ⟨pos', ?_⟩
      have hg : groupBody (c :: rest) = (groupBody rest).map (c :: ·) id := by
        rw [groupBody] <;> simp_all
      rw [hg]
      simpa only [Prod.map_fst, Prod.map_snd, id, String.toList_push, List.append_assoc,
        List.singleton_append] using h'

theorem scanFrom_group_text {cs : List Char} {name : Option String} {start pos : Nat} {st : Scan}
    {ts : List Token} (h : scanFrom o tmpl (.group name start "") cs pos st = .ok ts) :
    (groupBody cs).1 ≠ [] := by
  cases cs with
  | nil => simp [scanFrom] at h
  | cons c rest =>
    by_cases hc : c = ')'
    · subst hc
      simp [scanFrom, checkGroup, bind, Except.bind] at h
    · -- any other first character is the first of the group's text
      unfold groupBody
      split <;> simp_all

theorem paramEnd_ok {name pattern : Option String} {c : Char} {rest : List Char} {pos : Nat}
    {st : Scan} {ts : List Token}
    (h : (do
      let (m, st) ← paramEnd o tmpl name pattern c rest pos st
      scanFrom o tmpl m rest (pos + 1) st) = .ok ts) :
    ∃ pos', scanFrom o tmpl .literal (takeModifier (c :: rest)).2 pos'
      (st.emit o name pattern (takeModifier (c :: rest)).1
        (takeModifier (c :: rest)).2.head?) = .ok ts := by
  by_cases hm : isModifier c
  · refine ⟨pos + 1, ?_⟩
    simpa [paramEnd, takeModifier, hm, bind, Except.bind] using h
  · refine ⟨pos, ?_⟩
    simpa [paramEnd, takeModifier, hm, scanFrom] using h

theorem scanFrom_afterGroup_ok {cs : List Char} {name : Option String} {body : String}
    {pos : Nat} {st : Scan} {ts : List Token}
    (h : scanFrom o tmpl (.afterGroup name body) cs pos st = .ok ts) :
    ∃ pos', scanFrom o tmpl .literal (takeModifier cs).2 pos'
      (st.emit o name (some body) (takeModifier cs).1 (takeModifier cs).2.head?) = .ok ts := by
  cases cs with
  | nil => exact ⟨pos, by simpa [scanFrom, takeModifier] using h⟩
  | cons c rest => exact paramEnd_ok (by simpa only [scanFrom] using h)

theorem scanFrom_name_ok {cs : List Char} {text : String} {pos : Nat} {st : Scan}
    {ts : List Token} (hname : ∀ c ∈ cs.head?, isNameChar c = false)
    (hopen : cs.head? ≠ some '(')
    (h : scanFrom o tmpl (.name text) cs pos st = .ok ts) :
    ∃ pos', scanFrom o tmpl .literal (takeModifier cs).2 pos'
      (st.emit o (some text) none (takeModifier cs).1 (takeModifier cs).2.head?) = .ok ts := by
  cases cs with
  | nil => exact ⟨pos, by simpa [scanFrom, takeModifier] using h⟩
  | cons c rest =>
    have hc : isNameChar c = false := hname c rfl
    have hc' : c ≠ '(' := fun e => hopen (by rw [e]; rfl)
    exact paramEnd_ok (by simpa [scanFrom, hc, hc'] using h)

def Piece.Filled : Piece → Prop
  | .slot _ (some body) _ => body ≠ ""
  | _ => True

theorem scanFrom_literal_reads {cs : List Char} {pos : Nat} {st : Scan} {ts : List Token}
    (h : scanFrom o tmpl .literal cs pos st = .ok ts) :
    ts = (st.feed o (readPieces cs)).flush.tokens.toList ∧ ∀ p ∈ readPieces cs, p.Filled := by
  induction cs using readPieces.induct generalizing pos st with
  | case1 =>
    simp [scanFrom] at h
    simp [readPieces, Scan.feed, h]
  | case2 c rest ih =>
    rw [readPieces, Scan.feed, List.forall_mem_cons]
    obtain ⟨hts, hfilled⟩ := ih (by simpa [scanFrom, literalStep, bind, Except.bind] using h)
    exact ⟨hts, trivial, hfilled⟩
  | case3 c rest hc more hdrop _ ih =>
    rw [readPieces_name_group hc hdrop, Scan.feed, head_sources_readPieces, List.forall_mem_cons]
    have h1 : scanFrom o tmpl (.name "") (c :: rest) (pos + 1) st = .ok ts := by
      simpa [scanFrom, literalStep, hc, bind, Except.bind] using h
    rw [scanFrom_name_run, hdrop] at h1
    have h2 := by simpa [scanFrom, isNameChar] using h1
    have htext := scanFrom_group_text h2
    obtain ⟨p3, h3⟩ := scanFrom_group_ok h2
    obtain ⟨p4, h4⟩ := scanFrom_afterGroup_ok h3
    obtain ⟨hts, hfilled⟩ := ih (by simpa using h4)
    exact ⟨hts, String.ofList_eq_empty_iff.not.mpr htext, hfilled⟩
  | case4 c rest hc hne _ ih =>
    rw [readPieces_name hc hne, Scan.feed, head_sources_readPieces, List.forall_mem_cons]
    have h1 : scanFrom o tmpl (.name "") (c :: rest) (pos + 1) st = .ok ts := by
      simpa [scanFrom, literalStep, hc, bind, Except.bind] using h
    rw [scanFrom_name_run] at h1
    -- the name ends where `dropWhile` stops, and no group follows it
    have hname : ∀ x ∈ ((c :: rest).dropWhile isNameChar).head?, isNameChar x = false := by
      intro x hx
      have hd := List.head?_dropWhile_not isNameChar (c :: rest)
      rw [Option.mem_def.mp hx] at hd
      exact hd
    have hopen : ((c :: rest).dropWhile isNameChar).head? ≠ some '(' := by
      intro he
      cases hd : (c :: rest).dropWhile isNameChar with
      | nil => simp [hd] at he
      | cons x xs =>
        rw [hd, List.head?_cons, Option.some.injEq] at he
        exact hne xs (he ▸ hd)
    obtain ⟨p2, h2⟩ := scanFrom_name_ok hname hopen h1
    obtain ⟨hts, hfilled⟩ := ih (by simpa using h2)
    exact ⟨hts, trivial, hfilled⟩
  | case5 c rest hc ih =>
    rw [readPieces, if_neg hc, Scan.feed, List.forall_mem_cons]
    obtain ⟨hts, hfilled⟩ := ih (by simpa [scanFrom, literalStep, hc, bind, Except.bind] using h)
    exact ⟨hts, trivial, hfilled⟩
  | case6 rest ih =>
    rw [readPieces, Scan.feed, head_sources_readPieces, List.forall_mem_cons]
    have h1 : scanFrom o tmpl (.group none pos "") rest (pos + 1) st = .ok ts := by
      simpa [scanFrom, literalStep, bind, Except.bind] using h
    have htext := scanFrom_group_text h1
    obtain ⟨p2, h2⟩ := scanFrom_group_ok h1
    obtain ⟨p3, h3⟩ := scanFrom_afterGroup_ok h2
    obtain ⟨hts, hfilled⟩ := ih (by simpa using h3)
    exact ⟨hts, String.ofList_eq_empty_iff.not.mpr htext, hfilled⟩
  | case7 c rest hesc hname hopen ih =>
    have hclose : c ≠ ')' := by
      rintro rfl
      simp [scanFrom, literalStep, bind, Except.bind] at h
    have hopen : c ≠ '(' := hopen
    have hstep : literalStep tmpl c rest pos st =
        .ok (.literal, { st with buffer := st.buffer.push c }) := by
      cases rest with
      | nil => simp [literalStep, hopen, hclose]
      | cons d rest =>
        have hb : c ≠ '\\' := fun e => hesc d rest e rfl
        have hn : c ≠ ':' := fun e => hname d rest e rfl
        simp [literalStep, hb, hn, hopen, hclose]
    rw [readPieces, Scan.feed, List.forall_mem_cons]
    · obtain ⟨hts, hfilled⟩ := ih (by simpa [scanFrom, hstep, bind, Except.bind] using h)
      exact ⟨hts, trivial, hfilled⟩
    all_goals assumption

theorem parse_eq_feed {t : String} {ts : List Token} (h : parse o t = .ok ts) :
    ts = (Scan.initial.feed o (readPieces t.toList)).flush.tokens.toList :=
  (scanFrom_literal_reads h).1

/-- Every group of a template that the reader accepts holds some text. -/
theorem parse_filled {t : String} {ts : List Token} (h : parse o t = .ok ts) :
    ∀ p ∈ readPieces t.toList, p.Filled :=
  (scanFrom_literal_reads h).2

end PathTemplate.Template

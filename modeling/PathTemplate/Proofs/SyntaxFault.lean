import Mathlib
import PathTemplate.Template.Scanner

namespace PathTemplate

def SyntaxReason.char : SyntaxReason → Char
  | .unbalanced => ')'
  | _ => '('

namespace Template

def groupFault (t : String) : Option (Nat × String) → Nat → List Char → Option Error
  | none, _, [] => none
  | none, pos, '\\' :: _ :: rest => groupFault t none (pos + 2) rest
  | none, pos, ')' :: _ => some (.template ⟨.unbalanced, t, pos⟩)
  | none, pos, '(' :: rest => groupFault t (some (pos, "")) (pos + 1) rest
  | none, pos, _ :: rest => groupFault t none (pos + 1) rest
  | some (start, _), _, [] => some (.template ⟨.unterminated, t, start⟩)
  | some (start, _), _, ['\\'] => some (.template ⟨.unterminated, t, start⟩)
  | some (start, body), pos, '\\' :: c :: rest =>
    groupFault t (some (start, (body.push '\\').push c)) (pos + 2) rest
  | some _, pos, '(' :: _ => some (.template ⟨.nested, t, pos⟩)
  | some (start, body), pos, ')' :: rest =>
    match checkGroup t start body with
    | .error e => some e
    | .ok () => groupFault t none (pos + 1) rest
  | some (start, body), pos, c :: rest =>
    groupFault t (some (start, body.push c)) (pos + 1) rest

/-- The first fault of a template's groups. -/
def firstFault (t : String) : Option Error :=
  groupFault t none 0 t.toList

def errorOf {α : Type} : Except Error α → Option Error
  | .ok _ => none
  | .error e => some e

def Mode.fault (t : String) : Mode → Nat → List Char → Option Error
  | .literal, pos, cs | .name _, pos, cs | .afterGroup _ _, pos, cs => groupFault t none pos cs
  | .escape, _, [] => none
  | .escape, pos, _ :: rest => groupFault t none (pos + 1) rest
  | .group _ start body, pos, cs => groupFault t (some (start, body)) pos cs
  | .groupEscape _ start _, _, [] => some (.template ⟨.unterminated, t, start⟩)
  | .groupEscape _ start body, pos, c :: rest =>
    groupFault t (some (start, body.push c)) (pos + 1) rest

variable {o : Options} {t : String} {pos : Nat} {rest : List Char}

theorem groupFault_none_plain {c : Char} (hb : c = '\\' → rest = []) (ho : c ≠ '(')
    (hc : c ≠ ')') : groupFault t none pos (c :: rest) = groupFault t none (pos + 1) rest := by
  by_cases h : c = '\\'
  · subst h
    rw [hb rfl]
    rfl
  · -- the side conditions of the equation, that `c` is none of the three, come from the context
    cases rest with
    | nil => simp [groupFault]
    | cons d rest => simp [groupFault, h]

theorem groupFault_some_plain {c : Char} {start : Nat} {body : String} (hb : c ≠ '\\')
    (ho : c ≠ '(') (hc : c ≠ ')') :
    groupFault t (some (start, body)) pos (c :: rest) =
      groupFault t (some (start, body.push c)) (pos + 1) rest := by
  cases rest with
  | nil => simp [groupFault, hb]
  | cons d rest => simp [groupFault, hb]

def FaultsAgree (o : Options) (t : String) (rest : List Char) : Prop :=
  ∀ m pos st, errorOf (scanFrom o t m rest pos st) = m.fault t pos rest

theorem literalStep_fault {c : Char} {st : Scan} (ih : FaultsAgree o t rest) :
    errorOf (do let (m, st) ← literalStep t c rest pos st; scanFrom o t m rest (pos + 1) st) =
      groupFault t none pos (c :: rest) := by
  unfold literalStep
  split_ifs with hesc hname hopen hclose
  · -- a backslash pairs with the character after it
    obtain ⟨rfl, hne⟩ : c = '\\' ∧ rest ≠ [] := by simpa using hesc
    obtain ⟨d, rest, rfl⟩ := List.exists_cons_of_ne_nil hne
    exact (ih _ _ _).trans rfl
  · -- a name is text as far as groups go
    have hc : c = ':' := by simp_all
    subst hc
    refine (ih _ _ _).trans ?_
    rw [groupFault_none_plain (by simp) (by decide) (by decide)]
    rfl
  · have hc : c = '(' := by simpa using hopen
    subst hc
    exact (ih _ _ _).trans rfl
  · have hc : c = ')' := by simpa using hclose
    subst hc
    rfl
  · have hb : c = '\\' → rest = [] := by simpa using hesc
    refine (ih _ _ _).trans ?_
    rw [groupFault_none_plain hb (by simpa using hopen) (by simpa using hclose)]
    rfl

theorem paramEnd_fault {name pattern : Option String} {c : Char} {st : Scan}
    (ih : FaultsAgree o t rest) :
    errorOf (do
      let (m, st) ← paramEnd o t name pattern c rest pos st
      scanFrom o t m rest (pos + 1) st) = groupFault t none pos (c :: rest) := by
  unfold paramEnd
  split_ifs with hm
  · have hc : c ≠ '\\' ∧ c ≠ '(' ∧ c ≠ ')' := by
      have : (c = '?' ∨ c = '+') ∨ c = '*' := by simpa [isModifier] using hm
      rcases this with (rfl | rfl) | rfl <;> decide
    refine (ih _ _ _).trans ?_
    exact (groupFault_none_plain (fun h => absurd h hc.1) hc.2.1 hc.2.2).symm
  · exact literalStep_fault ih

theorem scanFrom_fault (cs : List Char) : FaultsAgree o t cs := by
  induction cs with
  | nil =>
    intro m pos st
    cases m <;> rfl
  | cons c rest ih =>
    intro m pos st
    cases m with
    | literal => exact literalStep_fault ih
    | escape => exact ih _ _ _
    | name text =>
      by_cases hn : isNameChar c
      · -- a name character is plain text
        have hc : c ≠ '\\' ∧ c ≠ '(' ∧ c ≠ ')' := by
          refine ⟨?_, ?_, ?_⟩ <;> rintro rfl <;> simp [isNameChar] at hn
        simp only [scanFrom, hn, if_true]
        refine (ih _ _ _).trans ?_
        exact (groupFault_none_plain (fun h => absurd h hc.1) hc.2.1 hc.2.2).symm
      · by_cases ho : c = '('
        · subst ho
          simp only [scanFrom, hn, Bool.false_eq_true, if_false]
          exact ih _ _ _
        · simp only [scanFrom, hn, Bool.false_eq_true, if_false, beq_iff_eq, ho]
          exact paramEnd_fault ih
    | group name start body =>
      by_cases hb : c = '\\'
      · -- a backslash keeps the character after it in the group, if there is one
        subst hb
        simp only [scanFrom]
        refine (ih _ _ _).trans ?_
        cases rest <;> rfl
      · by_cases ho : c = '('
        · subst ho
          rfl
        · by_cases hc : c = ')'
          · subst hc
            simp only [scanFrom, beq_iff_eq, hb, ho, if_false, if_true]
            cases h : checkGroup t start body with
            | error e => simp [h, Mode.fault, groupFault, errorOf, bind, Except.bind]
            | ok u => exact (ih _ _ _).trans (by simp [h, groupFault, Mode.fault])
          · simp only [scanFrom, beq_iff_eq, hb, ho, hc, if_false]
            refine (ih _ _ _).trans ?_
            exact (groupFault_some_plain hb ho hc).symm
    | groupEscape name start body => exact ih _ _ _
    | afterGroup name body => exact paramEnd_fault ih

theorem errorOf_eq_some_iff {α : Type} {x : Except Error α} {e : Error} :
    errorOf x = some e ↔ x = .error e := by
  cases x <;> simp [errorOf]

theorem errorOf_eq_none_iff {α : Type} {x : Except Error α} :
    errorOf x = none ↔ x.isOk = true := by
  cases x <;> simp [errorOf, Except.isOk, Except.toBool]

theorem errorOf_parse (o : Options) (t : String) : errorOf (parse o t) = firstFault t :=
  scanFrom_fault t.toList .literal 0 Scan.initial

theorem checkGroup_template {start : Nat} {body : String} {te : TemplateError}
    (h : checkGroup t start body = .error (.template te)) :
    te.template = t ∧ te.index = start ∧ te.reason.char = '(' := by
  unfold checkGroup at h
  split at h
  · cases h
    exact ⟨rfl, rfl, rfl⟩
  · split at h
    · cases h
    · split at h <;> cases h
      exact ⟨rfl, rfl, rfl⟩

theorem getElem?_of_drop_eq_cons {l cs : List Char} {c : Char} (h : l.drop pos = c :: cs) :
    l[pos]? = some c := by
  rw [← List.head?_drop, h]
  rfl

theorem drop_succ_of_drop_eq_cons {l cs : List Char} {c : Char} (h : l.drop pos = c :: cs) :
    l.drop (pos + 1) = cs := by
  rw [← List.tail_drop, h]
  rfl

theorem groupFault_template {g : Option (Nat × String)} {cs : List Char} {te : TemplateError}
    (hcs : t.toList.drop pos = cs)
    (hg : ∀ start body, g = some (start, body) → t.toList[start]? = some '(')
    (h : groupFault t g pos cs = some (.template te)) :
    te.template = t ∧ t.toList[te.index]? = some te.reason.char := by
  fun_induction groupFault t g pos cs with
  | case1 => cases h
  | case2 pos c rest ih =>
    exact ih (drop_succ_of_drop_eq_cons (drop_succ_of_drop_eq_cons hcs)) (by simp) h
  | case3 pos rest =>
    cases h
    exact ⟨rfl, getElem?_of_drop_eq_cons hcs⟩
  | case4 pos rest ih =>
    refine ih (drop_succ_of_drop_eq_cons hcs) ?_ h
    intro start body hsb
    cases hsb
    exact getElem?_of_drop_eq_cons hcs
  | case5 pos c rest _ _ _ ih => exact ih (drop_succ_of_drop_eq_cons hcs) (by simp) h
  | case6 start body pos =>
    cases h
    exact ⟨rfl, hg start body rfl⟩
  | case7 start body pos =>
    cases h
    exact ⟨rfl, hg start body rfl⟩
  | case8 start body pos c rest ih =>
    refine ih (drop_succ_of_drop_eq_cons (drop_succ_of_drop_eq_cons hcs)) ?_ h
    intro start' body' hsb
    cases hsb
    exact hg start body rfl
  | case9 =>
    cases h
    exact ⟨rfl, getElem?_of_drop_eq_cons hcs⟩
  | case10 start body pos rest e hcheck =>
    cases h
    obtain ⟨ht, hi, hc⟩ := checkGroup_template hcheck
    exact ⟨ht, by rw [hi, hc]; exact hg start body rfl⟩
  | case11 _ _ _ _ _ ih =>
    exact ih (drop_succ_of_drop_eq_cons hcs) (by simp) h
  | case12 start body pos c rest _ _ _ _ ih =>
    refine ih (drop_succ_of_drop_eq_cons hcs) ?_ h
    intro start' body' hsb
    cases hsb
    exact hg start body rfl

/-- The reader refuses exactly the templates with a fault in their groups, with the first fault's
error, whatever the options; a refusal for a syntax error is at the stray `)`, the nested `(` or
the `(` of the faulty group. -/
theorem parse_refusal (o : Options) (t : String) :
    (∀ e, parse o t = .error e ↔ firstFault t = some e) ∧
    ((parse o t).isOk = true ↔ firstFault t = none) ∧
    (∀ te, firstFault t = some (.template te) →
      te.template = t ∧ te.index < t.length ∧ t.toList[te.index]? = some te.reason.char) := by
  refine ⟨fun e => ?_, ?_, fun te h => ?_⟩
  · rw [← errorOf_eq_some_iff, errorOf_parse]
  · rw [← errorOf_eq_none_iff, errorOf_parse]
  · obtain ⟨ht, hc⟩ := groupFault_template List.drop_zero (by simp) h
    refine ⟨ht, ?_, hc⟩
    rw [← String.length_toList]
    exact (List.getElem?_eq_some_iff.mp hc).1

/-- A count of `2 ^ 32 - 1` in a group's pattern is refused by the compiler, and the reader then
fails with the compiler's own error, which is no syntax error of the template. -/
theorem parse_count_too_large :
    (Regex.compile (escapeGroup "a{4294967295}") Regex.Flags.none).isOk = false ∧
    ∃ e : Regex.Error, e.fault.isSyntax = false ∧
      parse Options.standard "(a{4294967295})" = .error (.regex e) := by
  refine ⟨by decide +kernel, ?_⟩
  have h : (match parse Options.standard "(a{4294967295})" with
      | .error (.regex e) => !e.fault.isSyntax
      | _ => false) = true := by decide +kernel
  -- the reading is named before it is taken apart, so that no step evaluates it again
  generalize parse Options.standard "(a{4294967295})" = r at h ⊢
  cases r with
  | ok _ => cases h
  | error err =>
    cases err with
    | regex e => exact ⟨e, by simpa using h, rfl⟩
    | _ => cases h

end Template

end PathTemplate

import Mathlib
import PathTemplate.Template.Pattern
import PathTemplate.Builder

namespace PathTemplate.Template

def units : List Char → List Regex.Tok
  | '\\' :: c :: rest => .escaped c :: units rest
  | c :: rest => .plain c :: units rest
  | [] => []

def escapeUnit : Regex.Tok → List Regex.Tok
  | .plain c => [if groupSpecials.contains c then .escaped c else .plain c]
  | .escaped c => if groupSpecials.contains c then [.escaped '\\', .plain c] else [.escaped c]

theorem units_cons_plain {c : Char} (hc : c ≠ '\\') (cs : List Char) :
    units (c :: cs) = .plain c :: units cs := by
  cases cs <;> simp [units, hc]

theorem ne_backslash_of_special {c : Char} (hc : groupSpecials.contains c = true) :
    c ≠ '\\' := by
  rintro rfl
  simp [groupSpecials] at hc

theorem units_escapeGroup (cs : List Char) :
    units (escapeGroup (String.ofList cs)).toList = (units cs).flatMap escapeUnit := by
  simp only [escapeGroup, escapeAmong, String.toList_ofList]
  have hb : groupSpecials.contains '\\' = false := by decide
  induction cs using units.induct with
  | case1 c rest ih =>
    -- the backslash of the pair is kept, and the character after it escaped if special
    by_cases hc : groupSpecials.contains c
    · simp only [List.flatMap_cons, hb, hc, Bool.false_eq_true, if_false, if_true,
        List.cons_append, List.nil_append, units,
        units_cons_plain (ne_backslash_of_special hc), escapeUnit, ih]
    · simp only [List.flatMap_cons, hb, hc, Bool.false_eq_true, if_false,
        List.cons_append, List.nil_append, units, escapeUnit, ih]
  | case2 c rest hne ih =>
    by_cases hc : groupSpecials.contains c
    · have hcb := ne_backslash_of_special hc
      simp only [List.flatMap_cons, hc, if_true, List.cons_append, List.nil_append, units,
        units_cons_plain hcb, escapeUnit, ih]
    · by_cases hcb : c = '\\'
      · -- a backslash that ends the text stands for itself
        subst hcb
        cases rest with
        | nil => simp only [List.flatMap_cons, List.flatMap_nil, hb, Bool.false_eq_true, if_false,
            List.append_nil, units, escapeUnit]
        | cons d rest => exact (hne d rest rfl rfl).elim
      · simp only [List.flatMap_cons, hc, Bool.false_eq_true, if_false, List.cons_append,
          List.nil_append, units_cons_plain hcb, escapeUnit, ih]
  | case3 => simp [units]

theorem count_escapeUnit (u : Regex.Tok) :
    (escapeUnit u).count (.plain '(') = if u = .escaped '(' then 1 else 0 := by
  have hopen : groupSpecials.contains '(' = true := by decide
  cases u with
  | plain c =>
    by_cases hc : groupSpecials.contains c
    · simp only [escapeUnit, hc, if_true]
      simp
    · have hc' : c ≠ '(' := fun e => hc (e ▸ hopen)
      simp only [escapeUnit, hc, Bool.false_eq_true, if_false]
      simp [hc']
  | escaped c =>
    by_cases hc : groupSpecials.contains c
    · simp only [escapeUnit, hc, if_true]
      by_cases ho : c = '('
      · simp [ho]
      · simp [ho]
    · have hc' : c ≠ '(' := fun e => hc (e ▸ hopen)
      simp only [escapeUnit, hc, Bool.false_eq_true, if_false]
      simp [hc']

/-- The pattern `escapeGroup` makes of a group's text opens a group exactly where the text
has an escaped `(`. -/
theorem count_open_escapeGroup (cs : List Char) :
    (units (escapeGroup (String.ofList cs)).toList).count (.plain '(') =
      (units cs).count (.escaped '(') := by
  rw [units_escapeGroup]
  induction units cs with
  | nil => rfl
  | cons u us ih =>
    rw [List.flatMap_cons, List.count_append, ih, count_escapeUnit, List.count_cons]
    by_cases hu : u = .escaped '('
    · simp [hu, Nat.add_comm]
    · simp [hu]

theorem escaped_paren_adds_group :
    (parse Options.standard "(\\(a\\))" >>= fun ts =>
      (compileTokens Options.standard ts).map fun r => ((Token.params ts).length, r.groupCount)) =
      .ok (1, 2) := by
  cbv

theorem backreference_path_unmatched :
    (Builder.ofTemplate Options.standard "/(\\(a\\)\\1)" >>= fun b =>
        b.generate (some [(.int 0, .text "\\a\\a\\")]) .identity) = .ok "/\\a\\a\\" ∧
      (parse Options.standard "/(\\(a\\)\\1)" >>= compileTokens Options.standard) =
        .error (.regex ⟨.openGroupRef, "^\\/(\\\\(a\\\\)\\1)(?:\\/)?\\Z", some 11⟩) := by
  constructor <;> cbv

end PathTemplate.Template

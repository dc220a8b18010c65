import Mathlib
import PathTemplate.Routes
import PathTemplate.Proofs.Refusal

namespace PathTemplate

/-- Whether an error is one that building a path gives: a syntax error of the template, a
pattern the compiler refuses, a value that does not fit, or a match that the engine cannot
report. -/
def Error.fromBuilding : Error → Bool
  | .template _ | .regex _ | .invalid _ | .search _ | .digitLimit => true
  | .unknownRoute _ | .routeWithoutValue _ => false

open Template (errorOf errorOf_eq_some_iff)

namespace Template

theorem checkGroup_fromBuilding {t : String} {start : Nat} {body : String} {e : Error}
    (h : checkGroup t start body = .error e) : e.fromBuilding = true := by
  unfold checkGroup at h
  split at h
  · cases h
    rfl
  · split at h
    · cases h
    · split at h <;> cases h <;> rfl

theorem groupFault_fromBuilding {t : String} {g : Option (Nat × String)} {pos : Nat}
    {cs : List Char} {e : Error} (h : groupFault t g pos cs = some e) : e.fromBuilding = true := by
  fun_induction groupFault t g pos cs with
  | case1 => cases h
  -- a fault of the template's own syntax
  | case3 | case6 | case7 | case9 =>
    cases h
    rfl
  | case10 _ _ _ _ err hcheck =>
    cases h
    exact checkGroup_fromBuilding hcheck
  -- reading goes on, and the fault is met further on
  | case2 _ _ _ ih | case4 _ _ ih | case5 _ _ _ _ _ _ ih | case8 _ _ _ _ _ ih
  | case11 _ _ _ _ _ ih | case12 _ _ _ _ _ _ _ _ _ ih => exact ih h

theorem parse_fromBuilding {o : Options} {t : String} {e : Error} (h : parse o t = .error e) :
    e.fromBuilding = true := by
  have hfault : firstFault t = some e := by
    rw [← errorOf_parse o t, errorOf_eq_some_iff.mpr h]
  exact groupFault_fromBuilding hfault

end Template

namespace Builder

theorem ofTokens_fromBuilding {ts : List Token} {e : Error} (h : ofTokens ts = .error e) :
    e.fromBuilding = true := by
  have herr : errorOf (ofTokens ts) = some e := errorOf_eq_some_iff.mpr h
  rw [ofTokens, errorOf_bind_pure, errorOf_mapM_eq] at herr
  obtain ⟨p, -, hp⟩ := List.exists_of_findSome?_eq_some herr
  cases hc : Regex.compile ("(?:" ++ p.pattern ++ ")") Regex.Flags.none with
  | ok r => rw [hc] at hp; cases hp
  | error re => rw [hc] at hp; cases hp; rfl

theorem generate_fromBuilding {ts : List Token} {b : Builder} (hb : ofTokens ts = .ok b)
    {params : Option Mapping} {enc : Encoder} {e : Error} (h : b.generate params enc = .error e) :
    e.fromBuilding = true := by
  have herr : firstFailure params enc ts = some e := by
    rw [← errorOf_generate hb, errorOf_eq_some_iff.mpr h]
  obtain ⟨p, -, hp⟩ := List.exists_of_findSome?_eq_some herr
  cases hv : p.lookupVerdict params enc with
  | fits => rw [hv] at hp; cases hp
  | refused _ => rw [hv] at hp; cases hp; rfl
  | undecided _ => rw [hv] at hp; cases hp; rfl
  | unwritable => rw [hv] at hp; cases hp; rfl

end Builder

theorem generatePath_fromBuilding {template : String} {params : Option Mapping} {e : Error}
    (h : generatePath template params = .error e) : e.fromBuilding = true := by
  unfold generatePath at h
  split at h
  · cases h
  · cases hb : Builder.ofTemplate Options.standard template with
    | error err =>
      rw [hb] at h
      cases h
      -- a builder for a template is refused by reading or by the compiler
      unfold Builder.ofTemplate at hb
      cases hp : Template.parse Options.standard template with
      | error err' =>
        rw [hp] at hb
        cases hb
        exact Template.parse_fromBuilding hp
      | ok ts =>
        rw [hp] at hb
        exact Builder.ofTokens_fromBuilding hb
    | ok b =>
      rw [hb] at h
      obtain ⟨ts, -, htokens⟩ := Builder.ofTemplate_tokens hb
      have hts : Builder.ofTokens ts = .ok b := by
        unfold Builder.ofTemplate at hb
        obtain ⟨ts', hts', hb⟩ := bind_eq_ok.mp hb
        rwa [← htokens, Builder.ofTokens_tokens hb]
      exact Builder.generate_fromBuilding hts h

theorem rootPath_fromBuilding {template : String} {e : Error}
    (h : rootPath template = .error e) : e.fromBuilding = true := by
  unfold rootPath at h
  cases hp : Template.parse Options.standard template with
  | ok ts =>
    -- a template that reads gives a path, whatever its first token
    rw [hp] at h
    rcases ts with _ | ⟨_ | _, _⟩ <;> cases h
  | error err =>
    rw [hp] at h
    cases err with
    | template te => cases h
    | _ =>
      cases h
      exact Template.parse_fromBuilding hp

section Query

theorem formFields_error {k : Key} {v : Value} {e : Error} (h : formFields k v = .error e) :
    e = .digitLimit := by
  unfold formFields at h
  rcases bind_eq_error.mp h with hk | ⟨name, -, h⟩
  · exact withinDigits_error hk
  · -- each field fails only where a value or a key is turned into text
    cases v <;> dsimp only at h
    case text s => cases h
    case list items | tuple items =>
      have hsome := errorOf_eq_some_iff.mpr h
      rw [errorOf_mapM_eq] at hsome
      obtain ⟨x, -, hx⟩ := List.exists_of_findSome?_eq_some hsome
      exact withinDigits_error (map_eq_error.mp (errorOf_eq_some_iff.mp hx))
    case map entries =>
      have hsome := errorOf_eq_some_iff.mpr h
      rw [errorOf_mapM_eq] at hsome
      obtain ⟨x, -, hx⟩ := List.exists_of_findSome?_eq_some hsome
      exact withinDigits_error (map_eq_error.mp (errorOf_eq_some_iff.mp hx))
    all_goals
      rcases bind_eq_error.mp h with hv | ⟨_, -, hpure⟩
      · exact withinDigits_error hv
      · cases hpure

theorem Query.render_error {q : Query} {e : Error} (h : q.render = .error e) :
    e = .digitLimit := by
  cases q with
  | text s => cases h
  | form m =>
    rw [Query.render] at h
    rcases bind_eq_error.mp h with hm | ⟨fields, -, hpure⟩
    · -- the first field that fails
      have hfirst := errorOf_eq_some_iff.mpr hm
      rw [errorOf_mapM_eq] at hfirst
      obtain ⟨kv, -, hkv⟩ := List.exists_of_findSome?_eq_some hfirst
      exact formFields_error (errorOf_eq_some_iff.mp hkv)
    · cases hpure

theorem joinQuery_error {path : String} {q : Option Query} {e : Error}
    (h : joinQuery path q = .error e) : e = .digitLimit := by
  cases q with
  | none => cases h
  | some q =>
    rw [joinQuery] at h
    by_cases he : q.isEmpty = true
    · rw [if_pos he] at h
      cases h
    · rw [if_neg he] at h
      rcases bind_eq_error.mp h with hr | ⟨_, -, hpure⟩
      · exact Query.render_error hr
      · cases hpure

end Query

namespace RouteTable

variable {t : RouteTable} {key : Key}

theorem find_of_contains_false (h : t.contains key = false) :
    t.find key = .error (Error.naming key (.unknownRoute key)) := by
  have hnone : t.entries.find? (·.1.same key) = none :=
    List.find?_eq_none.mpr (List.any_eq_false.mp h)
  simp only [find, hnone]

theorem find_of_contains_true (h : t.contains key = true) : ∃ e, t.find key = .ok e := by
  obtain ⟨⟨k, e⟩, hfound⟩ := Option.isSome_iff_exists.mp (List.find?_isSome.mpr (List.any_eq_true.mp h))
  exact ⟨e, by simp only [find, hfound]⟩

theorem pathWith_of_ok {e : RouteEntry} (hfind : t.find key = .ok e) {p : Mapping}
    {q : Option Query} {x : String} (hx : generatePath e.value (some p) = .ok x) :
    t.pathWith key p q = joinQuery x q := by
  simp only [pathWith, hfind, hx, bind, Except.bind]

theorem pathWith_fallback {e : RouteEntry} (hfind : t.find key = .ok e) {p : Mapping}
    {q : Option Query} {err : Error} (herr : generatePath e.value (some p) = .error err)
    (hkind : (∃ ie, err = .invalid ie) ∨ ∃ te, err = .template te) :
    t.pathWith key p q = joinQuery e.value q := by
  rcases hkind with ⟨ie, rfl⟩ | ⟨te, rfl⟩ <;> simp only [pathWith, hfind, herr, bind, Except.bind]

theorem pathWith_error {e : RouteEntry} (hfind : t.find key = .ok e) {p : Mapping}
    {q : Option Query} {err : Error} (h : t.pathWith key p q = .error err) :
    (∃ re, err = .regex re) ∨ (∃ se, err = .search se) ∨ err = .digitLimit := by
  cases hgen : generatePath e.value (some p) with
  | ok x =>
    rw [pathWith_of_ok hfind hgen] at h
    exact .inr (.inr (joinQuery_error h))
  | error err' =>
    have hkind := generatePath_fromBuilding hgen
    cases err' with
    | invalid ie =>
      rw [pathWith_fallback hfind hgen (.inl ⟨ie, rfl⟩)] at h
      exact .inr (.inr (joinQuery_error h))
    | template te =>
      rw [pathWith_fallback hfind hgen (.inr ⟨te, rfl⟩)] at h
      exact .inr (.inr (joinQuery_error h))
    | regex re =>
      simp only [pathWith, hfind, hgen, bind, Except.bind] at h
      cases h
      exact .inl ⟨re, rfl⟩
    | search se =>
      simp only [pathWith, hfind, hgen, bind, Except.bind] at h
      cases h
      exact .inr (.inl ⟨se, rfl⟩)
    | digitLimit =>
      simp only [pathWith, hfind, hgen, bind, Except.bind] at h
      cases h
      exact .inr (.inr rfl)
    | unknownRoute k => cases hkind
    | routeWithoutValue k => cases hkind

end RouteTable

/-- Routes of a table. A key the table lacks is refused by every route, with an error naming the
key. For a key it holds, the path falls back to the template, with the query joined, when there
are no parameters, when they do not fit or when the template has a syntax error; any other
failure of building is passed on, and joining a query fails only at the digit limit. -/
theorem path_fallback (t : RouteTable) (key : Key) :
    (t.contains key = false →
      t.rootPath key = .error (Error.naming key (.unknownRoute key)) ∧
      ∀ params q, t.path key params q = .error (Error.naming key (.unknownRoute key)) ∧
        ∀ p, t.pathWith key p q = .error (Error.naming key (.unknownRoute key))) ∧
    (t.contains key = true → ∃ e, t.find key = .ok e ∧
      (∀ err, t.rootPath key = .error err → err.fromBuilding = true) ∧
      ∀ q, t.path key none q = joinQuery e.value q ∧
        ∀ p, t.path key (some p) q = t.pathWith key p q ∧
          (∀ x, generatePath e.value (some p) = .ok x → t.pathWith key p q = joinQuery x q) ∧
          (∀ err, generatePath e.value (some p) = .error err →
            ((∃ ie, err = .invalid ie) ∨ (∃ te, err = .template te)) →
            t.pathWith key p q = joinQuery e.value q) ∧
          (∀ err, t.pathWith key p q = .error err →
            (∃ re, err = .regex re) ∨ (∃ se, err = .search se) ∨ err = .digitLimit)) ∧
    (∀ path q err, joinQuery path q = .error err → err = .digitLimit) := by
  refine ⟨fun hout => ?_, fun hin => ?_, fun _ _ _ h => joinQuery_error h⟩
  · have hfind := RouteTable.find_of_contains_false hout
    refine ⟨by simp [RouteTable.rootPath, hfind, bind, Except.bind], fun params q => ?_⟩
    refine ⟨?_, fun p => by simp [RouteTable.pathWith, hfind, bind, Except.bind]⟩
    cases params <;> simp [RouteTable.path, RouteTable.pathWith, hfind, bind, Except.bind]
  · obtain ⟨e, hfind⟩ := RouteTable.find_of_contains_true hin
    refine ⟨e, hfind, fun err h => ?_, fun q => ⟨?_, fun p => ⟨rfl, fun x hx => ?_, ?_, ?_⟩⟩⟩
    · simp only [RouteTable.rootPath, hfind, bind, Except.bind] at h
      exact rootPath_fromBuilding h
    · simp [RouteTable.path, hfind, bind, Except.bind]
    · exact RouteTable.pathWith_of_ok hfind hx
    · exact fun err hgen hkind => RouteTable.pathWith_fallback hfind hgen hkind
    · exact fun err h => RouteTable.pathWith_error hfind h

/-- Three ways a route does not fall back to its template: a compiler refusal for no syntax error,
an int past the digit limit, and a query whose only field is an empty sequence, which is written
as no text after a `?`. -/
theorem path_fallback_exceptions :
    (∃ re : Regex.Error, re.fault.isSyntax = false ∧
      (RouteTable.mk [(.text "bad", ⟨"(a{4294967295})", .none⟩)]).path (.text "bad")
        (some [(.text "x", .text "1")]) none = .error (.regex re)) ∧
    (RouteTable.mk [(.text "u", ⟨"/:a", .none⟩)]).path (.text "u")
        (some [(.text "a", .int (Int.ofNat (Nat.pow 10 5000)))]) none = .error .digitLimit ∧
    (Query.form [(.text "a", .list [])]).render = .ok "" ∧
    joinQuery "/about" (some (.form [(.text "a", .list [])])) = .ok "/about?" := by
  refine ⟨?_, ?_, rfl, rfl⟩
  · have hrefused : (match (RouteTable.mk [(.text "bad", ⟨"(a{4294967295})", .none⟩)]).path
        (.text "bad") (some [(.text "x", .text "1")]) none with
        | .error (.regex re) => !re.fault.isSyntax
        | _ => false) = true := by
      decide +kernel
    -- the path is named before it is taken apart, so that no step evaluates it again
    generalize (RouteTable.mk [(.text "bad", ⟨"(a{4294967295})", .none⟩)]).path (.text "bad")
      (some [(.text "x", .text "1")]) none = run at hrefused ⊢
    cases run with
    | ok _ => cases hrefused
    | error err =>
      cases err with
      | regex re => exact ⟨re, by simpa using hrefused, rfl⟩
      | _ => cases hrefused
  · obtain ⟨b, hb, hgen⟩ := ofTemplate_slot_digitLimit
    have hroot : ("/:a" == "/") = false := by decide
    -- the number is named, so that simp does not compute it
    generalize Int.ofNat (Nat.pow 10 5000) = big at hgen ⊢
    simp [RouteTable.path, RouteTable.pathWith, RouteTable.find, Key.same, generatePath, hroot,
      hb, hgen, bind, Except.bind]

end PathTemplate

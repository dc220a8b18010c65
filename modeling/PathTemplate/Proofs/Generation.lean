import Mathlib
import PathTemplate.Builder

namespace PathTemplate

theorem bind_eq_ok {ε α β : Type} {x : Except ε α} {f : α → Except ε β} {b : β} :
    x >>= f = .ok b ↔ ∃ a, x = .ok a ∧ f a = .ok b := by
  cases x <;> simp [bind, Except.bind]

theorem bind_eq_error {ε α β : Type} {x : Except ε α} {f : α → Except ε β} {e : ε} :
    x >>= f = .error e ↔ x = .error e ∨ ∃ a, x = .ok a ∧ f a = .error e := by
  cases x <;> simp [bind, Except.bind]

theorem map_eq_ok {ε α β : Type} {x : Except ε α} {f : α → β} {b : β} :
    f <$> x = .ok b ↔ ∃ a, x = .ok a ∧ f a = b := by
  cases x <;> simp [Functor.map, Except.map]

theorem map_eq_error {ε α β : Type} {x : Except ε α} {f : α → β} {e : ε} :
    f <$> x = .error e ↔ x = .error e := by
  cases x <;> simp [Functor.map, Except.map]

/-- The value the lookup rule gives a name, a number looked up by its text spelled in full. -/
def lookupValue (params : Option Mapping) (name : Key) : Value :=
  match params with
  | none => .none
  | some m =>
    if m.isEmpty then .none
    else
      match (m.get? name).getD .none, name.number? with
      | .none, some _ => (m.get? (.text name.spelling)).getD .none
      | v, _ => v

section Texts

variable {w : Bool} {t s : String} {e : Error}

theorem withinDigits_ok (h : Error.withinDigits w t = .ok s) : s = t := by
  unfold Error.withinDigits at h
  split at h <;> cases h
  rfl

theorem withinDigits_error (h : Error.withinDigits w t = .error e) : e = .digitLimit := by
  unfold Error.withinDigits at h
  split at h <;> cases h
  rfl

end Texts

theorem lookupParam_ok {params : Option Mapping} {name : Key} {v : Value}
    (h : lookupParam params name = .ok v) : v = lookupValue params name := by
  unfold lookupParam at h
  unfold lookupValue
  rcases params with _ | m
  · cases h
    rfl
  · dsimp only at h ⊢
    split at h
    · cases h
      simp_all
    · rename_i hne
      simp only [hne]
      split at h
      · -- a number whose own key has nothing is looked up by its text
        obtain ⟨text, htext, rfl⟩ := map_eq_ok.mp h
        rw [withinDigits_ok htext]
        split <;> simp_all
      · cases h
        split <;> simp_all

theorem lookupParam_error {params : Option Mapping} {name : Key} {e : Error}
    (h : lookupParam params name = .error e) : e = .digitLimit := by
  unfold lookupParam at h
  rcases params with _ | m
  · cases h
  · dsimp only at h
    split at h
    · cases h
    · split at h
      · cases hr : name.render with
        | error err =>
          rw [hr] at h
          cases h
          exact withinDigits_error hr
        | ok text =>
          rw [hr] at h
          cases h
      · cases h

inductive Filling where
  | text (s : String)
  | emptySequence
  | nothing

def Value.filling (enc : Encoder) (p : Parameter) : Value → Filling
  | .list items | .tuple items =>
    if items.isEmpty then .emptySequence
    else .text (joinWith p.delimiter (items.map fun v => enc v.segmentSpelling p))
  | v@(.text _) | v@(.int _) | v@(.float _) | v@(.bool _) => .text (enc v.segmentSpelling p)
  | _ => .nothing

def Parameter.written (p : Parameter) : Filling → String
  | .text s => p.lead ++ s
  | .emptySequence => ""
  | .nothing => if p.partialSegment then p.lead else ""

/-- The text a token writes for the values of a mapping. -/
def Token.written (params : Option Mapping) (enc : Encoder) : Token → String
  | .literal text => text
  | .param p => p.written ((lookupValue params p.name).filling enc p)

@[simp] theorem Token.written_param (params : Option Mapping) (enc : Encoder) (p : Parameter) :
    Token.written params enc (.param p) = p.written ((lookupValue params p.name).filling enc p) :=
  rfl

namespace Builder

variable {b : Builder} {p : Parameter} {enc : Encoder}

theorem ofTokens_tokens {ts : List Token} (h : ofTokens ts = .ok b) : b.tokens = ts := by
  rw [ofTokens] at h
  obtain ⟨checks, -, h⟩ := bind_eq_ok.mp h
  cases h
  rfl

theorem ofTemplate_tokens {o : Options} {t : String} (h : ofTemplate o t = .ok b) :
    ∃ ts, Template.parse o t = .ok ts ∧ b.tokens = ts := by
  rw [ofTemplate] at h
  obtain ⟨ts, hts, h⟩ := bind_eq_ok.mp h
  exact ⟨ts, hts, ofTokens_tokens h⟩

theorem fillEach_ok {i : Nat} {items : List Value} {s : String} (hne : items ≠ [])
    (h : b.fillEach p enc i items = .ok s) :
    s = (if i == 0 then p.lead else p.delimiter) ++
      joinWith p.delimiter (items.map fun v => enc v.segmentSpelling p) := by
  induction items generalizing i s with
  | nil => exact (hne rfl).elim
  | cons v vs ih =>
    rw [fillEach] at h
    obtain ⟨text, htext, h⟩ := bind_eq_ok.mp h
    rw [withinDigits_ok htext] at h
    obtain ⟨ok, -, h⟩ := bind_eq_ok.mp h
    cases ok with
    | false => cases h
    | true =>
      obtain ⟨rest, hr, h⟩ := bind_eq_ok.mp h
      cases h
      cases vs with
      | nil =>
        rw [fillEach] at hr
        cases hr
        simp [joinWith]
      | cons w ws =>
        -- the elements after the first are written after the delimiter
        rw [ih (List.cons_ne_nil w ws) hr]
        simp [joinWith, String.append_assoc]

theorem fill_segment_ok (v : Value) {s : String}
    (h : (do
      let segment := enc (← v.segmentText) p
      if ← b.passes p.pattern segment then .ok (p.lead ++ segment)
      else .error (Invalid.raise (.mismatch p.name p.pattern segment))) = .ok s) :
    s = p.lead ++ enc v.segmentSpelling p := by
  obtain ⟨text, htext, h⟩ := bind_eq_ok.mp h
  rw [withinDigits_ok htext] at h
  obtain ⟨ok, -, h⟩ := bind_eq_ok.mp h
  cases ok with
  | false => cases h
  | true =>
    cases h
    rfl

theorem fill_ok {v : Value} {s : String} (h : b.fill p enc v = .ok s) :
    s = p.written (v.filling enc p) := by
  cases v with
  | list items | tuple items =>
    simp only [fill] at h
    by_cases hr : p.repeating
    · by_cases he : items = []
      · subst he
        by_cases ho : p.optional
        · simp_all [Value.filling, Parameter.written]
        · simp_all
      · simp only [hr, Bool.not_true, List.isEmpty_eq_false_iff.mpr he, Bool.false_eq_true,
          if_false] at h
        rw [fillEach_ok he h]
        simp [Value.filling, Parameter.written, he]
    · simp_all
  | text t => exact fill_segment_ok (.text t) (by simpa only [fill] using h)
  | int n => exact fill_segment_ok (.int n) (by simpa only [fill] using h)
  | float x => exact fill_segment_ok (.float x) (by simpa only [fill] using h)
  | bool c => exact fill_segment_ok (.bool c) (by simpa only [fill] using h)
  | none | map entries =>
    simp only [fill] at h
    by_cases ho : p.optional
    · simp_all [Value.filling, Parameter.written]
    · simp_all

theorem parts_ok (params : Option Mapping) {f : Token → Except Error String}
    (hf : ∀ t s, f t = .ok s → s = t.written params enc) {ts : List Token} {parts : List String}
    (h : ts.mapM f = .ok parts) : parts = ts.map (Token.written params enc) := by
  induction ts generalizing parts with
  | nil =>
    cases h
    rfl
  | cons t ts ih =>
    rw [List.mapM_cons] at h
    obtain ⟨s, hs, h⟩ := bind_eq_ok.mp h
    obtain ⟨rest, hrest, h⟩ := bind_eq_ok.mp h
    cases h
    rw [hf t s hs, ih hrest, List.map_cons]

/-- A built path is its tokens written one after another. -/
theorem generate_ok {params : Option Mapping} {P : String} (h : b.generate params enc = .ok P) :
    P = String.join (b.tokens.map (Token.written params enc)) := by
  rw [generate] at h
  obtain ⟨parts, hp, h⟩ := bind_eq_ok.mp h
  cases h
  refine congrArg String.join (parts_ok params ?_ hp)
  intro t s ht
  cases t with
  | literal text => exact (Except.ok.inj ht).symm
  | param p =>
    -- the value was found, so it is the one the lookup rule gives
    obtain ⟨v, hv, hfill⟩ := bind_eq_ok.mp ht
    rw [fill_ok hfill, lookupParam_ok hv]
    rfl

end Builder

end PathTemplate

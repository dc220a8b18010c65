import Mathlib
import PathTemplate.Proofs.Generation
import PathTemplate.Proofs.SyntaxFault

namespace PathTemplate

open Template (errorOf errorOf_eq_some_iff errorOf_eq_none_iff)

def fullyMatches (pattern segment : String) : Except Regex.SearchError Bool :=
  match Regex.compile ("(?:" ++ pattern ++ ")") Regex.Flags.none with
  | .ok r => (r.fullMatch segment).map Option.isSome
  | .error _ => .ok false

/-- How a value fares with a parameter: it fits, it is refused, a check of its text gives no
answer, or a text that filling needs has an int past the digit limit. -/
inductive Verdict where
  | fits
  | refused (e : Invalid)
  | undecided (e : Regex.SearchError)
  | unwritable

def Verdict.failure? : Verdict → Option Error
  | .fits => none
  | .refused e => some (.invalid e)
  | .undecided e => some (.search e)
  | .unwritable => some .digitLimit

def Verdict.decided : Verdict → Bool
  | .fits | .refused _ => true
  | .undecided _ | .unwritable => false

def Verdict.refuse (e : Invalid) : Verdict :=
  if e.param.writable then .refused e else .unwritable

def Verdict.ofCheck (e : Invalid) : Except Regex.SearchError Bool → Verdict
  | .ok true => .fits
  | .ok false => Verdict.refuse e
  | .error err => .undecided err

namespace Parameter

def elementsVerdict (enc : Encoder) (p : Parameter) : List Value → Verdict
  | [] => .fits
  | v :: vs =>
    if v.writable then
      match Verdict.ofCheck (.elementMismatch p.name p.pattern (enc v.segmentSpelling p))
          (fullyMatches p.pattern (enc v.segmentSpelling p)) with
      | .fits => elementsVerdict enc p vs
      | verdict => verdict
    else .unwritable

/-- The verdict on a value: a sequence is refused unless the parameter repeats, an empty one
unless it is optional, and a nonempty one by its first element that does not fit; text,
numbers and truth values by their text; anything else, nothing usable, is refused unless the
parameter is optional. -/
def verdict (enc : Encoder) (p : Parameter) : Value → Verdict
  | .list items | .tuple items =>
    if !p.repeating then Verdict.refuse (.repeated p.name)
    else if items.isEmpty then (if p.optional then .fits else Verdict.refuse (.empty p.name))
    else p.elementsVerdict enc items
  | v@(.text _) | v@(.int _) | v@(.float _) | v@(.bool _) =>
    if v.writable then
      Verdict.ofCheck (.mismatch p.name p.pattern (enc v.segmentSpelling p))
        (fullyMatches p.pattern (enc v.segmentSpelling p))
    else .unwritable
  | _ => if p.optional then .fits else Verdict.refuse (.missing p.name p.repeating)

def lookupVerdict (params : Option Mapping) (enc : Encoder) (p : Parameter) : Verdict :=
  match lookupParam params p.name with
  | .ok v => p.verdict enc v
  | .error _ => .unwritable

end Parameter

/-- The failure of building a path from tokens: that of the first parameter, in token order,
whose value does not fit it. -/
def firstFailure (params : Option Mapping) (enc : Encoder) (tokens : List Token) : Option Error :=
  (Token.params tokens).findSome? fun p => (p.lookupVerdict params enc).failure?

theorem Verdict.failure?_refuse (e : Invalid) : (Verdict.refuse e).failure? = some e.raise := by
  unfold Verdict.refuse Invalid.raise Error.naming
  split <;> rfl

section Traversal

variable {α β ε : Type}

theorem mapM_ok_forall₂ {f : α → Except ε β} {xs : List α} {ys : List β}
    (h : xs.mapM f = .ok ys) : List.Forall₂ (fun x y => f x = .ok y) xs ys := by
  induction xs generalizing ys with
  | nil =>
    cases h
    exact .nil
  | cons x xs ih =>
    rw [List.mapM_cons] at h
    obtain ⟨y, hy, h⟩ := bind_eq_ok.mp h
    obtain ⟨ys', hys, h⟩ := bind_eq_ok.mp h
    cases h
    exact .cons hy (ih hys)

theorem errorOf_mapM {f : α → Except Error β} {g : α → Option Error} {xs : List α}
    (hfg : ∀ x ∈ xs, errorOf (f x) = g x) : errorOf (xs.mapM f) = xs.findSome? g := by
  induction xs with
  | nil => rfl
  | cons x xs ih =>
    rw [List.mapM_cons, List.findSome?_cons, ← hfg x (List.mem_cons_self ..),
      ← ih fun y hy => hfg y (List.mem_cons_of_mem x hy)]
    cases f x with
    | error e => rfl
    | ok y => cases xs.mapM f <;> rfl

theorem errorOf_mapM_eq (f : α → Except Error β) (xs : List α) :
    errorOf (xs.mapM f) = xs.findSome? fun x => errorOf (f x) :=
  errorOf_mapM fun _ _ => rfl

theorem errorOf_bind_pure {x : Except Error α} {g : α → β} :
    errorOf (x >>= fun a => pure (g a)) = errorOf x := by
  cases x <;> rfl

end Traversal

theorem findSome?_params (g : Parameter → Option Error) (ts : List Token) :
    ts.findSome? (fun t => match t with
      | .literal _ => none
      | .param p => g p) = (Token.params ts).findSome? g := by
  induction ts with
  | nil => rfl
  | cons t ts ih =>
    cases t with
    | literal s => exact ih
    | param p =>
      show List.findSome? _ (.param p :: ts) = List.findSome? g (p :: Token.params ts)
      rw [List.findSome?_cons, List.findSome?_cons, ih]

namespace Builder

variable {ts : List Token} {b : Builder} {p : Parameter} {enc : Encoder}

theorem ofTokens_checks (h : ofTokens ts = .ok b) :
    List.Forall₂ (fun (p : Parameter) (c : String × Regex) => c.1 = p.pattern ∧
      Regex.compile ("(?:" ++ p.pattern ++ ")") Regex.Flags.none = .ok c.2)
      (Token.params ts) b.checks := by
  rw [ofTokens] at h
  obtain ⟨checks, hc, h⟩ := bind_eq_ok.mp h
  cases h
  refine (mapM_ok_forall₂ hc).imp fun q c hqc => ?_
  -- each check is the pattern with its compiled group
  cases hr : Regex.compile ("(?:" ++ q.pattern ++ ")") Regex.Flags.none with
  | ok r =>
    rw [hr] at hqc
    cases hqc
    exact ⟨rfl, rfl⟩
  | error e =>
    rw [hr] at hqc
    cases hqc

theorem lookup_checks {ps : List Parameter} {cs : List (String × Regex)}
    (h : List.Forall₂ (fun (p : Parameter) (c : String × Regex) => c.1 = p.pattern ∧
      Regex.compile ("(?:" ++ p.pattern ++ ")") Regex.Flags.none = .ok c.2) ps cs)
    (hp : p ∈ ps) :
    ∃ r, cs.lookup p.pattern = some r ∧
      Regex.compile ("(?:" ++ p.pattern ++ ")") Regex.Flags.none = .ok r := by
  induction h with
  | nil => cases hp
  | @cons q c qs cs hqc _ ih =>
    obtain ⟨hkey, hcompile⟩ := hqc
    obtain ⟨key, r⟩ := c
    dsimp only at hkey hcompile
    subst hkey
    by_cases hsame : p.pattern = q.pattern
    · refine ⟨r, ?_, hsame ▸ hcompile⟩
      rw [List.lookup_cons, hsame, beq_self_eq_true]
    · have hq : p ≠ q := fun e => hsame (e ▸ rfl)
      obtain ⟨r', hl, hr'⟩ := ih (List.mem_of_ne_of_mem hq hp)
      have hne : (p.pattern == q.pattern) = false := beq_false_of_ne hsame
      refine ⟨r', ?_, hr'⟩
      rw [List.lookup_cons, hne, hl]

theorem passes_eq (h : ofTokens ts = .ok b) (hp : p ∈ Token.params ts) (segment : String) :
    b.passes p.pattern segment = (fullyMatches p.pattern segment).mapError .search := by
  obtain ⟨r, hl, hr⟩ := lookup_checks (ofTokens_checks h) hp
  unfold passes fullyMatches
  rw [hl, hr]
  dsimp only
  cases r.fullMatch segment <;> rfl

theorem errorOf_segmentText {α : Type} (v : Value) (next : String → Except Error α) :
    errorOf (v.segmentText >>= next) =
      if v.writable then errorOf (next v.segmentSpelling) else some .digitLimit := by
  unfold Value.segmentText Error.withinDigits
  split <;> rfl

section Fill

variable (hpass : ∀ s, b.passes p.pattern s = (fullyMatches p.pattern s).mapError .search)
include hpass

theorem errorOf_check {segment : String} {e : Invalid} {next : Except Error String} :
    errorOf (do if ← b.passes p.pattern segment then next else .error e.raise) =
      match Verdict.ofCheck e (fullyMatches p.pattern segment) with
      | .fits => errorOf next
      | verdict => verdict.failure? := by
  rw [hpass]
  cases fullyMatches p.pattern segment with
  | error err => rfl
  | ok ok =>
    cases ok
    · -- a refusal fails with its own error, or at the digit limit
      unfold Verdict.ofCheck Verdict.refuse Invalid.raise Error.naming
      split <;> rfl
    · rfl

theorem errorOf_fillEach (i : Nat) (items : List Value) :
    errorOf (b.fillEach p enc i items) = (p.elementsVerdict enc items).failure? := by
  induction items generalizing i with
  | nil => rfl
  | cons v vs ih =>
    rw [fillEach, errorOf_segmentText]
    unfold Parameter.elementsVerdict
    split
    · rw [errorOf_check hpass]
      -- a fitting element passes the failure of the elements after it on
      cases Verdict.ofCheck (.elementMismatch p.name p.pattern (enc v.segmentSpelling p))
          (fullyMatches p.pattern (enc v.segmentSpelling p)) with
      | fits =>
        dsimp only
        rw [errorOf_bind_pure, ih]
      | refused e => rfl
      | undecided e => rfl
      | unwritable => rfl
    · rfl

theorem errorOf_fill (v : Value) : errorOf (b.fill p enc v) = (p.verdict enc v).failure? := by
  cases v with
  | list items | tuple items =>
    simp only [fill, Parameter.verdict]
    by_cases hr : p.repeating
    · by_cases he : items.isEmpty
      · by_cases ho : p.optional
        · simp [hr, he, ho, errorOf, Verdict.failure?]
        · simp [hr, he, ho, errorOf, Verdict.failure?_refuse]
      · simp only [hr, he, Bool.not_true, Bool.false_eq_true, if_false]
        exact errorOf_fillEach hpass 0 items
    · simp [hr, errorOf, Verdict.failure?_refuse]
  | text s | int n | float x | bool c =>
    simp only [fill, Parameter.verdict]
    rw [errorOf_segmentText]
    split
    · rw [errorOf_check hpass]
      cases Verdict.ofCheck _ _ <;> rfl
    · rfl
  | none | map entries =>
    simp only [fill, Parameter.verdict]
    by_cases ho : p.optional
    · simp [ho, errorOf, Verdict.failure?]
    · simp [ho, errorOf, Verdict.failure?_refuse]

end Fill

theorem errorOf_generate (h : ofTokens ts = .ok b) (params : Option Mapping) (enc : Encoder) :
    errorOf (b.generate params enc) = firstFailure params enc ts := by
  unfold generate firstFailure
  rw [errorOf_bind_pure, ← findSome?_params, ofTokens_tokens h]
  refine errorOf_mapM fun t ht => ?_
  cases t with
  | literal s => rfl
  | param q =>
    -- the parameter is among the tokens, so the builder holds a check of its pattern
    have hq : q ∈ Token.params ts := List.mem_filterMap.mpr ⟨.param q, ht, rfl⟩
    show errorOf (lookupParam params q.name >>= b.fill q enc) = (q.lookupVerdict params enc).failure?
    unfold Parameter.lookupVerdict
    cases hl : lookupParam params q.name with
    | ok v => exact errorOf_fill (passes_eq h hq) v
    | error e =>
      rw [lookupParam_error hl]
      rfl

theorem generate_digitLimit (h : ofTokens ts = .ok b) (params : Option Mapping) (enc : Encoder)
    {p : Parameter} {rest : List Parameter} {n : Int} (hfirst : Token.params ts = p :: rest)
    (hv : lookupParam params p.name = .ok (.int n)) (hn : (Key.int n).writable = false) :
    b.generate params enc = .error .digitLimit := by
  have hverdict : p.lookupVerdict params enc = .unwritable := by
    simp only [Parameter.lookupVerdict, hv, Parameter.verdict, Value.writable, hn]
    rfl
  rw [← errorOf_eq_some_iff, errorOf_generate h, firstFailure, hfirst, List.findSome?_cons,
    hverdict]
  rfl

end Builder

theorem firstFailure_invalid_iff {params : Option Mapping} {enc : Encoder} {ts : List Token}
    (hdecided : ∀ p ∈ Token.params ts, (p.lookupVerdict params enc).decided = true) :
    (∃ e, firstFailure params enc ts = some (.invalid e)) ↔
      ∃ p ∈ Token.params ts, ∃ e, p.lookupVerdict params enc = .refused e := by
  constructor
  · rintro ⟨e, he⟩
    obtain ⟨p, hp, hf⟩ := List.exists_of_findSome?_eq_some he
    refine ⟨p, hp, e, ?_⟩
    cases hv : p.lookupVerdict params enc <;> rw [hv] at hf <;> cases hf
    rfl
  · rintro ⟨p, hp, e, hv⟩
    -- some parameter fails, so the first failure is that of a parameter that refuses
    cases hfirst : firstFailure params enc ts with
    | none =>
      have hnone := List.findSome?_eq_none_iff.mp hfirst p hp
      rw [hv] at hnone
      cases hnone
    | some err =>
      obtain ⟨q, hq, hf⟩ := List.exists_of_findSome?_eq_some hfirst
      have hd := hdecided q hq
      cases hw : q.lookupVerdict params enc with
      | fits => rw [hw] at hf; cases hf
      | refused e' =>
        rw [hw] at hf
        cases hf
        exact ⟨e', rfl⟩
      | undecided e' => rw [hw] at hd; cases hd
      | unwritable => rw [hw] at hd; cases hd

/-- Building a path fails exactly with the failure of the first parameter, in token order, whose
value does not fit it: a refusal naming it, the engine's error, or the digit limit. When every
verdict is reached without the last two, it fails with a refusal exactly when some parameter
refuses its value. -/
theorem generate_failure {ts : List Token} (hts : (Builder.ofTokens ts).isOk = true)
    (params : Option Mapping) (enc : Encoder) :
    (∀ e, (Builder.ofTokens ts >>= fun b => b.generate params enc) = .error e ↔
      firstFailure params enc ts = some e) ∧
    ((∀ p ∈ Token.params ts, (p.lookupVerdict params enc).decided = true) →
      ((∃ e, (Builder.ofTokens ts >>= fun b => b.generate params enc) = .error (.invalid e)) ↔
        ∃ p ∈ Token.params ts, ∃ e, p.lookupVerdict params enc = .refused e)) := by
  cases hb : Builder.ofTokens ts with
  | error err => rw [hb] at hts; cases hts
  | ok b =>
    have hfail : ∀ e, b.generate params enc = .error e ↔ firstFailure params enc ts = some e :=
      fun e => by rw [← errorOf_eq_some_iff, Builder.errorOf_generate hb]
    refine ⟨hfail, fun hdecided => ?_⟩
    simp only [bind, Except.bind, hfail]
    exact firstFailure_invalid_iff hdecided

theorem generate_failure_users :
    (Builder.ofTokens
      [.literal "/users", .param ⟨.text "id", "/", "/", false, false, false, "[^\\/]+?"⟩]).isOk = true ∧
    ((∀ e, (Builder.ofTokens
        [.literal "/users", .param ⟨.text "id", "/", "/", false, false, false, "[^\\/]+?"⟩] >>=
          fun b => b.generate (some []) Encoder.segment) = .error e ↔
      firstFailure (some []) Encoder.segment
        [.literal "/users", .param ⟨.text "id", "/", "/", false, false, false, "[^\\/]+?"⟩] = some e) ∧
    ((∀ p ∈ Token.params
        [.literal "/users", .param ⟨.text "id", "/", "/", false, false, false, "[^\\/]+?"⟩],
        (p.lookupVerdict (some []) Encoder.segment).decided = true) →
      ((∃ e, (Builder.ofTokens
          [.literal "/users", .param ⟨.text "id", "/", "/", false, false, false, "[^\\/]+?"⟩] >>=
            fun b => b.generate (some []) Encoder.segment) = .error (.invalid e)) ↔
        ∃ p ∈ Token.params
          [.literal "/users", .param ⟨.text "id", "/", "/", false, false, false, "[^\\/]+?"⟩],
          ∃ e, p.lookupVerdict (some []) Encoder.segment = .refused e))) :=
  have h : (Builder.ofTokens
      [.literal "/users", .param ⟨.text "id", "/", "/", false, false, false, "[^\\/]+?"⟩]).isOk =
      true := by
    decide +kernel
  ⟨h, generate_failure h (some []) Encoder.segment⟩

/-- The template `/:a` makes a builder, which builds nothing from an int of more than
`maxDigits` digits. -/
theorem ofTemplate_slot_digitLimit : ∃ b, Builder.ofTemplate Options.standard "/:a" = .ok b ∧
    b.generate (some [(.text "a", .int (Int.ofNat (Nat.pow 10 5000)))]) Encoder.segment =
      .error .digitLimit := by
  have hparse : Template.parse Options.standard "/:a" =
      .ok [.param ⟨.text "a", "/", "/", false, false, false, "[^\\/]+?"⟩] := by
    cbv
  have hok : (Builder.ofTokens
      [.param ⟨.text "a", "/", "/", false, false, false, "[^\\/]+?"⟩]).isOk = true := by
    decide +kernel
  cases hb : Builder.ofTokens [.param ⟨.text "a", "/", "/", false, false, false, "[^\\/]+?"⟩] with
  | error e =>
    rw [hb] at hok
    cases hok
  | ok b =>
    -- the value is found and has too many digits, so the only parameter fails at the limit
    refine ⟨b, by simp only [Builder.ofTemplate, hparse, hb, bind, Except.bind], ?_⟩
    exact Builder.generate_digitLimit hb _ Encoder.segment rfl rfl (by decide +kernel)

/-- Building fails in two ways besides refusals: a check with no answer (a group that ends before
it starts) stops building before a later parameter with no value, and an int of more than
`maxDigits` digits cannot be written as a segment. -/
theorem generate_fails_beyond_refusal :
    (lookupParam (some [(.text "x", .bool true)]) (.text "y") = .ok .none ∧
      (Builder.ofTokens [.param ⟨.text "x", "", "/", false, false, false, "t((?:(?<=b))*+)[a-z]*"⟩,
          .param ⟨.text "y", "", "/", false, false, false, "[^\\/]+?"⟩] >>= fun b =>
        b.generate (some [(.text "x", .bool true)]) Encoder.segment) = .error (.search .groupSpan)) ∧
    (Key.int (Int.ofNat (Nat.pow 10 5000))).writable = false ∧
    (Builder.ofTemplate Options.standard "/:a" >>= fun b =>
        b.generate (some [(.text "a", .int (Int.ofNat (Nat.pow 10 5000)))]) Encoder.segment) =
      .error .digitLimit := by
  refine ⟨⟨rfl, ?_⟩, by decide +kernel, ?_⟩
  · have hsearch : (match Builder.ofTokens
        [.param ⟨.text "x", "", "/", false, false, false, "t((?:(?<=b))*+)[a-z]*"⟩,
          .param ⟨.text "y", "", "/", false, false, false, "[^\\/]+?"⟩] >>= fun b =>
        b.generate (some [(.text "x", .bool true)]) Encoder.segment with
        | .error (.search .groupSpan) => true
        | _ => false) = true := by
      decide +kernel
    -- the run is named before it is taken apart, so that no step evaluates it again
    generalize Builder.ofTokens
        [.param ⟨.text "x", "", "/", false, false, false, "t((?:(?<=b))*+)[a-z]*"⟩,
          .param ⟨.text "y", "", "/", false, false, false, "[^\\/]+?"⟩] >>= (fun b =>
        b.generate (some [(.text "x", .bool true)]) Encoder.segment) = run at hsearch ⊢
    cases run with
    | ok _ => cases hsearch
    | error err =>
      cases err with
      | search e =>
        cases e with
        | groupSpan => rfl
        | exhausted => cases hsearch
      | _ => cases hsearch
  · obtain ⟨b, hb, hgen⟩ := ofTemplate_slot_digitLimit
    rw [hb]
    exact hgen

end PathTemplate

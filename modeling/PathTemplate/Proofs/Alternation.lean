import Mathlib
import PathTemplate.Template.Pattern
import PathTemplate.Regex.Match
import PathTemplate.Proofs.Generation

namespace PathTemplate

@[simp] theorem Except.mapError_eq_ok {ε ε' α : Type} {x : Except ε α} {f : ε → ε'} {a : α} :
    x.mapError f = .ok a ↔ x = .ok a := by
  cases x <;> simp [Except.mapError]

namespace Regex

theorem compile_source {s : String} {f : Flags} {r : Regex} (h : compile s f = .ok r) :
    r.source = s := by
  unfold compile at h
  simp only [bind, Except.bind, pure, Except.pure] at h
  -- each check either throws or passes on; only the last step builds the pattern
  repeat' split at h
  all_goals cases h <;> rfl

def matchesAtOnce (r : Regex) : Bool :=
  r.minWidth == 0 && r.groupCount == 0 && match r.code with
    | [i] => i.isSucceed
    | _ => false

theorem search_of_matchesAtOnce {r : Regex} (h : r.matchesAtOnce = true) (text : String) :
    r.search text = .ok (some ⟨0, 0, []⟩) := by
  simp only [matchesAtOnce, Bool.and_eq_true, beq_iff_eq] at h
  obtain ⟨⟨hwidth, hgroups⟩, hcode⟩ := h
  have hsucceed : r.code = [.succeed] := by
    generalize r.code = c at hcode
    rcases c with _ | ⟨i, _ | _⟩ <;> try cases hcode
    cases i <;> first | rfl | cases hcode
  -- the first position tried is the start, and the run there succeeds in one step
  have hrun : r.attempt r.code text.toList.toArray false 0 =
      .ok (some ((Registers.start r.groupCount 0).moveTo 0)) := by
    simp [attempt, hsucceed, budget, Machine.run]
  simp [search, hwidth, candidates, List.range_succ_eq_map, firstMatch, hrun, matchOf, hgroups,
    Registers.moveTo, Registers.start, bind, Except.bind, Functor.map,
    Except.map]

theorem compile_empty_group (f : Flags) (hf : f = Flags.none ∨ f = Flags.caseless) :
    ∃ r, compile "(?:)" f = .ok r ∧ r.matchesAtOnce = true := by
  have hat : (compile "(?:)" f).toOption.map matchesAtOnce = some true := by
    rcases hf with rfl | rfl <;> decide +kernel
  generalize compile "(?:)" f = res at hat
  cases res with
  | ok r => exact ⟨r, rfl, Option.some.inj hat⟩
  | error e => cases hat

end Regex

namespace Template

theorem regexFlags_cases (o : Options) :
    regexFlags o = Regex.Flags.none ∨ regexFlags o = Regex.Flags.caseless := by
  unfold regexFlags
  split
  · exact .inl rfl
  · exact .inr rfl

mutual

def RoutePattern.leaves : RoutePattern → List RoutePattern
  | .template s => [.template s]
  | .regex r => [.regex r]
  | .anyOf items => RoutePattern.leavesOf items

def RoutePattern.leavesOf : List RoutePattern → List RoutePattern
  | [] => []
  | p :: ps => p.leaves ++ RoutePattern.leavesOf ps

end

mutual

def RoutePattern.joined (text : RoutePattern → String) : RoutePattern → String
  | .template s => text (.template s)
  | .regex r => text (.regex r)
  | .anyOf items => "(?:" ++ joinWith "|" (RoutePattern.joinedOf text items) ++ ")"

def RoutePattern.joinedOf (text : RoutePattern → String) : List RoutePattern → List String
  | [] => []
  | p :: ps => p.joined text :: RoutePattern.joinedOf text ps

end

def RoutePattern.alone (o : Options) (p : RoutePattern) : Regex × List Parameter :=
  match p.compile o with
  | .ok c => c
  | .error _ => default

theorem RoutePattern.alone_of_compile {o : Options} {p : RoutePattern}
    {c : Regex × List Parameter} (h : p.compile o = .ok c) : p.alone o = c := by
  simp [alone, h]

/-- A compiled route pattern `(r, keys)` made from its leaves, where `own` gives what each leaf
compiles to on its own: the parameters are the leaves' one after the other, the text is the
alternation of the leaves' texts, and an alternation is read from its text under the flags of
the options. -/
structure FromLeaves (o : Options) (p : RoutePattern) (r : Regex) (keys : List Parameter)
    (own : RoutePattern → Regex × List Parameter) : Prop where
  leaves_compile : ∀ l ∈ p.leaves, l.compile o = .ok (own l)
  keys_eq : keys = p.leaves.flatMap fun l => (own l).2
  source_eq : r.source = p.joined fun l => (own l).1.source
  reread : ∀ items, p = .anyOf items → Regex.compile r.source (regexFlags o) = .ok r

variable {o : Options}

theorem FromLeaves.leaf {p : RoutePattern} {r : Regex} {keys : List Parameter}
    (hleaves : p.leaves = [p]) (hjoined : ∀ text, p.joined text = text p)
    (hleaf : ∀ items, p ≠ .anyOf items) (h : p.compile o = .ok (r, keys)) :
    FromLeaves o p r keys (·.alone o) where
  leaves_compile l hl := by
    rw [hleaves, List.mem_singleton] at hl
    subst hl
    rw [RoutePattern.alone_of_compile h, h]
  keys_eq := by simp [hleaves, RoutePattern.alone_of_compile h]
  source_eq := by simp [hjoined, RoutePattern.alone_of_compile h]
  reread items hp := absurd hp (hleaf items)

mutual

theorem compile_fromLeaves : ∀ {p : RoutePattern} {r : Regex} {keys : List Parameter},
    p.compile o = .ok (r, keys) → FromLeaves o p r keys (·.alone o)
  | .template _, _, _, h => .leaf rfl (fun _ => rfl) (fun _ hp => by cases hp) h
  | .regex _, _, _, h => .leaf rfl (fun _ => rfl) (fun _ hp => by cases hp) h
  | .anyOf items, r, keys, h => by
    obtain ⟨parts, hparts, h⟩ := bind_eq_ok.mp h
    obtain ⟨r', hr', h⟩ := bind_eq_ok.mp h
    cases h
    have hr : Regex.compile ("(?:" ++ joinWith "|" (parts.map (·.1.source)) ++ ")")
        (regexFlags o) = .ok r := Except.mapError_eq_ok.mp hr'
    obtain ⟨hcompile, hkeys, hsources⟩ := compileAll_fromLeaves hparts
    refine ⟨hcompile, hkeys, ?_, fun _ _ => ?_⟩
    · rw [Regex.compile_source hr, hsources]
      rfl
    · rw [Regex.compile_source hr]
      exact hr

theorem compileAll_fromLeaves : ∀ {ps : List RoutePattern} {parts : List (Regex × List Parameter)},
    RoutePattern.compileAll o ps = .ok parts →
      (∀ l ∈ RoutePattern.leavesOf ps, l.compile o = .ok (l.alone o)) ∧
      parts.flatMap (·.2) = (RoutePattern.leavesOf ps).flatMap (fun l => (l.alone o).2) ∧
      parts.map (·.1.source) = RoutePattern.joinedOf (fun l => (l.alone o).1.source) ps
  | [], _, h => by
    cases h
    simp [RoutePattern.leavesOf, RoutePattern.joinedOf]
  | p :: ps, _, h => by
    obtain ⟨⟨r, keys⟩, hfirst, h⟩ := bind_eq_ok.mp h
    obtain ⟨rest, hrest, h⟩ := bind_eq_ok.mp h
    cases h
    have hp := compile_fromLeaves hfirst
    obtain ⟨hcompile, hkeys, hsources⟩ := compileAll_fromLeaves hrest
    refine ⟨?_, ?_, ?_⟩
    · intro l hl
      rcases List.mem_append.mp hl with hl | hl
      · exact hp.leaves_compile l hl
      · exact hcompile l hl
    · simp [RoutePattern.leavesOf, hp.keys_eq, hkeys]
    · simp [RoutePattern.joinedOf, hp.source_eq, hsources]

end

theorem compile_empty_alternation (o : Options) :
    ∃ r, (RoutePattern.anyOf []).compile o = .ok (r, []) ∧ r.matchesAtOnce = true := by
  obtain ⟨r, hr, hat⟩ := Regex.compile_empty_group (regexFlags o) (regexFlags_cases o)
  refine ⟨r, ?_, hat⟩
  have hsource : "(?:" ++ joinWith "|" [] ++ ")" = "(?:)" := by decide
  simp [RoutePattern.compile, RoutePattern.compileAll, hsource, hr, bind, Except.bind,
    Except.mapError, pure, Except.pure]

/-- A route pattern is compiled from its leaves: each compiles on its own, the parameters are
theirs one after the other, depth first and from the left, and the pattern is the alternation
of their texts, read again under the flags of the options. An alternation of nothing matches
the empty text at the start of every subject. -/
theorem compile_from_leaves (o : Options) :
    (∀ p r keys, p.compile o = .ok (r, keys) → ∃ own, FromLeaves o p r keys own) ∧
    ∃ r, (RoutePattern.anyOf []).compile o = .ok (r, []) ∧
      ∀ text, r.search text = .ok (some ⟨0, 0, []⟩) := by
  refine ⟨fun p r keys h => ⟨_, compile_fromLeaves h⟩, ?_⟩
  obtain ⟨r, hr, hat⟩ := compile_empty_alternation o
  exact ⟨r, hr, Regex.search_of_matchesAtOnce hat⟩

/-- The pattern `\(` has no group, yet gets a positional parameter. -/
theorem escaped_paren_positional_key :
    ∃ r, Regex.compile "\\(" Regex.Flags.none = .ok r ∧ r.groupCount = 0 ∧
      (RoutePattern.regex r).compile Options.standard = .ok (r, positionalKeys 1) := by
  have hrun : (Regex.compile "\\(" Regex.Flags.none).toOption.map
      (fun r => (r.groupCount, groupOpenings r.source.toList)) = some (0, 1) := by
    decide +kernel
  generalize Regex.compile "\\(" Regex.Flags.none = res at hrun
  cases res with
  | error e => cases hrun
  | ok r =>
    simp only [Except.toOption, Option.map_some, Option.some.injEq, Prod.mk.injEq] at hrun
    refine ⟨r, rfl, hrun.1, ?_⟩
    simp [RoutePattern.compile, hrun.2, pure, Except.pure]

end Template

end PathTemplate

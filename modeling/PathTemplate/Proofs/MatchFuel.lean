import Mathlib
import PathTemplate.Regex.Match
import PathTemplate.Proofs.Generation

namespace PathTemplate.Regex

/-- Whatever `a` answers, `b` answers too. -/
def Extends {α : Type} (a b : Option α) : Prop :=
  ∀ ⦃v⦄, a = some v → b = some v

namespace Extends

variable {α β : Type}

theorem refl (a : Option α) : Extends a a := fun _ h => h

theorem trans {a b c : Option α} (hab : Extends a b) (hbc : Extends b c) : Extends a c :=
  fun _ h => hbc (hab h)

theorem bind {x y : Option α} {f g : α → Option β} (hx : Extends x y)
    (hf : ∀ a, Extends (f a) (g a)) : Extends (x >>= f) (y >>= g) := by
  intro v h
  obtain ⟨a, ha, hfa⟩ := Option.bind_eq_some_iff.mp h
  rw [hx ha]
  exact hf a hfa

theorem ite (c : Prop) [Decidable c] {a a' b b' : Option α} (ha : Extends a a')
    (hb : Extends b b') : Extends (if c then a else b) (if c then a' else b') := by
  split
  · exact ha
  · exact hb

end Extends

namespace Machine

/-- With `n` steps of fuel, each part of the machine answers what it answers with one more. -/
structure Keeps (m : Machine) (n : Nat) : Prop where
  run : ∀ code loops top p r,
    Extends (m.run n code loops top p r) (m.run (n + 1) code loops top p r)
  tryEach : ∀ alts rest loops top p saved r,
    Extends (m.tryEach n alts rest loops top p saved r) (m.tryEach (n + 1) alts rest loops top p saved r)
  backOff : ∀ lo rest loops top q c saved r,
    Extends (m.backOff n lo rest loops top q c saved r) (m.backOff (n + 1) lo rest loops top q c saved r)
  backOffTo : ∀ ch lo rest loops top q c saved r,
    Extends (m.backOffTo n ch lo rest loops top q c saved r)
      (m.backOffTo (n + 1) ch lo rest loops top q c saved r)
  creep : ∀ t hi rest loops top q c saved r,
    Extends (m.creep n t hi rest loops top q c saved r) (m.creep (n + 1) t hi rest loops top q c saved r)
  atLeast : ∀ body k loops r, Extends (m.atLeast n body k loops r) (m.atLeast (n + 1) body k loops r)
  possess : ∀ body hi c loops prev r,
    Extends (m.possess n body hi c loops prev r) (m.possess (n + 1) body hi c loops prev r)

variable {m : Machine} {n : Nat}

theorem keeps_zero : m.Keeps 0 := by
  constructor <;> intros <;> intro v h <;> simp [Machine.run, Machine.tryEach, Machine.backOff,
    Machine.backOffTo, Machine.creep, Machine.atLeast, Machine.possess] at h

namespace Keeps

theorem run_succ (h : m.Keeps n) (code loops top p r) :
    Extends (m.run (n + 1) code loops top p r) (m.run (n + 2) code loops top p r) := by
  cases code with
  | nil => simp only [Machine.run]; exact .refl _
  | cons i rest =>
    cases i with
    | succeed => rw [Machine.run, Machine.run]; exact .refl _
    | jump => rw [Machine.run, Machine.run]; exact h.run ..
    | mark i => rw [Machine.run, Machine.run]; exact h.run ..
    | test t => rw [Machine.run, Machine.run]; exact .ite _ (h.run ..) (.refl _)
    | anchor f a => rw [Machine.run, Machine.run]; exact .ite _ (h.run ..) (.refl _)
    | branch alts => rw [Machine.run, Machine.run]; exact h.tryEach ..
    | single greed lo hi t =>
      cases greed with
      | possessive =>
        rw [Machine.run, Machine.run]
        exact .ite _ (.refl _) (.ite _ (.refl _) (h.run ..))
      | greedy =>
        rw [Machine.run, Machine.run]
        refine .ite _ (.refl _) (.ite _ (.refl _) (.ite _ (.refl _) ?_))
        cases rest.head?.bind Inst.literal? with
        | some ch => exact h.backOffTo ..
        | none => exact h.backOff ..
      | lazy =>
        rw [Machine.run, Machine.run]
        exact .ite _ (.refl _) (.ite _ (.refl _) (.ite _ (.refl _) (h.creep ..)))
    | loop lazy lo hi body => rw [Machine.run, Machine.run]; exact h.run ..
    | loopEnd =>
      cases loops with
      | nil => rw [Machine.run, Machine.run]; exact .refl _
      | cons l outer =>
        rw [Machine.run, Machine.run]
        refine .ite _ (.bind (h.run ..) fun _ => .refl _) (.ite _ ?_ ?_)
        · -- greedy: one more iteration first, then the rest
          refine .bind ?_ ?_
          · exact .ite _ (.bind (h.run ..) fun _ => .refl _) (.refl _)
          · intro _
            exact .ite _ (.refl _) (.bind (h.run ..) fun _ => .refl _)
        · -- lazy: the rest first, then one more iteration
          exact .bind (h.run ..) fun _ =>
            .ite _ (.refl _) (.ite _ (.refl _) (.bind (h.run ..) fun _ => .refl _))
    | possessive lo hi body =>
      rw [Machine.run, Machine.run]
      exact .bind (h.atLeast ..) fun _ =>
        .ite _ (.refl _) (.bind (h.possess ..) fun _ => h.run ..)
    | atomic body =>
      rw [Machine.run, Machine.run]
      exact .bind (h.run ..) fun _ => .ite _ (h.run ..) (.refl _)
    | look negated back body =>
      rw [Machine.run, Machine.run]
      exact .ite _
        (.ite _ (.refl _) (.bind (h.run ..) fun _ => .ite _ (h.run ..) (.refl _)))
        (.ite _ (h.run ..) (.bind (h.run ..) fun _ => .ite _ (.refl _) (h.run ..)))
    | backref f g =>
      rw [Machine.run, Machine.run]
      cases r.span? g with
      | some span => exact .ite _ (h.run ..) (.refl _)
      | none => exact .refl _
    | ifGroup g yes no =>
      cases hg : (r.span? g).isSome <;> cases no <;>
        simp only [Machine.run, hg] <;> exact h.run ..

theorem tryEach_succ (h : m.Keeps n) (alts rest loops top p saved r) :
    Extends (m.tryEach (n + 1) alts rest loops top p saved r)
      (m.tryEach (n + 2) alts rest loops top p saved r) := by
  cases alts with
  | nil => rw [Machine.tryEach, Machine.tryEach]; exact .refl _
  | cons alt alts =>
    rw [Machine.tryEach, Machine.tryEach]
    exact .ite _ (h.tryEach ..) (.bind (h.run ..) fun _ => .ite _ (.refl _) (h.tryEach ..))

theorem backOff_succ (h : m.Keeps n) (lo rest loops top q c saved r) :
    Extends (m.backOff (n + 1) lo rest loops top q c saved r)
      (m.backOff (n + 2) lo rest loops top q c saved r) := by
  rw [Machine.backOff, Machine.backOff]
  exact .ite _ (.refl _) (.bind (h.run ..) fun _ =>
    .ite _ (.refl _) (.ite _ (.refl _) (h.backOff ..)))

theorem backOffTo_succ (h : m.Keeps n) (ch lo rest loops top q c saved r) :
    Extends (m.backOffTo (n + 1) ch lo rest loops top q c saved r)
      (m.backOffTo (n + 2) ch lo rest loops top q c saved r) := by
  rw [Machine.backOffTo, Machine.backOffTo]
  cases seekBack m.text ch lo q c with
  | none => exact .refl _
  | some qc =>
    exact .bind (h.run ..) fun _ => .ite _ (.refl _) (.ite _ (.refl _) (h.backOffTo ..))

theorem creep_succ (h : m.Keeps n) (t hi rest loops top q c saved r) :
    Extends (m.creep (n + 1) t hi rest loops top q c saved r)
      (m.creep (n + 2) t hi rest loops top q c saved r) := by
  rw [Machine.creep, Machine.creep]
  exact .ite _ (.refl _) (.bind (h.run ..) fun _ =>
    .ite _ (.refl _) (.ite _ (.refl _) (h.creep ..)))

theorem atLeast_succ (h : m.Keeps n) (body k loops r) :
    Extends (m.atLeast (n + 1) body k loops r) (m.atLeast (n + 2) body k loops r) := by
  cases k with
  | zero => rw [Machine.atLeast, Machine.atLeast]; exact .refl _
  | succ k =>
    rw [Machine.atLeast, Machine.atLeast]
    exact .bind (h.run ..) fun _ => .ite _ (h.atLeast ..) (.refl _)

theorem possess_succ (h : m.Keeps n) (body hi c loops prev r) :
    Extends (m.possess (n + 1) body hi c loops prev r) (m.possess (n + 2) body hi c loops prev r) := by
  rw [Machine.possess, Machine.possess]
  exact .ite _ (.refl _) (.bind (h.run ..) fun _ => .ite _ (h.possess ..) (.refl _))

theorem succ (h : m.Keeps n) : m.Keeps (n + 1) :=
  ⟨h.run_succ, h.tryEach_succ, h.backOff_succ, h.backOffTo_succ, h.creep_succ, h.atLeast_succ,
    h.possess_succ⟩

end Keeps

theorem keeps (m : Machine) : ∀ n, m.Keeps n
  | 0 => keeps_zero
  | n + 1 => (keeps m n).succ

/-- An answer the machine gives with some fuel is the answer it gives with any more. -/
theorem run_extends {n k : Nat} (hk : n ≤ k) (code loops top p r) :
    Extends (m.run n code loops top p r) (m.run k code loops top p r) := by
  induction hk with
  | refl => exact .refl _
  | step _ ih => exact ih.trans ((keeps m _).run ..)

end Machine

/-- A run of `code` from `start`, with fresh registers, answers `out` given enough fuel. -/
def Answers (r : Regex) (code : List Inst) (s : Array Char) (whole : Bool) (start : Nat)
    (out : Bool × Registers) : Prop :=
  ∃ fuel, ({ text := s, whole } : Machine).run fuel code [] true start
    (Registers.start r.groupCount start) = some out

variable {r : Regex} {code : List Inst} {s : Array Char} {whole : Bool} {start : Nat}

theorem Answers.unique {o₁ o₂ : Bool × Registers} (h₁ : r.Answers code s whole start o₁)
    (h₂ : r.Answers code s whole start o₂) : o₁ = o₂ := by
  obtain ⟨n₁, hn₁⟩ := h₁
  obtain ⟨n₂, hn₂⟩ := h₂
  have h₁ := Machine.run_extends (le_max_left n₁ n₂) _ _ _ _ _ hn₁
  have h₂ := Machine.run_extends (le_max_right n₁ n₂) _ _ _ _ _ hn₂
  exact Option.some.inj (h₁.symm.trans h₂)

theorem attempt_answers {res : Option Registers} (h : r.attempt code s whole start = .ok res) :
    ∃ ok regs, r.Answers code s whole start (ok, regs) ∧ res = if ok then some regs else none := by
  unfold attempt at h
  dsimp only at h
  split at h
  · next regs hrun =>
    cases h
    exact ⟨true, regs, ⟨_, hrun⟩, rfl⟩
  · next regs hrun =>
    cases h
    exact ⟨false, regs, ⟨_, hrun⟩, rfl⟩
  · cases h

def Fails (r : Regex) (code : List Inst) (s : Array Char) (start : Nat) : Prop :=
  ∃ regs, r.Answers code s false start (false, regs)

theorem firstMatch_answers {starts : List Nat} {res : Option (Nat × Registers)}
    (h : r.firstMatch code s starts = .ok res) :
    (res = none ∧ ∀ j ∈ starts, r.Fails code s j) ∨
      ∃ pre i post regs, starts = pre ++ i :: post ∧ (∀ j ∈ pre, r.Fails code s j) ∧
        r.Answers code s false i (true, regs) ∧ res = some (i, regs) := by
  induction starts generalizing res with
  | nil =>
    cases h
    exact .inl ⟨rfl, List.forall_mem_nil _⟩
  | cons i starts ih =>
    rw [firstMatch] at h
    obtain ⟨out, hout, h⟩ := bind_eq_ok.mp h
    obtain ⟨ok, regs, hans, rfl⟩ := attempt_answers hout
    cases ok with
    | true =>
      cases h
      exact .inr ⟨[], i, starts, regs, rfl, List.forall_mem_nil _, hans, rfl⟩
    | false =>
      -- the run from `i` fails, and the search goes on with the starts after it
      have hi : r.Fails code s i := ⟨regs, hans⟩
      rcases ih h with ⟨rfl, hall⟩ | ⟨pre, j, post, regs', rfl, hpre, hj, rfl⟩
      · exact .inl ⟨rfl, List.forall_mem_cons.mpr ⟨hi, hall⟩⟩
      · exact .inr ⟨i :: pre, j, post, regs', rfl, List.forall_mem_cons.mpr ⟨hi, hpre⟩, hj, rfl⟩

/-- A search answers as the machine does with no bound on its fuel. A text shorter than the
least width has no match; otherwise the match found is that of the first candidate whose run
matches, every run before it failing, and there is none only when every candidate's run fails.
The budget never changes an answer: a search it cuts short fails with `exhausted`. -/
theorem search_answers {text : String} {res : Option Match} (h : r.search text = .ok res) :
    (text.toList.length < r.minWidth ∧ res = none) ∨
    (r.minWidth ≤ text.toList.length ∧
      ((res = none ∧ ∀ j ∈ r.candidates text.toList.toArray, r.Fails r.code text.toList.toArray j) ∨
        ∃ pre i post regs, r.candidates text.toList.toArray = pre ++ i :: post ∧
          (∀ j ∈ pre, r.Fails r.code text.toList.toArray j) ∧
          r.Answers r.code text.toList.toArray false i (true, regs) ∧
          ∃ found, res = some found ∧ r.matchOf i regs = .ok found)) := by
  unfold search at h
  simp only [List.size_toArray] at h
  by_cases hshort : text.toList.length < r.minWidth
  · simp only [hshort, if_true, pure, Except.pure, Except.ok.injEq] at h
    exact .inl ⟨hshort, h.symm⟩
  · simp only [hshort, if_false] at h
    obtain ⟨first, hfirst, h⟩ := bind_eq_ok.mp h
    refine .inr ⟨Nat.le_of_not_lt hshort, ?_⟩
    rcases firstMatch_answers hfirst with ⟨rfl, hall⟩ | ⟨pre, i, post, regs, hc, hpre, hi, rfl⟩
    · cases h
      exact .inl ⟨rfl, hall⟩
    · obtain ⟨found, hfound, rfl⟩ := map_eq_ok.mp h
      exact .inr ⟨pre, i, post, regs, hc, hpre, hi, found, rfl, hfound⟩

theorem fullMatch_answers {text : String} {res : Option Match} (h : r.fullMatch text = .ok res) :
    (text.toList.length < r.minWidth ∧ res = none) ∨
    (r.minWidth ≤ text.toList.length ∧ ∃ ok regs,
      r.Answers r.code text.toList.toArray true 0 (ok, regs) ∧
      (ok = false → res = none) ∧ (ok = true → ∃ found, res = some found ∧ r.matchOf 0 regs = .ok found)) := by
  unfold fullMatch at h
  simp only [List.size_toArray] at h
  by_cases hshort : text.toList.length < r.minWidth
  · simp only [hshort, if_true, pure, Except.pure, Except.ok.injEq] at h
    exact .inl ⟨hshort, h.symm⟩
  · simp only [hshort, if_false] at h
    obtain ⟨out, hout, h⟩ := bind_eq_ok.mp h
    obtain ⟨ok, regs, hans, rfl⟩ := attempt_answers hout
    refine .inr ⟨Nat.le_of_not_lt hshort, ok, regs, hans, ?_, ?_⟩
    · rintro rfl
      cases h
      rfl
    · rintro rfl
      obtain ⟨found, hfound, rfl⟩ := map_eq_ok.mp h
      exact ⟨found, rfl, hfound⟩

end PathTemplate.Regex

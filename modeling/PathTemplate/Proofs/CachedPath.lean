import Mathlib
import PathTemplate.Proofs.FillOnce

namespace PathTemplate

/-- The path that a template, compiled afresh, builds from a mapping of values. -/
def compiledPath (template : String) (params : Option Mapping) : Except Error String :=
  Builder.ofTemplate Options.standard template >>= fun b => b.generate (some (params.getD [])) Encoder.segment

theorem Builder.ofTemplate_root :
    Builder.ofTemplate Options.standard "/" = .ok ⟨[.literal "/"], []⟩ :=
  rfl

theorem Builder.generate_root (params : Option Mapping) (enc : Encoder) :
    (Builder.ofTemplate Options.standard "/" >>= fun b => b.generate params enc) = .ok "/" := by
  rw [ofTemplate_root]
  rfl

theorem generatePath_eq_compiledPath (template : String) (params : Option Mapping) :
    generatePath template params = compiledPath template params := by
  unfold generatePath compiledPath
  by_cases hr : template = "/"
  · subst hr
    rw [Builder.generate_root]
    rfl
  · simp [hr]

namespace Store

variable {s s' : Store} {t : String} {x : Issued}

theorem Consistent.ofTemplate_of_get (hs : s.Consistent) (h : s.get t = .ok (x, s')) :
    Builder.ofTemplate Options.standard t = .ok x.builder := by
  rcases get_eq_ok_iff.mp h with ⟨hl, -⟩ | ⟨-, hb, -, -⟩
  · exact hs.compiles _ (mem_of_lookup_eq_some hl)
  · exact hb

theorem generatePath_snd (s : Store) (t : String) (p : Option Mapping) :
    (s.generatePath t p).2 = if t = "/" then s else s.apply (.get t none) := by
  unfold generatePath
  by_cases hr : t = "/"
  · simp [hr]
  · simp only [hr, beq_iff_eq, if_false]
    cases h : s.get t with
    | error e => rw [apply_get_of_error h]
    | ok r => rw [apply_get h]

theorem Consistent.generatePath_snd (hs : s.Consistent) (t : String) (p : Option Mapping) :
    (s.generatePath t p).2.Consistent := by
  rw [Store.generatePath_snd]
  split
  · exact hs
  · exact hs.apply _

theorem Consistent.generatePath_fst (hs : s.Consistent) (t : String) (p : Option Mapping) :
    (s.generatePath t p).1 = compiledPath t p := by
  rw [← generatePath_eq_compiledPath]
  unfold Store.generatePath PathTemplate.generatePath
  by_cases hr : t = "/"
  · simp [hr]
  · simp only [hr, beq_iff_eq, if_false]
    cases h : s.get t with
    | error e => rw [(get_eq_error_iff.mp h).2]; rfl
    | ok r =>
      obtain ⟨x, s'⟩ := r
      rw [hs.ofTemplate_of_get h]
      rfl

def generateEach (s : Store) : List (String × Option Mapping) → List (Except Error String)
  | [] => []
  | (t, p) :: calls => (s.generatePath t p).1 :: (s.generatePath t p).2.generateEach calls

theorem Consistent.generateEach (hs : s.Consistent) (calls : List (String × Option Mapping)) :
    s.generateEach calls = calls.map fun c => compiledPath c.1 c.2 := by
  induction calls generalizing s with
  | nil => rfl
  | cons c calls ih =>
    obtain ⟨t, p⟩ := c
    rw [Store.generateEach, List.map_cons, hs.generatePath_fst, ih (hs.generatePath_snd t p)]

/-- The store of builders is transparent: through any store, a path is what the template compiled
afresh builds from the values, or that compiling's or building's error, and a template the reader
refuses leaves the store as it was. -/
theorem generatePath_transparent (L : Int) (rs : List Request) :
    let s := (empty L).after rs
    (∀ t p, (s.generatePath t p).1 =
      (Builder.ofTemplate Options.standard t >>= fun b => b.generate (some (p.getD [])) Encoder.segment)) ∧
    (∀ q enc, (Builder.ofTemplate Options.standard "/" >>= fun b => b.generate q enc) = .ok "/") ∧
    (∀ p, (s.generatePath "/" p).2 = s) ∧
    (∀ t p e, Template.parse Options.standard t = .error e → s.generatePath t p = (.error e, s)) ∧
    (∀ calls, s.generateEach calls = calls.map (fun c => compiledPath c.1 c.2) ∧
      s.generateEach calls = (empty L).generateEach calls) := by
  intro s
  have hs : s.Consistent := (consistent_empty L).after rs
  refine ⟨hs.generatePath_fst, Builder.generate_root, fun p => by simp [Store.generatePath],
    ?_, fun calls => ⟨hs.generateEach calls, ?_⟩⟩
  · intro t p e h
    -- the template `/` is read, so a refused template goes to the store and fails there
    have hr : t ≠ "/" := by
      rintro rfl
      rw [Template.parse] at h
      cases h
    simp [Store.generatePath, hr, hs.get_of_parse_error h]
  · rw [hs.generateEach, (consistent_empty L).generateEach]

end Store

end PathTemplate

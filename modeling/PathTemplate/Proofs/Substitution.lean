import Mathlib
import PathTemplate.Proofs.Pieces
import PathTemplate.Proofs.Generation

namespace PathTemplate.Template

def Piece.text : Piece → List Char
  | .plain c | .escaped c => [c]
  | .slot _ _ _ => []

def Piece.isEscaped : Piece → Bool
  | .escaped _ => true
  | _ => false

def leadOf (o : Options) (run : List Piece) : Option Char :=
  match (run.flatMap Piece.text).getLast? with
  | some c => if !run.any Piece.isEscaped && o.leadChars.contains c then some c else none
  | none => none

def slotWrite (lead : Option Char) (partialSegment : Bool) (before : List Char) :
    Filling → List Char
  | .text s => before ++ s.toList
  | .emptySequence => if lead.isSome then before.dropLast else before
  | .nothing => if lead.isSome && !partialSegment then before.dropLast else before

/-- The text since the previous slot and a slot, named or the `k`th unnamed one, with its own
pattern and modifier, that the template character `following` comes after. The slot's value is
encoded for the parameter the slot stands for. -/
def slotText (o : Options) (params : Option Mapping) (enc : Encoder) (run : List Piece)
    (k : Nat) (name body : Option String) (modifier following : Option Char) : List Char :=
  let lead := leadOf o run
  let key := match name with
    | some n => Key.text n
    | none => Key.int k
  let p := slotParameter o key ((lead.map String.singleton).getD "") body modifier following
  slotWrite lead p.partialSegment (run.flatMap Piece.text) ((lookupValue params key).filling enc p)

def substituteFrom (o : Options) (params : Option Mapping) (enc : Encoder) :
    List Piece → Nat → List Piece → List Char
  | run, _, [] => run.flatMap Piece.text
  | run, k, .slot name body m :: ps =>
    slotText o params enc run k name body m (ps.flatMap Piece.source).head? ++
      substituteFrom o params enc [] (if name.isSome then k else k + 1) ps
  | run, k, p :: ps => substituteFrom o params enc (run ++ [p]) k ps

/-- The template with its values substituted. -/
def substitute (o : Options) (params : Option Mapping) (enc : Encoder) (t : String) : String :=
  String.ofList (substituteFrom o params enc [] 0 (readPieces t.toList))

structure Scan.Reads (st : Scan) (run : List Piece) (k : Nat) : Prop where
  buffer : st.buffer.toList = run.flatMap Piece.text
  escaped : st.escaped = run.any Piece.isEscaped
  nextIndex : st.nextIndex = k

def Scan.written (params : Option Mapping) (enc : Encoder) (st : Scan) : List Char :=
  st.tokens.toList.flatMap fun t => (t.written params enc).toList

variable {o : Options} {params : Option Mapping} {enc : Encoder} {st : Scan}
  {run : List Piece} {k : Nat}

@[simp] theorem Scan.flush_nextIndex : st.flush.nextIndex = st.nextIndex := by
  unfold Scan.flush
  split <;> rfl

@[simp] theorem Scan.flush_buffer : st.flush.buffer = "" := by
  unfold Scan.flush
  split
  · rename_i h
    exact String.isEmpty_iff.mp h
  · rfl

@[simp] theorem Scan.flush_escaped : st.flush.escaped = (st.buffer.isEmpty && st.escaped) := by
  unfold Scan.flush
  split <;> simp_all

theorem Scan.written_flush :
    st.flush.written params enc = st.written params enc ++ st.buffer.toList := by
  unfold Scan.flush Scan.written
  split
  · rename_i h
    simp [String.isEmpty_iff.mp h]
  · simp [Token.written]

theorem written_flush_tokens :
    st.flush.tokens.toList.flatMap (fun t => (t.written params enc).toList) =
      st.tokens.toList.flatMap (fun t => (t.written params enc).toList) ++ st.buffer.toList :=
  Scan.written_flush

theorem text_ne_nil_of_escaped (h : run.any Piece.isEscaped = true) :
    run.flatMap Piece.text ≠ [] := by
  obtain ⟨p, hp, he⟩ := List.any_eq_true.mp h
  cases p with
  | escaped c => exact List.ne_nil_of_mem (List.mem_flatMap.mpr ⟨_, hp, List.mem_singleton_self c⟩)
  | plain c | slot _ _ _ => cases he

theorem leadOf_eq_some {c : Char} :
    leadOf o run = some c ↔ (run.flatMap Piece.text).getLast? = some c ∧
      run.any Piece.isEscaped = false ∧ o.leadChars.contains c = true := by
  unfold leadOf
  cases hd : (run.flatMap Piece.text).getLast? with
  | none => simp
  | some d =>
    dsimp only
    by_cases hc : (!run.any Piece.isEscaped && o.leadChars.contains d) = true
    · rw [if_pos hc]
      simp only [Bool.and_eq_true, Bool.not_eq_true'] at hc
      constructor
      · intro he
        cases he
        exact ⟨rfl, hc⟩
      · rintro ⟨he, -⟩
        exact he
    · rw [if_neg hc]
      constructor
      · intro he
        cases he
      · rintro ⟨he, hesc, hcon⟩
        cases he
        exact absurd (by simp [hesc, hcon]) hc

theorem takeLead_eq (h : st.Reads run k) :
    st.takeLead o = match leadOf o run with
      | some c => (String.singleton c, { st with buffer := String.ofList st.buffer.toList.dropLast })
      | none => ("", st) := by
  unfold Scan.takeLead leadOf
  rw [h.buffer, h.escaped]
  cases hl : (run.flatMap Piece.text).getLast? with
  | none => rfl
  | some c =>
    by_cases hc : (!run.any Piece.isEscaped && o.leadChars.contains c) = true
    · simp only [hc, if_true]
    · simp only [hc, Bool.false_eq_true, if_false]

theorem slotWrite_none (p : Parameter) (before : List Char) (fl : Filling) (hlead : p.lead = "") :
    before ++ (p.written fl).toList = slotWrite none p.partialSegment before fl := by
  cases fl <;> simp [Parameter.written, slotWrite, hlead]

theorem slotWrite_some (p : Parameter) (c : Char) (before : List Char) (fl : Filling)
    (hlead : p.lead = String.singleton c) (hlast : before.getLast? = some c) :
    before.dropLast ++ (p.written fl).toList = slotWrite (some c) p.partialSegment before fl := by
  obtain ⟨ys, rfl⟩ := List.getLast?_eq_some_iff.mp hlast
  cases fl <;> cases hp : p.partialSegment <;> simp [Parameter.written, slotWrite, hlead, hp]

theorem emit_written (h : st.Reads run k) (name body : Option String) (m f : Option Char) :
    (st.emit o name body m f).written params enc =
      st.written params enc ++ slotText o params enc run k name body m f := by
  unfold Scan.emit slotText
  rw [takeLead_eq h]
  cases hl : leadOf o run with
  | none =>
    cases name <;>
    simp only [Scan.written, Array.toList_push, List.flatMap_append, List.flatMap_singleton,
      written_flush_tokens, List.append_assoc, h.buffer, Scan.flush_nextIndex, h.nextIndex,
      Token.written_param, Option.map_none, Option.getD_none] <;>
    · congr 1
      exact slotWrite_none _ _ _ rfl
  | some c =>
    have hlast := (leadOf_eq_some.mp hl).1
    cases name <;>
    simp only [Scan.written, Array.toList_push, List.flatMap_append, List.flatMap_singleton,
      written_flush_tokens, List.append_assoc, Scan.flush_nextIndex, h.nextIndex,
      Token.written_param, String.toList_ofList, h.buffer, Option.map_some, Option.getD_some] <;>
    · congr 1
      exact slotWrite_some _ c _ _ rfl hlast

theorem emit_reads (h : st.Reads run k) (name body : Option String) (m f : Option Char) :
    (st.emit o name body m f).Reads [] (if name.isSome then k else k + 1) := by
  unfold Scan.emit
  rw [takeLead_eq h]
  cases hl : leadOf o run with
  | none =>
    -- an escape keeps the buffer nonempty, so the flush clears the flag
    have hesc : (st.buffer.isEmpty && st.escaped) = false := by
      cases he : st.escaped
      · simp
      · have hne := text_ne_nil_of_escaped (h.escaped ▸ he)
        rw [← h.buffer] at hne
        simpa [String.isEmpty_iff] using hne
    cases name <;> exact ⟨by simp, by simp [hesc], by simp [h.nextIndex]⟩
  | some c =>
    have hesc := (leadOf_eq_some.mp hl).2.1
    cases name <;> exact ⟨by simp, by simp [h.escaped, hesc], by simp [h.nextIndex]⟩

theorem feed_written (params : Option Mapping) (enc : Encoder) (h : st.Reads run k)
    (ps : List Piece) :
    (st.feed o ps).flush.written params enc =
      st.written params enc ++ substituteFrom o params enc run k ps := by
  induction ps generalizing st run k with
  | nil => simp [Scan.feed, Scan.written_flush, substituteFrom, h.buffer]
  | cons p ps ih =>
    cases p with
    | plain c =>
      rw [Scan.feed, substituteFrom]
      · exact ih ⟨by simp [String.toList_push, h.buffer, Piece.text],
          by simp [h.escaped, Piece.isEscaped], h.nextIndex⟩
      · intro _ _ _ hslot
        cases hslot
    | escaped c =>
      rw [Scan.feed, substituteFrom]
      · exact ih ⟨by simp [String.toList_push, h.buffer, Piece.text], by simp [Piece.isEscaped],
          h.nextIndex⟩
      · intro _ _ _ hslot
        cases hslot
    | slot name body m =>
      rw [Scan.feed, substituteFrom, ih (emit_reads h name body m _), emit_written h,
        List.append_assoc]

/-- A path built from a template, with any encoder, is the template with its values substituted,
each encoded by that encoder. -/
theorem path_eq_substitute {t : String} {P : String}
    (h : (Builder.ofTemplate o t >>= fun b => b.generate params enc) = .ok P) :
    P = substitute o params enc t := by
  obtain ⟨b, hb, h⟩ := bind_eq_ok.mp h
  obtain ⟨ts, hts, htokens⟩ := Builder.ofTemplate_tokens hb
  rw [Builder.generate_ok h, htokens, parse_eq_feed hts, substitute,
    ← String.toList_inj, String.toList_join, String.toList_ofList, List.flatMap_map]
  -- the scan starts having read nothing and numbered no slot
  have hinit : Scan.initial.Reads [] 0 := ⟨rfl, rfl, rfl⟩
  exact feed_written params enc hinit (readPieces t.toList)

theorem path_eq_substitute_files :
    (Builder.ofTemplate Options.standard "/files/:name.:ext?" >>= fun b =>
        b.generate (some [(.text "name", .text "report")]) Encoder.segment) = .ok "/files/report" ∧
      "/files/report" = substitute Options.standard (some [(.text "name", .text "report")])
        Encoder.segment "/files/:name.:ext?" :=
  have h : (Builder.ofTemplate Options.standard "/files/:name.:ext?" >>= fun b =>
      b.generate (some [(.text "name", .text "report")]) Encoder.segment) = .ok "/files/report" := by
    cbv
  ⟨h, path_eq_substitute h⟩

end PathTemplate.Template

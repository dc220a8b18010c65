import Mathlib
import PathTemplate.Proofs.TokenShape
import PathTemplate.Store

namespace PathTemplate.Template

def unescape : List Char → List Char
  | '\\' :: c :: rest => c :: unescape rest
  | c :: rest => c :: unescape rest
  | [] => []

theorem unescape_eq_nil_iff (cs : List Char) : unescape cs = [] ↔ cs = [] := by
  fun_cases unescape cs <;> simp

def Piece.isSlot : Piece → Bool
  | .slot _ _ _ => true
  | _ => false

theorem text_readPieces (cs : List Char) (h : ∀ p ∈ readPieces cs, p.isSlot = false) :
    (readPieces cs).flatMap Piece.text = unescape cs := by
  induction cs using readPieces.induct with
  | case1 => simp [readPieces, unescape]
  | case2 c rest ih =>
    rw [readPieces, List.forall_mem_cons] at h
    rw [readPieces, List.flatMap_cons, ih h.2, unescape]
    rfl
  | case3 c rest hc more hdrop _ ih =>
    rw [readPieces_name_group hc hdrop, List.forall_mem_cons] at h
    cases h.1
  | case4 c rest hc hne _ ih =>
    rw [readPieces_name hc hne, List.forall_mem_cons] at h
    cases h.1
  | case5 c rest hc ih =>
    rw [readPieces, if_neg hc, List.forall_mem_cons] at h
    rw [readPieces, if_neg hc, List.flatMap_cons, ih h.2,
      unescape.eq_2 ':' (c :: rest) (fun _ _ he => absurd he (by decide))]
    rfl
  | case6 rest ih =>
    rw [readPieces, List.forall_mem_cons] at h
    cases h.1
  | case7 c rest hesc hname hopen ih =>
    have hpieces : readPieces (c :: rest) = .plain c :: readPieces rest := by
      rw [readPieces] <;> assumption
    rw [hpieces, List.forall_mem_cons] at h
    rw [hpieces, List.flatMap_cons, ih h.2, unescape.eq_2 c rest hesc]
    rfl

variable {o : Options}

theorem feed_without_slots (st : Scan) (ps : List Piece) (h : ∀ p ∈ ps, p.isSlot = false) :
    (st.feed o ps).tokens = st.tokens ∧
      (st.feed o ps).buffer.toList = st.buffer.toList ++ ps.flatMap Piece.text := by
  induction ps generalizing st with
  | nil => simp [Scan.feed]
  | cons p ps ih =>
    rw [List.forall_mem_cons] at h
    cases p with
    | plain c =>
      obtain ⟨htok, hbuf⟩ := ih _ h.2
      exact ⟨htok, by simp [Scan.feed, hbuf, String.toList_push, Piece.text]⟩
    | escaped c =>
      obtain ⟨htok, hbuf⟩ := ih _ h.2
      exact ⟨htok, by simp [Scan.feed, hbuf, String.toList_push, Piece.text]⟩
    | slot name body m => cases h.1

theorem params_emit (st : Scan) (name body : Option String) (m f : Option Char) :
    ∃ p, Token.params (st.emit o name body m f).tokens.toList =
      Token.params st.tokens.toList ++ [p] := by
  have htokens := Scan.takeLead_tokens o st
  simp only [Scan.emit]
  generalize st.takeLead o = r at htokens
  obtain ⟨lead, st'⟩ := r
  dsimp only at htokens ⊢
  cases name <;>
  · simp only [Array.toList_push, Scan.flush_tokens, htokens, Token.params_append,
      params_bufferToken, List.append_nil, Token.params_param]
    exact ⟨_, rfl⟩

theorem params_feed_length (st : Scan) (ps : List Piece) :
    (Token.params (st.feed o ps).tokens.toList).length =
      (Token.params st.tokens.toList).length + ps.countP Piece.isSlot := by
  induction ps generalizing st with
  | nil => simp [Scan.feed]
  | cons p ps ih =>
    cases p with
    | plain c => simp [Scan.feed, ih, Piece.isSlot]
    | escaped c => simp [Scan.feed, ih, Piece.isSlot]
    | slot name body m =>
      obtain ⟨q, hq⟩ := params_emit (o := o) st name body m (ps.flatMap Piece.source).head?
      rw [Scan.feed, ih, hq, List.length_append, List.countP_cons_of_pos (by rfl)]
      simp only [List.length_singleton]
      omega

theorem bufferToken_eq (s : String) :
    bufferToken s = if s = "" then [] else [.literal s] := by
  simp [bufferToken, String.isEmpty_iff]

/-- A template whose tokens hold no parameter reads as its text with the escape pairs
unescaped, as one text token, or as none when it is empty. -/
theorem parse_without_params {t : String} {ts : List Token} (h : parse o t = .ok ts)
    (hp : Token.params ts = []) :
    ts = if t = "" then [] else [.literal (String.ofList (unescape t.toList))] := by
  have hts := parse_eq_feed h
  -- no parameter among the tokens means no slot among the pieces
  have hcount : (readPieces t.toList).countP Piece.isSlot = 0 := by
    have hlen := params_feed_length (o := o) Scan.initial (readPieces t.toList)
    rw [hts, Scan.flush_tokens, Token.params_append, params_bufferToken, List.append_nil] at hp
    rw [hp] at hlen
    simpa [Scan.initial, Token.params] using hlen.symm
  have hnone : ∀ p ∈ readPieces t.toList, p.isSlot = false := by
    intro p hp'
    simpa using List.countP_eq_zero.mp hcount p hp'
  obtain ⟨htok, hbuf⟩ := feed_without_slots (o := o) Scan.initial _ hnone
  rw [text_readPieces _ hnone] at hbuf
  have hbuf' : (Scan.initial.feed o (readPieces t.toList)).buffer =
      String.ofList (unescape t.toList) := by
    rw [← String.toList_inj, hbuf, String.toList_ofList]
    simp [Scan.initial]
  rw [hts, Scan.flush_tokens, htok, hbuf', bufferToken_eq]
  simp [Scan.initial, String.ofList_eq_empty_iff, unescape_eq_nil_iff]

def escapedChars (cs : List Char) : List Char :=
  cs.flatMap fun c => if literalSpecials.contains c then ['\\', c] else [c]

theorem escapeLiteral_toList (s : String) : (escapeLiteral s).toList = escapedChars s.toList := by
  simp [escapeLiteral, escapeAmong, escapedChars]

theorem literalStep_plain {tmpl : String} {c : Char} (hc : literalSpecials.contains c = false)
    (rest : List Char) (pos : Nat) (st : Scan) :
    literalStep tmpl c rest pos st = .ok (.literal, { st with buffer := st.buffer.push c }) := by
  have hb : c ≠ '\\' := by rintro rfl; simp [literalSpecials] at hc
  have hn : c ≠ ':' := by rintro rfl; simp [literalSpecials] at hc
  have ho : c ≠ '(' := by rintro rfl; simp [literalSpecials] at hc
  have hcl : c ≠ ')' := by rintro rfl; simp [literalSpecials] at hc
  simp [literalStep, hb, hn, ho, hcl]

theorem scanFrom_escapedChars {tmpl : String} (cs : List Char) (pos : Nat) (st : Scan) :
    scanFrom o tmpl .literal (escapedChars cs) pos st =
      .ok (st.tokens.toList ++ bufferToken (String.ofList (st.buffer.toList ++ cs))) := by
  induction cs generalizing pos st with
  | nil => simp [escapedChars, scanFrom, Scan.flush_tokens, String.ofList_toList]
  | cons c cs ih =>
    by_cases hc : literalSpecials.contains c
    · -- a backslash and the character: the escape puts the character into the buffer
      have hstep : escapedChars (c :: cs) = '\\' :: c :: escapedChars cs := by
        simp [escapedChars, List.contains_iff_mem.mp hc]
      rw [hstep]
      simp only [scanFrom, literalStep, bind, Except.bind, beq_self_eq_true, List.isEmpty_cons,
        Bool.not_false, Bool.and_self, if_true]
      rw [ih]
      simp [String.toList_push]
    · have hstep : escapedChars (c :: cs) = c :: escapedChars cs := by
        simp [escapedChars, List.contains_iff_mem.not.mp hc]
      rw [hstep]
      simp only [scanFrom, literalStep_plain (Bool.eq_false_iff.mpr hc), bind, Except.bind]
      rw [ih]
      simp [String.toList_push]

theorem parse_escapeLiteral (o : Options) (s : String) :
    parse o (escapeLiteral s) = .ok (bufferToken s) := by
  rw [parse, escapeLiteral_toList, scanFrom_escapedChars]
  simp [Scan.initial]

theorem build_escapeLiteral (o : Options) (s : String) (params : Option Mapping)
    (enc : Encoder) :
    (Builder.ofTemplate o (escapeLiteral s) >>= fun b => b.generate params enc) = .ok s := by
  by_cases hs : s = ""
  · subst hs
    simp [Builder.ofTemplate, parse_escapeLiteral, bufferToken, Builder.ofTokens,
      Builder.generate, Token.params, bind, Except.bind, pure, Except.pure]
  · simp [Builder.ofTemplate, parse_escapeLiteral, bufferToken_eq, hs, Builder.ofTokens,
      Builder.generate, Token.params, bind, Except.bind, pure, Except.pure]

theorem rootPath_escapeLiteral (s : String) : rootPath (escapeLiteral s) = .ok s := by
  rw [rootPath, parse_escapeLiteral, bufferToken_eq]
  by_cases hs : s = ""
  · subst hs
    simp only [if_true]
    rfl
  · simp only [hs, if_false]

/-- Templates without parameters read as their unescaped text; escaped text reads back as
itself under any options, builds itself as its path for any values and encoding, and is its
own root path. -/
theorem literal_template_text :
    (∀ (o : Options) (t : String) (ts : List Token), parse o t = .ok ts →
      Token.params ts = [] →
      ts = if t = "" then [] else [.literal (String.ofList (unescape t.toList))]) ∧
    (∀ (o : Options) (s : String),
      parse o (escapeLiteral s) = .ok (if s = "" then [] else [.literal s])) ∧
    (∀ (o : Options) (s : String) (params : Option Mapping) (enc : Encoder),
      (Builder.ofTemplate o (escapeLiteral s) >>= fun b => b.generate params enc) = .ok s) ∧
    (∀ s, rootPath (escapeLiteral s) = .ok s) := by
  refine ⟨fun o t ts h hp => parse_without_params h hp, fun o s => ?_, build_escapeLiteral,
    rootPath_escapeLiteral⟩
  rw [parse_escapeLiteral, bufferToken_eq]

end PathTemplate.Template

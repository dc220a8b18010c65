import Mathlib
import PathTemplate.Proofs.Substitution

namespace PathTemplate

def Token.isLiteral : Token → Bool
  | .literal _ => true
  | .param _ => false

def Token.unnamed (tokens : List Token) : List Int :=
  (Token.params tokens).filterMap fun p =>
    match p.name with
    | .int n => some n
    | _ => none

@[simp] theorem Token.params_append (a b : List Token) :
    Token.params (a ++ b) = Token.params a ++ Token.params b :=
  List.filterMap_append

@[simp] theorem Token.params_literal (s : String) : Token.params [.literal s] = [] :=
  rfl

@[simp] theorem Token.params_param (p : Parameter) : Token.params [.param p] = [p] :=
  rfl

theorem Token.unnamed_append (a b : List Token) :
    Token.unnamed (a ++ b) = Token.unnamed a ++ Token.unnamed b := by
  simp [Token.unnamed]

namespace Template

def IsName (s : String) : Prop :=
  s ≠ "" ∧ ∀ c ∈ s.toList, isNameChar c = true

structure ParamShape (o : Options) (p : Parameter) : Prop where
  name : (∃ s, p.name = .text s ∧ IsName s) ∨ ∃ n : Int, p.name = .int n
  lead : p.lead = "" ∨ ∃ c, o.leadChars.contains c = true ∧ p.lead = String.singleton c
  delimiter : p.delimiter = if p.lead = "" then o.segmentDelimiter else p.lead
  partialSegment : p.partialSegment = true → p.lead ≠ ""
  pattern : (∃ body, body ≠ "" ∧ p.pattern = escapeGroup body) ∨
    p.pattern = "[^" ++ escapeLiteral p.delimiter ++ "]+?"

def Apart (a b : Token) : Prop :=
  a.isLiteral = false ∨ b.isLiteral = false

/-- The shape of the tokens that reading under `o` gives. -/
structure TokenShape (o : Options) (ts : List Token) : Prop where
  literals : ∀ s, Token.literal s ∈ ts → s ≠ ""
  apart : ts.IsChain Apart
  params : ∀ p ∈ Token.params ts, ParamShape o p
  numbered : ∃ k : Nat, Token.unnamed ts = (List.range k).map Int.ofNat

structure OpenShape (o : Options) (ts : List Token) (k : Nat) : Prop where
  literals : ∀ s, Token.literal s ∈ ts → s ≠ ""
  apart : ts.IsChain Apart
  last : ∀ t ∈ ts.getLast?, t.isLiteral = false
  params : ∀ p ∈ Token.params ts, ParamShape o p
  numbered : Token.unnamed ts = (List.range k).map Int.ofNat

def bufferToken (s : String) : List Token :=
  if s.isEmpty then [] else [.literal s]

theorem literal_ne_of_mem_bufferToken {s s' : String} (h : Token.literal s' ∈ bufferToken s) :
    s' ≠ "" := by
  unfold bufferToken at h
  split at h
  · cases h
  · rename_i hs
    rw [List.mem_singleton, Token.literal.injEq] at h
    subst h
    simpa using hs

theorem isChain_bufferToken (s : String) : (bufferToken s).IsChain Apart := by
  unfold bufferToken
  split <;> simp

@[simp] theorem params_bufferToken (s : String) : Token.params (bufferToken s) = [] := by
  unfold bufferToken
  split <;> rfl

theorem unnamed_bufferToken (s : String) : Token.unnamed (bufferToken s) = [] := by
  simp [Token.unnamed]

variable {o : Options} {ts : List Token} {k : Nat}

theorem OpenShape.nil : OpenShape o [] 0 :=
  ⟨by simp, List.isChain_nil, by simp, by simp [Token.params], rfl⟩

theorem OpenShape.close (h : OpenShape o ts k) (s : String) : TokenShape o (ts ++ bufferToken s) where
  literals s' hs' := by
    rcases List.mem_append.mp hs' with hs' | hs'
    · exact h.literals s' hs'
    · exact literal_ne_of_mem_bufferToken hs'
  apart := h.apart.append (isChain_bufferToken s) fun x hx _ _ => .inl (h.last x hx)
  params := by simpa using h.params
  numbered := ⟨k, by rw [Token.unnamed_append, unnamed_bufferToken, h.numbered, List.append_nil]⟩

theorem OpenShape.slot (h : OpenShape o ts k) (s : String) {p : Parameter} (hp : ParamShape o p)
    {k' : Nat} (hk : (List.range k).map Int.ofNat ++ Token.unnamed [.param p] =
      (List.range k').map Int.ofNat) :
    OpenShape o (ts ++ bufferToken s ++ [.param p]) k' where
  literals s' hs' := by
    rcases List.mem_append.mp hs' with hs' | hs'
    · exact (h.close s).literals s' hs'
    · simp at hs'
  apart := (h.close s).apart.append (List.isChain_singleton _) fun _ _ y hy => by
    simp only [List.head?_cons, Option.mem_def, Option.some.injEq] at hy
    subst hy
    exact .inr rfl
  last t ht := by
    simp only [List.getLast?_append, List.getLast?_singleton, Option.some_or, Option.mem_def,
      Option.some.injEq] at ht
    subst ht
    rfl
  params q hq := by
    rw [Token.params_append, Token.params_param, List.mem_append, List.mem_singleton] at hq
    rcases hq with hq | rfl
    · exact (h.close s).params q hq
    · exact hp
  numbered := by
    rw [Token.unnamed_append, Token.unnamed_append, unnamed_bufferToken, h.numbered,
      List.append_nil, hk]

namespace Scan

variable {st : Scan}

theorem flush_tokens (st : Scan) : st.flush.tokens.toList = st.tokens.toList ++ bufferToken st.buffer := by
  unfold Scan.flush bufferToken
  split <;> simp_all

theorem takeLead_tokens (o : Options) (st : Scan) : (st.takeLead o).2.tokens = st.tokens := by
  unfold Scan.takeLead
  split
  · split <;> rfl
  · rfl

theorem takeLead_nextIndex (o : Options) (st : Scan) :
    (st.takeLead o).2.nextIndex = st.nextIndex := by
  unfold Scan.takeLead
  split
  · split <;> rfl
  · rfl

theorem takeLead_lead (o : Options) (st : Scan) :
    (st.takeLead o).1 = "" ∨ ∃ c, o.leadChars.contains c = true ∧ (st.takeLead o).1 = String.singleton c := by
  unfold Scan.takeLead
  split
  · rename_i c _
    split
    · rename_i hc
      simp only [Bool.and_eq_true, Bool.not_eq_true'] at hc
      exact .inr ⟨c, hc.2, rfl⟩
    · exact .inl rfl
  · exact .inl rfl

end Scan

theorem paramShape_emitted {lead : String}
    (hlead : lead = "" ∨ ∃ c, o.leadChars.contains c = true ∧ lead = String.singleton c)
    {key : Key} (hkey : (∃ s, key = .text s ∧ IsName s) ∨ ∃ n : Int, key = .int n)
    (optional repeating : Bool) (f : Option Char) (body : Option String) :
    (∀ b ∈ body, b ≠ "") →
    ParamShape o
      { name := key, lead, delimiter := if lead.isEmpty then o.segmentDelimiter else lead,
        optional, repeating
        partialSegment := !lead.isEmpty && f.isSome && f != lead.toList.head?
        pattern := match body with
          | some b => escapeGroup b
          | none => "[^" ++ escapeLiteral (if lead.isEmpty then o.segmentDelimiter else lead) ++ "]+?" } := by
  intro hbody
  refine ⟨hkey, hlead, by simp only [String.isEmpty_iff], ?_, ?_⟩
  · intro hp hl
    dsimp only at hp hl
    simp [hl] at hp
  · cases body with
    | some b => exact .inl ⟨b, hbody b rfl, rfl⟩
    | none => exact .inr rfl

theorem OpenShape.emit {st : Scan} (h : OpenShape o st.tokens.toList st.nextIndex)
    {name body : Option String} (hname : ∀ n ∈ name, IsName n) (hbody : ∀ b ∈ body, b ≠ "")
    (m f : Option Char) :
    OpenShape o (st.emit o name body m f).tokens.toList (st.emit o name body m f).nextIndex := by
  have hlead := Scan.takeLead_lead o st
  have htokens := Scan.takeLead_tokens o st
  have hindex := Scan.takeLead_nextIndex o st
  simp only [Scan.emit]
  generalize st.takeLead o = r at hlead htokens hindex
  obtain ⟨lead, st'⟩ := r
  dsimp only at hlead htokens hindex ⊢
  -- a named parameter keeps the count of unnamed ones, an unnamed one takes the next number
  cases name with
  | some n =>
    simp only [Array.toList_push, Scan.flush_tokens, htokens, Scan.flush_nextIndex, hindex]
    refine h.slot _ (paramShape_emitted hlead (.inl ⟨n, rfl, hname n rfl⟩) _ _ f body hbody) ?_
    simp [Token.unnamed]
  | none =>
    simp only [Array.toList_push, Scan.flush_tokens, htokens, Scan.flush_nextIndex, hindex]
    refine h.slot _ (paramShape_emitted hlead (.inr ⟨_, rfl⟩) _ _ f body hbody) ?_
    simp [Token.unnamed, List.range_succ]

def Piece.Named : Piece → Prop
  | .slot name _ _ => ∀ n ∈ name, IsName n
  | _ => True

theorem Piece.Filled.body {name body : Option String} {m : Option Char}
    (h : (Piece.slot name body m).Filled) : ∀ b ∈ body, b ≠ "" := by
  intro b hb
  cases hb
  exact h

theorem OpenShape.feed {ps : List Piece} (hps : ∀ p ∈ ps, p.Named ∧ p.Filled) {st : Scan}
    (h : OpenShape o st.tokens.toList st.nextIndex) :
    OpenShape o (st.feed o ps).tokens.toList (st.feed o ps).nextIndex := by
  induction ps generalizing st with
  | nil => exact h
  | cons p ps ih =>
    rw [List.forall_mem_cons] at hps
    cases p with
    | plain c => exact ih hps.2 h
    | escaped c => exact ih hps.2 h
    | slot name body m =>
      obtain ⟨⟨hname, hfilled⟩, hrest⟩ := hps
      exact ih hrest (h.emit hname hfilled.body m _)

theorem isName_takeWhile {c : Char} (hc : isNameChar c = true) (rest : List Char) :
    IsName (String.ofList ((c :: rest).takeWhile isNameChar)) := by
  refine ⟨?_, fun x hx => ?_⟩
  · simp [hc]
  · rw [String.toList_ofList] at hx
    exact List.mem_takeWhile_imp hx

theorem readPieces_named (cs : List Char) : ∀ p ∈ readPieces cs, p.Named := by
  induction cs using readPieces.induct with
  | case1 => simp [readPieces]
  | case2 c rest ih =>
    rw [readPieces, List.forall_mem_cons]
    exact ⟨trivial, ih⟩
  | case3 c rest hc more hdrop _ ih =>
    rw [readPieces_name_group hc hdrop, List.forall_mem_cons]
    exact ⟨fun n hn => Option.some.inj hn ▸ isName_takeWhile hc rest, ih⟩
  | case4 c rest hc hne _ ih =>
    rw [readPieces_name hc hne, List.forall_mem_cons]
    exact ⟨fun n hn => Option.some.inj hn ▸ isName_takeWhile hc rest, ih⟩
  | case5 c rest hc ih =>
    rw [readPieces, if_neg hc, List.forall_mem_cons]
    exact ⟨trivial, ih⟩
  | case6 rest ih =>
    rw [readPieces, List.forall_mem_cons]
    exact ⟨fun n hn => (by cases hn), ih⟩
  | case7 c rest hesc hname hopen ih =>
    rw [readPieces, List.forall_mem_cons]
    · exact ⟨trivial, ih⟩
    all_goals assumption

theorem feed_cons_started (ps : List Piece) (p : Piece) (st : Scan) :
    (st.feed o (p :: ps)).tokens.toList ≠ [] ∨ (st.feed o (p :: ps)).buffer ≠ "" := by
  induction ps generalizing p st with
  | nil =>
    cases p with
    | plain c => exact .inr String.push_ne_empty
    | escaped c => exact .inr String.push_ne_empty
    | slot name body m =>
      refine .inl ?_
      simp only [Scan.feed, Scan.emit]
      cases name <;> simp
  | cons q qs ih =>
    cases p with
    | plain c => exact ih q _
    | escaped c => exact ih q _
    | slot name body m => exact ih q _

theorem readPieces_ne_nil {t : String} (h : t ≠ "") : readPieces t.toList ≠ [] := by
  intro hnil
  have hhead := head_sources_readPieces t.toList
  rw [hnil, List.flatMap_nil, List.head?_nil, eq_comm, List.head?_eq_none_iff,
    String.toList_eq_nil_iff] at hhead
  exact h hhead

/-- The tokens of an accepted template: text never empty and never next to text; each parameter
with at most one lead character, partial only after a lead, with a pattern from its group or its
delimiter; the unnamed parameters numbered 0, 1, … in order. -/
theorem parse_shape {o : Options} {t : String} {ts : List Token} (h : parse o t = .ok ts) :
    (ts = [] ↔ t = "") ∧ TokenShape o ts := by
  have hts := parse_eq_feed h
  have hpieces : ∀ p ∈ readPieces t.toList, p.Named ∧ p.Filled :=
    fun p hp => ⟨readPieces_named t.toList p hp, parse_filled h p hp⟩
  refine ⟨⟨fun hnil => ?_, fun ht => ?_⟩, ?_⟩
  · -- a character of the template gives a piece, and a piece leaves a token
    by_contra hne
    obtain ⟨p, ps, hps⟩ := List.exists_cons_of_ne_nil (readPieces_ne_nil hne)
    rw [hts, hps, Scan.flush_tokens] at hnil
    rcases feed_cons_started ps p Scan.initial with hs | hs
    · exact hs (List.append_eq_nil_iff.mp hnil).1
    · have hb := (List.append_eq_nil_iff.mp hnil).2
      simp [bufferToken, hs] at hb
  · subst ht
    have hempty : parse o "" = .ok [] := rfl
    rw [hempty] at h
    exact (Except.ok.inj h).symm
  · rw [hts, Scan.flush_tokens]
    exact (OpenShape.feed hpieces OpenShape.nil).close _

theorem parse_shape_users :
    parse Options.standard "/users/:id(\\d+)/(\\w+)?.:ext" = .ok
      [.literal "/users", .param ⟨.text "id", "/", "/", false, false, false, "\\d+"⟩,
        .param ⟨.int 0, "/", "/", true, false, true, "\\w+"⟩,
        .param ⟨.text "ext", ".", ".", false, false, false, "[^\\.]+?"⟩] ∧
    (([.literal "/users", .param ⟨.text "id", "/", "/", false, false, false, "\\d+"⟩,
        .param ⟨.int 0, "/", "/", true, false, true, "\\w+"⟩,
        .param ⟨.text "ext", ".", ".", false, false, false, "[^\\.]+?"⟩] : List Token) = [] ↔
      "/users/:id(\\d+)/(\\w+)?.:ext" = "") ∧
    TokenShape Options.standard
      [.literal "/users", .param ⟨.text "id", "/", "/", false, false, false, "\\d+"⟩,
        .param ⟨.int 0, "/", "/", true, false, true, "\\w+"⟩,
        .param ⟨.text "ext", ".", ".", false, false, false, "[^\\.]+?"⟩] :=
  have h : parse Options.standard "/users/:id(\\d+)/(\\w+)?.:ext" = .ok
      [.literal "/users", .param ⟨.text "id", "/", "/", false, false, false, "\\d+"⟩,
        .param ⟨.int 0, "/", "/", true, false, true, "\\w+"⟩,
        .param ⟨.text "ext", ".", ".", false, false, false, "[^\\.]+?"⟩] := by
    cbv
  ⟨h, parse_shape h⟩

end Template

end PathTemplate

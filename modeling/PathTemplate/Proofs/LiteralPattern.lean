import Mathlib
import PathTemplate.Proofs.LiteralTemplate
import PathTemplate.Proofs.SyntaxFault
import PathTemplate.Template.Pattern

namespace PathTemplate.Regex

open Template

def unitOf (c : Char) : Tok :=
  if literalSpecials.contains c then .escaped c else .plain c

theorem unitOf_special {c : Char} (hc : c ∈ literalSpecials) : unitOf c = .escaped c := by
  simp [unitOf, hc]

theorem unitOf_plain {c : Char} (hc : c ∉ literalSpecials) : unitOf c = .plain c := by
  simp [unitOf, hc]

theorem escapedChars_cons (c : Char) (cs : List Char) :
    escapedChars (c :: cs) =
      (if literalSpecials.contains c then ['\\', c] else [c]) ++ escapedChars cs := by
  simp [escapedChars]

theorem length_le_escapedChars (cs : List Char) : cs.length ≤ (escapedChars cs).length := by
  induction cs with
  | nil => simp [escapedChars]
  | cons c cs ih =>
    rw [escapedChars_cons, List.length_append, List.length_cons]
    split <;> simp only [List.length_cons, List.length_nil] <;> omega

theorem ne_backslash_of_not_special {c : Char} (hc : c ∉ literalSpecials) : c ≠ '\\' := by
  rintro rfl
  simp [literalSpecials] at hc

section Reading

variable {r : Reader}

theorem advance_end (h : r.text.toList.drop r.index = []) :
    advance.run r = .ok ((), { r with next := none }) := by
  have h0 : r.text[r.index]? = none := by
    rw [← Array.getElem?_toList, ← List.head?_drop, h]
    rfl
  simp [advance, StateT.run, bind, StateT.bind, Except.bind, get, getThe, MonadStateOf.get,
    StateT.get, h0, set, StateT.set, pure, Except.pure]

theorem advance_plain {c : Char} {rest : List Char} (h : r.text.toList.drop r.index = c :: rest)
    (hc : c ≠ '\\') :
    advance.run r = .ok ((), { r with next := some (.plain c), index := r.index + 1 }) := by
  have h0 : r.text[r.index]? = some c := by
    rw [← Array.getElem?_toList]
    exact getElem?_of_drop_eq_cons h
  simp [advance, StateT.run, bind, StateT.bind, Except.bind, get, getThe, MonadStateOf.get,
    StateT.get, h0, hc, set, StateT.set, pure, Except.pure]

theorem advance_escaped {c : Char} {rest : List Char}
    (h : r.text.toList.drop r.index = '\\' :: c :: rest) :
    advance.run r = .ok ((), { r with next := some (.escaped c), index := r.index + 2 }) := by
  have h0 : r.text[r.index]? = some '\\' := by
    rw [← Array.getElem?_toList]
    exact getElem?_of_drop_eq_cons h
  have h1 : r.text[r.index + 1]? = some c := by
    rw [← Array.getElem?_toList]
    exact getElem?_of_drop_eq_cons (drop_succ_of_drop_eq_cons h)
  simp [advance, StateT.run, bind, StateT.bind, Except.bind, get, getThe, MonadStateOf.get,
    StateT.get, h0, h1, set, StateT.set, pure, Except.pure]

def Reader.Ahead (r : Reader) : List Char → Prop
  | [] => r.next = none
  | c :: rest => r.next = some (unitOf c) ∧ r.text.toList.drop r.index = escapedChars rest

theorem advance_unit {c : Char} {rest : List Char}
    (h : r.text.toList.drop r.index = escapedChars [c] ++ rest) :
    ∃ i, advance.run r = .ok ((), { r with index := i, next := some (unitOf c) }) ∧
      r.text.toList.drop i = rest := by
  rw [escapedChars_cons] at h
  by_cases hc : c ∈ literalSpecials
  · simp only [List.contains_iff_mem.mpr hc, if_true, escapedChars, List.flatMap_nil,
      List.append_nil, List.cons_append, List.nil_append] at h
    refine ⟨_, ?_, drop_succ_of_drop_eq_cons (drop_succ_of_drop_eq_cons h)⟩
    rw [advance_escaped h, unitOf_special hc]
  · simp only [List.contains_iff_mem.not.mpr hc, Bool.false_eq_true, if_false, escapedChars,
      List.flatMap_nil, List.append_nil, List.singleton_append] at h
    refine ⟨_, ?_, drop_succ_of_drop_eq_cons h⟩
    rw [advance_plain h (ne_backslash_of_not_special hc), unitOf_plain hc]

theorem advance_ahead {cs : List Char} (h : r.text.toList.drop r.index = escapedChars cs) :
    ∃ i n, advance.run r = .ok ((), { r with index := i, next := n }) ∧
      Reader.Ahead { r with index := i, next := n } cs := by
  cases cs with
  | nil => exact ⟨r.index, none, advance_end h, rfl⟩
  | cons c rest =>
    have h' : r.text.toList.drop r.index = escapedChars [c] ++ escapedChars rest := by
      rw [h, escapedChars_cons, escapedChars_cons]
      simp [escapedChars]
    obtain ⟨i, hadv, hd⟩ := advance_unit h'
    exact ⟨i, _, hadv, rfl, hd⟩

theorem unitOf_not_end (c : Char) :
    (unitOf c).isChar '|' = false ∧ (unitOf c).isChar ')' = false := by
  by_cases hc : c ∈ literalSpecials
  · simp [unitOf_special hc, Tok.isChar]
  · -- both ends of a branch are special, so a plain character is neither
    have hbar : c ≠ '|' := by rintro rfl; simp [literalSpecials] at hc
    have hclose : c ≠ ')' := by rintro rfl; simp [literalSpecials] at hc
    simp [unitOf_plain hc, Tok.isChar, hbar, hclose]

theorem escapes_special {c : Char} (hc : c ∈ literalSpecials) (r : Reader) :
    (escapeNode c).run r = .ok (.char c.toNat, r) ∧
      (classEscape c).run r = .ok (.char c.toNat, r) := by
  simp only [literalSpecials, List.mem_cons, List.not_mem_nil, or_false] at hc
  rcases hc with rfl | rfl | rfl | rfl | rfl | rfl | rfl | rfl | rfl | rfl | rfl | rfl | rfl |
    rfl | rfl | rfl | rfl | rfl <;> exact ⟨rfl, rfl⟩

theorem isSpecial_of_not_special {c : Char} (hc : c ∉ literalSpecials) : isSpecial c = false := by
  simp only [isSpecial, List.contains_eq_mem, decide_eq_false_iff_not]
  intro hm
  apply hc
  simp only [List.mem_cons, List.not_mem_nil, or_false] at hm
  rcases hm with rfl | rfl | rfl | rfl | rfl | rfl | rfl | rfl | rfl | rfl | rfl | rfl <;> decide

theorem sequence_ahead (cs : List Char) : ∀ (fuel : Nat) (first : Bool) (acc : List Node)
    (r : Reader), cs.length < fuel → r.Ahead cs →
    ∃ i, (sequence fuel false first acc).run r =
      .ok (unpackGroups (acc.reverse ++ cs.map fun c => .char c.toNat),
        { r with index := i, next := none }) := by
  induction cs with
  | nil =>
    intro fuel first acc r hfuel h
    obtain ⟨f, rfl⟩ : ∃ f, fuel = f + 1 := ⟨fuel - 1, by simp at hfuel; omega⟩
    have hn : r.next = none := h
    have hr : { r with index := r.index, next := none } = r := by
      cases r
      simp_all
    refine ⟨r.index, ?_⟩
    rw [sequence, hr]
    simp [StateT.run, bind, StateT.bind, Except.bind, peek, get, getThe, MonadStateOf.get,
      StateT.get, pure, StateT.pure, Except.pure, hn]
  | cons c rest ih =>
    intro fuel first acc r hfuel h
    obtain ⟨f, rfl⟩ : ∃ f, fuel = f + 1 := ⟨fuel - 1, by simp at hfuel; omega⟩
    obtain ⟨hn, hd⟩ := h
    obtain ⟨i, n, hadv, hahead⟩ := advance_ahead hd
    obtain ⟨hbar, hclose⟩ := unitOf_not_end c
    -- the character's node goes on the nodes read, and reading goes on from the next unit
    obtain ⟨j, hj⟩ := ih f first (.char c.toNat :: acc) _ (by simp at hfuel; omega) hahead
    refine ⟨j, ?_⟩
    rw [sequence]
    simp only [StateT.run] at hadv hj ⊢
    by_cases hc : c ∈ literalSpecials
    · have he := (escapes_special hc { r with index := i, next := n }).1
      simp only [StateT.run] at he
      rw [unitOf_special hc] at hn hbar hclose
      simp [bind, StateT.bind, Except.bind, peek, get, getThe, MonadStateOf.get,
        StateT.get, pure, StateT.pure, Except.pure, hn, hbar, hclose, hadv, he, hj]
    · rw [unitOf_plain hc] at hn hbar hclose
      simp [bind, StateT.bind, Except.bind, peek, get, getThe, MonadStateOf.get,
        StateT.get, pure, StateT.pure, Except.pure, hn, hbar, hclose, hadv,
        isSpecial_of_not_special hc, hj]

theorem unpackGroups_chars (cs : List Char) :
    unpackGroups (cs.map fun c => .char c.toNat) = cs.map fun c => .char c.toNat := by
  induction cs with
  | nil => rfl
  | cons c cs ih =>
    simp only [unpackGroups, List.map_cons, List.flatMap_cons] at ih ⊢
    rw [ih]
    rfl

theorem alternation_of_sequence {fuel : Nat} {items : List Node} {r' : Reader}
    (hseq : (sequence fuel false true []).run r = .ok (items, r')) (hn : r'.next = none) :
    (alternation (fuel + 2) false true).run r = .ok (items, r') := by
  simp only [StateT.run] at hseq
  simp [alternation, branchList, StateT.run, bind, StateT.bind, Except.bind, hseq, accept, peek,
    get, getThe, MonadStateOf.get, StateT.get, pure, StateT.pure, Except.pure, hn, choice]

theorem read_escapedChars (cs : List Char) (fuel : Nat) (hfuel : cs.length + 2 < fuel)
    (hd : r.text.toList.drop r.index = escapedChars cs) :
    ∃ i, (advance >>= fun _ => alternation fuel false true).run r =
      .ok (cs.map fun c => .char c.toNat, { r with index := i, next := none }) := by
  obtain ⟨i, n, hadv, hahead⟩ := advance_ahead hd
  obtain ⟨f, rfl⟩ : ∃ f, fuel = f + 2 := ⟨fuel - 2, by omega⟩
  obtain ⟨j, hseq⟩ := sequence_ahead cs f true [] _ (by omega) hahead
  rw [List.reverse_nil, List.nil_append, unpackGroups_chars] at hseq
  refine ⟨j, ?_⟩
  have halt := alternation_of_sequence hseq rfl
  simp only [StateT.run] at hadv halt ⊢
  simp [bind, StateT.bind, Except.bind, hadv, halt]

theorem accept_hit {c : Char} {r' : Reader} (hn : r.next = some (.plain c))
    (hadv : advance.run r = .ok ((), r')) : (accept c).run r = .ok (true, r') := by
  simp only [StateT.run] at hadv
  simp [accept, StateT.run, bind, StateT.bind, Except.bind, peek, get, getThe, MonadStateOf.get,
    StateT.get, pure, StateT.pure, Except.pure, hn, hadv]

theorem accept_miss {c : Char} (hn : r.next ≠ some (.plain c)) :
    (accept c).run r = .ok (false, r) := by
  simp [accept, StateT.run, bind, StateT.bind, Except.bind, peek, get, getThe, MonadStateOf.get,
    StateT.get, pure, StateT.pure, Except.pure, hn]

theorem take_run {r' : Reader} (hadv : advance.run r = .ok ((), r')) :
    take.run r = .ok (r.next, r') := by
  simp only [StateT.run] at hadv
  simp [take, StateT.run, bind, StateT.bind, Except.bind, peek, get, getThe, MonadStateOf.get,
    StateT.get, pure, StateT.pure, Except.pure, hadv]

theorem setItems_single {c : Char} (here fuel : Nat) (hn : r.next = some (unitOf c))
    (hd : r.text.toList.drop r.index = [']']) :
    ∃ i, (setItems here (fuel + 2) []).run r =
      .ok ([.char c.toNat], { r with index := i, next := none }) := by
  -- the unit of the character, then the `]` that closes the set
  have hadv1 := advance_plain hd (by decide)
  have hd2 : r.text.toList.drop (r.index + 1) = [] := drop_succ_of_drop_eq_cons hd
  have hadv2 := advance_end (r := { r with next := some (.plain ']'), index := r.index + 1 }) hd2
  have htake1 := take_run hadv1
  have htake2 := take_run hadv2
  have hmiss := accept_miss (c := '-')
    (r := { r with next := some (.plain ']'), index := r.index + 1 }) (by simp)
  refine ⟨r.index + 1, ?_⟩
  simp only [StateT.run] at htake1 htake2 hmiss
  rw [setItems]
  by_cases hc : c ∈ literalSpecials
  · have he := (escapes_special hc { r with next := some (.plain ']'), index := r.index + 1 }).2
    simp only [StateT.run] at he
    rw [unitOf_special hc] at hn
    simp [StateT.run, bind, StateT.bind, Except.bind, htake1, htake2, hmiss, hn, he, pure,
      StateT.pure, Except.pure, Tok.isChar, setItems]
  · rw [unitOf_plain hc] at hn
    simp [StateT.run, bind, StateT.bind, Except.bind, htake1, htake2, hmiss, hn, pure,
      StateT.pure, Except.pure, Tok.isChar, setItems]

theorem characterSet_negated {c : Char} (here : Nat) (hn : r.next = some (.plain '^'))
    (hd : r.text.toList.drop r.index = escapedChars [c] ++ [']']) :
    ∃ i, (characterSet here).run r = .ok (.notChar c.toNat, { r with index := i, next := none }) := by
  obtain ⟨i, hadv, hd1⟩ := advance_unit hd
  have hacc := accept_hit hn hadv
  obtain ⟨j, hitems⟩ := setItems_single here (r.text.size - 1)
    (r := { r with index := i, next := some (unitOf c) }) rfl hd1
  -- the set is read with a budget of one more than the length of the pattern
  have hsize : r.text.size - 1 + 2 = r.text.size + 1 := by
    have hlt : r.index < r.text.toList.length := by
      by_contra hge
      rw [List.drop_of_length_le (by omega)] at hd
      simp [escapedChars] at hd
    simp only [Array.length_toList] at hlt
    omega
  rw [hsize] at hitems
  refine ⟨j, ?_⟩
  simp only [StateT.run] at hacc hitems
  simp [characterSet, StateT.run, bind, StateT.bind, Except.bind, hacc, hitems, get, getThe,
    MonadStateOf.get, StateT.get, pure, StateT.pure, Except.pure, dedupe]

theorem sequence_negatedSet {c : Char} (fuel : Nat) (hn : r.next = some (.plain '['))
    (hd : r.text.toList.drop r.index = '^' :: (escapedChars [c] ++ [']'])) :
    ∃ i, (sequence (fuel + 2) false true []).run r =
      .ok ([.notChar c.toNat], { r with index := i, next := none }) := by
  have hadv := advance_plain hd (by decide)
  obtain ⟨j, hset⟩ := characterSet_negated (r.index - 1)
    (r := { r with next := some (.plain '^'), index := r.index + 1 }) rfl
    (drop_succ_of_drop_eq_cons hd)
  -- after the set, nothing is left to read
  obtain ⟨k, hrest⟩ := sequence_ahead [] (fuel + 1) true [.notChar c.toNat]
    { r with index := j, next := none } (by simp) rfl
  refine ⟨k, ?_⟩
  rw [sequence]
  simp only [StateT.run] at hadv hset hrest
  simp [StateT.run, bind, StateT.bind, Except.bind, peek, get, getThe, MonadStateOf.get,
    StateT.get, pure, StateT.pure, Except.pure, hn, Tok.isChar, hadv, isSpecial, hset, hrest,
    Reader.tell, Tok.length]
  rfl

theorem read_negatedSet {c : Char} (fuel : Nat)
    (hd : r.text.toList.drop r.index = '[' :: '^' :: (escapedChars [c] ++ [']'])) :
    ∃ i, (advance >>= fun _ => alternation (fuel + 4) false true).run r =
      .ok ([.notChar c.toNat], { r with index := i, next := none }) := by
  have hadv := advance_plain hd (by decide)
  obtain ⟨j, hseq⟩ := sequence_negatedSet fuel
    (r := { r with next := some (.plain '['), index := r.index + 1 }) rfl
    (drop_succ_of_drop_eq_cons hd)
  refine ⟨j, ?_⟩
  have halt := alternation_of_sequence hseq rfl
  simp only [StateT.run] at hadv halt ⊢
  simp [bind, StateT.bind, Except.bind, hadv, halt]

end Reading

def SingleChars (items : List Node) : Prop :=
  ∀ n ∈ items, ∃ c, n = .char c ∨ n = .notChar c

theorem singleChars_chars (cs : List Char) : SingleChars (cs.map fun c => .char c.toNat) := by
  intro n hn
  obtain ⟨c, -, rfl⟩ := List.mem_map.mp hn
  exact ⟨c.toNat, .inl rfl⟩

theorem compileFault_singleChars {items : List Node} (h : SingleChars items)
    (widthOf : Nat → Nat × Nat) (fl : Flags) :
    (Node.seq items).compileFault widthOf fl = none ∧
      (Node.seq items).looksBackTooFar widthOf = false := by
  simp only [Node.compileFault, Node.looksBackTooFar]
  induction items with
  | nil => exact ⟨rfl, rfl⟩
  | cons n ns ih =>
    obtain ⟨c, rfl | rfl⟩ := h n (List.mem_cons_self ..) <;>
    · obtain ⟨hf, hl⟩ := ih fun m hm => h m (List.mem_cons_of_mem _ hm)
      simp [Node.listFault, Node.anyLooksBackTooFar, Node.compileFault, Node.looksBackTooFar,
        hf, hl]

theorem compile_of_read {src : String} {f : Flags} {items : List Node} {i : Nat}
    (hv : f.verbose = false) (ha : f.ascii = false) (hs : SingleChars items)
    (hread : (advance >>= fun _ => alternation (8 * src.toList.length + 16) false true).run
      ⟨src, src.toList.toArray, 0, none, f, [], #[some (0, 0)], none, []⟩ =
      .ok (items, ⟨src, src.toList.toArray, i, none, f, [], #[some (0, 0)], none, []⟩)) :
    compile src f = .ok ⟨src, { f with unicode := true }, .seq items, 0, #[(0, 0)]⟩ := by
  obtain ⟨hfault, hlook⟩ := compileFault_singleChars hs
    (fun i => ([some (0, 0)][i]?.getD none).getD (0, 0)) { f with unicode := true }
  unfold compile
  rw [hv]
  simp only [StateT.run, bind] at hread
  simp only [ha, hv] at hfault
  simp [bind, Except.bind, StateT.run, hread, ha, hv, hfault, hlook, pure, Except.pure,
    Reader.groups]

theorem compile_escapeLiteral (s : String) (f : Flags) (hv : f.verbose = false)
    (ha : f.ascii = false) :
    compile (escapeLiteral s) f = .ok ⟨escapeLiteral s, { f with unicode := true },
      .seq (s.toList.map fun c => .char c.toNat), 0, #[(0, 0)]⟩ := by
  obtain ⟨i, hread⟩ := read_escapedChars (r := ⟨escapeLiteral s,
      (escapeLiteral s).toList.toArray, 0, none, f, [], #[some (0, 0)], none, []⟩) s.toList
    (8 * (escapeLiteral s).toList.length + 16)
    (by
      have hlen := length_le_escapedChars s.toList
      rw [← escapeLiteral_toList] at hlen
      omega)
    (by simp [escapeLiteral_toList])
  exact compile_of_read hv ha (singleChars_chars s.toList) hread

def negatedSet (c : Char) : String :=
  "[^" ++ escapeLiteral (String.singleton c) ++ "]"

theorem negatedSet_toList (c : Char) :
    (negatedSet c).toList = '[' :: '^' :: (escapedChars [c] ++ [']']) := by
  simp [negatedSet, escapeLiteral_toList]

theorem compile_negatedSet (c : Char) :
    compile (negatedSet c) Flags.none =
      .ok ⟨negatedSet c, { Flags.none with unicode := true }, .seq [.notChar c.toNat], 0,
        #[(0, 0)]⟩ := by
  obtain ⟨i, hread⟩ := read_negatedSet (c := c) (8 * (negatedSet c).toList.length + 12)
    (r := ⟨negatedSet c, (negatedSet c).toList.toArray, 0, none, Flags.none, [], #[some (0, 0)],
      none, []⟩) (by simp [negatedSet_toList])
  exact compile_of_read rfl rfl (fun n hn => ⟨c.toNat, .inr (List.mem_singleton.mp hn)⟩) hread

def testsHold (s : Array Char) : List Test → Nat → Bool
  | [], _ => true
  | t :: ts, p => t.holdsAt s p && testsHold s ts (p + 1)

theorem holdsAt_eq_head? (t : Test) (s : Array Char) (p : Nat) :
    t.holdsAt s p = ((s.toList.drop p).head?).any fun x => t.meets x.toNat := by
  rw [List.head?_drop, Array.getElem?_toList, Test.holdsAt]
  cases s[p]? <;> rfl

theorem testsHold_length_le {s : Array Char} {ts : List Test} {p : Nat}
    (h : testsHold s ts p = true) : ts.length ≤ s.size - p := by
  induction ts generalizing p with
  | nil => simp
  | cons t ts ih =>
    rw [testsHold, Bool.and_eq_true] at h
    have hp : p < s.size := by
      by_contra hge
      have ht := h.1
      rw [Test.holdsAt, Array.getElem?_eq_none (by omega)] at ht
      cases ht
    have hrest := ih h.2
    rw [List.length_cons]
    omega

theorem run_tests (m : Machine) (hw : m.whole = false) (ts : List Test) :
    ∀ (fuel p : Nat) (r : Registers), ts.length < fuel →
      m.run fuel (ts.map .test ++ [.succeed]) [] true p r =
        some (if testsHold m.text ts p then (true, r.moveTo (p + ts.length)) else (false, r)) := by
  induction ts with
  | nil =>
    intro fuel p r hfuel
    obtain ⟨f, rfl⟩ : ∃ f, fuel = f + 1 := ⟨fuel - 1, by simp at hfuel; omega⟩
    simp [Machine.run, hw, testsHold]
  | cons t ts ih =>
    intro fuel p r hfuel
    obtain ⟨f, rfl⟩ : ∃ f, fuel = f + 1 := ⟨fuel - 1, by simp at hfuel; omega⟩
    rw [List.map_cons, List.cons_append, Machine.run]
    by_cases ht : t.holdsAt m.text p
    · rw [ih f (p + 1) r (by simp at hfuel; omega)]
      simp [ht, testsHold, Nat.add_assoc, Nat.add_comm 1]
    · simp [ht, testsHold]

theorem testsHold_chars (F : Flags) (s : Array Char) (cs : List Char) (p : Nat) :
    testsHold s (cs.map fun c => .char F c.toNat) p = true ↔
      List.Forall₂ (fun c x => charMeets F c.toNat x.toNat = true) cs
        ((s.toList.drop p).take cs.length) := by
  induction cs generalizing p with
  | nil => simp [testsHold]
  | cons c cs ih =>
    rw [List.map_cons, testsHold, Bool.and_eq_true, ih, holdsAt_eq_head?]
    cases hd : s.toList.drop p with
    | nil => simp
    | cons x rest =>
      have hnext : s.toList.drop (p + 1) = rest := by
        rw [← List.drop_drop, hd]
        rfl
      simp [hnext, Test.meets]

theorem forall₂_charMeets_exact {F : Flags} (hF : F.ignoreCase = false) (cs l : List Char) :
    List.Forall₂ (fun c x => charMeets F c.toNat x.toNat = true) cs (l.take cs.length) ↔
      cs <+: l := by
  have hR : (fun c x : Char => charMeets F c.toNat x.toNat = true) = (· = ·) := by
    funext c x
    apply propext
    simp only [charMeets, hF, Bool.false_and, Bool.false_eq_true, if_false, beq_iff_eq]
    rw [Char.toNat_inj]
    exact eq_comm
  rw [hR, List.forall₂_eq_eq_eq, List.prefix_iff_eq_take]

theorem testsHold_chars_exact {F : Flags} (hF : F.ignoreCase = false) (s : Array Char)
    (cs : List Char) (p : Nat) :
    testsHold s (cs.map fun c => .char F c.toNat) p = true ↔ cs <+: s.toList.drop p := by
  rw [testsHold_chars, forall₂_charMeets_exact hF]

theorem weight_lt_budget (r : Regex) (s : Array Char) : r.root.weight < r.budget s := by
  unfold budget
  nlinarith [Nat.zero_le s.size]

theorem attempt_tests {r : Regex} (ts : List Test) (hcode : r.code = ts.map .test ++ [.succeed])
    {s : Array Char} (hfuel : ts.length < r.budget s) (p : Nat) :
    r.attempt r.code s false p =
      .ok (if testsHold s ts p then some ((Registers.start r.groupCount p).moveTo (p + ts.length))
        else none) := by
  simp only [attempt]
  rw [hcode, run_tests ⟨s, false⟩ rfl ts _ p _ hfuel]
  by_cases h : testsHold s ts p <;> simp [h]

/-- The registers a run of `code` from `start` ends with when it matches. -/
def runAt (r : Regex) (code : List Inst) (s : Array Char) (whole : Bool) (start : Nat) :
    Option Registers :=
  (r.attempt code s whole start).toOption.join

theorem runAt_tests {r : Regex} (ts : List Test) (hcode : r.code = ts.map .test ++ [.succeed])
    {s : Array Char} (hfuel : ts.length < r.budget s) (p : Nat) :
    r.runAt r.code s false p =
      if testsHold s ts p then some ((Registers.start r.groupCount p).moveTo (p + ts.length))
      else none := by
  rw [runAt, attempt_tests ts hcode hfuel]
  split <;> rfl

theorem firstMatch_of_attempt {r : Regex} {code : List Inst} {s : Array Char} (P : Nat → Bool)
    (g : Nat → Registers) (hrun : ∀ i, r.attempt code s false i = .ok (if P i then some (g i) else none))
    (starts : List Nat) :
    r.firstMatch code s starts = .ok ((starts.find? P).map fun i => (i, g i)) := by
  induction starts with
  | nil => rfl
  | cons i starts ih =>
    rw [firstMatch, hrun i]
    by_cases h : P i
    · simp [h, bind, Except.bind]
    · simp [h, ih, bind, Except.bind]

/-- A search with a pattern of a row of tests, tried at every position, finds the first
position where the tests pass. -/
theorem search_tests {r : Regex} {ts : List Test} (hcode : r.code = ts.map .test ++ [.succeed])
    (hgroups : r.groupCount = 0) (text : String)
    (hcand : r.candidates text.toList.toArray = List.range (text.toList.length + 1))
    (hwidth : r.minWidth ≤ ts.length) (hfuel : ts.length < r.budget text.toList.toArray) :
    r.search text = .ok (((List.range (text.toList.length + 1)).find? fun p =>
      testsHold text.toList.toArray ts p).map fun p => ⟨p, p + ts.length, []⟩) := by
  unfold search
  simp only [List.size_toArray, hcand]
  by_cases hshort : text.toList.length < r.minWidth
  · -- too short a text: the tests pass nowhere
    have hnone : (List.range (text.toList.length + 1)).find? (fun p =>
        testsHold text.toList.toArray ts p) = none := by
      rw [List.find?_eq_none]
      intro p _ hp
      have hle := testsHold_length_le hp
      simp only [List.size_toArray] at hle
      omega
    simp [hshort, hnone, pure, Except.pure]
  · rw [firstMatch_of_attempt _ _ (attempt_tests ts hcode hfuel)]
    cases (List.range (text.toList.length + 1)).find? fun p => testsHold text.toList.toArray ts p
    · simp [hshort, bind, Except.bind, pure, Except.pure]
    · simp [hshort, matchOf, hgroups, Registers.moveTo, bind, Except.bind, Functor.map, Except.map]

theorem compileSeq_chars (w : Nat → Nat × Nat) (F : Flags) (cs : List Char) :
    Node.compileSeq w F (cs.map fun c => .char c.toNat) =
      (cs.map fun c => Test.char F c.toNat).map .test := by
  induction cs with
  | nil => rfl
  | cons c cs ih => simp [Node.compileSeq, Node.compile, ih]

theorem listWeight_chars (cs : List Char) :
    Node.listWeight (cs.map fun c => .char c.toNat) = cs.length := by
  induction cs with
  | nil => rfl
  | cons c cs ih =>
    simp only [List.map_cons, Node.listWeight, Node.weight, ih, List.length_cons]
    omega

theorem seqWidth_chars (w : Nat → Nat × Nat) (cs : List Char) :
    Node.seqWidth w (cs.map fun c => .char c.toNat) = (cs.length, cs.length) := by
  induction cs with
  | nil => rfl
  | cons c cs ih =>
    simp only [List.map_cons, Node.seqWidth, Node.width, ih, addWidth, List.length_cons,
      Prod.mk.injEq]
    omega

section Chars

variable {r : Regex} {cs : List Char} (hroot : r.root = .seq (cs.map fun c => .char c.toNat))
include hroot

theorem code_chars : r.code = (cs.map fun c => Test.char r.flags c.toNat).map .test ++ [.succeed] := by
  rw [code, hroot, Node.compile, compileSeq_chars]

theorem length_lt_budget_chars (s : Array Char) : cs.length < r.budget s := by
  have hlt := weight_lt_budget r s
  simp only [hroot, Node.weight, listWeight_chars] at hlt
  omega

theorem minWidth_chars : r.minWidth ≤ cs.length := by
  rw [minWidth, hroot, Node.width, seqWidth_chars, capWidth]
  exact Nat.min_le_left _ _

theorem candidates_chars (hF : r.flags.ignoreCase = false) (s : Array Char) :
    r.candidates s = List.range (s.size + 1) := by
  cases cs with
  | nil => simp [candidates, minWidth, hroot, Node.width, Node.seqWidth, capWidth]
  | cons c cs =>
    simp [candidates, hroot, Node.lead, Node.seqLead, hF]

end Chars

theorem runAt_escapeLiteral (s : String) (f : Flags) (hv : f.verbose = false)
    (ha : f.ascii = false) (t : String) (p : Nat) :
    (compile (escapeLiteral s) f).map
        (fun r => (r.runAt r.code t.toList.toArray false p).map Registers.cursor) =
      .ok (if List.Forall₂ (fun c x => charMeets { f with unicode := true } c.toNat x.toNat = true)
          s.toList ((t.toList.drop p).take s.toList.length)
        then some (p + s.toList.length) else none) := by
  rw [compile_escapeLiteral s f hv ha]
  simp only [Except.map]
  rw [runAt_tests _ (code_chars rfl) (by rw [List.length_map]; exact length_lt_budget_chars rfl _)]
  have hchars := testsHold_chars { f with unicode := true } t.toList.toArray s.toList p
  by_cases hmeet : List.Forall₂ (fun c x => charMeets { f with unicode := true } c.toNat x.toNat = true)
      s.toList ((t.toList.drop p).take s.toList.length)
  · simp [hmeet, hchars.mpr hmeet, Registers.moveTo]
  · simp [hmeet, hchars]

theorem search_escapeLiteral (s text : String) :
    (compile (escapeLiteral s) Flags.none).map (fun r => r.search text) =
      .ok (.ok (((List.range (text.toList.length + 1)).find? fun i =>
        decide (s.toList <+: text.toList.drop i)).map fun i => ⟨i, i + s.toList.length, []⟩)) := by
  rw [compile_escapeLiteral s Flags.none rfl rfl]
  simp only [Except.map]
  rw [search_tests (code_chars rfl) rfl text (candidates_chars rfl rfl _)
    (by rw [List.length_map]; exact minWidth_chars rfl)
    (by rw [List.length_map]; exact length_lt_budget_chars rfl _)]
  have hP : (fun i => testsHold text.toList.toArray
      (s.toList.map fun c => Test.char { Flags.none with unicode := true } c.toNat) i) =
      fun i => decide (s.toList <+: text.toList.drop i) := by
    funext i
    rw [Bool.eq_iff_iff, testsHold_chars_exact rfl, decide_eq_true_iff]
  dsimp only
  rw [List.length_map, hP]

theorem beq_toNat (x c : Char) : (x.toNat == c.toNat) = (x == c) := by
  rw [Bool.eq_iff_iff, beq_iff_eq, beq_iff_eq, Char.toNat_inj]

theorem runAt_negatedSet (c : Char) (t : String) (p : Nat) :
    (compile (negatedSet c) Flags.none).map
        (fun r => (r.runAt r.code t.toList.toArray false p).map Registers.cursor) =
      .ok (if (t.toList[p]?).any (· != c) then some (p + 1) else none) := by
  rw [compile_negatedSet]
  simp only [Except.map]
  rw [runAt_tests [.notChar { Flags.none with unicode := true } c.toNat] rfl
    (by simp [budget])]
  have hhold : testsHold t.toList.toArray [.notChar { Flags.none with unicode := true } c.toNat] p =
      (t.toList[p]?).any (· != c) := by
    simp [testsHold, holdsAt_eq_head?, Test.meets, charMeets, List.head?_drop, Flags.none,
      beq_toNat, bne]
  rw [hhold]
  split <;> rfl

/-- Escaped text is a pattern of its own characters: it compiles to one character node for each
character and no group, matches at a position exactly where the text stands (without case, where
the characters meet), and a search finds its first place. -/
theorem escapeLiteral_matches_itself :
    (∀ (o : Options) (s : String),
      compile (escapeLiteral s) (regexFlags o) =
        .ok ⟨escapeLiteral s, { regexFlags o with unicode := true },
          .seq (s.toList.map fun c => .char c.toNat), 0, #[(0, 0)]⟩) ∧
    (∀ (s t : String) (p : Nat),
      (compile (escapeLiteral s) Flags.none).map
          (fun r => (r.runAt r.code t.toList.toArray false p).map Registers.cursor) =
        .ok (if s.toList <+: t.toList.drop p then some (p + s.toList.length) else none)) ∧
    (∀ (s t : String) (p : Nat),
      (compile (escapeLiteral s) Flags.caseless).map
          (fun r => (r.runAt r.code t.toList.toArray false p).map Registers.cursor) =
        .ok (if List.Forall₂
              (fun c x => charMeets { Flags.caseless with unicode := true } c.toNat x.toNat = true)
              s.toList ((t.toList.drop p).take s.toList.length)
          then some (p + s.toList.length) else none)) ∧
    (∀ s text : String, (compile (escapeLiteral s) Flags.none).map (fun r => r.search text) =
      .ok (.ok (((List.range (text.toList.length + 1)).find? fun i =>
        decide (s.toList <+: text.toList.drop i)).map fun i => ⟨i, i + s.toList.length, []⟩))) ∧
    (∀ (c : Char) (t : String) (p : Nat),
      (compile ("[^" ++ escapeLiteral (String.singleton c) ++ "]") Flags.none).map
          (fun r => (r.runAt r.code t.toList.toArray false p).map Registers.cursor) =
        .ok (if (t.toList[p]?).any (· != c) then some (p + 1) else none)) := by
  refine ⟨fun o s => ?_, fun s t p => ?_, fun s t p => runAt_escapeLiteral s _ rfl rfl t p,
    search_escapeLiteral, runAt_negatedSet⟩
  · -- the flags of options are no flags or only case-insensitivity
    unfold regexFlags
    split <;> exact compile_escapeLiteral s _ rfl rfl
  · rw [runAt_escapeLiteral s _ rfl rfl]
    simp only [forall₂_charMeets_exact (F := { Flags.none with unicode := true }) rfl]

end PathTemplate.Regex

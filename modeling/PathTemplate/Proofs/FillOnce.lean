import Mathlib
import PathTemplate.Store
import PathTemplate.Proofs.Generation

namespace PathTemplate.Store

def record (s : Store) (template : String) (x : Issued) : Store :=
  if s.full then { s with issued := s.issued + 1 }
  else { s with entries := s.entries ++ [(template, x)], issued := s.issued + 1 }

def apply (s : Store) : Request → Store
  | .get template _ =>
    match s.get template with
    | .ok (_, s') => s'
    | .error _ => s
  | _ => s

def after (s : Store) (rs : List Request) : Store :=
  rs.foldl apply s

def Request.compiled? : Request → Option String
  | .get template _ =>
    if (Builder.ofTemplate Options.standard template).isOk then some template else none
  | _ => none

def gotTemplates (rs : List Request) : List String :=
  (rs.filterMap Request.compiled?).eraseDups

variable {s s' : Store} {t : String} {x : Issued}

@[simp] theorem record_limit : (s.record t x).limit = s.limit := by
  unfold record
  split <;> rfl

@[simp] theorem record_issued : (s.record t x).issued = s.issued + 1 := by
  unfold record
  split <;> rfl

theorem record_entries :
    (s.record t x).entries = if s.full then s.entries else s.entries ++ [(t, x)] := by
  unfold record
  split <;> rfl

theorem get_eq_ok_iff :
    s.get t = .ok (x, s') ↔
      (s.entries.lookup t = some x ∧ s' = s) ∨
      (s.entries.lookup t = none ∧ Builder.ofTemplate Options.standard t = .ok x.builder ∧
        x.serial = s.issued ∧ s' = s.record t x) := by
  unfold get
  cases hl : s.entries.lookup t with
  | some y => simp [eq_comm]
  | none =>
    cases hb : Builder.ofTemplate Options.standard t with
    | error e => simp [bind, Except.bind]
    | ok b =>
      rcases x with ⟨n, c⟩
      -- the builder handed out is the one compiled, with the next serial number
      by_cases hf : s.full <;> simp only [bind, Except.bind, hf, record, if_true, Bool.false_eq_true,
        if_false, Except.ok.injEq, Prod.mk.injEq, Issued.mk.injEq, reduceCtorEq, false_and,
        false_or, true_and] <;> grind

theorem get_eq_error_iff {e : Error} :
    s.get t = .error e ↔
      s.entries.lookup t = none ∧ Builder.ofTemplate Options.standard t = .error e := by
  unfold get
  cases hl : s.entries.lookup t with
  | some y => simp
  | none =>
    cases hb : Builder.ofTemplate Options.standard t with
    | error e' => simp [bind, Except.bind]
    | ok b => by_cases hf : s.full <;> simp [bind, Except.bind, hf]

theorem get_of_lookup_eq_some (h : s.entries.lookup t = some x) : s.get t = .ok (x, s) :=
  get_eq_ok_iff.mpr (.inl ⟨h, rfl⟩)

theorem get_of_lookup_eq_none {b : Builder} (hl : s.entries.lookup t = none)
    (hb : Builder.ofTemplate Options.standard t = .ok b) :
    s.get t = .ok (⟨s.issued, b⟩, s.record t ⟨s.issued, b⟩) :=
  get_eq_ok_iff.mpr (.inr ⟨hl, hb, rfl, rfl⟩)

theorem mem_of_lookup_eq_some {l : List (String × Issued)} (h : l.lookup t = some x) :
    (t, x) ∈ l := by
  obtain ⟨l₁, l₂, rfl, -⟩ := List.lookup_eq_some_iff.mp h
  simp

theorem lookup_eq_none_iff {l : List (String × Issued)} :
    l.lookup t = none ↔ t ∉ l.map Prod.fst := by
  rw [List.lookup_eq_none_iff]
  simp only [bne_iff_ne, ne_eq, List.mem_map, not_exists, not_and]
  exact ⟨fun h p hp e => h p hp e.symm, fun h p hp e => h p hp e.symm⟩

theorem contains_iff : s.contains t = true ↔ t ∈ s.entries.map Prod.fst := by
  simp [contains]

/-- A store kept consistent by every run from an empty one: its templates are distinct and
compile to the builders kept for them, and its builders have distinct serial numbers, all
below the count of builders handed out. -/
structure Consistent (s : Store) : Prop where
  templates_nodup : (s.entries.map Prod.fst).Nodup
  compiles : ∀ e ∈ s.entries, Builder.ofTemplate Options.standard e.1 = .ok e.2.builder
  serial_lt : ∀ e ∈ s.entries, e.2.serial < s.issued
  serials_nodup : (s.entries.map fun e => e.2.serial).Nodup

theorem consistent_empty (L : Int) : (empty L).Consistent :=
  ⟨List.nodup_nil, by simp [empty], by simp [empty], List.nodup_nil⟩

theorem Consistent.record (hs : s.Consistent) (hl : s.entries.lookup t = none)
    (hb : Builder.ofTemplate Options.standard t = .ok x.builder) (hx : x.serial = s.issued) :
    (s.record t x).Consistent := by
  unfold Store.record
  split
  · exact ⟨hs.templates_nodup, hs.compiles, fun e he => Nat.lt_succ_of_lt (hs.serial_lt e he),
      hs.serials_nodup⟩
  · -- the new entry's template is not kept yet, and its serial number is above all kept ones
    have ht : t ∉ s.entries.map Prod.fst := lookup_eq_none_iff.mp hl
    have hn : x.serial ∉ s.entries.map fun e => e.2.serial := by
      simp only [List.mem_map, not_exists, not_and]
      intro e he hxe
      have := hs.serial_lt e he
      omega
    refine ⟨?_, ?_, ?_, ?_⟩
    · rw [List.map_append, List.map_singleton, ← List.concat_eq_append]
      exact hs.templates_nodup.concat ht
    · simpa [or_imp, forall_and, hb] using hs.compiles
    · simp only [List.mem_append, List.mem_singleton]
      rintro e (he | rfl)
      · exact Nat.lt_succ_of_lt (hs.serial_lt e he)
      · simp [hx]
    · rw [List.map_append, List.map_singleton, ← List.concat_eq_append]
      exact hs.serials_nodup.concat hn

theorem Consistent.lookup_eq_none {e : Error} (hs : s.Consistent)
    (h : Builder.ofTemplate Options.standard t = .error e) : s.entries.lookup t = none := by
  cases hl : s.entries.lookup t with
  | none => rfl
  | some y =>
    have := hs.compiles _ (mem_of_lookup_eq_some hl)
    rw [h] at this
    cases this

theorem lookup_of_get (h : s.get t = .ok (x, s')) (hc : s'.contains t = true) :
    s'.entries.lookup t = some x := by
  rcases get_eq_ok_iff.mp h with ⟨hl, rfl⟩ | ⟨hl, -, -, rfl⟩
  · exact hl
  · rw [contains_iff, record_entries] at hc
    rw [record_entries]
    split
    · -- a full store does not keep the template
      rename_i hf
      rw [if_pos hf] at hc
      exact absurd hc (lookup_eq_none_iff.mp hl)
    · simp [List.lookup_append, hl]

theorem Consistent.serial_lt_of_get (hs : s.Consistent) (h : s.get t = .ok (x, s')) :
    x.serial < s'.issued := by
  rcases get_eq_ok_iff.mp h with ⟨hl, rfl⟩ | ⟨-, -, hx, rfl⟩
  · exact hs.serial_lt _ (mem_of_lookup_eq_some hl)
  · simp [hx]

theorem apply_get {v : Option (Option Mapping)} (h : s.get t = .ok (x, s')) :
    s.apply (.get t v) = s' := by
  simp [Store.apply, h]

theorem apply_get_of_error {v : Option (Option Mapping)} {e : Error} (h : s.get t = .error e) :
    s.apply (.get t v) = s := by
  simp [Store.apply, h]

theorem apply_cases (s : Store) (r : Request) :
    s.apply r = s ∨ ∃ t x, s.entries.lookup t = none ∧
      Builder.ofTemplate Options.standard t = .ok x.builder ∧ x.serial = s.issued ∧
      s.apply r = s.record t x := by
  cases r with
  | get t v =>
    cases h : s.get t with
    | error e => exact .inl (apply_get_of_error h)
    | ok r =>
      obtain ⟨x, s'⟩ := r
      rw [apply_get h]
      rcases get_eq_ok_iff.mp h with ⟨-, rfl⟩ | ⟨hl, hb, hx, rfl⟩
      · exact .inl rfl
      · exact .inr ⟨t, x, hl, hb, hx, rfl⟩
  | size | isFull | limit | contains _ => exact .inl rfl

theorem Consistent.apply (hs : s.Consistent) (r : Request) : (s.apply r).Consistent := by
  rcases apply_cases s r with h | ⟨t, x, hl, hb, hx, h⟩ <;> rw [h]
  · exact hs
  · exact hs.record hl hb hx

theorem Consistent.get (hs : s.Consistent) (h : s.get t = .ok (x, s')) : s'.Consistent :=
  apply_get (v := none) h ▸ hs.apply _

@[simp] theorem apply_limit (r : Request) : (s.apply r).limit = s.limit := by
  rcases apply_cases s r with h | ⟨t, x, -, -, -, h⟩ <;> simp [h]

theorem issued_le_apply (r : Request) : s.issued ≤ (s.apply r).issued := by
  rcases apply_cases s r with h | ⟨t, x, -, -, -, h⟩ <;> simp [h]

theorem entries_prefix_apply (r : Request) : s.entries <+: (s.apply r).entries := by
  rcases apply_cases s r with h | ⟨t, x, -, -, -, h⟩
  · rw [h]
  · rw [h, record_entries]
    split
    · exact List.prefix_refl _
    · exact List.prefix_append _ _

theorem entries_apply_of_full (hf : s.full = true) (r : Request) :
    (s.apply r).entries = s.entries := by
  rcases apply_cases s r with h | ⟨t, x, -, -, -, h⟩ <;> rw [h]
  rw [record_entries, if_pos hf]

theorem full_of_entries_eq (hl : s'.limit = s.limit) (he : s'.entries = s.entries) :
    s'.full = s.full := by
  unfold full size
  rw [hl, he]

@[simp] theorem after_nil : s.after [] = s :=
  rfl

@[simp] theorem after_cons (r : Request) (rs : List Request) :
    s.after (r :: rs) = (s.apply r).after rs :=
  rfl

@[simp] theorem after_append (rs rs' : List Request) :
    s.after (rs ++ rs') = (s.after rs).after rs' :=
  List.foldl_append

theorem after_take_succ {rs : List Request} {i : Nat} {r : Request} (h : rs[i]? = some r) :
    s.after (rs.take (i + 1)) = (s.after (rs.take i)).apply r := by
  rw [List.take_add_one, h, Option.toList_some, after_append]
  rfl

theorem Consistent.after (hs : s.Consistent) (rs : List Request) : (s.after rs).Consistent := by
  induction rs generalizing s with
  | nil => exact hs
  | cons r rs ih => exact ih (hs.apply r)

@[simp] theorem limit_after (rs : List Request) : (s.after rs).limit = s.limit := by
  induction rs generalizing s with
  | nil => rfl
  | cons r rs ih => rw [after_cons, ih, apply_limit]

theorem issued_le_after (rs : List Request) : s.issued ≤ (s.after rs).issued := by
  induction rs generalizing s with
  | nil => exact le_rfl
  | cons r rs ih => exact (issued_le_apply r).trans ih

theorem entries_prefix_after (rs : List Request) : s.entries <+: (s.after rs).entries := by
  induction rs generalizing s with
  | nil => exact List.prefix_refl _
  | cons r rs ih => exact (entries_prefix_apply r).trans ih

theorem entries_after_of_full (hf : s.full = true) (rs : List Request) :
    (s.after rs).entries = s.entries := by
  induction rs generalizing s with
  | nil => rfl
  | cons r rs ih =>
    have he := entries_apply_of_full hf r
    have hf' : (s.apply r).full = true := by rw [full_of_entries_eq (apply_limit r) he, hf]
    rw [after_cons, ih hf', he]

@[simp] theorem after_singleton (r : Request) : s.after [r] = s.apply r :=
  rfl

theorem compiled?_get_of_ok {v : Option (Option Mapping)} {b : Builder}
    (h : Builder.ofTemplate Options.standard t = .ok b) : (Request.get t v).compiled? = some t := by
  simp [Request.compiled?, h, Except.isOk, Except.toBool]

theorem compiled?_get_of_error {v : Option (Option Mapping)} {e : Error}
    (h : Builder.ofTemplate Options.standard t = .error e) : (Request.get t v).compiled? = none := by
  simp [Request.compiled?, h, Except.isOk, Except.toBool]

theorem gotTemplates_concat (rs : List Request) (r : Request) :
    gotTemplates (rs ++ [r]) =
      match r.compiled? with
      | some t => if t ∈ gotTemplates rs then gotTemplates rs else gotTemplates rs ++ [t]
      | none => gotTemplates rs := by
  unfold gotTemplates
  rw [List.filterMap_append, List.eraseDups_append]
  cases hr : r.compiled? with
  | none => simp [hr]
  | some t =>
    by_cases ht : t ∈ rs.filterMap Request.compiled?
    · simp [hr, List.removeAll, ht, List.mem_eraseDups, -List.mem_filterMap]
    · simp [hr, List.removeAll, ht, List.mem_eraseDups, List.eraseDups_cons, -List.mem_filterMap]

theorem templates_record {G : List String} (hL : s.limit = L)
    (hs : s.entries.map Prod.fst = G.take L.toNat) (hl : s.entries.lookup t = none) :
    (s.record t x).entries.map Prod.fst = (if t ∈ G then G else G ++ [t]).take L.toNat := by
  have hsize : s.size = min L.toNat G.length := by
    rw [size, ← List.length_take, ← hs, List.length_map]
  have hfull : s.full = decide (L ≤ (min L.toNat G.length : Nat)) := by
    rw [full, hL, hsize]
  have hnot : t ∉ G.take L.toNat := hs ▸ lookup_eq_none_iff.mp hl
  rw [record_entries]
  split_ifs with hf hG hG
  · exact hs
  · -- a full store keeps the first of `G` already
    have hle : L.toNat ≤ G.length := by
      simp only [hfull, decide_eq_true_eq] at hf
      omega
    rw [hs, List.take_append_of_le_length hle]
  · -- a template got before and not kept means the store is full
    have hlt : L.toNat < G.length := by
      by_contra hge
      exact hnot (by rwa [List.take_of_length_le (by omega)])
    simp only [hfull, decide_eq_true_eq] at hf
    omega
  · have hlt : G.length < L.toNat := by
      simp only [hfull, decide_eq_true_eq] at hf
      omega
    rw [List.map_append, hs, List.take_of_length_le (by omega),
      List.take_of_length_le (by simp; omega)]
    rfl

theorem templates_after (L : Int) (rs : List Request) :
    ((empty L).after rs).entries.map Prod.fst = (gotTemplates rs).take L.toNat := by
  induction rs using List.reverseRecOn with
  | nil => simp [empty, gotTemplates]
  | append_singleton rs r ih =>
    have hs : ((empty L).after rs).Consistent := (consistent_empty L).after rs
    have hL : ((empty L).after rs).limit = L := by simp [empty]
    rw [after_append, after_singleton, gotTemplates_concat]
    cases r with
    | get t v =>
      cases hb : Builder.ofTemplate Options.standard t with
      | error e =>
        rw [compiled?_get_of_error hb,
          apply_get_of_error (get_eq_error_iff.mpr ⟨hs.lookup_eq_none hb, hb⟩)]
        exact ih
      | ok b =>
        rw [compiled?_get_of_ok hb]
        dsimp only
        cases hl : ((empty L).after rs).entries.lookup t with
        | some y =>
          -- a kept template was got before
          have hmem : t ∈ gotTemplates rs := by
            have : t ∈ ((empty L).after rs).entries.map Prod.fst :=
              List.mem_map_of_mem (mem_of_lookup_eq_some hl)
            rw [ih] at this
            exact List.mem_of_mem_take this
          rw [apply_get (get_of_lookup_eq_some hl), if_pos hmem]
          exact ih
        | none =>
          rw [apply_get (get_of_lookup_eq_none hl hb)]
          exact templates_record hL ih hl
    | size | isFull | limit | contains _ => exact ih

theorem Consistent.kept_of_get (hs : s.Consistent) (h : s.get t = .ok (x, s'))
    (rest : List Request) {u : String} (hu : (u, x) ∈ (s'.after rest).entries) :
    u = t ∧ s'.contains t = true := by
  have hc : (s'.after rest).Consistent := (hs.get h).after rest
  have hpre : s'.entries <+: (s'.after rest).entries := entries_prefix_after rest
  -- two entries with one serial number are one entry
  have same : (t, x) ∈ (s'.after rest).entries → u = t := fun ht =>
    congrArg Prod.fst (List.inj_on_of_nodup_map hc.serials_nodup hu ht rfl)
  rcases get_eq_ok_iff.mp h with ⟨hl, rfl⟩ | ⟨-, -, hx, rfl⟩
  · have hm := mem_of_lookup_eq_some hl
    exact ⟨same (hpre.subset hm), contains_iff.mpr (List.mem_map_of_mem hm)⟩
  · by_cases hf : s.full = true
    · -- a full store keeps no new builder, so no later store holds this one
      have hfull : (s.record t x).full = true := by
        rw [full_of_entries_eq record_limit (by rw [record_entries, if_pos hf]), hf]
      rw [entries_after_of_full hfull, record_entries, if_pos hf] at hu
      have := hs.serial_lt _ hu
      simp only at this
      omega
    · have hm : (t, x) ∈ (s.record t x).entries := by simp [record_entries, hf]
      exact ⟨same (hpre.subset hm), contains_iff.mpr (List.mem_map_of_mem hm)⟩

theorem handout_eq_iff (hs : s.Consistent) {rs : List Request} {i j : Nat} (hij : i < j)
    {t t' : String} {v v' : Option (Option Mapping)}
    (hi : rs[i]? = some (.get t v)) (hj : rs[j]? = some (.get t' v'))
    {x x' : Issued} {si sj : Store}
    (gi : (s.after (rs.take i)).get t = .ok (x, si))
    (gj : (s.after (rs.take j)).get t' = .ok (x', sj)) :
    x = x' ↔ t = t' ∧ si.contains t = true := by
  -- the store before request `j` is the store after request `i` followed by the ones between
  have hsi : s.after (rs.take (i + 1)) = si := by rw [after_take_succ hi, apply_get gi]
  obtain ⟨rest, hrest⟩ : rs.take (i + 1) <+: rs.take j :=
    List.take_prefix_take_left (Nat.succ_le_of_lt hij)
  have hsj : s.after (rs.take j) = si.after rest := by rw [← hrest, after_append, hsi]
  have hci : (s.after (rs.take i)).Consistent := hs.after _
  rw [hsj] at gj
  constructor
  · rintro rfl
    rcases get_eq_ok_iff.mp gj with ⟨hlj, -⟩ | ⟨-, -, hxj, -⟩
    · -- request `j` found its template kept with the builder of request `i`
      obtain ⟨ht, hc⟩ := hci.kept_of_get gi rest (mem_of_lookup_eq_some hlj)
      exact ⟨ht.symm, hc⟩
    · -- a builder compiled for request `j` has a serial number not handed out before
      have hlt : x.serial < (si.after rest).issued :=
        lt_of_lt_of_le (hci.serial_lt_of_get gi) (issued_le_after rest)
      omega
  · rintro ⟨rfl, hc⟩
    have hlj : (si.after rest).entries.lookup t = some x := by
      obtain ⟨more, hmore⟩ := entries_prefix_after (s := si) rest
      rw [← hmore, List.lookup_append, lookup_of_get gi hc]
      rfl
    rw [get_of_lookup_eq_some hlj] at gj
    cases gj
    rfl

theorem Consistent.get_of_parse_error (hs : s.Consistent) {e : Error}
    (h : Template.parse Options.standard t = .error e) : s.get t = .error e := by
  have hb : Builder.ofTemplate Options.standard t = .error e := by
    simp [Builder.ofTemplate, h, bind, Except.bind]
  exact get_eq_error_iff.mpr ⟨hs.lookup_eq_none hb, hb⟩

theorem Consistent.get_isOk (hs : s.Consistent) (t : String) :
    (s.get t).isOk = (Builder.ofTemplate Options.standard t).isOk := by
  cases hb : Builder.ofTemplate Options.standard t with
  | error e => rw [get_eq_error_iff.mpr ⟨hs.lookup_eq_none hb, hb⟩]; rfl
  | ok b =>
    cases hl : s.entries.lookup t with
    | some y => rw [get_of_lookup_eq_some hl]; rfl
    | none => rw [get_of_lookup_eq_none hl hb]; rfl

/-- The store is filled once: after any requests it keeps the first `max L 0` templates got, in
order, never removes or rebinds an entry, and hands two requests the same builder exactly when
they name the same kept template. A request fails exactly when its template does not compile,
and then leaves the store as it was. -/
theorem fill_once (L : Int) (rs : List Request) :
    let s := (empty L).after rs
    s.entries.map Prod.fst = (gotTemplates rs).take L.toNat ∧
    s.size ≤ L.toNat ∧
    (s.full = true ↔ L ≤ s.size) ∧
    (∀ t, s.contains t = true ↔ t ∈ (gotTemplates rs).take L.toNat) ∧
    (∀ rs', s.entries <+: ((empty L).after (rs ++ rs')).entries ∧
      (s.full = true → ((empty L).after (rs ++ rs')).full = true)) ∧
    (∀ (i j : Nat) (t t' : String) (v v' : Option (Option Mapping)) (x x' : Issued)
        (si sj : Store), i < j → rs[i]? = some (.get t v) → rs[j]? = some (.get t' v') →
      ((empty L).after (rs.take i)).get t = .ok (x, si) →
      ((empty L).after (rs.take j)).get t' = .ok (x', sj) →
      (x = x' ↔ t = t' ∧ si.contains t = true)) ∧
    (∀ t, (s.get t).isOk = (Builder.ofTemplate Options.standard t).isOk) ∧
    (∀ t e v, Template.parse Options.standard t = .error e →
      s.get t = .error e ∧ (empty L).after (rs ++ [.get t v]) = s) := by
  intro s
  have hs : s.Consistent := (consistent_empty L).after rs
  have hL : s.limit = L := by simp [s, empty]
  have htemp : s.entries.map Prod.fst = (gotTemplates rs).take L.toNat := templates_after L rs
  refine ⟨htemp, ?_, ?_, ?_, ?_, ?_, hs.get_isOk, ?_⟩
  · rw [size, ← List.length_map, htemp, List.length_take]
    exact Nat.min_le_left _ _
  · simp [full, hL]
  · intro t
    rw [contains_iff, htemp]
  · intro rs'
    rw [after_append]
    refine ⟨entries_prefix_after rs', fun hf => ?_⟩
    rw [full_of_entries_eq (limit_after rs') (entries_after_of_full hf rs'), hf]
  · intro i j t t' v v' x x' si sj hij hi hj gi gj
    exact handout_eq_iff (consistent_empty L) hij hi hj gi gj
  · intro t e v h
    have hg := hs.get_of_parse_error h
    exact ⟨hg, by rw [after_append, after_singleton, apply_get_of_error hg]⟩

end PathTemplate.Store

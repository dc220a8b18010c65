import Mathlib
import PathTemplate.Text

namespace PathTemplate.Text

theorem toNat_lt_codeLimit (c : Char) : c.toNat < 0x110000 := by
  rcases c.valid with h | ⟨-, h⟩
  · have hv : c.val.toNat < 0xd800 := h
    rw [Char.toNat_val] at hv
    omega
  · have hv : c.val.toNat < 0x110000 := h
    rwa [Char.toNat_val] at hv

theorem utf8Bytes_eq (c : Char) : utf8Bytes c = (String.utf8EncodeChar c).map UInt8.toNat := by
  have hc := toNat_lt_codeLimit c
  unfold utf8Bytes String.utf8EncodeChar
  rw [Char.toNat_val]
  generalize c.toNat = n at hc ⊢
  dsimp only
  -- one case for each length of the encoding; the arithmetic of each byte is then linear
  by_cases h1 : n < 128
  · simp [h1, show n ≤ 127 by omega]
    omega
  by_cases h2 : n < 2048
  · simp [h1, h2, show ¬n ≤ 127 by omega, show n ≤ 2047 by omega]
    omega
  by_cases h3 : n < 65536
  · simp [h1, h2, h3, show ¬n ≤ 127 by omega, show ¬n ≤ 2047 by omega, show n ≤ 65535 by omega]
    omega
  · simp [h1, h2, h3, show ¬n ≤ 127 by omega, show ¬n ≤ 2047 by omega,
      show ¬n ≤ 65535 by omega]
    omega

def segmentMarks : List Char :=
  ['-', '_', '.', '~', '!', '*', Char.ofNat 39, '(', ')']

theorem isSegmentSafe_iff (c : Char) :
    isSegmentSafe c = true ↔ c.isAlphanum = true ∨ c ∈ segmentMarks := by
  have hle : ∀ a b : Char, a ≤ b ↔ a.toNat ≤ b.toNat := fun _ _ => Iff.rfl
  simp only [isSegmentSafe, isUnreserved, Char.isAlphanum, Char.isAlpha, Char.isUpper,
    Char.isLower, Char.isDigit, segmentMarks, Bool.or_eq_true, Bool.and_eq_true,
    decide_eq_true_eq, beq_iff_eq, List.mem_cons, List.not_mem_nil, or_false, hle,
    ← Char.toNat_inj]
  simp only [UInt32.le_iff_toNat_le, Char.toNat_val, Char.reduceToNat]
  omega

def isUpperHex (c : Char) : Bool :=
  ('0' ≤ c && c ≤ '9') || ('A' ≤ c && c ≤ 'F')

/-- Text in the alphabet of encoded segments: characters a segment keeps, and `%` followed
by two uppercase hexadecimal digits. -/
inductive Encoded : List Char → Prop where
  | nil : Encoded []
  | safe {c : Char} {rest : List Char} : isSegmentSafe c = true → Encoded rest →
      Encoded (c :: rest)
  | triple {h l : Char} {rest : List Char} : isUpperHex h = true → isUpperHex l = true →
      Encoded rest → Encoded ('%' :: h :: l :: rest)

theorem Encoded.append {cs ds : List Char} (hc : Encoded cs) (hd : Encoded ds) :
    Encoded (cs ++ ds) := by
  induction hc with
  | nil => exact hd
  | safe hs _ ih => exact .safe hs ih
  | triple hh hl _ ih => exact .triple hh hl ih

theorem isUpperHex_upperHexDigit : ∀ n < 16, isUpperHex (upperHexDigit n) = true := by
  decide

def encodeChar (c : Char) : List Char :=
  if isSegmentSafe c then [c] else (String.utf8EncodeChar c).flatMap fun b => percentByte b.toNat

theorem encodeSegment_toList (s : String) :
    (encodeSegment s).toList = s.toList.flatMap encodeChar := by
  simp only [encodeSegment, percentEncode, String.toList_ofList, utf8Bytes_eq, List.flatMap_map]
  rfl

theorem encoded_percentByte (b : UInt8) : Encoded (percentByte b.toNat) := by
  have hb := UInt8.toNat_lt b
  exact .triple (isUpperHex_upperHexDigit _ (by omega)) (isUpperHex_upperHexDigit _ (by omega)) .nil

theorem encoded_encodeChar (c : Char) : Encoded (encodeChar c) := by
  unfold encodeChar
  by_cases hc : isSegmentSafe c
  · simpa [hc] using Encoded.safe hc .nil
  · simp only [hc, Bool.false_eq_true, if_false]
    induction String.utf8EncodeChar c with
    | nil => exact .nil
    | cons b bs ih => exact (encoded_percentByte b).append ih

theorem encoded_encodeSegment (s : String) : Encoded (encodeSegment s).toList := by
  rw [encodeSegment_toList]
  induction s.toList with
  | nil => exact .nil
  | cons c cs ih => exact (encoded_encodeChar c).append ih

theorem Encoded.not_mem {cs : List Char} (h : Encoded cs) {x : Char}
    (hs : isSegmentSafe x = false) (hp : x ≠ '%') (hx : isUpperHex x = false) : x ∉ cs := by
  induction h with
  | nil => simp
  | safe hc _ ih =>
    rintro (_ | ⟨_, hm⟩)
    · rw [hc] at hs
      cases hs
    · exact ih hm
  | triple hh hl _ ih =>
    rintro (_ | ⟨_, _ | ⟨_, _ | ⟨_, hm⟩⟩⟩)
    · exact hp rfl
    · rw [hh] at hx
      cases hx
    · rw [hl] at hx
      cases hx
    · exact ih hm

theorem Encoded.percent_lead {cs : List Char} (h : Encoded cs) :
    ∀ i, cs[i]? = some '%' → ∃ x y, isUpperHex x = true ∧ isUpperHex y = true ∧
      cs[i + 1]? = some x ∧ cs[i + 2]? = some y := by
  have hsafe : isSegmentSafe '%' = false := by decide
  have hhex : isUpperHex '%' = false := by decide
  induction h with
  | nil => simp
  | safe hc _ ih =>
    rintro (_ | i) hi
    · rw [Option.some.inj hi, hsafe] at hc
      cases hc
    · exact ih i hi
  | @triple x y rest hh hl _ ih =>
    rintro (_ | _ | _ | i) hi
    · exact ⟨x, y, hh, hl, rfl, rfl⟩
    · rw [Option.some.inj hi, hhex] at hh
      cases hh
    · rw [Option.some.inj hi, hhex] at hl
      cases hl
    · exact ih i hi

def hexDigit? (c : Char) : Option Nat :=
  if '0' ≤ c && c ≤ '9' then some (c.toNat - 48)
  else if 'A' ≤ c && c ≤ 'F' then some (c.toNat - 55)
  else if 'a' ≤ c && c ≤ 'f' then some (c.toNat - 87)
  else none

def hexByte? (h l : Char) : Option UInt8 :=
  (hexDigit? h).bind fun a => (hexDigit? l).map fun b => (16 * a + b).toUInt8

def percentBytes : List Char → List UInt8
  | '%' :: h :: l :: rest =>
    (hexByte? h l).elim (String.utf8EncodeChar '%' ++ percentBytes (h :: l :: rest))
      (· :: percentBytes rest)
  | c :: rest => String.utf8EncodeChar c ++ percentBytes rest
  | [] => []

/-- Percent-decoding: the bytes the text stands for, read as UTF-8. -/
def percentDecode (s : String) : Option String :=
  String.fromUTF8? (percentBytes s.toList).toByteArray

theorem hexDigit?_upperHexDigit : ∀ n < 16, hexDigit? (upperHexDigit n) = some n := by
  decide

theorem percentBytes_percentByte (b : UInt8) (rest : List Char) :
    percentBytes (percentByte b.toNat ++ rest) = b :: percentBytes rest := by
  have hb := UInt8.toNat_lt b
  have hhi := hexDigit?_upperHexDigit (b.toNat / 16) (by omega)
  have hlo := hexDigit?_upperHexDigit (b.toNat % 16) (by omega)
  have hval : 16 * (b.toNat / 16) + b.toNat % 16 = b.toNat := by omega
  simp only [percentByte, List.cons_append, List.nil_append, percentBytes, hexByte?, hhi, hlo,
    Option.bind_some, Option.map_some, Option.elim_some, hval]
  simp

theorem percentBytes_safe {c : Char} (hc : isSegmentSafe c = true) (rest : List Char) :
    percentBytes (c :: rest) = String.utf8EncodeChar c ++ percentBytes rest := by
  refine percentBytes.eq_2 c rest fun _ _ _ hp _ => ?_
  rw [hp] at hc
  cases hc

theorem percentBytes_encodeChar (c : Char) (rest : List Char) :
    percentBytes (encodeChar c ++ rest) = String.utf8EncodeChar c ++ percentBytes rest := by
  unfold encodeChar
  by_cases hc : isSegmentSafe c
  · simp only [hc, if_true, List.singleton_append, percentBytes_safe hc]
  · simp only [hc, Bool.false_eq_true, if_false]
    -- the triples of the bytes decode one byte each
    induction String.utf8EncodeChar c with
    | nil => rfl
    | cons b bs ih =>
      rw [List.flatMap_cons, List.append_assoc, percentBytes_percentByte, ih, List.cons_append]

theorem percentBytes_encodeSegment (s : String) :
    percentBytes (encodeSegment s).toList = s.toList.flatMap String.utf8EncodeChar := by
  rw [encodeSegment_toList]
  induction s.toList with
  | nil => rfl
  | cons c cs ih => rw [List.flatMap_cons, percentBytes_encodeChar, ih, List.flatMap_cons]

theorem fromUTF8?_toByteArray (s : String) : String.fromUTF8? s.toByteArray = some s := by
  simp [String.fromUTF8?, s.isValidUTF8, String.fromUTF8]

theorem percentDecode_encodeSegment (s : String) : percentDecode (encodeSegment s) = some s := by
  have hbytes : (s.toList.flatMap String.utf8EncodeChar).toByteArray = s.toByteArray :=
    String.utf8Encode_toList
  rw [percentDecode, percentBytes_encodeSegment, hbytes, fromUTF8?_toByteArray]

theorem encodeSegment_injective : Function.Injective encodeSegment := by
  intro s s' h
  have hd := congrArg percentDecode h
  rw [percentDecode_encodeSegment, percentDecode_encodeSegment] at hd
  exact Option.some.inj hd

/-- Percent-encoding a path segment keeps ASCII letters, digits and `- _ . ~ ! * ' ( )` and
writes every other character as the triples of its UTF-8 bytes; the result is in the alphabet
of encoded segments, holds no `/`, `?` or `#` and a `%` only as the lead of a triple, decodes
back to the text, and so is different for different texts. -/
theorem encodeSegment_lossless :
    (∀ c, isSegmentSafe c = true ↔ c.isAlphanum = true ∨ c ∈ segmentMarks) ∧
    (∀ s, (encodeSegment s).toList = s.toList.flatMap encodeChar) ∧
    (∀ s, Encoded (encodeSegment s).toList) ∧
    (∀ s, percentDecode (encodeSegment s) = some s) ∧
    Function.Injective encodeSegment ∧
    (∀ s, '/' ∉ (encodeSegment s).toList ∧ '?' ∉ (encodeSegment s).toList ∧
      '#' ∉ (encodeSegment s).toList ∧
      ∀ i, (encodeSegment s).toList[i]? = some '%' → ∃ x y, isUpperHex x = true ∧
        isUpperHex y = true ∧ (encodeSegment s).toList[i + 1]? = some x ∧
        (encodeSegment s).toList[i + 2]? = some y) := by
  refine ⟨isSegmentSafe_iff, encodeSegment_toList, encoded_encodeSegment,
    percentDecode_encodeSegment, encodeSegment_injective, fun s => ?_⟩
  have h := encoded_encodeSegment s
  exact ⟨h.not_mem (by decide) (by decide) (by decide), h.not_mem (by decide) (by decide)
    (by decide), h.not_mem (by decide) (by decide) (by decide), h.percent_lead⟩

end PathTemplate.Text

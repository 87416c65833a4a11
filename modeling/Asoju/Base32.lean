/-
Secrets in base 32: what has been encoded is decoded again.

The encoder and the decoder move the bits through a number of 32 bits that they shift and never
mask.  Only its last bits count: four at most in the encoder and seven in the decoder, between two
characters.  Seen from these bits, each of the two spells the string of bits of its input once more,
in digits of the other width: the encoder with less than a character of zeros behind it
(`spell_encodeFrom`), and the decoder up to a rest of less than a byte (`spell_decodeFrom`).
-/
import Asoju.Lib.Bits
import Asoju.Totp

namespace Asoju.Totp

open Lib

variable {w k : ℕ} {value : UInt32}

/-! ### The buffer -/

variable (value) in
/-- A digit is pushed into the buffer. -/
lemma bits_push (hw : w + k < 32) {digit : UInt32} (hdigit : digit.toNat < 2 ^ k) :
    bits (w + k) ((value <<< UInt32.ofNat k) ||| digit).toNat =
      bits w value.toNat ++ bits k digit.toNat := by
  have hk : (UInt32.ofNat k).toNat % 32 = k := by
    rw [UInt32.toNat_ofNat']
    omega
  rw [← bits_shiftLeft_or w hdigit]
  refine bits_congr fun i hi => ?_
  have hi' : i < 32 := by omega
  rw [UInt32.toNat_or, UInt32.toNat_shiftLeft, hk, Nat.testBit_or, Nat.testBit_or,
    Nat.testBit_mod_two_pow]
  simp [hi']

/-- The upper bits of the buffer are taken off. -/
lemma bits_take (hw : w < 32) (k : ℕ) (value : UInt32) :
    bits (k + w) value.toNat =
      bits k (value >>> UInt32.ofNat w).toNat ++ bits w value.toNat := by
  have hmod : (UInt32.ofNat w).toNat % 32 = w := by
    rw [UInt32.toNat_ofNat']
    omega
  rw [bits_add, UInt32.toNat_shiftRight, hmod]

/-! ### Characters -/

/-- The five bits of a character. -/
def digitOf (c : Char) : ℕ := base32Alphabet.idxOf c

lemma digitOf_getD : ∀ n < 32, digitOf (base32Alphabet.getD n 'A') = n := by decide +kernel

lemma getD_mem (n : ℕ) (hn : n < 32) : base32Alphabet.getD n 'A' ∈ base32Alphabet := by
  rw [List.getD_eq_getElem _ _ (show n < base32Alphabet.length from hn)]
  exact List.getElem_mem _

lemma digitOf_lt {c : Char} (hc : c ∈ base32Alphabet) : digitOf c < 32 :=
  List.idxOf_lt_length_iff.mpr hc

lemma toNat_and_31 (value : UInt32) : (value &&& 31).toNat = value.toNat % 2 ^ 5 := by
  rw [UInt32.toNat_and]
  exact Nat.and_two_pow_sub_one_eq_mod value.toNat 5

lemma base32Char_mem (value : UInt32) : base32Char value ∈ base32Alphabet := by
  have hlt : (value &&& 31).toNat < 32 := by
    rw [toNat_and_31]
    omega
  exact getD_mem _ hlt

lemma bits_digitOf_base32Char (value : UInt32) :
    bits 5 (digitOf (base32Char value)) = bits 5 value.toNat := by
  have hlt : (value &&& 31).toNat < 32 := by
    rw [toNat_and_31]
    omega
  rw [base32Char, digitOf_getD _ hlt, toNat_and_31, bits_mod le_rfl]

/-! ### The encoder -/

variable (value) in
/-- The characters that are emitted spell the upper bits, and what is left is no character. -/
lemma spell_emit (hw : w ≤ 32) :
    (emit value w).2 < 5 ∧
      bits w value.toNat =
        spell 5 ((emit value w).1.map digitOf) ++ bits (emit value w).2 value.toNat := by
  fun_induction emit value w with
  | case1 rest output left heq ih =>
    obtain ⟨hleft, hspell⟩ := ih (by omega)
    rw [heq] at hleft hspell
    refine ⟨hleft, ?_⟩
    have hsplit : bits (rest + 5) value.toNat =
        bits 5 (value >>> UInt32.ofNat rest).toNat ++ bits rest value.toNat := by
      rw [Nat.add_comm rest 5]
      exact bits_take (by omega) 5 value
    rw [hsplit, hspell, List.map_cons, spell_cons, bits_digitOf_base32Char, List.append_assoc]
  | case2 w hfew =>
    have hlt : w < 5 := by
      by_contra h
      exact hfew (w - 5) (by omega)
    exact ⟨hlt, rfl⟩

lemma mem_emit : ∀ c ∈ (emit value w).1, c ∈ base32Alphabet := by
  fun_induction emit value w with
  | case1 rest output left heq ih =>
    rw [heq] at ih
    intro c hc
    rcases List.mem_cons.mp hc with rfl | hc
    · exact base32Char_mem _
    · exact ih c hc
  | case2 w hfew => exact fun c hc => absurd hc List.not_mem_nil

lemma encodeFrom_nil (w : ℕ) (value : UInt32) :
    encodeFrom w value [] =
      if 0 < w then [base32Char (value <<< UInt32.ofNat (5 - w))] else [] := rfl

lemma encodeFrom_cons (w : ℕ) (value : UInt32) (byte : UInt8) (buffer : List UInt8) :
    encodeFrom w value (byte :: buffer) =
      (emit ((value <<< 8) ||| byte.toUInt32) (w + 8)).1 ++
        encodeFrom (emit ((value <<< 8) ||| byte.toUInt32) (w + 8)).2
          ((value <<< 8) ||| byte.toUInt32) buffer := rfl

lemma mem_encodeFrom (buffer : List UInt8) (w : ℕ) (value : UInt32) :
    ∀ c ∈ encodeFrom w value buffer, c ∈ base32Alphabet := by
  induction buffer generalizing w value with
  | nil =>
    intro c hc
    rw [encodeFrom_nil] at hc
    split_ifs at hc
    · rw [List.mem_singleton.mp hc]
      exact base32Char_mem _
    · exact absurd hc List.not_mem_nil
  | cons byte buffer ih =>
    intro c hc
    rw [encodeFrom_cons] at hc
    rcases List.mem_append.mp hc with hc | hc
    · exact mem_emit c hc
    · exact ih _ _ c hc

/-- **The encoder spells its input**, and less than a character of padding. -/
lemma spell_encodeFrom (buffer : List UInt8) (hw : w < 5) (value : UInt32) :
    ∃ padding : List Bool, padding.length < 5 ∧
      spell 5 ((encodeFrom w value buffer).map digitOf) =
        bits w value.toNat ++ spell 8 (buffer.map UInt8.toNat) ++ padding := by
  induction buffer generalizing w value with
  | nil =>
    rw [encodeFrom_nil]
    by_cases h : 0 < w
    · -- the last bits are shifted up to a character
      refine ⟨List.replicate (5 - w) false, by simp; omega, ?_⟩
      have hmod : (UInt32.ofNat (5 - w)).toNat % 32 = 5 - w := by
        rw [UInt32.toNat_ofNat']
        omega
      have hfive : w + (5 - w) = 5 := by omega
      have hshift := bits_shiftLeft w (5 - w) value.toNat
      rw [hfive] at hshift
      rw [if_pos h, List.map_singleton, spell_cons, bits_digitOf_base32Char,
        UInt32.toNat_shiftLeft, hmod, bits_mod (by omega), hshift]
      simp
    · refine ⟨[], by simp, ?_⟩
      obtain rfl : w = 0 := by omega
      rw [if_neg h]
      simp [bits]
  | cons byte buffer ih =>
    have hbyte : byte.toUInt32.toNat < 2 ^ 8 := byte.toNat_lt
    have hpush : bits (w + 8) ((value <<< 8) ||| byte.toUInt32).toNat =
        bits w value.toNat ++ bits 8 byte.toNat :=
      bits_push value (show w + 8 < 32 by omega) hbyte
    obtain ⟨hleft, hemit⟩ :=
      spell_emit ((value <<< 8) ||| byte.toUInt32) (show w + 8 ≤ 32 by omega)
    obtain ⟨padding, hpadding, hrest⟩ := ih hleft ((value <<< 8) ||| byte.toUInt32)
    refine ⟨padding, hpadding, ?_⟩
    calc spell 5 ((encodeFrom w value (byte :: buffer)).map digitOf)
        = spell 5 ((emit ((value <<< 8) ||| byte.toUInt32) (w + 8)).1.map digitOf) ++
            (bits (emit ((value <<< 8) ||| byte.toUInt32) (w + 8)).2
                ((value <<< 8) ||| byte.toUInt32).toNat ++
              spell 8 (buffer.map UInt8.toNat) ++ padding) := by
          rw [encodeFrom_cons, List.map_append, spell_append, hrest]
      _ = bits (w + 8) ((value <<< 8) ||| byte.toUInt32).toNat ++
            spell 8 (buffer.map UInt8.toNat) ++ padding := by
          rw [hemit]
          simp only [List.append_assoc]
      _ = bits w value.toNat ++ spell 8 ((byte :: buffer).map UInt8.toNat) ++ padding := by
          rw [hpush, List.map_cons, spell_cons]
          simp only [List.append_assoc]

/-! ### The decoder -/

/-- **The decoder spells its input**, but for a rest of less than a byte. -/
lemma spell_decodeFrom {clean : List Char} (hclean : ∀ c ∈ clean, c ∈ base32Alphabet)
    (hw : w < 8) (value : UInt32) :
    ∃ rest : List Bool, rest.length < 8 ∧
      bits w value.toNat ++ spell 5 (clean.map digitOf) =
        spell 8 ((decodeFrom w value clean).map UInt8.toNat) ++ rest := by
  induction clean generalizing w value with
  | nil => exact ⟨bits w value.toNat, by simpa using hw, by simp [decodeFrom]⟩
  | cons c clean ih =>
    have hclean' : ∀ c ∈ clean, c ∈ base32Alphabet := fun c' hc' =>
      hclean c' (List.mem_cons_of_mem _ hc')
    have hlt : digitOf c < 32 := digitOf_lt (hclean c (List.mem_cons_self ..))
    have hdigit : (UInt32.ofNat (digitOf c)).toNat = digitOf c := by
      rw [UInt32.toNat_ofNat']
      omega
    have hpush : bits (w + 5) ((value <<< 5) ||| UInt32.ofNat (digitOf c)).toNat =
        bits w value.toNat ++ bits 5 (digitOf c) := by
      have hsmall : (UInt32.ofNat (digitOf c)).toNat < 2 ^ 5 := by rw [hdigit]; exact hlt
      have h := bits_push value (show w + 5 < 32 by omega) hsmall
      rw [hdigit] at h
      exact h
    rw [List.map_cons, spell_cons, ← List.append_assoc, ← hpush, decodeFrom]
    by_cases h : 8 ≤ w + 5
    · -- a byte is complete: it is the upper eight bits
      obtain ⟨rest, hrest, hspell⟩ := ih hclean' (show w + 5 - 8 < 8 by omega)
        ((value <<< 5) ||| UInt32.ofNat (digitOf c))
      refine ⟨rest, hrest, ?_⟩
      have height : w + 5 = 8 + (w + 5 - 8) := by omega
      have hbyte : bits 8 (((value <<< 5) ||| UInt32.ofNat (digitOf c)) >>>
            UInt32.ofNat (w + 5 - 8)).toUInt8.toNat =
          bits 8 (((value <<< 5) ||| UInt32.ofNat (digitOf c)) >>>
            UInt32.ofNat (w + 5 - 8)).toNat := by
        rw [UInt32.toNat_toUInt8]
        exact bits_mod le_rfl _
      have hsplit := bits_take (show w + 5 - 8 < 32 by omega) 8
        ((value <<< 5) ||| UInt32.ofNat (digitOf c))
      rw [← height] at hsplit
      rw [if_pos h, List.map_cons, spell_cons, List.append_assoc]
      rw [hsplit, List.append_assoc, hspell, ← hbyte]
      rfl
    · obtain ⟨rest, hrest, hspell⟩ := ih hclean' (show w + 5 < 8 by omega)
        ((value <<< 5) ||| UInt32.ofNat (digitOf c))
      refine ⟨rest, hrest, ?_⟩
      rw [if_neg h]
      exact hspell

/-! ### The round trip -/

/-- **Encoding loses nothing.**  The text is put into upper case before it is decoded, which
changes no text over the alphabet. -/
theorem base32Decode_base32Encode (toUpperCase : String → String)
    (hupper : ∀ s : String, (∀ c ∈ s.toList, c ∈ base32Alphabet) → toUpperCase s = s)
    (buffer : List UInt8) : base32Decode toUpperCase (base32Encode buffer) = buffer := by
  have hmem := mem_encodeFrom buffer 0 0
  have hclean : (toUpperCase (base32Encode buffer)).toList.filter (· ∈ base32Alphabet) =
      encodeFrom 0 0 buffer := by
    have hsame : toUpperCase (base32Encode buffer) = base32Encode buffer := by
      refine hupper _ ?_
      rw [base32Encode, String.toList_ofList]
      exact hmem
    rw [hsame, base32Encode, String.toList_ofList, List.filter_eq_self]
    exact fun c hc => decide_eq_true (hmem c hc)
  obtain ⟨padding, hpadding, hencoded⟩ := spell_encodeFrom buffer (show 0 < 5 by omega) 0
  obtain ⟨rest, hrest, hdecoded⟩ := spell_decodeFrom hmem (show 0 < 8 by omega) 0
  rw [hencoded] at hdecoded
  -- the padding and the rest are both less than a byte
  have hbytes : buffer.map UInt8.toNat =
      (decodeFrom 0 0 (encodeFrom 0 0 buffer)).map UInt8.toNat := by
    refine spell_append_inj (w := 8) ?_ ?_ (show padding.length < 8 by omega) hrest hdecoded
    · intro n hn
      obtain ⟨byte, -, rfl⟩ := List.mem_map.mp hn
      exact byte.toNat_lt
    · intro n hn
      obtain ⟨byte, -, rfl⟩ := List.mem_map.mp hn
      exact byte.toNat_lt
  rw [base32Decode, hclean]
  exact (List.map_injective_iff.mpr (fun a b h => UInt8.toNat_inj.mp h) hbytes).symm

/-- A secret of seven bytes, put into upper case as Lean does it for ASCII. -/
theorem base32Decode_base32Encode_seven :
    base32Decode String.toUpper (base32Encode [222, 173, 190, 239, 0, 255, 7]) =
      [222, 173, 190, 239, 0, 255, 7] := by
  refine base32Decode_base32Encode _ (fun s hs => ?_) _
  have hletters : (base32Alphabet.all fun c => c.toUpper == c) = true := rfl
  rw [String.toUpper, ← String.toList_inj, String.toList_map]
  exact (List.map_congr_left fun c hc =>
    eq_of_beq (List.all_eq_true.mp hletters c (hs c hc))).trans (List.map_id' _)

end Asoju.Totp

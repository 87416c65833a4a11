/-
Numbers as strings of bits.

`bits w n` are the last `w` binary digits of `n`, the highest one first; what stands in front of
them does not count.  A list of digits of `w` bits each spells a string of bits (`spell`), and
another list, of digits of another width, may spell the same string: this is what an encoding to
another base does.  Where a string has been cut off in the middle of a digit, the digits before the
cut can still be read off it (`spell_append_inj`).
-/
import Mathlib.Data.Nat.Bitwise
import Mathlib.Tactic.Common
import Mathlib.Tactic.Lemma

namespace Lib

/-- The last `w` binary digits, the highest one first. -/
def bits : ℕ → ℕ → List Bool
  | 0, _ => []
  | w + 1, n => n.testBit w :: bits w n

variable {w k m n : ℕ}

@[simp] lemma length_bits (w n : ℕ) : (bits w n).length = w := by
  induction w with
  | zero => rfl
  | succ w ih => rw [bits, List.length_cons, ih]

lemma bits_congr (h : ∀ i, i < w → m.testBit i = n.testBit i) : bits w m = bits w n := by
  induction w with
  | zero => rfl
  | succ w ih =>
    have hrest : bits w m = bits w n := ih fun i hi => h i (by omega)
    rw [bits, bits, hrest, h w (by omega)]

/-- A string of bits, cut in two. -/
lemma bits_add (w k n : ℕ) : bits (w + k) n = bits w (n >>> k) ++ bits k n := by
  induction w with
  | zero => simp [bits]
  | succ w ih =>
    have hwidth : w + 1 + k = w + k + 1 := by omega
    rw [hwidth, bits, bits, ih, Nat.testBit_shiftRight, Nat.add_comm k w, List.cons_append]

/-- What stands in front does not count. -/
lemma bits_mod (h : w ≤ k) (n : ℕ) : bits w (n % 2 ^ k) = bits w n := by
  refine bits_congr fun i hi => ?_
  rw [Nat.testBit_mod_two_pow]
  simp only [show i < k by omega, decide_true, Bool.true_and]

lemma bits_shiftLeft (w k n : ℕ) :
    bits (w + k) (n <<< k) = bits w n ++ List.replicate k false := by
  have hzeros : bits k (n <<< k) = List.replicate k false := by
    have hzero : bits k (n <<< k) = bits k 0 := by
      refine bits_congr fun i hi => ?_
      simp [Nat.testBit_shiftLeft, hi]
    rw [hzero]
    clear hzero
    induction k with
    | zero => rfl
    | succ k ih => rw [bits, ih, Nat.zero_testBit, List.replicate_succ]
  rw [bits_add, hzeros, Nat.shiftLeft_shiftRight]

/-- A digit of `k` bits is put behind the bits that are there. -/
lemma bits_shiftLeft_or (w : ℕ) (hm : m < 2 ^ k) (n : ℕ) :
    bits (w + k) (n <<< k ||| m) = bits w n ++ bits k m := by
  rw [bits_add]
  congr 1
  · refine bits_congr fun i _ => ?_
    have hfront : m.testBit (k + i) = false :=
      Nat.testBit_lt_two_pow (hm.trans_le (Nat.pow_le_pow_right (by omega) (by omega)))
    simp [Nat.testBit_shiftRight, Nat.testBit_shiftLeft, hfront]
  · refine bits_congr fun i hi => ?_
    simp [Nat.testBit_shiftLeft, hi]

lemma bits_injective (hm : m < 2 ^ w) (hn : n < 2 ^ w) (h : bits w m = bits w n) : m = n := by
  have hbit : ∀ v i, i < v → bits v m = bits v n → m.testBit i = n.testBit i := by
    intro v
    induction v with
    | zero => intro i hi; omega
    | succ v ih =>
      intro i hi hv
      rw [bits, bits, List.cons.injEq] at hv
      rcases Nat.lt_succ_iff_lt_or_eq.mp hi with hi | rfl
      · exact ih i hi hv.2
      · exact hv.1
  refine Nat.eq_of_testBit_eq fun i => ?_
  by_cases hi : i < w
  · exact hbit w i hi h
  · have hpow : 2 ^ w ≤ 2 ^ i := Nat.pow_le_pow_right (by omega) (by omega)
    rw [Nat.testBit_lt_two_pow (hm.trans_le hpow), Nat.testBit_lt_two_pow (hn.trans_le hpow)]

/-! ### Lists of digits -/

/-- The bits of a list of digits of `w` bits each. -/
def spell (w : ℕ) (ns : List ℕ) : List Bool := ns.flatMap (bits w)

@[simp] lemma spell_nil : spell w [] = [] := rfl

@[simp] lemma spell_cons (n : ℕ) (ns : List ℕ) : spell w (n :: ns) = bits w n ++ spell w ns := rfl

lemma spell_append (ms ns : List ℕ) : spell w (ms ++ ns) = spell w ms ++ spell w ns :=
  List.flatMap_append

/-- **The digits before the cut.**  Two strings of digits that go on with less than a digit are the
same only if the digits are. -/
theorem spell_append_inj {ms ns : List ℕ} {r s : List Bool} (hms : ∀ m ∈ ms, m < 2 ^ w)
    (hns : ∀ n ∈ ns, n < 2 ^ w) (hr : r.length < w) (hs : s.length < w)
    (h : spell w ms ++ r = spell w ns ++ s) : ms = ns := by
  have hlength := congrArg List.length h
  induction ms generalizing ns with
  | nil =>
    cases ns with
    | nil => rfl
    | cons n ns =>
      -- `r` is too short to hold a digit
      simp only [spell_nil, spell_cons, List.nil_append, List.length_append, length_bits]
        at hlength
      omega
  | cons m ms ih =>
    cases ns with
    | nil =>
      simp only [spell_nil, spell_cons, List.nil_append, List.length_append, length_bits]
        at hlength
      omega
    | cons n ns =>
      rw [spell_cons, spell_cons, List.append_assoc, List.append_assoc] at h
      obtain ⟨hfirst, hrest⟩ := List.append_inj h (by simp)
      obtain rfl : m = n :=
        bits_injective (hms m (List.mem_cons_self ..)) (hns n (List.mem_cons_self ..)) hfirst
      have htail : ms = ns := ih (fun m' hm' => hms m' (List.mem_cons_of_mem _ hm'))
        (fun n' hn' => hns n' (List.mem_cons_of_mem _ hn')) hrest (congrArg List.length hrest)
      rw [htail]

end Lib

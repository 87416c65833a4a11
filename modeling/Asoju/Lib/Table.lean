/-
Tables of rows with generated keys.

A table is a list of rows in the order of their creation, each under a key that the
table itself generates.  Keys are never reused, so the two facts that every later
argument needs, distinct keys and a fresh next key, are fields of the structure: a
table with two rows under one key cannot be built.
-/
import Mathlib.Data.List.Nodup
import Mathlib.Tactic.Common
import Mathlib.Tactic.Lemma

namespace Lib

/-- A table of rows `β`, oldest first, under generated keys. -/
structure Table (β : Type) where
  /-- The rows with their keys, in the order of creation. -/
  rows : List (ℕ × β)
  /-- The key of the next row. -/
  next : ℕ
  fresh : ∀ p ∈ rows, p.1 < next
  nodup : (rows.map Prod.fst).Nodup

namespace Table

variable {β γ : Type}

/-- The table without rows. -/
def empty : Table β := ⟨[], 0, by simp, by simp⟩

instance : Inhabited (Table β) := ⟨empty⟩

/-- The row under the key `i`. -/
def get? (t : Table β) (i : ℕ) : Option β := (t.rows.find? fun p => p.1 = i).map Prod.snd

/-- The rows without their keys. -/
def values (t : Table β) : List β := t.rows.map Prod.snd

/-- Append a row under the next key. -/
def insert (t : Table β) (b : β) : Table β where
  rows := t.rows ++ [(t.next, b)]
  next := t.next + 1
  fresh := by
    intro p hp
    rcases List.mem_append.mp hp with hp | hp
    · exact Nat.lt_succ_of_lt (t.fresh p hp)
    · simp [List.mem_singleton.mp hp]
  nodup := by
    simp only [List.map_append, List.map_cons, List.map_nil, List.nodup_append, t.nodup,
      true_and, List.nodup_singleton, List.mem_singleton]
    rintro i hi _ rfl rfl
    obtain ⟨p, hp, hpi⟩ := List.mem_map.mp hi
    exact absurd hpi (Nat.ne_of_lt (t.fresh p hp))

/-- Change every row by a function of its key and its data. -/
def mapRows (t : Table β) (f : ℕ → β → β) : Table β where
  rows := t.rows.map fun p => (p.1, f p.1 p.2)
  next := t.next
  fresh := by
    intro p hp
    obtain ⟨q, hq, rfl⟩ := List.mem_map.mp hp
    exact t.fresh q hq
  nodup := by simpa [Function.comp_def] using t.nodup

/-- Change the row under the key `i`, if there is one. -/
def modify (t : Table β) (i : ℕ) (f : β → β) : Table β :=
  t.mapRows fun j b => if j = i then f b else b

/-- Change every row that passes the test `q`. -/
def modifyWhere (t : Table β) (q : ℕ → β → Bool) (f : β → β) : Table β :=
  t.mapRows fun j b => if q j b then f b else b

/-- Remove the row under the key `i`, if there is one.  Its key is not used again. -/
def erase (t : Table β) (i : ℕ) : Table β where
  rows := t.rows.filter fun p => p.1 ≠ i
  next := t.next
  fresh := fun p hp => t.fresh p (List.mem_of_mem_filter hp)
  nodup := t.nodup.sublist (List.filter_sublist.map Prod.fst)

/-! ### Rows and keys -/

lemma mem_rows_iff (t : Table β) {i : ℕ} {b : β} : (i, b) ∈ t.rows ↔ t.get? i = some b := by
  obtain ⟨rows, next, fresh, nodup⟩ := t
  simp only [get?]
  clear fresh
  induction rows with
  | nil => simp
  | cons p rows ih =>
    rw [List.map_cons, List.nodup_cons] at nodup
    by_cases hp : p.1 = i
    · subst hp
      have hnot : (p.1, b) ∉ rows := fun h => nodup.1 (List.mem_map.mpr ⟨_, h, rfl⟩)
      simp [hnot, Prod.ext_iff, eq_comm]
    · have hne : (i, b) ≠ p := by rintro rfl; exact hp rfl
      simpa [List.find?_cons, hp, hne] using ih nodup.2

lemma mem_values_iff (t : Table β) {b : β} : b ∈ t.values ↔ ∃ i, t.get? i = some b := by
  simp [values, ← mem_rows_iff]

lemma lt_next_of_get? (t : Table β) {i : ℕ} {b : β} (h : t.get? i = some b) : i < t.next :=
  t.fresh _ (t.mem_rows_iff.mpr h)

@[simp] lemma get?_next (t : Table β) : t.get? t.next = none := by
  rw [Option.eq_none_iff_forall_ne_some]
  intro b h
  exact absurd (t.lt_next_of_get? h) (Nat.lt_irrefl _)

@[simp] lemma get?_empty (i : ℕ) : (empty : Table β).get? i = none := rfl

@[simp] lemma values_empty : (empty : Table β).values = [] := rfl

lemma get?_insert (t : Table β) (b : β) (i : ℕ) :
    (t.insert b).get? i = if i = t.next then some b else t.get? i := by
  simp only [get?, insert, List.find?_append]
  by_cases hi : i = t.next
  · subst hi
    have hnone : t.rows.find? (fun p => decide (p.1 = t.next)) = none := by
      rw [List.find?_eq_none]
      intro p hp
      simpa using Nat.ne_of_lt (t.fresh p hp)
    simp [hnone]
  · cases h : t.rows.find? (fun p => decide (p.1 = i)) with
    | none => simp [hi, Ne.symm hi]
    | some p => simp [hi]

@[simp] lemma get?_insert_self (t : Table β) (b : β) :
    (t.insert b).get? t.next = some b := by simp [get?_insert]

/-- The rows after an insertion: the old ones, or the new one. -/
lemma get?_insert_cases {t : Table β} {j : ℕ} {b c : β} (h : (t.insert b).get? j = some c) :
    t.get? j = some c ∨ (j = t.next ∧ c = b) := by
  rw [get?_insert] at h
  split_ifs at h with hj
  · exact Or.inr ⟨hj, (Option.some.inj h).symm⟩
  · exact Or.inl h

lemma get?_insert_of_some {t : Table β} {i : ℕ} {c : β} (h : t.get? i = some c) (b : β) :
    (t.insert b).get? i = some c := by
  rw [get?_insert, if_neg (Nat.ne_of_lt (t.lt_next_of_get? h)), h]

@[simp] lemma values_insert (t : Table β) (b : β) : (t.insert b).values = t.values ++ [b] := by
  simp [values, insert]

@[simp] lemma next_insert (t : Table β) (b : β) : (t.insert b).next = t.next + 1 := rfl

lemma rows_insert (t : Table β) (b : β) : (t.insert b).rows = t.rows ++ [(t.next, b)] := rfl

lemma get?_erase (t : Table β) (i j : ℕ) :
    (t.erase i).get? j = if j = i then none else t.get? j := by
  apply Option.ext
  intro b
  rw [← mem_rows_iff]
  by_cases hj : j = i
  · simp [erase, hj]
  · simp [erase, hj, ← mem_rows_iff]

/-! ### Changes of rows -/

lemma ext_rows {t u : Table β} (hrows : t.rows = u.rows) (hnext : t.next = u.next) : t = u := by
  obtain ⟨rows, next, _, _⟩ := t
  obtain ⟨rows', next', _, _⟩ := u
  obtain rfl : rows = rows' := hrows
  obtain rfl : next = next' := hnext
  rfl

lemma get?_mapRows (t : Table β) (f : ℕ → β → β) (i : ℕ) :
    (t.mapRows f).get? i = (t.get? i).map (f i) := by
  simp only [get?, mapRows, List.find?_map, Option.map_map]
  cases h : t.rows.find? ((fun p => decide (p.1 = i)) ∘ fun p => (p.1, f p.1 p.2)) with
  | none =>
    have h' : t.rows.find? (fun p => decide (p.1 = i)) = none := h
    simp [h']
  | some p =>
    have h' : t.rows.find? (fun p => decide (p.1 = i)) = some p := h
    have hp : p.1 = i := by simpa using List.find?_some h
    simp [h', hp]

/-- A search by a property that a change of the rows leaves alone. -/
lemma find?_mapRows (t : Table β) {f : ℕ → β → β} {q : β → Bool} (hf : ∀ i b, q (f i b) = q b) :
    (t.mapRows f).rows.find? (fun p => q p.2) =
      (t.rows.find? fun p => q p.2).map fun p => (p.1, f p.1 p.2) := by
  have hq : ((fun p : ℕ × β => q p.2) ∘ fun p : ℕ × β => (p.1, f p.1 p.2)) = fun p => q p.2 :=
    funext fun p => hf p.1 p.2
  rw [mapRows, List.find?_map, hq]

/-- A search after an insertion finds what it found before, or the new row. -/
lemma find?_insert (t : Table β) (b : β) (q : β → Bool) :
    (t.insert b).rows.find? (fun p => q p.2) =
      (t.rows.find? fun p => q p.2).or (if q b then some (t.next, b) else none) := by
  rw [rows_insert, List.find?_append]
  congr 1
  by_cases hb : q b <;> simp [hb]

lemma get?_modify (t : Table β) (i : ℕ) (f : β → β) (j : ℕ) :
    (t.modify i f).get? j = if j = i then (t.get? j).map f else t.get? j := by
  rw [modify, get?_mapRows]
  by_cases hj : j = i <;> simp [hj]

@[simp] lemma get?_modify_self (t : Table β) (i : ℕ) (f : β → β) :
    (t.modify i f).get? i = (t.get? i).map f := by simp [get?_modify]

lemma get?_modify_of_ne (t : Table β) {i j : ℕ} (h : j ≠ i) (f : β → β) :
    (t.modify i f).get? j = t.get? j := by simp [get?_modify, h]

/-- What a change of rows leaves alone can be read off as before. -/
lemma map_get?_modify (t : Table β) (i : ℕ) {f : β → β} {g : β → γ} (h : ∀ b, g (f b) = g b)
    (j : ℕ) : ((t.modify i f).get? j).map g = (t.get? j).map g := by
  rw [get?_modify]
  split_ifs
  · rw [Option.map_map]
    exact congrArg (Option.map · _) (funext h)
  · rfl

/-- The rows after a change of one of them: the old ones, or the changed one. -/
lemma get?_modify_cases {t : Table β} {i j : ℕ} {f : β → β} {b c : β} (hb : t.get? i = some b)
    (h : (t.modify i f).get? j = some c) : t.get? j = some c ∨ (j = i ∧ c = f b) := by
  rw [get?_modify] at h
  split_ifs at h with hj
  · subst hj
    rw [hb] at h
    exact Or.inr ⟨rfl, (Option.some.inj h).symm⟩
  · exact Or.inl h

lemma get?_modifyWhere (t : Table β) (q : ℕ → β → Bool) (f : β → β) (i : ℕ) :
    (t.modifyWhere q f).get? i = (t.get? i).map fun b => if q i b then f b else b := by
  rw [modifyWhere, get?_mapRows]

lemma values_mapRows (t : Table β) (f : β → β) :
    (t.mapRows fun _ => f).values = t.values.map f := by
  simp [values, mapRows, Function.comp_def]

lemma mapRows_insert (t : Table β) (f : ℕ → β → β) (b : β) :
    (t.insert b).mapRows f = (t.mapRows f).insert (f t.next b) := by
  refine ext_rows ?_ rfl
  simp [insert, mapRows]

/-- A change of one row, seen through a change of every row. -/
lemma mapRows_modify {t : Table β} {f g g' : β → β} (h : ∀ b, f (g b) = g' (f b)) (i : ℕ) :
    (t.modify i g).mapRows (fun _ => f) = (t.mapRows fun _ => f).modify i g' := by
  refine ext_rows ?_ rfl
  simp only [modify, mapRows, List.map_map]
  refine List.map_congr_left fun p _ => ?_
  by_cases hp : p.1 = i <;> simp [hp, h]

/-- A change of one row that cannot be seen. -/
lemma mapRows_modify_eq {t : Table β} {f g : β → β} (h : ∀ b, f (g b) = f b) (i : ℕ) :
    (t.modify i g).mapRows (fun _ => f) = t.mapRows fun _ => f := by
  refine ext_rows ?_ rfl
  simp only [modify, mapRows, List.map_map]
  refine List.map_congr_left fun p _ => ?_
  by_cases hp : p.1 = i <;> simp [hp, h]

lemma modify_modify (t : Table β) (i : ℕ) (f g : β → β) :
    (t.modify i f).modify i g = t.modify i fun b => g (f b) := by
  refine ext_rows ?_ rfl
  simp only [modify, mapRows, List.map_map]
  refine List.map_congr_left fun p _ => ?_
  by_cases hp : p.1 = i <;> simp [hp]

/-- A test that one row alone passes. -/
lemma modifyWhere_eq_modify {t : Table β} {i : ℕ} {q : ℕ → β → Bool}
    (h : ∀ j b, t.get? j = some b → (q j b = true ↔ j = i)) (f : β → β) :
    t.modifyWhere q f = t.modify i f := by
  refine ext_rows (List.map_congr_left ?_) rfl
  rintro ⟨j, b⟩ hp
  simp only [h j b (t.mem_rows_iff.mp hp)]

/-- Only the row that is there decides what a change of it does. -/
lemma modify_congr {t : Table β} {i : ℕ} {b : β} (h : t.get? i = some b) {f g : β → β}
    (hfg : f b = g b) : t.modify i f = t.modify i g := by
  refine ext_rows (List.map_congr_left ?_) rfl
  rintro ⟨j, c⟩ hp
  by_cases hj : j = i
  · subst hj
    obtain rfl : c = b := Option.some.inj ((t.mem_rows_iff.mp hp).symm.trans h)
    simp [hfg]
  · simp [hj]

/-- A change of one row leaves the table as it is exactly when it leaves the row. -/
lemma modify_eq_self_iff {t : Table β} {i : ℕ} {b : β} (h : t.get? i = some b) {f : β → β} :
    t.modify i f = t ↔ f b = b := by
  constructor
  · intro heq
    have hget : (t.modify i f).get? i = some (f b) := by rw [get?_modify_self, h, Option.map_some]
    rw [heq, h, Option.some.injEq] at hget
    exact hget.symm
  · intro hf
    have hid : t.modify i id = t := by
      refine ext_rows ?_ rfl
      simp [modify, mapRows]
    exact (modify_congr h hf).trans hid

/-- A change of one row is invisible to a view of the rows that it leaves alone. -/
lemma map_values_modify (t : Table β) (i : ℕ) (f : β → β) (g : β → γ)
    (h : ∀ b, t.get? i = some b → g (f b) = g b) :
    (t.modify i f).values.map g = t.values.map g := by
  simp only [values, modify, mapRows, List.map_map]
  apply List.map_congr_left
  rintro ⟨j, b⟩ hp
  by_cases hj : j = i
  · subst hj
    simpa using h b (t.mem_rows_iff.mp hp)
  · simp [hj]

/-! ### Counting rows -/

private lemma countP_map_of_mem {l : List (ℕ × β)} (hnodup : (l.map Prod.fst).Nodup) {i : ℕ} {b : β}
    (h : (i, b) ∈ l) (f : β → β) (q : β → Bool) :
    ((l.map fun p => if p.1 = i then f p.2 else p.2).countP q) + (if q b then 1 else 0) =
      (l.map Prod.snd).countP q + (if q (f b) then 1 else 0) := by
  induction l with
  | nil => exact absurd h List.not_mem_nil
  | cons p l ih =>
    rw [List.map_cons, List.nodup_cons] at hnodup
    rcases List.mem_cons.mp h with rfl | hl
    · -- The other rows have other keys.
      have hrest : (l.map fun p => if p.1 = i then f p.2 else p.2) = l.map Prod.snd := by
        refine List.map_congr_left fun p hp => if_neg fun hpi => hnodup.1 ?_
        exact List.mem_map.mpr ⟨p, hp, hpi⟩
      rw [List.map_cons, List.map_cons, hrest, List.countP_cons, List.countP_cons]
      simp only [if_true]
      omega
    · have hne : p.1 ≠ i := fun hpi => hnodup.1 (List.mem_map.mpr ⟨_, hl, hpi.symm⟩)
      have hrec := ih hnodup.2 hl
      rw [List.map_cons, List.map_cons, List.countP_cons, List.countP_cons, if_neg hne]
      omega

/-- How counting the rows with a property changes when one of them is changed. -/
lemma countP_values_modify {t : Table β} {i : ℕ} {b : β} (h : t.get? i = some b) (f : β → β)
    (q : β → Bool) :
    (t.modify i f).values.countP q + (if q b then 1 else 0) =
      t.values.countP q + (if q (f b) then 1 else 0) := by
  have hvalues : (t.modify i f).values = t.rows.map fun p => if p.1 = i then f p.2 else p.2 := by
    simp [values, modify, mapRows, Function.comp_def]
  rw [hvalues]
  exact countP_map_of_mem t.nodup (t.mem_rows_iff.mpr h) f q

lemma countP_values_insert (t : Table β) (b : β) (q : β → Bool) :
    (t.insert b).values.countP q = t.values.countP q + (if q b then 1 else 0) := by
  rw [values_insert, List.countP_append, List.countP_singleton]

end Table

end Lib

/-
The rows of a table that share the value of a column, oldest first: the children of a parent.

A new row comes last in its group.  A change of one row under a key is a change in one place of
one group, and leaves the other groups as they are.
-/
import Asoju.Lib.Table

namespace Lib

namespace Table

variable {β κ : Type} [DecidableEq κ] (column : β → κ)

/-- The rows whose column has the value `k`, each with its key. -/
def groupRows (t : Table β) (k : κ) : List (ℕ × β) := t.rows.filter fun p => column p.2 = k

/-- The rows whose column has the value `k`. -/
def group (t : Table β) (k : κ) : List β := (t.groupRows column k).map Prod.snd

/-- The rows whose column has the value `k`, but for the one under the key `i`. -/
def groupOthers (t : Table β) (k : κ) (i : ℕ) : List β :=
  ((t.groupRows column k).filter fun p => p.1 ≠ i).map Prod.snd

/-- Where the row under the key `i` stands in its group. -/
def place (t : Table β) (k : κ) (i : ℕ) : ℕ := ((t.groupRows column k).map Prod.fst).idxOf i

variable {column}

lemma mem_group {t : Table β} {k : κ} {b : β} :
    b ∈ t.group column k ↔ b ∈ t.values ∧ column b = k := by
  simp only [group, groupRows, values, List.mem_map, List.mem_filter, decide_eq_true_eq]
  constructor
  · rintro ⟨p, ⟨hp, hk⟩, rfl⟩
    exact ⟨⟨p, hp, rfl⟩, hk⟩
  · rintro ⟨⟨p, hp, rfl⟩, hk⟩
    exact ⟨p, ⟨hp, hk⟩, rfl⟩

@[simp] lemma group_empty (k : κ) : (empty : Table β).group column k = [] := rfl

lemma group_insert (t : Table β) (b : β) (k : κ) :
    (t.insert b).group column k =
      if column b = k then t.group column k ++ [b] else t.group column k := by
  by_cases h : column b = k
  · simp [group, groupRows, rows_insert, h]
  · simp [group, groupRows, rows_insert, h]

/-! ### Changes of a row -/

section Modify

variable {t : Table β} {i : ℕ} {b : β} {k : κ}

/-- The rows of a group after a change that no column sees. -/
lemma groupRows_mapRows (t : Table β) {f : ℕ → β → β} (hf : ∀ i b, column (f i b) = column b)
    (k : κ) :
    (t.mapRows f).groupRows column k = (t.groupRows column k).map fun p => (p.1, f p.1 p.2) := by
  simp only [groupRows, mapRows, List.filter_map, Function.comp_def, hf]

lemma group_modifyWhere (t : Table β) (q : β → Bool) {f : β → β} (hf : ∀ b, column (f b) = column b)
    (k : κ) :
    (t.modifyWhere (fun _ b => q b) f).group column k =
      (t.group column k).map fun b => if q b then f b else b := by
  rw [group, modifyWhere, groupRows_mapRows, group, List.map_map, List.map_map]
  · rfl
  · intro _ b
    split
    · exact hf b
    · rfl

private lemma map_set_idxOf {l : List (ℕ × β)} (hnodup : (l.map Prod.fst).Nodup) (i : ℕ)
    (f : β → β) (h : (i, b) ∈ l) :
    (l.map Prod.snd)[(l.map Prod.fst).idxOf i]? = some b ∧
      (l.map fun p => if p.1 = i then f p.2 else p.2) =
        (l.map Prod.snd).set ((l.map Prod.fst).idxOf i) (f b) := by
  induction l with
  | nil => exact absurd h List.not_mem_nil
  | cons p l ih =>
    rw [List.map_cons, List.nodup_cons] at hnodup
    rw [List.map_cons, List.map_cons, List.map_cons]
    rcases List.mem_cons.mp h with rfl | hmem
    · -- No other row has the key.
      have hrest : (l.map fun p => if p.1 = i then f p.2 else p.2) = l.map Prod.snd := by
        refine List.map_congr_left fun p hp => if_neg fun hpi => hnodup.1 ?_
        exact List.mem_map.mpr ⟨p, hp, hpi⟩
      rw [List.idxOf_cons_self, hrest, if_pos rfl]
      exact ⟨rfl, rfl⟩
    · have hne : p.1 ≠ i := fun hpi => hnodup.1 (List.mem_map.mpr ⟨_, hmem, hpi.symm⟩)
      obtain ⟨hget, hset⟩ := ih hnodup.2 hmem
      rw [List.idxOf_cons_ne _ hne, if_neg hne, hset]
      exact ⟨hget, rfl⟩

private lemma eraseIdx_idxOf {l : List (ℕ × β)} (hnodup : (l.map Prod.fst).Nodup) (i : ℕ) :
    (l.map Prod.snd).eraseIdx ((l.map Prod.fst).idxOf i) =
      (l.filter fun p => p.1 ≠ i).map Prod.snd := by
  induction l with
  | nil => rfl
  | cons p l ih =>
    rw [List.map_cons, List.nodup_cons] at hnodup
    rw [List.map_cons, List.map_cons]
    by_cases hp : p.1 = i
    · have hrest : (l.filter fun p => p.1 ≠ i) = l := by
        refine List.filter_eq_self.mpr fun q hq => decide_eq_true fun hqi => hnodup.1 ?_
        exact List.mem_map.mpr ⟨q, hq, hqi.trans hp.symm⟩
      rw [hp, List.idxOf_cons_self, List.eraseIdx_cons_zero,
        List.filter_cons_of_neg (by simp [hp]), hrest]
    · rw [List.idxOf_cons_ne _ hp, List.eraseIdx_cons_succ, ih hnodup.2,
        List.filter_cons_of_pos (by simp [hp]), List.map_cons]

private lemma groupRows_nodup (t : Table β) (k : κ) :
    ((t.groupRows column k).map Prod.fst).Nodup :=
  t.nodup.sublist (List.filter_sublist.map Prod.fst)

private lemma mem_groupRows (h : t.get? i = some b) (hk : column b = k) :
    (i, b) ∈ t.groupRows column k :=
  List.mem_filter.mpr ⟨t.mem_rows_iff.mpr h, decide_eq_true hk⟩

lemma getElem?_place (h : t.get? i = some b) (hk : column b = k) :
    (t.group column k)[t.place column k i]? = some b :=
  (map_set_idxOf (t.groupRows_nodup k) i id (mem_groupRows h hk)).1

lemma eraseIdx_place (t : Table β) (k : κ) (i : ℕ) :
    (t.group column k).eraseIdx (t.place column k i) = t.groupOthers column k i :=
  eraseIdx_idxOf (t.groupRows_nodup k) i

/-- A change of the row under the key `i` that its column does not see. -/
lemma group_modify (h : t.get? i = some b) (hk : column b = k) {f : β → β}
    (hf : ∀ b, column (f b) = column b) :
    (t.modify i f).group column k = (t.group column k).set (t.place column k i) (f b) := by
  rw [group, modify, groupRows_mapRows, List.map_map]
  · exact (map_set_idxOf (t.groupRows_nodup k) i f (mem_groupRows h hk)).2
  · intro j b
    split
    · exact hf b
    · rfl

lemma group_modify_of_ne (h : t.get? i = some b) (hk : column b ≠ k) {f : β → β}
    (hf : ∀ b, column (f b) = column b) : (t.modify i f).group column k = t.group column k := by
  rw [group, modify, groupRows_mapRows, List.map_map, group]
  · refine List.map_congr_left fun p hp => if_neg fun hpi => hk ?_
    obtain ⟨hrow, hcolumn⟩ := List.mem_filter.mp hp
    have hget : t.get? p.1 = some p.2 := t.mem_rows_iff.mp hrow
    rw [hpi, h, Option.some.injEq] at hget
    rw [hget]
    exact of_decide_eq_true hcolumn
  · intro j b
    split
    · exact hf b
    · rfl

end Modify

end Table

/-- A change in one place of a list splits it there. -/
lemma exists_split_set {α : Type} {l : List α} {k : ℕ} {a : α} (h : l[k]? = some a) :
    ∃ pre post, l = pre ++ a :: post ∧ ∀ b, l.set k b = pre ++ b :: post := by
  obtain ⟨hk, rfl⟩ := List.getElem?_eq_some_iff.mp h
  refine ⟨l.take k, l.drop (k + 1), ?_, fun b => ?_⟩
  · rw [← List.drop_eq_getElem_cons hk, List.take_append_drop]
  · rw [List.set_eq_take_append_cons_drop, if_pos hk]

/-- A change in one place to what is filtered out. -/
lemma filter_set_of_not {α : Type} {l : List α} {k : ℕ} {b : α} {p : α → Bool} (h : p b = false) :
    (l.set k b).filter p = (l.eraseIdx k).filter p := by
  rw [List.set_eq_take_append_cons_drop, List.eraseIdx_eq_take_drop_succ]
  split
  · have hb : ¬ p b = true := by
      rw [h]
      exact Bool.false_ne_true
    rw [List.filter_append, List.filter_append, List.filter_cons_of_neg hb]
  next hk =>
    rw [List.drop_of_length_le (by omega), List.take_of_length_le (by omega), List.append_nil]

/-- How a change in one place changes what is counted. -/
lemma countP_set_add {α : Type} {l : List α} {k : ℕ} {a : α} (h : l[k]? = some a) (p : α → Bool)
    (b : α) :
    (l.set k b).countP p + (if p a then 1 else 0) = l.countP p + if p b then 1 else 0 := by
  obtain ⟨pre, post, rfl, hset⟩ := exists_split_set h
  rw [hset, List.countP_append, List.countP_append, List.countP_cons, List.countP_cons]
  omega

end Lib

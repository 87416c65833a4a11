/-
A client of a store that consists of tables.

`TableOf σ μ β` says where a table of rows `β` is in a store `σ`, under which name `μ` its accesses
are known, and that what is put there can be read back.  The calls of the client are programs of
one atomic action each: a query, the creation of a row, a change of one row or of all the rows with
a property, or a whole program as one transaction.  What a call fails with is left to its caller.
-/
import Asoju.Lib.Prog
import Asoju.Lib.Table

namespace Lib

/-- What an atomic action of a client does, and to which table. -/
inductive Access (μ : Type)
  | find (m : μ)
  | create (m : μ)
  | update (m : μ)
  | transaction
deriving DecidableEq, Repr

/-- A table of rows `β` in a store `σ`. -/
structure TableOf (σ μ β : Type) where
  model : μ
  get : σ → Table β
  put : Table β → σ → σ
  get_put : ∀ t s, get (put t s) = t

variable {σ μ ε α β : Type}

/-! ### What the writes do to the store -/

namespace TableOf

variable (r : TableOf σ μ β)

/-- The store after the creation of a row. -/
def insert (b : β) (s : σ) : σ := r.put ((r.get s).insert b) s

/-- The store after a change of the row under the key `i`. -/
def modify (i : ℕ) (f : β → β) (s : σ) : σ := r.put ((r.get s).modify i f) s

/-- The store after a change of all the rows that pass the test `q`. -/
def modifyWhere (q : β → Bool) (f : β → β) (s : σ) : σ :=
  r.put ((r.get s).modifyWhere (fun _ b => q b) f) s

/-- The store after a change of the row under the key `i`, if it passes the test `q`. -/
def modifyIf (i : ℕ) (q : β → Bool) (f : β → β) (s : σ) : σ :=
  if ((r.get s).get? i).any q then r.modify i f s else s

/-- The first row that passes the test `q`, with its key. -/
def find (q : β → Bool) (s : σ) : Option (ℕ × β) := (r.get s).rows.find? fun p => q p.2

@[simp] lemma get_insert (b : β) (s : σ) : r.get (r.insert b s) = (r.get s).insert b :=
  r.get_put _ _

@[simp] lemma get_modify (i : ℕ) (f : β → β) (s : σ) :
    r.get (r.modify i f s) = (r.get s).modify i f :=
  r.get_put _ _

@[simp] lemma get_modifyWhere (q : β → Bool) (f : β → β) (s : σ) :
    r.get (r.modifyWhere q f s) = (r.get s).modifyWhere (fun _ b => q b) f :=
  r.get_put _ _

variable {r} {q : β → Bool} {s : σ} {i : ℕ} {b : β}

/-- The row that is found is there, and passes the test. -/
lemma find_eq_some (h : r.find q s = some (i, b)) : (r.get s).get? i = some b ∧ q b = true :=
  ⟨(Table.mem_rows_iff _).mp (List.mem_of_find?_eq_some h), by simpa using List.find?_some h⟩

lemma find_eq_none_iff : r.find q s = none ↔ ∀ i b, (r.get s).get? i = some b → q b = false := by
  simp only [find, List.find?_eq_none, Prod.forall, Table.mem_rows_iff, Bool.not_eq_true]

end TableOf

/-! ### The calls -/

namespace Client

/-- A query: anything that only reads the store. -/
def query (m : μ) (f : σ → α) : Prog σ (Access μ) ε α := .read (.find m) f

/-- `findUnique` by key. -/
def findUnique (r : TableOf σ μ β) (i : ℕ) : Prog σ (Access μ) ε (Option β) :=
  query r.model fun s => (r.get s).get? i

/-- `findFirst`, or `findUnique` by a unique column. -/
def findFirst (r : TableOf σ μ β) (q : β → Bool) : Prog σ (Access μ) ε (Option (ℕ × β)) :=
  query r.model (r.find q)

/-- `create`: it returns the key of the row. -/
def create (r : TableOf σ μ β) (b : β) : Prog σ (Access μ) ε ℕ :=
  .atom (.create r.model) (r.insert b) fun s => .ret (r.get s).next

/-- `create` of a row with a unique column: it fails with `e` when a row passes the test `taken`. -/
def createUnique (r : TableOf σ μ β) (taken : β → Bool) (e : ε) (b : β) :
    Prog σ (Access μ) ε ℕ :=
  .atom (.create r.model) (fun s => if (r.find taken s).isSome then s else r.insert b s)
    fun s => if (r.find taken s).isSome then .fail e else .ret (r.get s).next

/-- `update` by key: it fails with `e` when there is no such row. -/
def update (r : TableOf σ μ β) (e : ε) (i : ℕ) (f : β → β) : Prog σ (Access μ) ε Unit :=
  .atom (.update r.model) (r.modify i f) fun s =>
    if ((r.get s).get? i).isSome then .ret () else .fail e

/-- `update` by key, which returns the changed row. -/
def updateRow (r : TableOf σ μ β) (e : ε) (i : ℕ) (f : β → β) : Prog σ (Access μ) ε β :=
  .atom (.update r.model) (r.modify i f) fun s =>
    match (r.get s).get? i with
    | some b => .ret (f b)
    | none => .fail e

/-- `update` by a unique column: it fails with `e` when no row passes the test `q`. -/
def updateUnique (r : TableOf σ μ β) (q : β → Bool) (e : ε) (f : β → β) :
    Prog σ (Access μ) ε Unit :=
  .atom (.update r.model)
    (fun s => match r.find q s with
      | some (i, _) => r.modify i f s
      | none => s)
    fun s => if (r.find q s).isSome then .ret () else .fail e

/-- `updateMany`: it returns the number of rows that it has changed. -/
def updateMany (r : TableOf σ μ β) (q : β → Bool) (f : β → β) : Prog σ (Access μ) ε ℕ :=
  .atom (.update r.model) (r.modifyWhere q f) fun s => .ret ((r.get s).values.countP q)

/-- `updateMany` by key and a test: it returns the number of rows that it has changed, which is one
or none. -/
def updateIf (r : TableOf σ μ β) (i : ℕ) (q : β → Bool) (f : β → β) : Prog σ (Access μ) ε ℕ :=
  .atom (.update r.model) (r.modifyIf i q f) fun s =>
    .ret (if ((r.get s).get? i).any q then 1 else 0)

/-- `upsert` by a unique column: the row that passes the test `q` is changed, or one is created. -/
def upsert (r : TableOf σ μ β) (q : β → Bool) (b : β) (f : β → β) : Prog σ (Access μ) ε Unit :=
  .write (.update r.model) fun s =>
    match r.find q s with
    | some (i, _) => r.modify i f s
    | none => r.insert b s

/-- The store after a program that is undone when it fails. -/
def committed (m : Prog σ (Access μ) ε α) (s : σ) : σ :=
  match m.run s with
  | (.ok _, s') => s'
  | (.error _, _) => s

/-- `$transaction`: the program runs with nothing in between, and a failure undoes what it has
done. -/
def transaction (m : Prog σ (Access μ) ε α) : Prog σ (Access μ) ε α :=
  .atom .transaction (committed m) fun s =>
    match (m.run s).1 with
    | .ok a => .ret a
    | .error e => .fail e

/-! ### Each call run alone -/

variable (r : TableOf σ μ β) (i : ℕ) (s : σ)

@[simp] lemma run_query (m : μ) (f : σ → α) :
    (query m f : Prog σ (Access μ) ε α).run s = (.ok (f s), s) := rfl

@[simp] lemma run_findUnique :
    (findUnique r i : Prog σ (Access μ) ε _).run s = (.ok ((r.get s).get? i), s) := rfl

@[simp] lemma run_findFirst (q : β → Bool) :
    (findFirst r q : Prog σ (Access μ) ε _).run s = (.ok (r.find q s), s) := rfl

@[simp] lemma run_create (b : β) :
    (create r b : Prog σ (Access μ) ε _).run s = (.ok (r.get s).next, r.insert b s) := rfl

lemma run_createUnique (taken : β → Bool) (e : ε) (b : β) :
    (createUnique r taken e b).run s =
      if (r.find taken s).isSome then (.error e, s) else (.ok (r.get s).next, r.insert b s) := by
  rw [createUnique, Prog.run_atom]
  split <;> rfl

lemma run_update (e : ε) (f : β → β) :
    (update r e i f).run s =
      (if ((r.get s).get? i).isSome then .ok () else .error e, r.modify i f s) := by
  rw [update, Prog.run_atom]
  split <;> rfl

lemma run_update_of_some {r : TableOf σ μ β} {i : ℕ} {s : σ} {b : β}
    (h : (r.get s).get? i = some b) (e : ε) (f : β → β) :
    (update r e i f).run s = (.ok (), r.modify i f s) := by
  rw [run_update, h, Option.isSome_some, if_pos rfl]

lemma run_updateRow_of_some {r : TableOf σ μ β} {i : ℕ} {s : σ} {b : β}
    (h : (r.get s).get? i = some b) (e : ε) (f : β → β) :
    (updateRow r e i f).run s = (.ok (f b), r.modify i f s) := by
  rw [updateRow, Prog.run_atom, h]
  rfl

lemma run_updateUnique_of_some {r : TableOf σ μ β} {q : β → Bool} {s : σ} {p : ℕ × β}
    (h : r.find q s = some p) (e : ε) (f : β → β) :
    (updateUnique r q e f).run s = (.ok (), r.modify p.1 f s) := by
  rw [updateUnique, Prog.run_atom]
  simp only [h, Option.isSome_some, if_true]
  rfl

@[simp] lemma run_updateMany (q : β → Bool) (f : β → β) :
    (updateMany r q f : Prog σ (Access μ) ε _).run s =
      (.ok ((r.get s).values.countP q), r.modifyWhere q f s) := rfl

@[simp] lemma run_updateIf (q : β → Bool) (f : β → β) :
    (updateIf r i q f : Prog σ (Access μ) ε _).run s =
      (.ok (if ((r.get s).get? i).any q then 1 else 0), r.modifyIf i q f s) := rfl

@[simp] lemma run_upsert (q : β → Bool) (b : β) (f : β → β) :
    (upsert r q b f : Prog σ (Access μ) ε _).run s =
      (.ok (), match r.find q s with
        | some (i, _) => r.modify i f s
        | none => r.insert b s) := rfl

lemma run_transaction (m : Prog σ (Access μ) ε α) :
    (transaction m).run s = ((m.run s).1, committed m s) := by
  rw [transaction, Prog.run_atom]
  cases (m.run s).1 <;> rfl

/-- What a transaction leaves behind: nothing, or what its program does. -/
lemma exec_transaction {m : Prog σ (Access μ) ε α} {s : σ} {Q : α → σ → Prop}
    (h : m.FailsOr s Q) : (transaction m).exec s = s ∨ ∃ a, Q a ((transaction m).exec s) := by
  rw [Prog.exec, run_transaction, committed]
  rcases h with ⟨e, s', hrun⟩ | ⟨a, s', hrun, hQ⟩
  · rw [hrun]
    exact Or.inl rfl
  · rw [hrun]
    exact Or.inr ⟨a, hQ⟩

end Client

end Lib

/-
The calls of the database client, seen by a protocol.

A call of the client is one action.  To check a program against a protocol it is enough to say,
for each of its calls in turn, that the protocol allows what the call does, and that the rest
follows the protocol from the phase that the call leads to.
-/
import Asoju.Prisma
import Asoju.Lib.Pool

namespace Asoju

open Lib

namespace Prisma

variable {φ α β γ : Type} {P : Protocol Db Act φ} {p : φ} {r : Rel β}

/-- The change of a row that is there. -/
lemma follows_update_bind {j : Id} {f : Time → β → β} {k : β → Svc α}
    (h : ∀ s, P.relies s → ∃ b, (r.get s).get? j = some b ∧
      P.allows p (.update r.model) s (s.modifyRow r j (f s.clock)) ∧
      P.Follows (P.next p (.update r.model) s) (k (f s.clock b))) :
    P.Follows p (update r j f >>= k) := by
  refine Protocol.Follows.atom_bind _ fun s hs => ?_
  obtain ⟨b, hb, hallows, hfollows⟩ := h s hs
  refine ⟨hallows, ?_⟩
  rw [hb]
  exact hfollows

/-- The change of a row, which ends the program when the row is missing. -/
lemma follows_update_or_fail_bind {j : Id} {f : Time → β → β} {k : β → Svc α}
    (h : ∀ s, P.relies s → P.allows p (.update r.model) s (s.modifyRow r j (f s.clock)) ∧
      P.final (P.next p (.update r.model) s) ∧
      ∀ b, P.Follows (P.next p (.update r.model) s) (k b)) :
    P.Follows p (update r j f >>= k) := by
  refine Protocol.Follows.atom_bind _ fun s hs => ?_
  obtain ⟨hallows, hfinal, hfollows⟩ := h s hs
  refine ⟨hallows, ?_⟩
  cases (r.get s).get? j with
  | none => exact hfinal
  | some b => exact hfollows _

/-- The creation of a row. -/
lemma follows_create_bind {b : Time → β} {k : Id → Svc α}
    (h : ∀ s, P.relies s → P.allows p (.create r.model) s (s.insertRow r (b s.clock)) ∧
      P.Follows (P.next p (.create r.model) s) (k (r.get s).next)) :
    P.Follows p (create r b >>= k) :=
  Protocol.Follows.atom_bind _ h

/-- A query. -/
lemma follows_query_bind {m : Model} {q : Db → γ} {k : γ → Svc α}
    (h : ∀ s, P.relies s → P.allows p (.find m) s s ∧ P.Follows (P.next p (.find m) s) (k (q s))) :
    P.Follows p (query m q >>= k) :=
  Protocol.Follows.read_bind _ h

/-- The creation of a row with a unique column, which ends the program when the value is
taken. -/
lemma follows_createUnique_bind {taken : Db → Bool} {b : Time → β} {k : Id → Svc α}
    (htaken : ∀ s, P.relies s → taken s = true →
      P.allows p (.create r.model) s s ∧ P.final (P.next p (.create r.model) s))
    (hfree : ∀ s, P.relies s → taken s = false →
      P.allows p (.create r.model) s (s.insertRow r (b s.clock)) ∧
        P.Follows (P.next p (.create r.model) s) (k (r.get s).next)) :
    P.Follows p (createUnique r taken b >>= k) := by
  refine Protocol.Follows.atom_bind _ fun s hs => ?_
  cases ht : taken s with
  | true => exact htaken s hs ht
  | false => exact hfree s hs ht

/-- A transaction, which ends the program. -/
lemma follows_atomically {m : Svc α}
    (h : ∀ s, P.relies s → P.allows p .transaction s (committed m s) ∧
      P.final (P.next p .transaction s)) : P.Follows p (atomically m) := by
  intro s hs
  refine ⟨(h s hs).1, ?_⟩
  dsimp only
  cases (m.run s).1 with
  | error e => exact (h s hs).2
  | ok a => exact (h s hs).2

/-- The call of the provider, which ends the program when it fails. -/
lemma follows_callProvider_bind {answer : Except String γ} {k : γ → Svc α}
    (h : ∀ s, P.relies s → P.allows p .provider s s ∧ P.final (P.next p .provider s) ∧
      ∀ a, P.Follows (P.next p .provider s) (k a)) :
    P.Follows p (callProvider answer >>= k) := by
  refine Protocol.Follows.atom_bind _ fun s hs => ?_
  obtain ⟨hallows, hfinal, hfollows⟩ := h s hs
  cases answer with
  | error e => exact ⟨hallows, hfinal⟩
  | ok a => exact ⟨hallows, hfollows a⟩

end Prisma

end Asoju

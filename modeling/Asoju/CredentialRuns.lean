/-
Interleavings of everything that writes users or tokens.

Every method looks something up and writes later, and anything can happen in between; every one of
its steps may fail, too.  What each of them relies on is little: a user stays there, with his
address and his role.  In return it creates an account only as it is called to, and sets a password
only with a token that was sent to the address of the account (`Trusted`).

From this it follows that a password is the one that the account began with or was set by somebody
who could read its mail (`passwords_rightful`); that the role in an access token is the role of its
user, however long ago it was signed (`tokens_current`); and that whoever has a role of the staff
has been appointed by an administrator (`staff_appointed`).
-/
import Asoju.Credentials
import Asoju.MfaRuns
import Asoju.WhatsAppNumbers

namespace Asoju

open Lib AuthService

/-! ## What stays -/

/-- Nobody goes away or becomes somebody else. -/
def Db.KeepsIdentities (d d' : Db) : Prop := ∀ i x, d.identity i = some x → d'.identity i = some x

lemma Db.KeepsIdentities.refl (d : Db) : d.KeepsIdentities d := fun _ _ h => h

lemma Db.KeepsIdentities.trans {a b c : Db} (hab : a.KeepsIdentities b)
    (hbc : b.KeepsIdentities c) : a.KeepsIdentities c := fun i x h => hbc i x (hab i x h)

lemma Db.identity_of_get? {d : Db} {i : Id} {user : User} (h : d.user.get? i = some user) :
    d.identity i = some user.identity := by
  rw [Db.identity, h, Option.map_some]

lemma Db.identity_congr {d d' : Db} (h : d'.user = d.user) (i : Id) :
    d'.identity i = d.identity i := by
  rw [Db.identity, Db.identity, h]

section Trust

variable (env : MfaEnv) (d₀ : Db) (es : List (Event AccountCall))

/-- A token with this hash is the user's by right. -/
def Vouched (d : Db) (i : Id) (tokenHash : String) : Prop :=
  (∀ email, Told env d₀ es i email tokenHash) ∨
    ∃ x, d.identity i = some x ∧ Told env d₀ es i x.email tokenHash

/-- The accounts and the tokens are there by right. -/
structure Trusted (d : Db) : Prop where
  users : ∀ i user, d.user.get? i = some user → Rightful env d₀ es i user
  staff : ∀ i user, d.user.get? i = some user → user.role ∈ provisionableStaffRoles →
    Appointed d₀ es i user.identity
  tokens : ∀ j t, d.passwordResetToken.get? j = some t → Vouched env d₀ es d t.userId t.tokenHash

/-- What an action does: it keeps the trust, and who the users are. -/
def Keeps (d d' : Db) : Prop :=
  Trusted env d₀ es d → Trusted env d₀ es d' ∧ d.KeepsIdentities d'

variable {env d₀ es} {d d' : Db}

lemma Vouched.told {i : Id} {tokenHash : String} (h : Vouched env d₀ es d i tokenHash)
    {user : User} (huser : d.user.get? i = some user) :
    Told env d₀ es i user.email tokenHash := by
  rcases h with h | ⟨x, hx, h⟩
  · exact h user.email
  · rw [Db.identity_of_get? huser] at hx
    cases hx
    exact h

lemma Vouched.later {i : Id} {tokenHash : String} (h : Vouched env d₀ es d i tokenHash)
    (hkeeps : d.KeepsIdentities d') : Vouched env d₀ es d' i tokenHash := by
  rcases h with h | ⟨x, hx, h⟩
  · exact Or.inl h
  · exact Or.inr ⟨x, hkeeps i x hx, h⟩

/-- In the beginning everything is as it was. -/
lemma trusted_start : Trusted env d₀ es d₀ where
  users i user h := ⟨user.account, Or.inl (by rw [h, Option.map_some]), rfl, Or.inl rfl⟩
  staff i user h _ := .stored (Db.identity_of_get? h)
  tokens j t h := Or.inl fun _ => Or.inl ⟨j, t, h, rfl, rfl⟩

/-! ### What an action may do -/

lemma Keeps.of_eq (huser : d'.user = d.user)
    (htoken : d'.passwordResetToken = d.passwordResetToken) : Keeps env d₀ es d d' := by
  intro h
  have hkeeps : d.KeepsIdentities d' := fun i x hx => (Db.identity_congr huser i).trans hx
  refine ⟨⟨fun i user hi => h.users i user (huser ▸ hi),
    fun i user hi => h.staff i user (huser ▸ hi), fun j t hj => ?_⟩, hkeeps⟩
  exact (h.tokens j t (htoken ▸ hj)).later hkeeps

lemma Keeps.refl (d : Db) : Keeps env d₀ es d d := .of_eq rfl rfl

lemma Keeps.trans {d'' : Db} (h : Keeps env d₀ es d d') (h' : Keeps env d₀ es d' d'') :
    Keeps env d₀ es d d'' := by
  intro ht
  obtain ⟨ht', hkeeps⟩ := h ht
  obtain ⟨ht'', hkeeps'⟩ := h' ht'
  exact ⟨ht'', hkeeps.trans hkeeps'⟩

/-- A user is changed, but neither who he is nor his password. -/
lemma keeps_modifyUser {f : User → User} (hf : ∀ u, (f u).account = u.account) (i : Id) (d : Db) :
    Keeps env d₀ es d (d.modifyRow .user i f) := by
  have hidentity : ∀ u, (f u).identity = u.identity := fun u => congrArg Account.identity (hf u)
  have hkeeps : d.KeepsIdentities (d.modifyRow .user i f) := by
    intro j x hx
    exact ((d.user.map_get?_modify i hidentity j).trans hx :)
  -- Every user has been there, with the same account.
  have hsame : ∀ j user, (d.modifyRow .user i f).user.get? j = some user →
      ∃ u, d.user.get? j = some u ∧ user.account = u.account := by
    intro j user hj
    change (d.user.modify i f).get? j = some user at hj
    rw [Table.get?_modify] at hj
    split_ifs at hj
    · obtain ⟨u, hu, rfl⟩ := Option.map_eq_some_iff.mp hj
      exact ⟨u, hu, hf u⟩
    · exact ⟨user, hj, rfl⟩
  refine fun h => ⟨⟨fun j user hj => ?_, fun j user hj hrole => ?_,
    fun j t hj => (h.tokens j t hj).later hkeeps⟩, hkeeps⟩
  · obtain ⟨u, hu, haccount⟩ := hsame j user hj
    obtain ⟨account, hopened, hid, hpassword⟩ := h.users j u hu
    have hidentity' : user.identity = u.identity := congrArg Account.identity haccount
    have hhash : user.passwordHash = u.passwordHash := congrArg Account.passwordHash haccount
    have hemail : user.email = u.email := congrArg Identity.email hidentity'
    exact ⟨account, hopened, hidentity'.trans hid, by rwa [hhash, hemail]⟩
  · obtain ⟨u, hu, haccount⟩ := hsame j user hj
    have hidentity' : user.identity = u.identity := congrArg Account.identity haccount
    rw [hidentity']
    have hroles : user.role = u.role := congrArg Identity.role hidentity'
    exact h.staff j u hu (hroles ▸ hrole)

/-- An account is created as one of the calls is to create it. -/
lemma keeps_insertUser {op : AccountOp} (hop : Started es op) {user : User}
    (hopens : op.opens env = some user.account)
    (hstaff : user.role ∈ provisionableStaffRoles → ∀ i, Appointed d₀ es i user.identity)
    (huser : d'.user = d.user.insert user)
    (htoken : d'.passwordResetToken = d.passwordResetToken) : Keeps env d₀ es d d' := by
  have hkeeps : d.KeepsIdentities d' := by
    intro i x hx
    obtain ⟨u, hu, rfl⟩ := Option.map_eq_some_iff.mp hx
    exact Db.identity_of_get? (huser ▸ Table.get?_insert_of_some hu user)
  refine fun h => ⟨⟨fun i u hi => ?_, fun i u hi hrole => ?_, fun j t hj => ?_⟩, hkeeps⟩
  · rw [huser] at hi
    rcases Table.get?_insert_cases hi with hi | ⟨-, rfl⟩
    · exact h.users i u hi
    · exact ⟨u.account, Or.inr ⟨op, hop, hopens⟩, rfl, Or.inl rfl⟩
  · rw [huser] at hi
    rcases Table.get?_insert_cases hi with hi | ⟨-, rfl⟩
    · exact h.staff i u hi hrole
    · exact hstaff hrole i
  · exact (h.tokens j t (htoken ▸ hj)).later hkeeps

/-- A token is created that is sent to the user. -/
lemma keeps_insertToken {t : PasswordResetToken} (huser : d'.user = d.user)
    (htoken : d'.passwordResetToken = d.passwordResetToken.insert t)
    (ht : Vouched env d₀ es d t.userId t.tokenHash) : Keeps env d₀ es d d' := by
  have hkeeps : d.KeepsIdentities d' := fun i x hx => (Db.identity_congr huser i).trans hx
  refine fun h => ⟨⟨fun i user hi => h.users i user (huser ▸ hi),
    fun i user hi => h.staff i user (huser ▸ hi), fun j u hj => ?_⟩, hkeeps⟩
  rw [htoken] at hj
  rcases Table.get?_insert_cases hj with hj | ⟨-, rfl⟩
  · exact (h.tokens j u hj).later hkeeps
  · exact ht.later hkeeps

/-- A password is set with a token that is the user's by right. -/
lemma keeps_resetPasswordTx {salt token newPassword : String}
    (hop : Started es (.resetPassword salt token newPassword)) {i userId : Id}
    (ht : Vouched env d₀ es d userId (env.sha256 token)) :
    Keeps env d₀ es d (resetPasswordTx i userId (env.argon2Hash salt newPassword) d) := by
  have huser : (resetPasswordTx i userId (env.argon2Hash salt newPassword) d).user =
      d.user.modify userId fun u =>
        { u with passwordHash := some (env.argon2Hash salt newPassword) } := rfl
  have hkeeps : d.KeepsIdentities
      (resetPasswordTx i userId (env.argon2Hash salt newPassword) d) := by
    intro j x hx
    rw [Db.identity, huser]
    exact (d.user.map_get?_modify userId (f := fun u =>
      { u with passwordHash := some (env.argon2Hash salt newPassword) }) (fun _ => rfl) j).trans hx
  refine fun h => ⟨⟨fun j user hj => ?_, fun j user hj hrole => ?_, fun j t hj => ?_⟩, hkeeps⟩
  · rw [huser, Table.get?_modify] at hj
    split_ifs at hj with hi
    · subst hi
      obtain ⟨u, hu, rfl⟩ := Option.map_eq_some_iff.mp hj
      obtain ⟨account, hopened, hid, -⟩ := h.users j u hu
      have htold : Told env d₀ es j u.email (env.sha256 token) := ht.told hu
      exact ⟨account, hopened, hid, Or.inr ⟨salt, token, newPassword, hop, rfl, htold⟩⟩
    · exact h.users j user hj
  · rw [huser, Table.get?_modify] at hj
    split_ifs at hj
    · obtain ⟨u, hu, rfl⟩ := Option.map_eq_some_iff.mp hj
      exact h.staff j u hu hrole
    · exact h.staff j user hj hrole
  · change (d.passwordResetToken.modify i _).get? j = some t at hj
    rw [Table.get?_modify] at hj
    split_ifs at hj
    · obtain ⟨t', ht', rfl⟩ := Option.map_eq_some_iff.mp hj
      exact (h.tokens j t' ht').later hkeeps
    · exact (h.tokens j t hj).later hkeeps

end Trust

/-! ## What the calls do -/

section Calls

variable {env : MfaEnv} {d₀ : Db} {es : List (Event AccountCall)} {isProduction : Bool}

/-- The role in the access token is the role of its user. -/
def Current (pair : TokenPair) (d : Db) : Prop :=
  (d.identity pair.accessToken.sub).map Identity.role = some pair.accessToken.role

/-- The tokens of the answer are current. -/
def AnswersWith {α : Type} (tokens : α → Option TokenPair) (r : Except HttpError α) (d : Db) :
    Prop := ∀ a pair, r = .ok a → tokens a = some pair → Current pair d

/-- The program does its part, and its outcome is as `Q` says. -/
abbrev Vouches (env : MfaEnv) (d₀ : Db) (es : List (Event AccountCall)) {α : Type}
    (Q : Except HttpError α → Db → Prop) (K : Db → Prop) (m : Svc α) : Prop :=
  m.Upholds (Trusted env d₀ es) Db.KeepsIdentities Q K

/-- Every step of the program keeps the trust, whatever has happened before. -/
abbrev Faithful (env : MfaEnv) (d₀ : Db) (es : List (Event AccountCall)) {α : Type} (m : Svc α) :
    Prop := m.EachStep fun _ => Keeps env d₀ es

/-- No step of the program writes users or tokens. -/
def LeavesAccounts {α : Type} (m : Svc α) : Prop :=
  m.EachStep fun _ s s' => s'.user = s.user ∧ s'.passwordResetToken = s.passwordResetToken

lemma LeavesAccounts.faithful {α : Type} {m : Svc α} (h : LeavesAccounts m) :
    Faithful env d₀ es m := .mono (fun _ _ _ hs => .of_eq hs.1 hs.2) h

/-- That the user is there stays known. -/
lemma stable_identity {i : Id} {x : Identity} (d d' : Db) (h : d.identity i = some x)
    (hkeeps : d.KeepsIdentities d') : d'.identity i = some x := hkeeps i x h

lemma Current.later {pair : TokenPair} {d d' : Db} (h : Current pair d)
    (hkeeps : d.KeepsIdentities d') : Current pair d' := by
  obtain ⟨x, hx, hrole⟩ := Option.map_eq_some_iff.mp h
  rw [Current, hkeeps _ x hx, Option.map_some, hrole]

/-- A program that answers with no tokens. -/
lemma vouches_none {α : Type} {m : Svc α}
    (h : Vouches env d₀ es (AnswersWith fun _ => none) (fun _ => True) m) :
    Vouches env d₀ es (AnswersWith id) (fun _ => True)
      (m >>= fun _ => pure none : Svc (Option TokenPair)) := by
  refine .bind h (fun a d _ _ b pair hb hpair => ?_) fun _ _ _ _ _ _ hr => nomatch hr
  cases hb
  cases hpair

lemma answersWith_none {α : Type} (r : Except HttpError α) (d : Db) :
    AnswersWith (fun _ => none) r d := fun _ _ _ hp => nomatch hp

lemma Faithful.vouches {α : Type} {m : Svc α} (h : Faithful env d₀ es m) :
    Vouches env d₀ es (AnswersWith fun _ => none) (fun _ => True) m :=
  .conseq (.of_eachStep (fun _ _ _ _ => trivial) h) fun r d _ _ => answersWith_none r d

/-- The rule of composition: nothing is said of a failure. -/
lemma vouches_bind {α β : Type} {tokens : α → Option TokenPair} {K : Db → Prop}
    {Q : Except HttpError β → Db → Prop} {m : Svc β} {f : β → Svc α}
    (hm : Vouches env d₀ es Q K m)
    (hf : ∀ b, Vouches env d₀ es (AnswersWith tokens) (Q (.ok b)) (f b)) :
    Vouches env d₀ es (AnswersWith tokens) K (m >>= f) :=
  .bind hm hf fun _ _ _ _ _ _ hr => nomatch hr

/-- A part whose steps all keep the trust takes nothing away of what is known. -/
lemma vouches_bind_of_faithful {α β : Type} {tokens : α → Option TokenPair} {K : Db → Prop}
    {m : Svc β} {f : β → Svc α} (hm : Faithful env d₀ es m)
    (hK : ∀ d d', K d → d.KeepsIdentities d' → K d')
    (hf : ∀ b, Vouches env d₀ es (AnswersWith tokens) K (f b)) :
    Vouches env d₀ es (AnswersWith tokens) K (m >>= f) :=
  vouches_bind (.of_eachStep hK hm) hf

lemma vouches_bind_of_leaves {α β : Type} {tokens : α → Option TokenPair} {K : Db → Prop}
    {m : Svc β} {f : β → Svc α} (hm : LeavesAccounts m)
    (hK : ∀ d d', K d → d.KeepsIdentities d' → K d')
    (hf : ∀ b, Vouches env d₀ es (AnswersWith tokens) K (f b)) :
    Vouches env d₀ es (AnswersWith tokens) K (m >>= f) :=
  vouches_bind_of_faithful hm.faithful hK hf

/-- Nothing is known, and nothing is taken away. -/
lemma stable_true (d d' : Db) (_ : True) (_ : d.KeepsIdentities d') : True := trivial

lemma vouches_throw {α : Type} {tokens : α → Option TokenPair} {K : Db → Prop} (e : HttpError) :
    Vouches env d₀ es (AnswersWith tokens) K (throw e) :=
  fun _ _ _ _ _ hr => nomatch hr

/-- A program that answers with the tokens of its outcome. -/
lemma vouches_tokens {α : Type} {m : Svc α} {tokens : α → Option TokenPair}
    (h : Vouches env d₀ es (AnswersWith tokens) (fun _ => True) m) :
    Vouches env d₀ es (AnswersWith id) (fun _ => True) (m >>= fun a => pure (tokens a)) := by
  refine vouches_bind h fun a d _ hd b pair hb hpair => ?_
  cases hb
  exact hd a pair rfl hpair

/-! ### Steps that write nothing here -/

lemma leaves_audit : LeavesAccounts Prisma.audit := fun _ => ⟨⟨rfl, rfl⟩, trivial⟩

lemma leaves_read {α : Type} (l : Act) (v : Db → α) : LeavesAccounts (.read l v) :=
  fun _ => ⟨⟨rfl, rfl⟩, trivial⟩

lemma leaves_callProvider {α : Type} (answer : Except String α) :
    LeavesAccounts (Prisma.callProvider answer) := by
  refine fun _ => ⟨⟨rfl, rfl⟩, ?_⟩
  cases answer <;> trivial

lemma leaves_codes (draw : ℕ → List UInt8) : LeavesAccounts (generateUniqueReferralCode draw) :=
  .mono (fun _ _ _ h => by rw [h]; exact ⟨rfl, rfl⟩) (eachStep_attemptCodes _ _)

/-! ### Sessions -/

/-- The tokens are for the user, with his role. -/
lemma vouches_issueTokens (random : String) {i : Id} {x : Identity} :
    Vouches env d₀ es (AnswersWith some) (fun d => d.identity i = some x)
      (issueTokens env.toAuthEnv random i x.role) := by
  refine vouches_bind_of_leaves (leaves_read _ _) stable_identity fun now => ?_
  refine vouches_bind_of_leaves (m := Prisma.createUnique .refreshToken _ _) (fun d => ?_)
    stable_identity fun _ d _ hx a pair ha hp => ?_
  · dsimp only
    split_ifs <;> exact ⟨⟨rfl, rfl⟩, trivial⟩
  · cases ha
    cases hp
    rw [Current, hx, Option.map_some]

lemma vouches_issueSession (random : String) {i : Id} {user : User} :
    Vouches env d₀ es (AnswersWith AuthResponse.tokens)
      (fun d => d.identity i = some user.identity) (issueSession env random i user) := by
  refine vouches_bind (vouches_issueTokens random) fun tokens d _ hd a pair ha hp => ?_
  cases ha
  cases hp
  exact hd tokens tokens rfl rfl

/-! ### New accounts -/

/-- Nobody who gets one of these roles is on the staff. -/
lemma not_staff : ∀ role ∈ [Role.customer, .beneficiary, .fieldAgent, .provider, .partner],
    role ∉ provisionableStaffRoles := by decide

variable {op : AccountOp} {user : User}

/-- The creation of an account, after which it is known whose it is. -/
lemma vouches_open (hop : Started es op) (hopens : op.opens env = some user.account)
    (hstaff : user.role ∈ provisionableStaffRoles → ∀ i, Appointed d₀ es i user.identity) {l : Act}
    {taken : Db → Bool} {w : Db → Db} {e : HttpError} (huser : ∀ d, (w d).user = d.user.insert user)
    (htoken : ∀ d, (w d).passwordResetToken = d.passwordResetToken) :
    Vouches env d₀ es (fun r d => ∀ i, r = .ok i → d.identity i = some user.identity)
      (fun _ => True) (.atom l (fun d => if taken d then d else w d) fun d =>
        if taken d then .fail e else .ret d.user.next) := by
  intro s hs _
  beta_reduce
  split_ifs
  · exact ⟨⟨hs, .refl s⟩, fun d _ _ i hi => nomatch hi⟩
  · refine ⟨keeps_insertUser hop hopens hstaff (huser s) (htoken s) hs, fun d _ hR i hi => ?_⟩
    cases hi
    refine hR _ _ (Db.identity_of_get? ?_)
    rw [huser s, Table.get?_insert_self]

lemma faithful_open (hop : Started es op) (hopens : op.opens env = some user.account)
    (hstaff : user.role ∈ provisionableStaffRoles → ∀ i, Appointed d₀ es i user.identity) {l : Act}
    {taken : Db → Bool} {w : Db → Db} {e : HttpError} {v : Db → Id}
    (huser : ∀ d, (w d).user = d.user.insert user)
    (htoken : ∀ d, (w d).passwordResetToken = d.passwordResetToken) :
    Faithful env d₀ es (.atom l (fun d => if taken d then d else w d) fun d =>
      if taken d then .fail e else .ret (v d) : Svc Id) := by
  intro s
  beta_reduce
  split_ifs
  · exact ⟨.refl s, trivial⟩
  · exact ⟨keeps_insertUser hop hopens hstaff (huser s) (htoken s), trivial⟩

/-- A registration looks everything up, creates the account and signs it in. -/
lemma vouches_register {salt random : String} {draw : ℕ → List UInt8} {dto : RegisterDto}
    (hop : Started es (.register salt random draw dto)) :
    Vouches env d₀ es (AnswersWith fun a => some a.tokens) (fun _ => True)
      (AuthService.register env salt random draw dto) := by
  rw [AuthService.register]
  refine vouches_bind_of_leaves (leaves_read _ _) stable_true fun existing => ?_
  split_ifs
  · exact vouches_throw _
  refine vouches_bind_of_leaves (leaves_read _ _) stable_true fun existingPhone => ?_
  split_ifs
  · exact vouches_throw _
  refine vouches_bind_of_leaves (leaves_codes draw) stable_true fun referralCode => ?_
  refine vouches_bind_of_leaves (?_ : LeavesAccounts (findReferrer env dto.referralCode))
    stable_true fun referrer => ?_
  · rw [findReferrer]
    cases nonEmpty dto.referralCode with
    | none => trivial
    | some code => exact leaves_read _ _
  refine vouches_bind_of_leaves (?_ : LeavesAccounts (findPartner env dto.partnerCode))
    stable_true fun partner => ?_
  · rw [findPartner]
    cases nonEmpty dto.partnerCode with
    | none => trivial
    | some code => exact leaves_read _ _
  refine vouches_bind (vouches_open hop rfl (absurd · (not_staff .customer (by decide)))
    (fun _ => rfl) fun _ => rfl) fun userId => ?_
  refine Prog.Upholds.weaken (K := fun d => d.identity userId = some
    (registeredUser env salt dto).identity) ?_ fun d _ h => h userId rfl
  refine vouches_bind_of_leaves leaves_audit stable_identity fun _ => ?_
  refine vouches_bind (vouches_issueTokens random) fun tokens d _ hd a pair ha hp => ?_
  cases ha
  exact hd tokens pair rfl hp

/-- An acceptance creates the account before it is the beneficiary's. -/
lemma vouches_acceptBeneficiaryInvite {salt random token email password : String}
    (hop : Started es (.acceptBeneficiaryInvite salt random token email password)) :
    Vouches env d₀ es (AnswersWith fun a => some a.2) (fun _ => True)
      (AuthService.acceptBeneficiaryInvite env.toAuthEnv salt random token email password) := by
  refine vouches_bind_of_leaves (leaves_read _ _) stable_true fun found => ?_
  rcases found with _ | ⟨inviteId, invite⟩
  · exact vouches_throw _
  dsimp only
  split_ifs
  · exact vouches_throw _
  refine vouches_bind_of_leaves (leaves_read _ _) stable_true fun now => ?_
  split_ifs
  · exact vouches_throw _
  refine vouches_bind_of_leaves (leaves_read _ _) stable_true fun beneficiary => ?_
  rcases beneficiary with _ | beneficiary
  · exact vouches_throw _
  dsimp only
  split_ifs
  · exact vouches_throw _
  refine vouches_bind_of_leaves (leaves_read _ _) stable_true fun existing => ?_
  split_ifs
  · exact vouches_throw _
  have hopens : (AccountOp.acceptBeneficiaryInvite salt random token email password).opens env =
    some (portalUser env.toAuthEnv salt email password beneficiary).account := rfl
  refine vouches_bind (vouches_open hop hopens (absurd · (not_staff .beneficiary (by decide)))
    (fun _ => rfl) fun _ => rfl) fun userId => ?_
  refine Prog.Upholds.weaken (K := fun d => d.identity userId = some
    (portalUser env.toAuthEnv salt email password beneficiary).identity) ?_
    fun d _ h => h userId rfl
  rw [claimAccount]
  refine vouches_bind_of_leaves (m := Prisma.transaction _ _) (fun d => ⟨⟨rfl, rfl⟩, trivial⟩)
    stable_identity fun _ => ?_
  refine vouches_bind_of_leaves leaves_audit stable_identity fun _ => ?_
  refine vouches_bind (vouches_issueTokens random) fun tokens d _ hd a pair ha hp => ?_
  cases ha
  exact hd tokens pair rfl hp

lemma faithful_createAgent {salt : String} {dto : CreateAgentDto}
    (hop : Started es (.createAgent salt dto)) :
    Faithful env d₀ es (AgentsService.createAgent env.toAuthEnv salt dto) := by
  refine .bind (leaves_read _ _).faithful fun existing => ?_
  split_ifs
  · trivial
  · exact .bind (faithful_open hop rfl (absurd · (not_staff .fieldAgent (by decide)))
      (fun _ => rfl) fun _ => rfl) fun _ =>
      .bind leaves_audit.faithful fun _ => trivial

lemma faithful_createProvider {salt : String} {dto : CreateProviderDto}
    (hop : Started es (.createProvider salt dto)) :
    Faithful env d₀ es (ProvidersService.createProvider env.argon2Hash salt dto) := by
  refine .bind (leaves_read _ _).faithful fun existing => ?_
  dsimp only
  split_ifs
  · trivial
  · refine .bind (faithful_open hop ?_ ?_ (fun _ => rfl) fun _ => rfl) fun _ =>
      .bind leaves_audit.faithful fun _ => trivial
    · rfl
    · exact (absurd · (not_staff .provider (by decide)))

/-! ### Messages -/

lemma leaves_transitionCase (actor : AuthenticatedUser) (caseId : Id) (toStatus : CaseStatus)
    (reason : Option String) :
    LeavesAccounts (CasesService.transitionCase actor caseId toStatus reason) := by
  refine .bind (leaves_read _ _) fun found => ?_
  rcases found with _ | serviceCase
  · trivial
  refine .bind ?_ fun _ => .bind (fun s => ⟨⟨rfl, rfl⟩, ?_⟩) fun _ =>
    .bind (fun s => ⟨⟨rfl, rfl⟩, trivial⟩) fun _ => trivial
  · rw [assertValidTransition]
    split_ifs <;> trivial
  · beta_reduce
    cases (Rel.serviceCase.get s).get? caseId <;> trivial

lemma leaves_recordApproval (actor : AuthenticatedUser) (caseId : Id) (action : ApprovalAction)
    (note : Option String) :
    LeavesAccounts (CasesService.recordApproval actor caseId action note) := by
  refine .bind (leaves_read _ _) fun found => ?_
  rcases found with _ | serviceCase
  · trivial
  refine .bind (fun s => ⟨⟨rfl, rfl⟩, trivial⟩) fun approval => ?_
  dsimp only
  split_ifs
  · exact .bind (leaves_transitionCase _ _ _ _) fun _ =>
      .bind (leaves_transitionCase _ _ _ _) fun _ => trivial
  · exact .bind (leaves_transitionCase _ _ _ _) fun _ => trivial
  · trivial

open WhatsappService in
/-- The first message from a number opens an account; the rest of the work is elsewhere. -/
lemma faithful_handleInboundMessage {m : InboundMessage}
    (hop : Started es (.handleInboundMessage m)) :
    Faithful env d₀ es (handleInboundMessage m) := by
  refine .bind ?_ fun x => ?_
  · refine .bind (leaves_read _ _).faithful fun existing => ?_
    rcases existing with _ | ⟨threadId, thread, user⟩
    · refine .bind (leaves_codes m.draw).faithful fun code => ?_
      refine .bind (faithful_open hop ?_ ?_ (fun _ => rfl) fun _ => rfl) fun userId => ?_
      · rfl
      · exact (absurd · (not_staff .customer (by decide)))
      refine .bind (fun s => ?_) fun _ => .bind leaves_audit.faithful fun _ => trivial
      dsimp only
      split_ifs
      · exact ⟨.refl s, trivial⟩
      · exact ⟨.of_eq rfl rfl, trivial⟩
    · trivial
  · obtain ⟨threadId, thread, userId⟩ := x
    refine LeavesAccounts.faithful ?_
    rcases m.button with _ | ⟨action, caseId⟩
    · refine .bind (leaves_callProvider _) fun turn => .bind (fun s => ⟨⟨rfl, rfl⟩, ?_⟩) fun _ =>
        .bind leaves_audit fun _ => trivial
      beta_reduce
      cases (Rel.whatsAppThread.get s).get? threadId <;> trivial
    · refine .bind (leaves_read _ _) fun found => ?_
      rcases found with _ | ⟨serviceCase, _ | owner⟩
      · trivial
      · trivial
      · dsimp only
        split_ifs
        · trivial
        · exact .bind (leaves_recordApproval _ _ _ _) fun _ => .bind leaves_audit fun _ => trivial

/-! ### Tokens of links -/

lemma Db.user_of_userByEmail_eq {d : Db} {email : String} {i : Id} {user : User}
    (h : d.userByEmail email = some (i, user)) :
    d.user.get? i = some user ∧ user.email = some email := by
  have hemail := List.find?_some h
  exact ⟨Db.user_of_userByEmail h, of_decide_eq_true hemail⟩

/-- The token is sent to the address of the user that it is created for. -/
lemma vouches_createPasswordResetToken (hop : Started es op) {token email : String}
    (hsends : op.sends = some (token, email)) {userId : Id} {x : Identity}
    (hx : x.email = some email) :
    Vouches env d₀ es (fun _ d => d.identity userId = some x) (fun d => d.identity userId = some x)
      (createPasswordResetToken env.toAuthEnv token userId) := by
  intro s hs hidentity
  have htold : Told env d₀ es userId x.email (env.sha256 token) :=
    Or.inr ⟨op, token, email, hop, hsends, rfl, hx⟩
  dsimp only
  split_ifs
  · exact ⟨⟨hs, .refl s⟩, fun d _ hR => hR _ _ hidentity⟩
  · have hvouched : Vouched env d₀ es s userId (env.sha256 token) := Or.inr ⟨x, hidentity, htold⟩
    have hinsert : Keeps env d₀ es s (s.insertRow .passwordResetToken
        { userId, tokenHash := hashToken env.toAuthEnv token
          expiresAt := s.clock + passwordResetTtlMs }) := keeps_insertToken rfl rfl hvouched
    obtain ⟨hs', hR⟩ := hinsert hs
    exact ⟨⟨hs', hR⟩, fun d _ hR' => hR' _ _ (hR _ _ hidentity)⟩

lemma vouches_forgotPassword {token email : String}
    (hop : Started es (.forgotPassword token email)) :
    Vouches env d₀ es (AnswersWith fun _ => none) (fun _ => True)
      (AuthService.forgotPassword env.toAuthEnv isProduction token email) := by
  refine .read_bind Db.KeepsIdentities.refl fun s _ _ => ?_
  rcases hfound : s.userByEmail email with _ | ⟨userId, user⟩
  · exact fun d _ _ => answersWith_none _ d
  obtain ⟨huser, hemail⟩ := Db.user_of_userByEmail_eq hfound
  refine Prog.Upholds.weaken (K := fun d => d.identity userId = some user.identity) ?_
    fun d _ hR => hR _ _ (Db.identity_of_get? huser)
  refine vouches_bind (vouches_createPasswordResetToken hop rfl hemail) fun _ => ?_
  refine vouches_bind_of_leaves leaves_audit stable_identity fun _ => ?_
  refine vouches_bind_of_leaves (m := Prisma.notify) (fun d => ⟨⟨rfl, rfl⟩, trivial⟩)
    stable_identity fun _ => ?_
  refine vouches_bind_of_leaves (leaves_callProvider _) stable_identity fun _ => ?_
  exact fun d _ _ => answersWith_none _ d

/-- An administrator's account is created and a token for it, which is sent to its address. -/
lemma vouches_adminProvisionAccount (hop : Started es op) {draws : ProvisionDraws} {email : String}
    {role : Role}
    (hopens : op.opens env = some (provisionedUser env.toAuthEnv draws email role).account)
    (hstaff : role ∈ provisionableStaffRoles → ∀ i, Appointed d₀ es i ⟨some email, role⟩)
    (hsends : op.sends = some (draws.token, email)) :
    Vouches env d₀ es (AnswersWith fun _ => none) (fun _ => True)
      (adminProvisionAccount env.toAuthEnv isProduction draws email role) := by
  refine vouches_bind_of_leaves (leaves_read _ _) stable_true fun existing => ?_
  split
  · exact vouches_throw _
  refine vouches_bind (vouches_open hop hopens hstaff (fun _ => rfl) fun _ => rfl) fun userId => ?_
  refine Prog.Upholds.weaken (K := fun d => d.identity userId = some
    (provisionedUser env.toAuthEnv draws email role).identity) ?_ fun d _ h => h userId rfl
  refine vouches_bind_of_leaves leaves_audit stable_identity fun _ => ?_
  refine vouches_bind (vouches_createPasswordResetToken hop hsends rfl) fun _ => ?_
  refine vouches_bind_of_leaves (leaves_callProvider _) stable_identity fun _ => ?_
  exact fun d _ _ => answersWith_none _ d

/-- Whoever the token is for has the role that lets him through, and keeps it. -/
lemma vouches_createStaffAccount {payload : AccessToken} {draws : ProvisionDraws}
    {email : String} {role : Role}
    (hop : Started es (.createStaffAccount payload draws email role)) :
    Vouches env d₀ es (AnswersWith fun _ => none) (fun _ => True)
      (AuthController.createStaffAccount env.toAuthEnv isProduction payload draws email role) := by
  rw [AuthController.createStaffAccount, JwtStrategy.validate, Prog.bind_assoc]
  refine .read_bind Db.KeepsIdentities.refl fun s hs _ => ?_
  rcases huser : (Rel.user.get s).get? payload.sub with _ | user
  · exact vouches_throw _
  refine Prog.Upholds.weaken (K := fun _ => True) ?_ fun _ _ _ => trivial
  dsimp only
  split
  · show Vouches env d₀ es (AnswersWith fun _ => none) (fun _ => True)
      (if RolesGuard.canActivate accountAdminRoles ⟨payload.sub, user.role⟩ = false then _ else _)
    split_ifs with hguard hrole
    · exact vouches_throw _
    · rw [Bool.not_eq_false, RolesGuard.canActivate, decide_eq_true_eq] at hguard
      have hadmin : user.role ∈ accountAdminRoles := hguard.resolve_left (by decide)
      have hstaff : user.role ∈ provisionableStaffRoles := by
        revert hadmin
        cases user.role <;> decide
      exact vouches_adminProvisionAccount hop rfl
        (fun _ i => .appointed (hs.staff payload.sub user huser hstaff) hadmin hop) rfl
    · exact vouches_throw _
  · exact vouches_throw _

lemma vouches_createPartnerContact {draws : ProvisionDraws} {partnerId : Id} {email : String}
    (hop : Started es (.createPartnerContact draws partnerId email)) :
    Vouches env d₀ es (AnswersWith fun _ => none) (fun _ => True)
      (PartnersService.createPartnerContact env.toAuthEnv isProduction draws partnerId email) := by
  refine vouches_bind_of_leaves (leaves_read _ _) stable_true fun partner => ?_
  rcases partner with _ | partner
  · exact vouches_throw _
  refine vouches_bind (vouches_adminProvisionAccount hop rfl
    (absurd · (not_staff .partner (by decide))) rfl) fun answer => ?_
  refine Prog.Upholds.weaken (K := fun _ => True) ?_ fun _ _ _ => trivial
  exact vouches_bind_of_leaves leaves_audit stable_true fun _ d _ _ => answersWith_none _ d

/-- The password is set with the token that was looked up in the beginning. -/
lemma vouches_resetPassword {salt token newPassword : String}
    (hop : Started es (.resetPassword salt token newPassword)) :
    Vouches env d₀ es (AnswersWith fun _ => none) (fun _ => True)
      (AuthService.resetPassword env.toAuthEnv salt token newPassword) := by
  refine .read_bind Db.KeepsIdentities.refl fun s hs _ => ?_
  rcases hfound : s.passwordResetTokenByHash (hashToken env.toAuthEnv token) with _ | ⟨i, stored⟩
  · exact vouches_throw _
  have hrow : s.passwordResetToken.get? i = some stored :=
    s.passwordResetToken.mem_rows_iff.mp (List.mem_of_find?_eq_some hfound)
  have hfind := List.find?_some hfound
  have hhash : stored.tokenHash = env.sha256 token := of_decide_eq_true hfind
  have hvouched : Vouched env d₀ es s stored.userId (env.sha256 token) :=
    hhash ▸ hs.tokens i stored hrow
  refine Prog.Upholds.weaken (K := fun d => Vouched env d₀ es d stored.userId (env.sha256 token)) ?_
    fun d _ hR => hvouched.later hR
  dsimp only
  split_ifs
  · exact vouches_throw _
  refine vouches_bind_of_leaves (leaves_read _ _) (fun _ _ h hR => h.later hR) fun now => ?_
  split_ifs
  · exact vouches_throw _
  refine fun s hs hK => ⟨keeps_resetPasswordTx hop hK hs, ?_⟩
  exact fun s' _ _ => ⟨Keeps.of_eq rfl rfl ‹_›, fun d _ _ => answersWith_none _ d⟩

/-! ### Logins -/

/-- The user is changed, but neither who he is nor his password. -/
lemma faithful_updateUser {f : Time → User → User} (hf : ∀ now u, (f now u).account = u.account)
    (userId : Id) : Faithful env d₀ es (Prisma.update .user userId f) := by
  refine fun s => ⟨keeps_modifyUser (hf s.clock) userId s, ?_⟩
  beta_reduce
  cases (Rel.user.get s).get? userId <;> trivial

lemma leaves_signMfaToken (userId : Id) (purpose : String) :
    LeavesAccounts (signMfaToken env userId purpose) := .bind (leaves_read _ _) fun _ => trivial

lemma leaves_verifyTotpCode (secret code : String) :
    LeavesAccounts (AuthService.verifyTotpCode env secret code) :=
  .bind (leaves_read _ _) fun _ => trivial

lemma leaves_verifyMfaToken (token : String) : LeavesAccounts (verifyMfaToken env token) :=
  .bind (leaves_read _ _) fun _ => trivial

lemma leaves_findUniqueOrThrow (i : Id) : LeavesAccounts (Prisma.findUniqueOrThrow .user i) := by
  refine .bind (leaves_read _ _) fun found => ?_
  cases found <;> trivial

/-- An answer without tokens. -/
lemma vouches_answer {K : Db → Prop} {a : AuthResponse} (ha : a.tokens = none) :
    Vouches env d₀ es (AnswersWith AuthResponse.tokens) K (pure a) := by
  intro d _ _ b pair hb hp
  cases hb
  rw [ha] at hp
  cases hp

lemma vouches_login (random : String) (dto : LoginDto) :
    Vouches env d₀ es (AnswersWith AuthResponse.tokens) (fun _ => True)
      (AuthService.login env random dto) := by
  refine .read_bind Db.KeepsIdentities.refl fun s _ _ => ?_
  rcases hfound : s.userByEmail dto.email with _ | ⟨i, user⟩
  · exact vouches_throw _
  refine Prog.Upholds.weaken (K := fun d => d.identity i = some user.identity) ?_
    fun d _ hR => hR _ _ (Db.identity_of_get? (Db.user_of_userByEmail hfound))
  dsimp only
  rcases nonEmpty user.passwordHash with _ | passwordHash
  · exact vouches_throw _
  dsimp only
  split_ifs
  · exact vouches_throw _
  rw [loginWith]
  split_ifs
  · exact vouches_bind_of_leaves (leaves_signMfaToken _ _) stable_identity fun _ =>
      vouches_bind_of_leaves leaves_audit stable_identity fun _ => vouches_answer rfl
  · exact vouches_bind_of_leaves (leaves_signMfaToken _ _) stable_identity fun _ =>
      vouches_bind_of_leaves leaves_audit stable_identity fun _ => vouches_answer rfl
  · exact vouches_bind_of_leaves leaves_audit stable_identity fun _ => vouches_issueSession random

lemma vouches_verifyMfaLogin (random mfaToken code : String) :
    Vouches env d₀ es (AnswersWith AuthResponse.tokens) (fun _ => True)
      (AuthService.verifyMfaLogin env random mfaToken code) := by
  refine vouches_bind_of_leaves (leaves_verifyMfaToken _) stable_true fun payload => ?_
  rcases payload with _ | payload
  · exact vouches_throw _
  dsimp only
  split_ifs
  · exact vouches_throw _
  refine .read_bind Db.KeepsIdentities.refl fun s _ _ => ?_
  rcases huser : (Rel.user.get s).get? payload.sub with _ | user
  · exact vouches_throw _
  refine Prog.Upholds.weaken (K := fun d => d.identity payload.sub = some user.identity) ?_
    fun d _ hR => hR _ _ (Db.identity_of_get? huser)
  dsimp only
  rw [answerChallenge]
  rcases nonEmpty user.mfaSecret with _ | secret
  · exact vouches_throw _
  dsimp only
  split_ifs
  · exact vouches_throw _
  refine vouches_bind_of_leaves (leaves_verifyTotpCode _ _) stable_identity fun valid => ?_
  split_ifs
  · exact vouches_bind_of_leaves leaves_audit stable_identity fun _ => vouches_issueSession random
  · exact vouches_bind_of_leaves leaves_audit stable_identity fun _ => vouches_throw _

/-! ### Second factors -/

/-- The user that an enrollment token is for is there. -/
lemma vouches_requireMfaEnrollmentUser (enrollmentToken : String) :
    Vouches env d₀ es (fun r d => ∀ x, r = .ok x → d.identity x.1 = some x.2.identity)
      (fun _ => True) (requireMfaEnrollmentUser env enrollmentToken) := by
  have hfail {K : Db → Prop} (e : HttpError) :
      Vouches env d₀ es (fun r d => ∀ x : Id × User, r = .ok x → d.identity x.1 = some x.2.identity)
        K (throw e) := fun _ _ _ _ hx => nomatch hx
  refine .bind (.of_eachStep stable_true (leaves_verifyMfaToken enrollmentToken).faithful)
    (fun payload => ?_) fun _ _ _ _ _ hx => nomatch hx
  rcases payload with _ | payload
  · exact hfail _
  dsimp only
  split_ifs
  · exact hfail _
  refine .read_bind Db.KeepsIdentities.refl fun s _ _ => ?_
  rcases huser : (Rel.user.get s).get? payload.sub with _ | user
  · exact hfail _
  dsimp only
  split_ifs
  · intro d _ hR x hx
    cases hx
    exact hR _ _ (Db.identity_of_get? huser)
  · exact hfail _

lemma faithful_enrollMfa (random : List UInt8) (userId : Id) :
    Faithful env d₀ es (AuthService.enrollMfa random userId) := by
  refine .bind (leaves_findUniqueOrThrow _).faithful fun user => ?_
  refine .bind (faithful_updateUser (fun now u => ?_) userId) fun _ => trivial
  rfl

lemma faithful_confirmMfa (userId : Id) (code : String) :
    Faithful env d₀ es (AuthService.confirmMfa env userId code) := by
  refine .bind (leaves_findUniqueOrThrow _).faithful fun user => ?_
  rcases nonEmpty user.mfaSecret with _ | secret
  · trivial
  refine .bind (leaves_verifyTotpCode _ _).faithful fun valid => ?_
  split
  · refine .bind (faithful_updateUser (fun now u => ?_) userId) fun _ =>
      .bind leaves_audit.faithful fun _ => trivial
    rfl
  · trivial

lemma faithful_disableMfa (userId : Id) (password : String) :
    Faithful env d₀ es (AuthService.disableMfa env userId password) := by
  refine .bind (leaves_findUniqueOrThrow _).faithful fun user => ?_
  rcases nonEmpty user.passwordHash with _ | passwordHash
  · trivial
  dsimp only
  split
  · refine .bind (faithful_updateUser (fun now u => ?_) userId) fun _ =>
      .bind leaves_audit.faithful fun _ => trivial
    rfl
  · trivial

lemma vouches_enrollMfaWithToken (random : List UInt8) (enrollmentToken : String) :
    Vouches env d₀ es (AnswersWith fun _ => none) (fun _ => True)
      (AuthService.enrollMfaWithToken env random enrollmentToken) := by
  refine vouches_bind (vouches_requireMfaEnrollmentUser enrollmentToken) fun x => ?_
  exact (faithful_enrollMfa random x.1).vouches.weaken fun _ _ _ => trivial

lemma vouches_confirmMfaEnrollmentRequired (random enrollmentToken code : String) :
    Vouches env d₀ es (AnswersWith AuthResponse.tokens) (fun _ => True)
      (AuthService.confirmMfaEnrollmentRequired env random enrollmentToken code) := by
  refine vouches_bind (vouches_requireMfaEnrollmentUser enrollmentToken) fun x => ?_
  obtain ⟨i, user⟩ := x
  refine Prog.Upholds.weaken (K := fun d => d.identity i = some user.identity) ?_
    fun d _ h => h (i, user) rfl
  dsimp only
  rcases nonEmpty user.mfaSecret with _ | secret
  · exact vouches_throw _
  refine vouches_bind_of_leaves (leaves_verifyTotpCode _ _) stable_identity fun valid => ?_
  split_ifs
  · refine vouches_bind_of_faithful (faithful_updateUser (fun now u => ?_) i) stable_identity
      fun _ => vouches_bind_of_leaves leaves_audit stable_identity fun _ =>
        vouches_bind_of_leaves leaves_audit stable_identity fun _ => vouches_issueSession random
    rfl
  · exact vouches_bind_of_leaves leaves_audit stable_identity fun _ => vouches_throw _

/-! ### Sessions and the staff -/

lemma vouches_refresh (random refreshToken : String) :
    Vouches env d₀ es (AnswersWith some) (fun _ => True)
      (AuthService.refresh env.toAuthEnv random refreshToken) := by
  refine vouches_bind_of_leaves (leaves_read _ _) stable_true fun found => ?_
  rcases found with _ | ⟨i, stored⟩
  · exact vouches_throw _
  dsimp only
  split_ifs
  · exact vouches_throw _
  refine vouches_bind_of_leaves (leaves_read _ _) stable_true fun now => ?_
  split_ifs
  · exact vouches_throw _
  refine .read_bind Db.KeepsIdentities.refl fun s _ _ => ?_
  rcases huser : (Rel.user.get s).get? stored.userId with _ | user
  · exact vouches_throw _
  refine Prog.Upholds.weaken (K := fun d => d.identity stored.userId = some user.identity) ?_
    fun d _ hR => hR _ _ (Db.identity_of_get? huser)
  dsimp only
  split_ifs
  · refine vouches_bind_of_leaves (m := Prisma.update .refreshToken i RefreshToken.revoke)
      (fun s => ⟨⟨rfl, rfl⟩, ?_⟩) stable_identity fun _ => vouches_issueTokens random
    beta_reduce
    cases (Rel.refreshToken.get s).get? i <;> trivial
  · exact vouches_throw _

lemma faithful_deactivateStaffAccount (actor : AuthenticatedUser) (userId : Id) :
    Faithful env d₀ es (AuthService.deactivateStaffAccount actor userId) := by
  refine .bind (leaves_read _ _).faithful fun user => ?_
  rcases user with _ | user
  · trivial
  dsimp only
  split
  · trivial
  split
  · trivial
  · refine .bind (fun s => ⟨?_, trivial⟩) fun _ => .bind leaves_audit.faithful fun _ => trivial
    have hmodify : Keeps env d₀ es s
        (s.modifyRow .user userId fun u => { u with isActive := false }) := by
      refine keeps_modifyUser (fun u => ?_) userId s
      rfl
    exact hmodify.trans (.of_eq rfl rfl)

lemma faithful_reactivateStaffAccount (userId : Id) :
    Faithful env d₀ es (AuthService.reactivateStaffAccount userId) := by
  refine .bind (leaves_read _ _).faithful fun user => ?_
  rcases user with _ | user
  · trivial
  dsimp only
  split
  · trivial
  · refine .bind (faithful_updateUser (fun now u => ?_) userId) fun _ =>
      .bind leaves_audit.faithful fun _ => trivial
    rfl

/-- The two writes of a change of the preferences. -/
lemma faithful_updateRows (userId : Id) (dto : UpdatePreferencesDto) :
    Faithful env d₀ es (ProfileService.updateRows userId dto) := by
  refine .bind (fun s => ⟨?_, ?_⟩) fun user => ?_
  · dsimp only
    split_ifs
    · exact .refl s
    · refine keeps_modifyUser (fun u => ?_) userId s
      rfl
  · beta_reduce
    cases s.user.get? userId with
    | none => trivial
    | some user =>
      dsimp only
      split_ifs <;> trivial
  · rcases dto.fullName with _ | fullName
    · trivial
    · refine .bind (fun s => ⟨.of_eq rfl rfl, ?_⟩) fun _ => trivial
      beta_reduce
      split_ifs <;> trivial

lemma faithful_updatePreferences (user : AuthenticatedUser) (dto : UpdatePreferencesDto) :
    Faithful env d₀ es (ProfileService.updatePreferences user dto) := by
  refine .bind (fun s => ⟨?_, ?_⟩) fun _ => .bind leaves_audit.faithful fun _ =>
    .bind (leaves_read _ _).faithful fun _ => trivial
  · have hrows : Faithful env d₀ es (ProfileService.updateRows user.id dto) :=
      faithful_updateRows user.id dto
    have hkeeps := hrows.keeps Keeps.refl (fun _ _ _ => Keeps.trans) s
    rw [Prog.exec] at hkeeps
    rw [Prisma.committed]
    rcases hrun : (ProfileService.updateRows user.id dto).run s with ⟨r | r, s'⟩
    · exact .refl s
    · rwa [hrun] at hkeeps
  · beta_reduce
    cases ((ProfileService.updateRows user.id dto).run s).1 <;> trivial

/-! ### All of them -/

/-- **Every call does its part**, wherever it fails. -/
theorem AccountCall.vouches {c : AccountCall} (hc : .start c ∈ es) :
    Vouches env d₀ es (AnswersWith id) (fun _ => True) (c.code env isProduction) := by
  obtain ⟨op, fault⟩ := c
  have hop : Started es op := ⟨fault, hc⟩
  refine .withFault ?_ (fun e d a pair hr => nomatch hr) fault
  cases op with
  | register salt random draw dto => exact vouches_tokens (vouches_register hop)
  | handleInboundMessage m => exact vouches_none (faithful_handleInboundMessage hop).vouches
  | acceptBeneficiaryInvite salt random token email password =>
    exact vouches_tokens (vouches_acceptBeneficiaryInvite hop)
  | createAgent salt dto => exact vouches_none (faithful_createAgent hop).vouches
  | createProvider salt dto => exact vouches_none (faithful_createProvider hop).vouches
  | createPartnerContact draws partnerId email =>
    exact vouches_none (vouches_createPartnerContact hop)
  | createStaffAccount payload draws email role =>
    exact vouches_none (vouches_createStaffAccount hop)
  | forgotPassword token email => exact vouches_none (vouches_forgotPassword hop)
  | resetPassword salt token newPassword => exact vouches_none (vouches_resetPassword hop)
  | login random dto => exact vouches_tokens (vouches_login random dto)
  | verifyMfaLogin random mfaToken code =>
    exact vouches_tokens (vouches_verifyMfaLogin random mfaToken code)
  | enrollMfaWithToken random enrollmentToken =>
    exact vouches_none (vouches_enrollMfaWithToken random enrollmentToken)
  | confirmMfaEnrollmentRequired random enrollmentToken code =>
    exact vouches_tokens (vouches_confirmMfaEnrollmentRequired random enrollmentToken code)
  | enrollMfa random userId => exact vouches_none (faithful_enrollMfa random userId).vouches
  | confirmMfa userId code => exact vouches_none (faithful_confirmMfa userId code).vouches
  | disableMfa userId password =>
    exact vouches_none (faithful_disableMfa userId password).vouches
  | refresh random refreshToken => exact vouches_tokens (vouches_refresh random refreshToken)
  | deactivateStaffAccount user userId =>
    exact vouches_none (faithful_deactivateStaffAccount user userId).vouches
  | reactivateStaffAccount userId =>
    exact vouches_none (faithful_reactivateStaffAccount userId).vouches
  | updatePreferences user dto =>
    exact vouches_none (faithful_updatePreferences user dto).vouches
  | other w =>
    have hleaves : LeavesAccounts (.write w.act w.write : Svc Unit) :=
      fun d => ⟨w.leaves d, trivial⟩
    exact vouches_none hleaves.faithful.vouches

end Calls

/-! ## Every run -/

section Runs

variable (env : MfaEnv) (isProduction : Bool) (d₀ : Db) (es : List (Event AccountCall))

lemma upheld_accountRun :
    Pool.Upheld (Trusted env d₀ es) Db.KeepsIdentities (fun _ => AnswersWith id)
      (accountRun env isProduction d₀ es) :=
  (Pool.upheld Db.KeepsIdentities.refl (fun _ _ _ => Db.KeepsIdentities.trans) trusted_start es
    fun _ hc => AccountCall.vouches hc).1

/-- **A password is the account's by right**, after every run: it is the one that the account began
with, or it was set with a token that was sent to the address of the account. -/
theorem passwords_rightful {i : Id} {user : User}
    (h : (accountRun env isProduction d₀ es).shared.user.get? i = some user) :
    Rightful env d₀ es i user :=
  (upheld_accountRun env isProduction d₀ es).1.users i user h

/-- **Access tokens do not grow stale**: whenever it has been handed out, the role in an access
token is the role of its user. -/
theorem tokens_current {t : Thread Db Act HttpError (Option TokenPair) AccountCall}
    (ht : t ∈ (accountRun env isProduction d₀ es).threads) {pair : TokenPair}
    (hpair : t.rest = .ret (some pair)) :
    ∃ user, (accountRun env isProduction d₀ es).shared.user.get? pair.accessToken.sub = some user ∧
      user.role = pair.accessToken.role := by
  have hanswer : AnswersWith id (.ok (some pair)) (accountRun env isProduction d₀ es).shared :=
    (upheld_accountRun env isProduction d₀ es).returned ht hpair
  obtain ⟨x, hx, hrole⟩ := Option.map_eq_some_iff.mp (hanswer (some pair) pair rfl rfl)
  obtain ⟨user, huser, rfl⟩ := Option.map_eq_some_iff.mp hx
  exact ⟨user, huser, hrole⟩

/-- **Nobody appoints himself**: a user with a role of the staff was there in the beginning, or his
account was created in the name of an administrator, who was there in the beginning or was appointed
in the same way. -/
theorem staff_appointed {i : Id} {user : User}
    (h : (accountRun env isProduction d₀ es).shared.user.get? i = some user)
    (hrole : user.role ∈ provisionableStaffRoles) : Appointed d₀ es i user.identity :=
  (upheld_accountRun env isProduction d₀ es).1.staff i user h hrole

end Runs

/-! ## A run -/

/-- An administrator without a second factor, whose password has been mislaid. -/
def mislaidDb : Db where
  user := Table.empty.insert { email := some "a@b.c", passwordHash := some "lost", role := .admin }

/-- He asks for a link and signs a case manager up, both at once; then both set their passwords, and
she logs in. -/
def appointment : List (Event AccountCall) :=
  [.start ⟨.forgotPassword "t1" "a@b.c", none⟩,
    .start ⟨.createStaffAccount ⟨0, .admin⟩ ⟨"s", "x", "t2"⟩ "m@b.c" .caseManager, none⟩,
    .sched 1, .sched 0, .sched 1, .sched 0, .sched 1, .sched 1, .sched 1, .sched 1,
    .start ⟨.resetPassword "s" "t1" "new", none⟩, .start ⟨.resetPassword "s" "t2" "hers", none⟩,
    .sched 2, .sched 3, .sched 3, .sched 2, .sched 2, .sched 3, .sched 2, .sched 3,
    .start ⟨.login "0.5" ⟨"m@b.c", "hers"⟩, none⟩, .sched 4, .sched 4, .sched 4, .sched 4]

/-- The case manager, in the end. -/
def appointedUser : User where
  email := some "m@b.c"
  passwordHash := some "hers"
  role := .caseManager

lemma get?_appointment :
    (accountRun sampleMfaEnv true mislaidDb appointment).shared.user.get? 1 =
      some appointedUser := by
  decide +kernel

theorem passwords_rightful_appointment :
    Rightful sampleMfaEnv mislaidDb appointment 1 appointedUser :=
  passwords_rightful sampleMfaEnv true mislaidDb appointment get?_appointment

theorem staff_appointed_appointment : Appointed mislaidDb appointment 1 appointedUser.identity :=
  staff_appointed sampleMfaEnv true mislaidDb appointment get?_appointment (by decide)

/-- Her session. -/
def appointedSession : Thread Db Act HttpError (Option TokenPair) AccountCall :=
  (accountRun sampleMfaEnv true mislaidDb appointment).threads.getLast (by decide)

theorem tokens_current_appointment :
    ∃ user, (accountRun sampleMfaEnv true mislaidDb appointment).shared.user.get? 1 = some user ∧
      user.role = .caseManager :=
  tokens_current sampleMfaEnv true mislaidDb appointment (t := appointedSession)
    (List.getLast_mem _) (rfl : appointedSession.rest = .ret (some ⟨⟨1, .caseManager⟩, _⟩))

end Asoju

/-
Interleavings of refreshes and revocations.

A refresh finds its token, revokes it and creates the next one in three calls of the client, and
anything can happen in between: another refresh of the same token, or a revocation of all the
tokens of the user, which does not reach the one that is yet to be created.
`revocation_final_of_orderly` says what holds when neither happens: each refresh token yields at
most one pair, and nothing that descends from a token that has been revoked with all the others
of its user is ever valid again.

A sign-in stands for every other way to a first pair of tokens.
-/
import Asoju.Sessions
import Asoju.Lib.Pool
import Asoju.Lib.Rotation

namespace Asoju

open Lib AuthService

inductive SessionCall
  | refresh (random refreshToken : String)
  | logout (refreshToken : String)
  | logoutAll (userId : Id)
  | resetPassword (salt token newPassword : String)
  | deactivateStaffAccount (actor : AuthenticatedUser) (userId : Id)
  | reactivateStaffAccount (userId : Id)
  | signIn (random : String) (userId : Id) (role : Role)
deriving DecidableEq, Repr

variable (env : AuthEnv)

/-- What a call does; only some calls answer with tokens. -/
def SessionCall.code : SessionCall → Svc (Option TokenPair)
  | refresh random refreshToken => do return some (← AuthService.refresh env random refreshToken)
  | logout refreshToken => do
      AuthService.logout env refreshToken
      return none
  | logoutAll userId => do
      AuthService.logoutAll userId
      return none
  | resetPassword salt token newPassword => do
      AuthService.resetPassword env salt token newPassword
      return none
  | deactivateStaffAccount actor userId => do
      AuthService.deactivateStaffAccount actor userId
      return none
  | reactivateStaffAccount userId => do
      AuthService.reactivateStaffAccount userId
      return none
  | signIn random userId role => do return some (← issueTokens env random userId role)

namespace SessionCall

lemma code_refresh (random refreshToken : String) :
    code env (refresh random refreshToken) =
      (do return some (← AuthService.refresh env random refreshToken)) := rfl

lemma code_resetPassword (salt token newPassword : String) :
    code env (resetPassword salt token newPassword) = (do
      AuthService.resetPassword env salt token newPassword
      return none) := rfl

lemma code_deactivateStaffAccount (actor : AuthenticatedUser) (userId : Id) :
    code env (deactivateStaffAccount actor userId) = (do
      AuthService.deactivateStaffAccount actor userId
      return none) := rfl

lemma code_reactivateStaffAccount (userId : Id) :
    code env (reactivateStaffAccount userId) = (do
      AuthService.reactivateStaffAccount userId
      return none) := rfl

lemma code_signIn (random : String) (userId : Id) (role : Role) :
    code env (signIn random userId role) =
      (do return some (← issueTokens env random userId role)) := rfl

end SessionCall

abbrev SessionThread := Thread Db Act HttpError (Option TokenPair) SessionCall

abbrev SessionPool := Pool Db Act HttpError (Option TokenPair) SessionCall

/-- The answer of a thread that has one. -/
def SessionThread.answer (t : SessionThread) : Option TokenPair :=
  match t.rest with
  | .ret pair => pair
  | _ => none

/-! ## The stages of a call -/

inductive SessionStage
  | start
  /-- A valid token with the key `i` has been found; it is the user's. -/
  | found (i userId : Id)
  /-- The token has been revoked, and the next one is to be created. -/
  | rotating (i userId : Id)
  | rotated
deriving DecidableEq

namespace SessionStage

/-- The stage that an action leads to. -/
def next : SessionCall → SessionStage → Act → Db → SessionStage
  | .refresh _ refreshToken, start, _, s =>
      match s.refreshTokenByHash (hashToken env refreshToken) with
      | some (i, stored) => found i stored.userId
      | none => start
  | .refresh .., found i userId, l, _ =>
      if l = .update .refreshToken then rotating i userId else found i userId
  | .refresh .., rotating i userId, l, _ =>
      if l = .create .refreshToken then rotated else rotating i userId
  | .resetPassword _ token _, start, _, s =>
      match s.passwordResetTokenByHash (hashToken env token) with
      | some (i, stored) => found i stored.userId
      | none => start
  | _, st, _, _ => st

section Next

variable (random refreshToken : String) (l : Act) (s : Db)

/-- A refresh looks for its token. -/
lemma next_refresh_start :
    next env (.refresh random refreshToken) start l s =
      (s.refreshTokenByHash (hashToken env refreshToken)).elim start
        fun x => found x.1 x.2.userId := by
  rw [next]
  cases s.refreshTokenByHash (hashToken env refreshToken) <;> rfl

lemma next_refresh_found (i userId : Id) :
    next env (.refresh random refreshToken) (found i userId) l s =
      if l = .update .refreshToken then rotating i userId else found i userId := rfl

lemma next_refresh_rotating (i userId : Id) :
    next env (.refresh random refreshToken) (rotating i userId) l s =
      if l = .create .refreshToken then rotated else rotating i userId := rfl

/-- A reset of the password looks for its token. -/
lemma next_resetPassword_start (salt token newPassword : String) :
    next env (.resetPassword salt token newPassword) start l s =
      (s.passwordResetTokenByHash (hashToken env token)).elim start
        fun x => found x.1 x.2.userId := by
  rw [next]
  cases s.passwordResetTokenByHash (hashToken env token) <;> rfl

end Next

end SessionStage

/-- What an action does to the refresh tokens. -/
inductive TokenWrite
  | none
  | revoke (i : Id)
  | revokeHash (tokenHash : String)
  | revokeAll (userId : Id)
  | issue (userId : Id)
deriving DecidableEq

/-- What the next action does to the refresh tokens. -/
def SessionStage.write : SessionCall → SessionStage → Act → TokenWrite
  | .refresh .., found i _, .update .refreshToken => .revoke i
  | .refresh .., rotating _ userId, .create .refreshToken => .issue userId
  | .logout refreshToken, _, .update .refreshToken => .revokeHash (hashToken env refreshToken)
  | .logoutAll userId, _, .update .refreshToken => .revokeAll userId
  | .resetPassword .., found _ userId, .transaction => .revokeAll userId
  | .deactivateStaffAccount _ userId, _, .transaction => .revokeAll userId
  | .signIn _ userId _, _, .create .refreshToken => .issue userId
  | _, _, _ => .none

/-- The database before and after. -/
def TokenWrite.Does (w : TokenWrite) (s s' : Db) : Prop :=
  match w with
  | none => s'.refreshToken = s.refreshToken
  | revoke i => ∃ now, s'.refreshToken = s.refreshToken.modify i (RefreshToken.revoke now)
  | revokeHash h => ∃ now, s'.refreshToken = s.refreshToken.modifyWhere
      (fun _ t => t.tokenHash = h ∧ t.revokedAt = .none) (RefreshToken.revoke now)
  | revokeAll u => ∃ now, s'.refreshToken = s.refreshToken.modifyWhere
      (fun _ t => t.openOf u) (RefreshToken.revoke now)
  | issue u => s'.refreshToken = s.refreshToken ∨ ∃ t : RefreshToken, t.userId = u ∧
      s'.refreshToken = s.refreshToken.insert t ∧ s.refreshTokenByHash t.tokenHash = .none

/-- The protocol of a call. -/
def SessionCall.protocol (c : SessionCall) : Protocol Db Act SessionStage where
  relies _ := True
  init := .start
  next := SessionStage.next env c
  allows st l s s' := (SessionStage.write env c st l).Does s s'
  final _ := True

/-- A refresh that answers has just created the token that it answers with. -/
def Rotates (c : SessionCall) (st : SessionStage) (_ : Act) (s s' : Db)
    (answer : Option TokenPair) : Prop :=
  match c with
  | .refresh .. => ∀ pair ∈ answer, ∃ i u t, st = .rotating i u ∧ t.userId = u ∧
      t.tokenHash = hashToken env pair.refreshToken ∧
      s.refreshTokenByHash t.tokenHash = none ∧ s'.refreshToken = s.refreshToken.insert t
  | _ => True


/-! ## Every call keeps to its protocol -/

section Follows

variable {env : AuthEnv}

/-- A program without an answer of interest. -/
lemma reports_of_forall {P : Protocol Db Act SessionStage} {m : Svc (Option TokenPair)}
    {Q : SessionStage → Act → Db → Db → Option TokenPair → Prop} (hQ : ∀ st l s s' a, Q st l s s' a)
    (st : SessionStage) : P.Reports Q st m := by
  induction m generalizing st with
  | ret a => trivial
  | fail e => trivial
  | atom l w m ih => exact fun s _ => ⟨fun a _ => hQ st l s (w s) a, ih s _⟩

/-- The second half of a refresh. -/
lemma underway_rotating (random refreshToken : String) (i userId : Id) (role : Role) :
    ((SessionCall.refresh random refreshToken).protocol env).Underway
      (Rotates env (.refresh random refreshToken)) (.rotating i userId)
      (issueTokens env random userId role >>= fun pair => pure (some pair)) := by
  rw [issueTokens, Prog.bind_assoc]
  refine .read_bind fun s₀ _ => ⟨rfl, .atom fun s _ => ?_, fun a ha => by cases ha⟩
  dsimp only
  by_cases htaken : (s.refreshTokenByHash
      (hashToken env (newRefreshToken env userId s₀.clock random))).isSome
  · rw [if_pos htaken, if_pos htaken]
    refine ⟨Or.inl rfl, fun a ha => ?_, .fail trivial _⟩
    cases ha
  · rw [if_neg htaken, if_neg htaken]
    rw [Bool.not_eq_true, Option.isSome_eq_false_iff, Option.isNone_iff_eq_none] at htaken
    refine ⟨Or.inr ⟨_, rfl, rfl, htaken⟩, ?_, .ret trivial _⟩
    rintro a ha pair hpair
    cases ha
    cases hpair
    exact ⟨i, userId, _, rfl, rfl, rfl, htaken, rfl⟩

lemma underway_refresh (random refreshToken : String) :
    ((SessionCall.refresh random refreshToken).protocol env).Underway
      (Rotates env (.refresh random refreshToken)) .start
      (SessionCall.code env (.refresh random refreshToken)) := by
  rw [SessionCall.code_refresh, AuthService.refresh, Prog.bind_assoc]
  refine .read_bind fun s _ => ⟨rfl, ?_⟩
  have hnext : (SessionCall.protocol env (.refresh random refreshToken)).next .start
      (.find .refreshToken) s = (s.refreshTokenByHash (hashToken env refreshToken)).elim .start
        fun x => .found x.1 x.2.userId :=
    SessionStage.next_refresh_start env random refreshToken (.find .refreshToken) s
  rw [hnext]
  cases s.refreshTokenByHash (hashToken env refreshToken) with
  | none => exact .fail trivial _
  | some x =>
    obtain ⟨i, stored⟩ := x
    dsimp only [Option.elim]
    by_cases hrevoked : stored.revokedAt.isSome
    · rw [if_pos hrevoked]
      exact .fail trivial _
    · rw [if_neg hrevoked, Prog.bind_assoc]
      refine .read_bind fun s₁ _ => ⟨rfl, ?_⟩
      by_cases hexpired : stored.expiresAt < s₁.clock
      · rw [if_pos hexpired]
        exact .fail trivial _
      · rw [if_neg hexpired, Prog.bind_assoc]
        refine .read_bind fun s₂ _ => ⟨rfl, ?_⟩
        cases (Rel.user.get s₂).get? stored.userId with
        | none => exact .fail trivial _
        | some user =>
          dsimp only
          by_cases hactive : user.isActive
          · rw [if_pos hactive, Prog.bind_assoc]
            refine .atom fun s₃ _ => ⟨⟨_, rfl⟩, ?_⟩
            dsimp only
            cases (Rel.refreshToken.get s₃).get? i with
            | none => exact .fail trivial _
            | some t => exact underway_rotating random refreshToken i stored.userId user.role
          · rw [if_neg hactive]
            exact .fail trivial _

lemma follows_resetPassword (salt token newPassword : String) :
    ((SessionCall.resetPassword salt token newPassword).protocol env).Follows .start
      (SessionCall.code env (.resetPassword salt token newPassword)) := by
  rw [SessionCall.code_resetPassword, AuthService.resetPassword, Prog.bind_assoc]
  refine .read_bind _ fun s _ => ⟨rfl, ?_⟩
  have hnext : (SessionCall.protocol env (.resetPassword salt token newPassword)).next .start
      (.find .passwordResetToken) s = (s.passwordResetTokenByHash (hashToken env token)).elim .start
        fun x => .found x.1 x.2.userId :=
    SessionStage.next_resetPassword_start env (.find .passwordResetToken) s salt token newPassword
  rw [hnext]
  cases s.passwordResetTokenByHash (hashToken env token) with
  | none => trivial
  | some x =>
    obtain ⟨i, stored⟩ := x
    dsimp only [Option.elim]
    by_cases hused : stored.usedAt.isSome
    · rw [if_pos hused]
      trivial
    · rw [if_neg hused, Prog.bind_assoc]
      refine .read_bind _ fun s₁ _ => ⟨rfl, ?_⟩
      by_cases hexpired : stored.expiresAt < s₁.clock
      · rw [if_pos hexpired]
        trivial
      · rw [if_neg hexpired]
        exact fun s₂ _ => ⟨⟨s₂.clock, rfl⟩, fun s₃ _ => ⟨rfl, trivial⟩⟩

lemma follows_deactivateStaffAccount (actor : AuthenticatedUser) (userId : Id) :
    ((SessionCall.deactivateStaffAccount actor userId).protocol env).Follows .start
      (SessionCall.code env (.deactivateStaffAccount actor userId)) := by
  rw [SessionCall.code_deactivateStaffAccount, AuthService.deactivateStaffAccount, Prog.bind_assoc]
  refine .read_bind _ fun s _ => ⟨rfl, ?_⟩
  cases (Rel.user.get s).get? userId with
  | none => trivial
  | some user =>
    dsimp only
    by_cases hrole : user.role ∉ provisionableStaffRoles
    · rw [if_pos hrole]
      trivial
    · rw [if_neg hrole]
      by_cases hself : userId = actor.id
      · rw [if_pos hself]
        trivial
      · rw [if_neg hself]
        exact fun s₁ _ => ⟨⟨s₁.clock, rfl⟩, fun s₂ _ => ⟨rfl, trivial⟩⟩

lemma follows_reactivateStaffAccount (userId : Id) :
    ((SessionCall.reactivateStaffAccount userId).protocol env).Follows .start
      (SessionCall.code env (.reactivateStaffAccount userId)) := by
  rw [SessionCall.code_reactivateStaffAccount, AuthService.reactivateStaffAccount, Prog.bind_assoc]
  refine .read_bind _ fun s _ => ⟨rfl, ?_⟩
  cases (Rel.user.get s).get? userId with
  | none => trivial
  | some user =>
    dsimp only
    by_cases hrole : user.role ∉ provisionableStaffRoles
    · rw [if_pos hrole]
      trivial
    · rw [if_neg hrole]
      refine fun s₁ _ => ⟨rfl, ?_⟩
      dsimp only
      cases (Rel.user.get s₁).get? userId with
      | none => trivial
      | some user => exact fun s₂ _ => ⟨rfl, trivial⟩

lemma follows_signIn (random : String) (userId : Id) (role : Role) :
    ((SessionCall.signIn random userId role).protocol env).Follows .start
      (SessionCall.code env (.signIn random userId role)) := by
  rw [SessionCall.code_signIn, issueTokens, Prog.bind_assoc]
  refine .read_bind _ fun s₀ _ => ⟨rfl, fun s _ => ?_⟩
  dsimp only
  by_cases htaken : (s.refreshTokenByHash
      (hashToken env (newRefreshToken env userId s₀.clock random))).isSome
  · rw [if_pos htaken, if_pos htaken]
    exact ⟨Or.inl rfl, trivial⟩
  · rw [if_neg htaken, if_neg htaken]
    rw [Bool.not_eq_true, Option.isSome_eq_false_iff, Option.isNone_iff_eq_none] at htaken
    exact ⟨Or.inr ⟨_, rfl, rfl, htaken⟩, trivial⟩

/-- **Every call keeps to its protocol**, and a refresh answers with the token it has created. -/
theorem SessionCall.governs (c : SessionCall) :
    (c.protocol env).Governs (Rotates env c) .start (c.code env) := by
  cases c with
  | refresh random refreshToken => exact (underway_refresh random refreshToken).1
  | logout refreshToken =>
    exact ⟨fun s _ => ⟨rfl, fun s₁ _ => ⟨⟨s.clock, rfl⟩, trivial⟩⟩,
      reports_of_forall (fun _ _ _ _ _ => trivial) _⟩
  | logoutAll userId =>
    exact ⟨fun s _ => ⟨rfl, fun s₁ _ => ⟨⟨s.clock, rfl⟩, fun s₂ _ => ⟨rfl, trivial⟩⟩⟩,
      reports_of_forall (fun _ _ _ _ _ => trivial) _⟩
  | resetPassword salt token newPassword =>
    exact ⟨follows_resetPassword salt token newPassword,
      reports_of_forall (fun _ _ _ _ _ => trivial) _⟩
  | deactivateStaffAccount actor userId =>
    exact ⟨follows_deactivateStaffAccount actor userId,
      reports_of_forall (fun _ _ _ _ _ => trivial) _⟩
  | reactivateStaffAccount userId =>
    exact ⟨follows_reactivateStaffAccount userId,
      reports_of_forall (fun _ _ _ _ _ => trivial) _⟩
  | signIn random userId role =>
    exact ⟨follows_signIn random userId role, reports_of_forall (fun _ _ _ _ _ => trivial) _⟩

end Follows

/-! ## What an action does to the tokens -/

section Tokens

variable {s s' : Db} {h : String} {x y : Id × RefreshToken}

/-- Some tokens are revoked, or a new one is created. -/
inductive TokenChange (s s' : Db) : Prop
  | revoked (f : Id → RefreshToken → RefreshToken)
      (hf : ∀ i t, f i t = t ∨ ∃ now, f i t = t.revoke now)
      (h : s'.refreshToken = s.refreshToken.mapRows f)
  | issued (t : RefreshToken) (hnew : s.refreshTokenByHash t.tokenHash = none)
      (h : s'.refreshToken = s.refreshToken.insert t)

lemma TokenChange.of_eq (h : s'.refreshToken = s.refreshToken) : TokenChange s s' := by
  refine .revoked (fun _ t => t) (fun _ _ => Or.inl rfl) (h.trans (Table.ext_rows ?_ rfl))
  simp [Table.mapRows]

/-- A change of the tokens that pass a test. -/
lemma TokenChange.of_mapRows {q : Id → RefreshToken → Prop} [∀ i t, Decidable (q i t)] {now : Time}
    (h : s'.refreshToken = s.refreshToken.mapRows fun i t => if q i t then t.revoke now else t) :
    TokenChange s s' := by
  refine .revoked _ (fun i t => ?_) h
  split_ifs
  · exact Or.inr ⟨now, rfl⟩
  · exact Or.inl rfl

lemma TokenWrite.Does.change {w : TokenWrite} (h : w.Does s s') : TokenChange s s' := by
  cases w with
  | none => exact .of_eq h
  | revoke i =>
    obtain ⟨now, h⟩ := h
    exact .of_mapRows h
  | revokeHash tokenHash =>
    obtain ⟨now, h⟩ := h
    exact .of_mapRows h
  | revokeAll userId =>
    obtain ⟨now, h⟩ := h
    exact .of_mapRows h
  | issue userId =>
    rcases h with h | ⟨t, -, h, hnew⟩
    · exact .of_eq h
    · exact .issued t hnew h

/-- A token after a change of some of them. -/
lemma refreshTokenByHash_mapRows {f : Id → RefreshToken → RefreshToken}
    (hf : ∀ i t, f i t = t ∨ ∃ now, f i t = t.revoke now)
    (hs : s'.refreshToken = s.refreshToken.mapRows f) :
    s'.refreshTokenByHash h = (s.refreshTokenByHash h).map fun x => (x.1, f x.1 x.2) := by
  rw [Db.refreshTokenByHash, hs]
  refine Table.find?_mapRows _ (q := fun t : RefreshToken => t.tokenHash = h) fun i t => ?_
  rcases hf i t with heq | ⟨now, heq⟩ <;> rw [heq]
  rfl

lemma refreshTokenByHash_insert {t : RefreshToken}
    (hs : s'.refreshToken = s.refreshToken.insert t) :
    s'.refreshTokenByHash h = (s.refreshTokenByHash h).or
      (if t.tokenHash = h then some (s.refreshToken.next, t) else none) := by
  rw [Db.refreshTokenByHash, Db.refreshTokenByHash, hs]
  simpa using Table.find?_insert s.refreshToken t fun t => t.tokenHash = h

/-- The tokens that there are stay, and keep their users. -/
def Db.KeepsTokens (s s' : Db) : Prop :=
  ∀ h x, s.refreshTokenByHash h = some x →
    ∃ y, s'.refreshTokenByHash h = some y ∧ y.1 = x.1 ∧ y.2.userId = x.2.userId

lemma TokenChange.keepsTokens (hs : TokenChange s s') : s.KeepsTokens s' := by
  intro h x hx
  cases hs with
  | revoked f hf hs =>
    refine ⟨(x.1, f x.1 x.2), by rw [refreshTokenByHash_mapRows hf hs, hx]; rfl, rfl, ?_⟩
    show (f x.1 x.2).userId = x.2.userId
    rcases hf x.1 x.2 with heq | ⟨now, heq⟩ <;> rw [heq]
    rfl
  | issued t hnew hs =>
    exact ⟨x, by rw [refreshTokenByHash_insert hs, hx]; rfl, rfl, rfl⟩

/-- A token that is not revoked was not revoked before, or it is new. -/
lemma TokenChange.open_cases (hs : TokenChange s s') (hy : s'.refreshTokenByHash h = some y)
    (hopen : y.2.revokedAt = none) :
    (∃ x, s.refreshTokenByHash h = some x ∧ x.2.revokedAt = none) ∨
      s.refreshTokenByHash h = none := by
  cases hs with
  | revoked f hf hs =>
    rw [refreshTokenByHash_mapRows hf hs] at hy
    obtain ⟨x, hx, rfl⟩ := Option.map_eq_some_iff.mp hy
    rcases hf x.1 x.2 with heq | ⟨now, heq⟩
    · rw [heq] at hopen
      exact Or.inl ⟨x, hx, hopen⟩
    · rw [heq] at hopen
      cases hopen
  | issued t hnew hs =>
    cases hx : s.refreshTokenByHash h with
    | none => exact Or.inr rfl
    | some x =>
      rw [refreshTokenByHash_insert hs, hx] at hy
      obtain rfl : x = y := Option.some.inj hy
      exact Or.inl ⟨x, rfl, hopen⟩

end Tokens

/-! ## The vault of a pool -/

section Threads

variable (env : AuthEnv)

/-- The hash of the token that a refresh is called with. -/
def SessionCall.presentedHash : SessionCall → Option String
  | refresh _ refreshToken => some (hashToken env refreshToken)
  | _ => none

namespace SessionStage

/-- The key of the token that has been found, and its user. -/
def token? : SessionStage → Option (Id × Id)
  | found i userId | rotating i userId => some (i, userId)
  | start | rotated => none

/-- The user whose token has been revoked and not replaced yet. -/
def rotatingFor? : SessionStage → Option Id
  | rotating _ userId => some userId
  | _ => none

/-- The token has been revoked. -/
def taken : SessionStage → Bool
  | rotating .. | rotated => true
  | start | found .. => false

end SessionStage

namespace SessionThread

variable (t : SessionThread) (h h' : String)

def stage : SessionStage := (t.call.protocol env).phase t.done

/-- What the thread does next to the refresh tokens. -/
def nextWrite : TokenWrite :=
  match t.rest.next? with
  | some l => SessionStage.write env t.call (t.stage env) l
  | none => .none

/-- The thread has revoked the token with this hash and is about to create the next one. -/
def Holds : Prop :=
  t.call.presentedHash env = some h ∧ (t.stage env).rotatingFor?.isSome

/-- The thread has revoked the token with this hash. -/
def took : Bool := t.call.presentedHash env = some h ∧ (t.stage env).taken

/-- The thread has answered the first token with the second. -/
def Gave : Prop :=
  t.call.presentedHash env = some h ∧ ∃ pair ∈ t.answer, hashToken env pair.refreshToken = h'

end SessionThread

/-- The tokens, by their hashes, as the exchanges of the pool see them. -/
def sessionVault (p : SessionPool) : Vault String Id where
  owner h := (p.shared.refreshTokenByHash h).map fun x => x.2.userId
  Live h := ∃ x, p.shared.refreshTokenByHash h = some x ∧ x.2.revokedAt = none
  Pending h := ∃ t ∈ p.threads, SessionThread.Holds env t h
  taken h := p.threads.countP fun t => SessionThread.took env t h
  Child h h' := ∃ t ∈ p.threads, SessionThread.Gave env t h h'

end Threads

lemma presentedHash_eq_some {env : AuthEnv} {c : SessionCall} {h : String}
    (hh : c.presentedHash env = some h) :
    ∃ random refreshToken, c = .refresh random refreshToken ∧ hashToken env refreshToken = h := by
  cases c with
  | refresh random refreshToken => exact ⟨random, refreshToken, rfl, Option.some.inj hh⟩
  | logout => cases hh
  | logoutAll => cases hh
  | resetPassword => cases hh
  | deactivateStaffAccount => cases hh
  | reactivateStaffAccount => cases hh
  | signIn => cases hh

/-! ### The stages of a refresh -/

section Stages

variable {env : AuthEnv} {random refreshToken : String} {st : SessionStage} {l : Act} {s : Db}
  {i userId : Id}

lemma next_token? (h : (SessionStage.next env (.refresh random refreshToken) st l s).token? =
      some (i, userId)) :
    st.token? = some (i, userId) ∨ ∃ stored,
      s.refreshTokenByHash (hashToken env refreshToken) = some (i, stored) ∧
        stored.userId = userId := by
  cases st with
  | start =>
    rw [SessionStage.next_refresh_start] at h
    cases hfound : s.refreshTokenByHash (hashToken env refreshToken) with
    | none =>
      rw [hfound] at h
      cases h
    | some x =>
      rw [hfound] at h
      cases h
      exact Or.inr ⟨x.2, rfl, rfl⟩
  | found j u =>
    rw [SessionStage.next_refresh_found] at h
    split_ifs at h <;> exact Or.inl h
  | rotating j u =>
    rw [SessionStage.next_refresh_rotating] at h
    split_ifs at h
    · cases h
    · exact Or.inl h
  | rotated => cases h

/-- A stage in which the token has been revoked is reached from another one, or by the
revocation. -/
lemma next_taken (h : (SessionStage.next env (.refresh random refreshToken) st l s).taken) :
    st.taken ∨ ∃ i u, st = .found i u ∧ l = .update .refreshToken := by
  cases st with
  | start =>
    rw [SessionStage.next_refresh_start] at h
    cases hfound : s.refreshTokenByHash (hashToken env refreshToken) <;>
    · rw [hfound] at h
      cases h
  | found j u =>
    rw [SessionStage.next_refresh_found] at h
    split_ifs at h with hl
    · exact Or.inr ⟨j, u, rfl, hl⟩
    · cases h
  | rotating j u => exact Or.inl rfl
  | rotated => exact Or.inl rfl

lemma taken_next (h : st.taken) :
    (SessionStage.next env (.refresh random refreshToken) st l s).taken := by
  cases st with
  | start => cases h
  | found j u => cases h
  | rotating j u =>
    rw [SessionStage.next_refresh_rotating]
    split_ifs <;> rfl
  | rotated => rfl

lemma next_rotatingFor? (h : (SessionStage.next env (.refresh random refreshToken) st l s
      ).rotatingFor?.isSome) :
    st.rotatingFor?.isSome ∨ ∃ i u, st = .found i u ∧ l = .update .refreshToken := by
  cases st with
  | start =>
    rw [SessionStage.next_refresh_start] at h
    cases hfound : s.refreshTokenByHash (hashToken env refreshToken) <;>
    · rw [hfound] at h
      cases h
  | found j u =>
    rw [SessionStage.next_refresh_found] at h
    split_ifs at h with hl
    · exact Or.inr ⟨j, u, rfl, hl⟩
    · cases h
  | rotating j u => exact Or.inl rfl
  | rotated => cases h

lemma token?_of_rotatingFor? (h : st.rotatingFor? = some userId) :
    ∃ i, st.token? = some (i, userId) := by
  cases st with
  | rotating i u =>
    cases h
    exact ⟨i, rfl⟩
  | start => cases h
  | found => cases h
  | rotated => cases h

/-- The token that a refresh has found was there when it looked. -/
lemma phase_token? (random : String) {done : List (Act × Db)}
    (h : (((SessionCall.refresh random refreshToken).protocol env).phase done).token? =
      some (i, userId)) :
    ∃ x ∈ done, ∃ stored, x.2.refreshTokenByHash (hashToken env refreshToken) = some (i, stored) ∧
      stored.userId = userId := by
  induction done using List.reverseRecOn with
  | nil => cases h
  | append_singleton done x ih =>
    obtain ⟨l, s⟩ := x
    rw [Protocol.phase_concat] at h
    rcases next_token? h with hold | hnew
    · obtain ⟨x, hx, hstored⟩ := ih hold
      exact ⟨x, List.mem_append_left _ hx, hstored⟩
    · exact ⟨(l, s), List.mem_append_right _ (List.mem_singleton_self _), hnew⟩

end Stages

/-! ## Every interleaving -/

section Runs

variable (env : AuthEnv)

/-- A call that may go on as `w`: a refresh revokes only a token that is not revoked, and all the
tokens of a user are revoked only while no refresh is about to create one for him. -/
def TokenWrite.Orderly (p : SessionPool) : TokenWrite → Prop
  | revoke i => ∀ stored ∈ p.shared.refreshToken.get? i, stored.revokedAt = .none
  | revokeAll userId =>
      ∀ t ∈ p.threads, (SessionThread.stage env t).rotatingFor? ≠ some userId
  | none | revokeHash _ | issue _ => True

instance tokenWriteDecidable (p : SessionPool) : ∀ w, Decidable (TokenWrite.Orderly env p w)
  | .revoke i => inferInstanceAs
      (Decidable (∀ stored ∈ p.shared.refreshToken.get? i, stored.revokedAt = none))
  | .revokeAll userId => inferInstanceAs
      (Decidable (∀ t ∈ p.threads, (SessionThread.stage env t).rotatingFor? ≠ some userId))
  | .none => inferInstanceAs (Decidable True)
  | .revokeHash _ => inferInstanceAs (Decidable True)
  | .issue _ => inferInstanceAs (Decidable True)

/-- Every refresh finds its token as it was when it looked, and no revocation of all the tokens of
a user comes between the two writes of a refresh. -/
def OrderlySessions (p : SessionPool) : Event SessionCall → Prop
  | .start _ => True
  | .sched k => ∀ t ∈ p.threads[k]?, (SessionThread.nextWrite env t).Orderly env p

instance orderlySessionsDecidable (p : SessionPool) : ∀ e, Decidable (OrderlySessions env p e)
  | .start _ => inferInstanceAs (Decidable True)
  | .sched k => inferInstanceAs
      (Decidable (∀ t ∈ p.threads[k]?, (SessionThread.nextWrite env t).Orderly env p))

/-- What is known of a pool at every moment. -/
structure SessionsOk (p : SessionPool) : Prop where
  tracked : Pool.Tracked (SessionCall.protocol env) p
  reporting : Pool.Reporting (P := SessionCall.protocol env) (Rotates env) p
  seen : Pool.Seen Db.KeepsTokens p
  /-- A refresh that has answered has revoked its token. -/
  answered : ∀ t ∈ p.threads, ∀ h, t.call.presentedHash env = some h →
    (SessionThread.answer t).isSome → (SessionThread.stage env t).taken

variable {env}

lemma Db.KeepsTokens.trans {a b c : Db} (hab : a.KeepsTokens b) (hbc : b.KeepsTokens c) :
    a.KeepsTokens c := by
  intro h x hx
  obtain ⟨y, hy, hyx, hyu⟩ := hab h x hx
  obtain ⟨z, hz, hzy, hzu⟩ := hbc h y hy
  exact ⟨z, hz, hzy.trans hyx, hzu.trans hyu⟩

lemma SessionsOk.idle (d : Db) : SessionsOk env (Pool.idle d) where
  tracked := Pool.tracked_idle _ d
  reporting := fun _ ht => absurd ht List.not_mem_nil
  seen := Pool.seen_idle _ d
  answered := fun _ ht => absurd ht List.not_mem_nil

/-- The token that a refresh has found is there, and is the user's. -/
lemma SessionsOk.stored {p : SessionPool} (hok : SessionsOk env p) {t : SessionThread}
    (ht : t ∈ p.threads) {h : String} (hh : t.call.presentedHash env = some h) {i userId : Id}
    (hst : (t.stage env).token? = some (i, userId)) :
    ∃ stored, p.shared.refreshTokenByHash h = some (i, stored) ∧ stored.userId = userId := by
  obtain ⟨c, done, rest⟩ := t
  obtain ⟨random, refreshToken, rfl, rfl⟩ := presentedHash_eq_some hh
  obtain ⟨x, hx, stored, hstored, rfl⟩ := phase_token? random hst
  obtain ⟨⟨j, y⟩, hy, hji, hyu⟩ := hok.seen _ ht x hx _ _ hstored
  obtain rfl : j = i := hji
  exact ⟨y, hy, hyu⟩

/-- An answer of a thread that starts. -/
lemma answer_start (c : SessionCall) : SessionThread.answer ⟨c, [], c.code env⟩ = none := by
  cases c <;> rfl

/-- A refresh that answers with its next action has revoked its token. -/
lemma taken_of_reports {c : SessionCall} {st : SessionStage} {l : Act} {w : Db → Db}
    {m : Db → Svc (Option TokenPair)} (hreports : (c.protocol env).Reports (Rotates env c) st
      (.atom l w m)) {h : String} (hh : c.presentedHash env = some h) {s : Db} {pair : TokenPair}
    (hm : m s = .ret (some pair)) : (SessionStage.next env c st l s).taken := by
  have hrotates := (hreports s trivial).1 _ hm
  obtain ⟨random, refreshToken, rfl, rfl⟩ := presentedHash_eq_some hh
  obtain ⟨i, u, -, rfl, -⟩ := hrotates pair rfl
  exact taken_next rfl

theorem SessionsOk.step {p : SessionPool} (hok : SessionsOk env p) (e : Event SessionCall) :
    SessionsOk env (p.step (SessionCall.code env) e) where
  tracked := hok.tracked.preserved _ (fun c => c.governs.1) (fun _ => trivial) e
  reporting := hok.reporting.preserved (fun c => c.governs.2) (fun _ => trivial) e
  seen := by
    refine hok.seen.preserved (R := Db.KeepsTokens) _ (fun _ _ _ hab hbc => hab.trans hbc) e ?_
    rcases hok.tracked.step (SessionCall.code env) (fun _ => trivial) e with
      ⟨k, -, -, hstep⟩ | ⟨c, -, hstep⟩ | ⟨k, t, l, w, m, -, -, -, hallows, hstep⟩
    · rw [hstep]
      exact (TokenChange.of_eq rfl).keepsTokens
    · rw [hstep]
      exact (TokenChange.of_eq rfl).keepsTokens
    · rw [hstep]
      exact (TokenWrite.Does.change hallows).keepsTokens
  answered := by
    have hboth := Pool.forall_thread_step (SessionCall.code env)
      (X := fun c done m => (c.protocol env).Reports (Rotates env c) ((c.protocol env).phase done) m ∧
        ∀ h, c.presentedHash env = some h → (SessionThread.answer ⟨c, done, m⟩).isSome →
          ((c.protocol env).phase done).taken)
      (fun c => ⟨c.governs.2, fun h _ hanswer => by rw [answer_start] at hanswer; cases hanswer⟩)
      (fun c done l w m hX => ⟨by
        rw [Protocol.phase_concat]
        exact (hX.1 _ trivial).2, fun h hh hanswer => ?_⟩)
      (fun t ht => ⟨hok.reporting t ht, hok.answered t ht⟩) e
    · exact fun t ht => (hboth t ht).2
    · rw [Protocol.phase_concat]
      cases hm : m p.shared with
      | ret a =>
        rw [hm] at hanswer
        obtain ⟨pair, rfl⟩ := Option.isSome_iff_exists.mp hanswer
        exact taken_of_reports hX.1 hh hm
      | fail e =>
        rw [hm] at hanswer
        cases hanswer
      | atom l' w' m' =>
        rw [hm] at hanswer
        cases hanswer

/-! ### The steps of the vault -/

lemma owner_eq_some_iff {p : SessionPool} {h : String} {u : Id} :
    (sessionVault env p).owner h = some u ↔
      ∃ x, p.shared.refreshTokenByHash h = some x ∧ x.2.userId = u := Option.map_eq_some_iff

lemma owner_eq_none_iff {p : SessionPool} {h : String} :
    (sessionVault env p).owner h = none ↔ p.shared.refreshTokenByHash h = none :=
  Option.map_eq_none_iff

/-- A step that changes no thread of a refresh. -/
lemma vault_step_refl (p : SessionPool) : Vault.Step (sessionVault env p) (sessionVault env p) where
  owner howner := howner
  live hlive := Or.inl hlive
  pending hpending := Or.inl hpending
  taken _ := Or.inl le_rfl
  child hchild := Or.inl hchild

lemma vault_step_start (p : SessionPool) (c : SessionCall) :
    Vault.Step (sessionVault env p)
      (sessionVault env { p with threads := p.threads ++ [⟨c, [], c.code env⟩] }) where
  owner howner := howner
  live hlive := Or.inl hlive
  pending := by
    rintro h ⟨t, ht, hholds⟩
    rcases List.mem_append.mp ht with ht | ht
    · exact Or.inl ⟨t, ht, hholds⟩
    · obtain rfl := List.mem_singleton.mp ht
      cases hholds.2
  taken h := by
    left
    have hnew : SessionThread.took env ⟨c, [], c.code env⟩ h = false := by
      simp [SessionThread.took, SessionThread.stage, SessionCall.protocol, SessionStage.taken]
    simp [sessionVault, hnew]
  child := by
    rintro h h' ⟨t, ht, hgave⟩
    rcases List.mem_append.mp ht with ht | ht
    · exact Or.inl ⟨t, ht, hgave⟩
    · obtain rfl := List.mem_singleton.mp ht
      obtain ⟨-, pair, hpair, -⟩ := hgave
      rw [answer_start] at hpair
      cases hpair

/-- What is known of the thread that acts. -/
structure Acts (env : AuthEnv) (p : SessionPool) (k : ℕ) (t : SessionThread) (l : Act)
    (w : Db → Db) (m : Db → Svc (Option TokenPair)) : Prop where
  ok : SessionsOk env p
  thread : p.threads[k]? = some t
  rest : t.rest = .atom l w m
  allows : ((t.stage env).write env t.call l).Does p.shared (w p.shared)
  orderly : ((t.stage env).write env t.call l).Orderly env p

section Acts

variable {p : SessionPool} {k : ℕ} {t : SessionThread} {l : Act} {w : Db → Db}
  {m : Db → Svc (Option TokenPair)}

/-- The thread afterwards. -/
abbrev SessionThread.after (t : SessionThread) (s : Db) (l : Act)
    (m : Db → Svc (Option TokenPair)) : SessionThread := ⟨t.call, t.done ++ [(l, s)], m s⟩

/-- The pool afterwards. -/
abbrev SessionPool.after (p : SessionPool) (k : ℕ) (t : SessionThread) (l : Act) (w : Db → Db)
    (m : Db → Svc (Option TokenPair)) : SessionPool :=
  ⟨w p.shared, p.threads.set k (t.after p.shared l m)⟩

lemma stage_after (t : SessionThread) (s : Db) :
    (t.after s l m).stage env = SessionStage.next env t.call (t.stage env) l s :=
  Protocol.phase_concat _ _ _ _

/-- A refresh that is about to revoke its token finds it open, and closes it. -/
lemma Acts.revokes (ha : Acts env p k t l w m) {h : String}
    (hh : t.call.presentedHash env = some h) {i u : Id} (hst : t.stage env = .found i u)
    (hl : l = .update .refreshToken) :
    (sessionVault env p).Live h ∧ ¬ (sessionVault env (SessionPool.after p k t l w m)).Live h := by
  obtain ⟨stored, hstored, -⟩ :=
    ha.ok.stored (List.mem_of_getElem? ha.thread) hh (i := i) (by rw [hst]; rfl)
  have hwrite : (t.stage env).write env t.call l = .revoke i := by
    obtain ⟨random, refreshToken, hcall, -⟩ := presentedHash_eq_some hh
    rw [hst, hl, hcall]
    rfl
  have hopen := ha.orderly
  have hdoes := ha.allows
  rw [hwrite] at hopen hdoes
  obtain ⟨now, hdoes⟩ := hdoes
  constructor
  · refine ⟨_, hstored, hopen stored ?_⟩
    exact (Table.mem_rows_iff _).mp (List.mem_of_find?_eq_some hstored)
  · rintro ⟨x, hx, hxopen⟩
    have hmap := refreshTokenByHash_mapRows (h := h) (fun j t => ?_) hdoes
    · have hx' : (w p.shared).refreshTokenByHash h = some x := hx
      rw [hmap, hstored] at hx'
      cases hx'
      simp [RefreshToken.revoke] at hxopen
    · split_ifs
      · exact Or.inr ⟨now, rfl⟩
      · exact Or.inl rfl

/-- What the thread has become is about a token that it was about before. -/
lemma Acts.pending (ha : Acts env p k t l w m) {h : String}
    (hholds : (t.after p.shared l m).Holds env h) :
    t.Holds env h ∨ (sessionVault env p).Live h := by
  obtain ⟨hh, hst⟩ := hholds
  obtain ⟨random, refreshToken, hcall, -⟩ := presentedHash_eq_some hh
  rw [stage_after, hcall] at hst
  rcases next_rotatingFor? hst with hst | ⟨i, u, hst, hl⟩
  · exact Or.inl ⟨hh, hst⟩
  · exact Or.inr (ha.revokes hh hst hl).1

lemma Acts.taken (ha : Acts env p k t l w m) (h : String) :
    (t.after p.shared l m).took env h = t.took env h ∨
      (t.took env h = false ∧ (t.after p.shared l m).took env h ∧ (sessionVault env p).Live h ∧
        ¬ (sessionVault env (SessionPool.after p k t l w m)).Live h) := by
  by_cases hh : t.call.presentedHash env = some h
  · obtain ⟨random, refreshToken, hcall, -⟩ := presentedHash_eq_some hh
    have htook : ∀ u : SessionThread, u.call = t.call → u.took env h = (u.stage env).taken := by
      intro u hu
      simp [SessionThread.took, hu, hh]
    rw [htook t rfl, htook (t.after p.shared l m) rfl, stage_after, hcall]
    cases hst : (t.stage env).taken with
    | true => exact Or.inl (taken_next hst)
    | false =>
      cases hnext : (SessionStage.next env (.refresh random refreshToken) (t.stage env) l
          p.shared).taken with
      | false => exact Or.inl rfl
      | true =>
        rcases next_taken hnext with htaken | ⟨i, u, hfound, hl⟩
        · rw [hst] at htaken
          cases htaken
        · exact Or.inr ⟨rfl, rfl, ha.revokes hh hfound hl⟩
  · left
    simp [SessionThread.took, hh]

/-- What the thread has answered is new, and is for the user of the token it has taken. -/
lemma Acts.child (ha : Acts env p k t l w m) {h h' : String}
    (hgave : (t.after p.shared l m).Gave env h h') :
    t.Holds env h ∧ (sessionVault env p).owner h' = none ∧
      (sessionVault env (SessionPool.after p k t l w m)).owner h' =
        (sessionVault env p).owner h := by
  obtain ⟨hh, pair, hpair, rfl⟩ := hgave
  have hmem := List.mem_of_getElem? ha.thread
  have hm : m p.shared = .ret (some pair) := by
    rw [SessionThread.answer] at hpair
    split at hpair
    · rename_i a hm
      exact hm.trans (congrArg Prog.ret hpair)
    · cases hpair
  have hreports := ha.ok.reporting t hmem
  rw [ha.rest] at hreports
  have hrotates := (hreports p.shared trivial).1 _ hm
  obtain ⟨random, refreshToken, hcall, -⟩ := presentedHash_eq_some hh
  rw [hcall] at hrotates
  obtain ⟨i, u, new, hst, hu, hhash, hnone, hinsert⟩ := hrotates pair rfl
  have hstage : t.stage env = .rotating i u := by
    rw [SessionThread.stage, hcall]
    exact hst
  obtain ⟨stored, hstored, hstoredUser⟩ :=
    ha.ok.stored hmem hh (i := i) (by rw [hstage]; rfl)
  have hnew : (w p.shared).refreshTokenByHash (hashToken env pair.refreshToken) =
      some (p.shared.refreshToken.next, new) := by
    rw [refreshTokenByHash_insert hinsert, ← hhash, hnone, if_pos rfl]
    rfl
  refine ⟨⟨hh, by rw [hstage]; rfl⟩, ?_, ?_⟩
  · rw [owner_eq_none_iff, ← hhash]
    exact hnone
  · rw [owner_eq_some_iff.mpr ⟨_, hnew, hu⟩, owner_eq_some_iff.mpr ⟨_, hstored, hstoredUser⟩]

theorem Acts.vault_step (ha : Acts env p k t l w m) :
    Vault.Step (sessionVault env p) (sessionVault env (SessionPool.after p k t l w m)) where
  owner := by
    intro h u howner
    obtain ⟨x, hx, hxu⟩ := owner_eq_some_iff.mp howner
    obtain ⟨y, hy, -, hyu⟩ := ha.allows.change.keepsTokens h x hx
    exact owner_eq_some_iff.mpr ⟨y, hy, hyu.trans hxu⟩
  live := by
    rintro h ⟨y, hy, hopen⟩
    rcases ha.allows.change.open_cases hy hopen with hlive | hnone
    · exact Or.inl hlive
    · refine Or.inr ⟨owner_eq_none_iff.mpr hnone, fun hnone' => ?_⟩
      have hy' : (w p.shared).refreshTokenByHash h = none := owner_eq_none_iff.mp hnone'
      rw [hy'] at hy
      cases hy
  pending := by
    rintro h ⟨t', ht', hholds⟩
    rcases List.mem_or_eq_of_mem_set ht' with ht' | rfl
    · exact Or.inl ⟨t', ht', hholds⟩
    · rcases ha.pending hholds with hholds | hlive
      · exact Or.inl ⟨t, List.mem_of_getElem? ha.thread, hholds⟩
      · exact Or.inr hlive
  taken := by
    intro h
    have hcount := Pool.countP_set ha.thread (fun t => SessionThread.took env t h)
      (t.after p.shared l m)
    rcases ha.taken h with heq | ⟨hbefore, hafter, hlive, hdead⟩
    · left
      rw [heq] at hcount
      exact (Nat.add_right_cancel hcount).le
    · right
      rw [hbefore, hafter] at hcount
      exact ⟨hcount, hlive, hdead⟩
  child := by
    rintro h h' ⟨t', ht', hgave⟩
    rcases List.mem_or_eq_of_mem_set ht' with ht' | rfl
    · exact Or.inl ⟨t', ht', hgave⟩
    · obtain ⟨hholds, hnone, howner⟩ := ha.child hgave
      exact Or.inr ⟨⟨t, List.mem_of_getElem? ha.thread, hholds⟩, hnone, howner⟩

end Acts

/-- **An orderly step is a step of the vault.** -/
theorem SessionsOk.vault_step {p : SessionPool} (hok : SessionsOk env p) {e : Event SessionCall}
    (he : OrderlySessions env p e) :
    Vault.Step (sessionVault env p) (sessionVault env (p.step (SessionCall.code env) e)) := by
  rcases hok.tracked.step (SessionCall.code env) (fun _ => trivial) e with
    ⟨k, -, -, hstep⟩ | ⟨c, -, hstep⟩ | ⟨k, t, l, w, m, rfl, ht, hrest, hallows, hstep⟩
  · rw [hstep]
    exact vault_step_refl p
  · rw [hstep]
    exact vault_step_start p c
  · rw [hstep]
    have horderly := he t ht
    rw [SessionThread.nextWrite, hrest] at horderly
    exact Acts.vault_step ⟨hok, ht, hrest, hallows, horderly⟩

/-- The event revokes all the tokens of the user. -/
def RevokesAll (env : AuthEnv) (p : SessionPool) (e : Event SessionCall) (userId : Id) : Prop :=
  ∃ k t, e = .sched k ∧ p.threads[k]? = some t ∧
    SessionThread.nextWrite env t = .revokeAll userId

/-- Afterwards nothing of the user's is left. -/
lemma SessionsOk.revoked {p : SessionPool} (hok : SessionsOk env p) {e : Event SessionCall}
    (he : OrderlySessions env p e) {userId : Id} (hrevokes : RevokesAll env p e userId) :
    (sessionVault env (p.step (SessionCall.code env) e)).Revoked userId := by
  obtain ⟨k, t, rfl, ht, hwrite⟩ := hrevokes
  have horderly := he t ht
  rcases hok.tracked.step (SessionCall.code env) (fun _ => trivial) (.sched k) with
    ⟨j, hj, hfinished, hstep⟩ | ⟨c, hc, hstep⟩ | ⟨j, t', l, w, m, hj, ht', hrest, hallows, hstep⟩
  · cases hj
    have hnext := hfinished t ht
    rw [Thread.Finished] at hnext
    rw [SessionThread.nextWrite, hnext] at hwrite
    cases hwrite
  · cases hc
  · cases hj
    obtain rfl := Option.some.inj (ht.symm.trans ht')
    have hdoes : TokenWrite.Does (.revokeAll userId) p.shared (w p.shared) := by
      rw [← hwrite, SessionThread.nextWrite, hrest]
      exact hallows
    rw [hwrite] at horderly
    obtain ⟨now, hdoes⟩ := hdoes
    rw [hstep]
    intro h howner
    obtain ⟨y, hy, hyu⟩ := owner_eq_some_iff.mp howner
    have hmap := refreshTokenByHash_mapRows (h := h) (fun j t => ?_) hdoes
    · have hy' : (w p.shared).refreshTokenByHash h = some y := hy
      rw [hmap] at hy'
      obtain ⟨x, hx, rfl⟩ := Option.map_eq_some_iff.mp hy'
      have hxu : x.2.userId = userId := by
        rw [← hyu]
        dsimp only
        split_ifs <;> rfl
      have hholds : ∀ t' ∈ p.threads, ¬ SessionThread.Holds env t' h := by
        rintro t' ht' ⟨hh, hst⟩
        obtain ⟨u, hu⟩ := Option.isSome_iff_exists.mp hst
        obtain ⟨i, hi⟩ := token?_of_rotatingFor? hu
        obtain ⟨stored, hstored, rfl⟩ := hok.stored ht' hh hi
        rw [hx] at hstored
        cases hstored
        exact horderly t' ht' (hu.trans (congrArg some hxu))
      constructor
      · rintro ⟨z, hz, hopen⟩
        have hz' : (w p.shared).refreshTokenByHash h = some z := hz
        rw [hmap, hx] at hz'
        cases hz'
        dsimp only at hopen
        split_ifs at hopen with hof
        · cases hopen
        · exact hof (by simp [RefreshToken.openOf, hxu, hopen])
      · rintro ⟨t', ht', hh, hst⟩
        rcases List.mem_or_eq_of_mem_set ht' with ht' | rfl
        · exact hholds t' ht' ⟨hh, hst⟩
        · obtain ⟨random, refreshToken, hcall, -⟩ := presentedHash_eq_some hh
          have hst' := hst
          rw [stage_after, hcall] at hst'
          rcases next_rotatingFor? hst' with hold | ⟨i, u, hfound, rfl⟩
          · exact hholds t (List.mem_of_getElem? ht) ⟨hh, hold⟩
          · rw [SessionThread.nextWrite, hrest, hfound, hcall] at hwrite
            cases hwrite
    · split_ifs
      · exact Or.inr ⟨now, rfl⟩
      · exact Or.inl rfl

end Runs

/-! ## Single use and finality -/

/-- The call is a refresh with this token. -/
def SessionCall.presents (refreshToken : String) : SessionCall → Bool
  | refresh _ presented => presented = refreshToken
  | _ => false

/-- How many pairs a refresh token has yielded. -/
def pairsFor (p : SessionPool) (refreshToken : String) : ℕ :=
  p.threads.countP fun t => t.call.presents refreshToken && (SessionThread.answer t).isSome

/-- A refresh with the first token has answered with the second. -/
def Rotated (p : SessionPool) (refreshToken next : String) : Prop :=
  ∃ t ∈ p.threads, t.call.presents refreshToken ∧
    ∃ pair ∈ SessionThread.answer t, pair.refreshToken = next

section Final

variable (env : AuthEnv) (d : Db)

/-- The refresh token has been issued to the user. -/
def Db.IssuedTo (refreshToken : String) (userId : Id) : Prop :=
  ∃ x ∈ d.refreshTokenByHash (hashToken env refreshToken), x.2.userId = userId

/-- The refresh token is neither revoked nor expired. -/
def Db.ValidRefreshToken (refreshToken : String) : Prop :=
  ∃ x ∈ d.refreshTokenByHash (hashToken env refreshToken),
    x.2.revokedAt = none ∧ ¬ x.2.expiresAt < d.clock

/-- The pool after these events. -/
abbrev sessionsAfter (es : List (Event SessionCall)) : SessionPool :=
  runFrom (Pool.step (SessionCall.code env)) (Pool.idle d) es

/-- No refresh token has yielded more than one pair. -/
def SingleUse (es : List (Event SessionCall)) : Prop :=
  ∀ refreshToken, pairsFor (sessionsAfter env d es) refreshToken ≤ 1

/-- No refresh token is valid that descends, by any number of refreshes, from one that its user
had when all his tokens were revoked. -/
def RevocationFinal (es : List (Event SessionCall)) : Prop :=
  ∀ before e after, es = before ++ e :: after →
    ∀ userId, RevokesAll env (sessionsAfter env d before) e userId →
      ∀ refreshToken, (sessionsAfter env d before).shared.IssuedTo env refreshToken userId →
        ∀ next, Relation.ReflTransGen (Rotated (sessionsAfter env d es)) refreshToken next →
          ¬ (sessionsAfter env d es).shared.ValidRefreshToken env next

variable {env d}

lemma sessionVault_idle_sound : (sessionVault env (Pool.idle d)).Sound where
  live := by
    rintro h ⟨x, hx, -⟩ hnone
    rw [owner_eq_none_iff.mp hnone] at hx
    cases hx
  pending := by
    rintro h ⟨t, ht, -⟩
    exact absurd ht List.not_mem_nil
  unissued _ := rfl
  single _ := Nat.zero_le 1
  unused _ := rfl
  child := by
    rintro h h' ⟨t, ht, -⟩
    exact absurd ht List.not_mem_nil

/-- What is known of a pool after orderly steps. -/
structure OrderlySoFar (env : AuthEnv) (p : SessionPool) : Prop where
  ok : SessionsOk env p
  sound : (sessionVault env p).Sound

lemma OrderlySoFar.idle : OrderlySoFar env (Pool.idle d) := ⟨.idle d, sessionVault_idle_sound⟩

lemma OrderlySoFar.step {p : SessionPool} (h : OrderlySoFar env p) {e : Event SessionCall}
    (he : OrderlySessions env p e) : OrderlySoFar env (p.step (SessionCall.code env) e) :=
  ⟨h.ok.step e, h.sound.step (h.ok.vault_step he)⟩

lemma OrderlySoFar.of_run {es : List (Event SessionCall)}
    (h : AllSteps (Pool.step (SessionCall.code env)) (OrderlySessions env) (Pool.idle d) es) :
    OrderlySoFar env (sessionsAfter env d es) :=
  (h.invariant (I := OrderlySoFar env) (fun _ _ h he => h.step he) .idle).last

lemma presentedHash_of_presents {c : SessionCall} {refreshToken : String}
    (h : c.presents refreshToken) :
    c.presentedHash env = some (hashToken env refreshToken) := by
  cases c with
  | refresh random presented =>
    rw [of_decide_eq_true h]
    rfl
  | logout => cases h
  | logoutAll => cases h
  | resetPassword => cases h
  | deactivateStaffAccount => cases h
  | reactivateStaffAccount => cases h
  | signIn => cases h

/-- The pairs that a token has yielded are counted by the vault. -/
lemma OrderlySoFar.pairsFor_le_one {p : SessionPool} (h : OrderlySoFar env p)
    (refreshToken : String) : pairsFor p refreshToken ≤ 1 := by
  refine le_trans (List.countP_mono_left fun t ht hanswer => ?_)
    (h.sound.single (hashToken env refreshToken))
  rw [Bool.and_eq_true] at hanswer
  have hh : t.call.presentedHash env = some (hashToken env refreshToken) :=
    presentedHash_of_presents hanswer.1
  exact decide_eq_true ⟨hh, h.ok.answered t ht _ hh hanswer.2⟩

/-- A descendant of a token descends from it in the vault. -/
lemma descends_of_rotated {p : SessionPool} {S : Set String} {refreshToken next : String}
    (hS : hashToken env refreshToken ∈ S)
    (h : Relation.ReflTransGen (Rotated p) refreshToken next) :
    (sessionVault env p).Descends S (hashToken env next) := by
  refine ⟨_, hS, h.lift (hashToken env) ?_⟩
  rintro a b ⟨t, ht, hpresents, pair, hpair, rfl⟩
  exact ⟨t, ht, presentedHash_of_presents hpresents, pair, hpair, rfl⟩

variable (env d)

/-- **Revocation is final, and refresh tokens are single-use**, in every interleaving in which a
refresh always finds its token as it was when it looked, and in which no revocation of all the
tokens of a user comes between the two writes of a refresh. -/
theorem revocation_final_of_orderly {es : List (Event SessionCall)}
    (h : AllSteps (Pool.step (SessionCall.code env)) (OrderlySessions env) (Pool.idle d) es) :
    ∀ pre, pre <+: es → SingleUse env d pre ∧ RevocationFinal env d pre := by
  rintro pre ⟨post, rfl⟩
  have hpre := (AllSteps.append_iff.mp h).1
  constructor
  · exact (OrderlySoFar.of_run hpre).pairsFor_le_one
  · rintro before e after rfl userId hrevokes refreshToken ⟨x, hx, hxu⟩ next hnext ⟨y, hy, hopen, -⟩
    obtain ⟨hbefore, hstep, hafter⟩ := AllSteps.append_iff.mp hpre
    have hsafe := OrderlySoFar.of_run hbefore
    -- From the revocation on, what the user had before it is extinct.
    have hextinct : (sessionVault env ((sessionsAfter env d before).step (SessionCall.code env) e)
        ).Extinct {h | (sessionVault env (sessionsAfter env d before)).owner h = some userId}
        userId :=
      (hsafe.ok.revoked hstep hrevokes).extinct (hsafe.step hstep).sound fun _ hj =>
        (hsafe.ok.vault_step hstep).owner hj
    have hend := (hafter.invariant (I := fun p => OrderlySoFar env p ∧
      (sessionVault env p).Extinct _ userId) (fun _ _ h he => ⟨h.1.step he,
        h.2.step (h.1.ok.vault_step he)⟩) ⟨hsafe.step hstep, hextinct⟩).last
    have hrun : sessionsAfter env d (before ++ e :: after) =
        runFrom (Pool.step (SessionCall.code env))
          ((sessionsAfter env d before).step (SessionCall.code env) e) after := by
      rw [sessionsAfter, runFrom_append, runFrom_cons]
    rw [hrun] at hnext hy
    refine (hend.2 _ (descends_of_rotated ?_ hnext)).2.1 ⟨y, hy, hopen⟩
    exact owner_eq_some_iff.mpr ⟨x, hx, hxu⟩

end Final

/-! ### Runs -/

/-- SHA-256 where the runs below need it. -/
def sampleSha256 (text : String) : String :=
  (List.lookup text [
    ("token",
      "3c469e9d6c5875d37a43f353d4f88e61fcf812c66eee3457465a40b0da4153e0"),
    ("0:1001:0.5",
      "98be14c055d67c3a177b5eeaef85598261a8990a5dff8ee63809c7b5e5900062"),
    ("98be14c055d67c3a177b5eeaef85598261a8990a5dff8ee63809c7b5e5900062",
      "5d26363f737bd2dd5d575888372ffd47fa19695ed1f096004b404fcc318fd85e"),
    ("0:1002:0.5",
      "691f0d889166482c5245bd959a0f968da1346a073957d9e21c78f372d3ef2bfb"),
    ("691f0d889166482c5245bd959a0f968da1346a073957d9e21c78f372d3ef2bfb",
      "d44d3e3cfd58c1f110fe2c87cf966e7d994457ec8888ad2895e61bfa8bf6392a"),
    ("0:1003:0.25",
      "95770c5e0acd13eeaee16044d984df09a7a591878dc1f723e33ae37f2a0e1861"),
    ("95770c5e0acd13eeaee16044d984df09a7a591878dc1f723e33ae37f2a0e1861",
      "dfc802152b870444c321326af42bf369a49113ab1307ba6a4605c544c8c6b63e")]).getD ""

def sampleAuthEnv : AuthEnv where
  sha256 := sampleSha256
  argon2Hash salt password := salt ++ password
  argon2Verify hash password := hash.endsWith password
  hmacSha1 _ message := message

/-- One customer with one refresh token. -/
def oneSessionDb : Db where
  clock := 1000
  user := Table.empty.insert { email := some "a@b.c", role := .customer }
  refreshToken := Table.empty.insert
    { userId := 0, tokenHash := sampleSha256 "token", expiresAt := 604801000 }

/-- A refresh that runs alone, and then a logout from every device. -/
def refreshThenLogoutAll : List (Event SessionCall) :=
  [.start (.refresh "0.5" "token"), .start (.logoutAll 0)] ++ List.replicate 6 (.sched 0) ++
    List.replicate 3 (.sched 1)

theorem revocation_final_of_orderly_refreshThenLogoutAll :
    AllSteps (Pool.step (SessionCall.code sampleAuthEnv)) (OrderlySessions sampleAuthEnv)
      (Pool.idle oneSessionDb) refreshThenLogoutAll ∧
    ∀ pre, pre <+: refreshThenLogoutAll → SingleUse sampleAuthEnv oneSessionDb pre ∧
      RevocationFinal sampleAuthEnv oneSessionDb pre := by
  have horderly : AllSteps (Pool.step (SessionCall.code sampleAuthEnv))
      (OrderlySessions sampleAuthEnv) (Pool.idle oneSessionDb) refreshThenLogoutAll := by
    decide +kernel
  exact ⟨horderly, revocation_final_of_orderly sampleAuthEnv oneSessionDb horderly⟩

/-- Two refreshes of one token look it up before either revokes it. -/
def twoRefreshes : List (Event SessionCall) :=
  [.start (.refresh "0.5" "token"), .start (.refresh "0.25" "token")] ++
    List.replicate 3 (.sched 0) ++ List.replicate 3 (.sched 1) ++ [.sched 0, .sched 1] ++
    List.replicate 2 (.sched 0) ++ List.replicate 2 (.sched 1)

/-- A logout from every device comes between the two writes of a refresh. -/
def logoutAllInBetween : List (Event SessionCall) :=
  [.start (.refresh "0.5" "token"), .start (.logoutAll 0)] ++ List.replicate 4 (.sched 0) ++
    [.sched 1] ++ [.sched 1] ++ List.replicate 2 (.sched 0)

/-- The first token yields two pairs, and the descendant of a revoked one is valid. -/
theorem refreshed_twice_and_revived :
    ¬ (∀ es, SingleUse sampleAuthEnv oneSessionDb es) ∧
    ¬ (∀ es, RevocationFinal sampleAuthEnv oneSessionDb es) := by
  constructor
  · intro hall
    have htwo : pairsFor (sessionsAfter sampleAuthEnv oneSessionDb twoRefreshes) "token" = 2 := by
      decide +kernel
    have hone := hall twoRefreshes "token"
    rw [htwo] at hone
    exact absurd hone (by decide)
  · intro hall
    let before : List (Event SessionCall) :=
      [.start (.refresh "0.5" "token"), .start (.logoutAll 0)] ++ List.replicate 4 (.sched 0) ++
        [.sched 1]
    have hrevokes : ((sessionsAfter sampleAuthEnv oneSessionDb before).threads[1]?).map
        (SessionThread.nextWrite sampleAuthEnv) = some (.revokeAll 0) := by decide +kernel
    have hissued : ((sessionsAfter sampleAuthEnv oneSessionDb before).shared.refreshTokenByHash
        (sampleSha256 "token")).map (fun x => x.2.userId) = some 0 := by decide +kernel
    have hanswer : ((sessionsAfter sampleAuthEnv oneSessionDb logoutAllInBetween).threads[0]?).map
        (fun t => (t.call, (SessionThread.answer t).map TokenPair.refreshToken)) =
          some (.refresh "0.5" "token", some (sampleSha256 "0:1002:0.5")) := by decide +kernel
    have hvalid : ((sessionsAfter sampleAuthEnv oneSessionDb logoutAllInBetween
        ).shared.refreshTokenByHash (sampleSha256 (sampleSha256 "0:1002:0.5"))).map
          (fun x => (x.2.revokedAt, x.2.expiresAt)) = some (none, 604801002) := by decide +kernel
    have hclock : (sessionsAfter sampleAuthEnv oneSessionDb logoutAllInBetween).shared.clock =
        1003 := by decide +kernel
    obtain ⟨t, ht, hwrite⟩ := Option.map_eq_some_iff.mp hrevokes
    obtain ⟨x, hx, hxu⟩ := Option.map_eq_some_iff.mp hissued
    obtain ⟨t', ht', hpair⟩ := Option.map_eq_some_iff.mp hanswer
    obtain ⟨y, hy, hopen⟩ := Option.map_eq_some_iff.mp hvalid
    obtain ⟨hcall, hpair⟩ := Prod.ext_iff.mp hpair
    obtain ⟨pair, hpair, hnext⟩ := Option.map_eq_some_iff.mp hpair
    obtain ⟨hopen, hexpires⟩ := Prod.ext_iff.mp hopen
    refine hall logoutAllInBetween before (.sched 1) (List.replicate 2 (.sched 0)) rfl 0
      ⟨1, t, rfl, ht, hwrite⟩ "token" ⟨x, hx, hxu⟩ (sampleSha256 "0:1002:0.5")
      (.single ⟨t', List.mem_of_getElem? ht', ?_, pair, hpair, hnext⟩) ⟨y, hy, hopen, ?_⟩
    · rw [show t'.call = .refresh "0.5" "token" from hcall]
      rfl
    · rw [hclock, show y.2.expiresAt = 604801002 from hexpires]
      decide

end Asoju

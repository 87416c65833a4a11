/-
The session of a browser tab.

The tab keeps its tokens in the browser's storage.  Any number of its calls of `apiFetch` may be
answered with 401; the first of them refreshes the session and the others wait for the same promise.
What runs between two answers of the network is one step: an answer with all that follows it, up to
the next request.  Meanwhile the server works on its own calls, one access to the database at a
time (`SessionRuns`), and a request or an answer may be lost.

The server does not keep two concurrent refreshes with one token apart.  `Session.single_use` shows
that a tab never makes them: it presents no refresh token twice, whatever the server and the network
do.  What is read of the other answers is `OfflineQueue.readResponse`; the paths of the requests and
their bodies are left out, and so is a reload of the page.
-/
import Asoju.OfflineQueue
import Asoju.SessionRuns

namespace Asoju

open Lib

namespace SessionTab

open OfflineQueue (Response FetchError readResponse)

/-! ## The tab -/

structure SessionUser where
  id : Id
  email : Option String := none
  role : Role
deriving DecidableEq, Repr

/-- The keys of the session in the browser's storage. -/
structure Storage where
  accessToken : Option AccessToken := none
  refreshToken : Option String := none
  user : Option SessionUser := none
deriving DecidableEq, Repr

def setSession (pair : TokenPair) (user : SessionUser) : Storage :=
  ⟨some pair.accessToken, some pair.refreshToken, some user⟩

def clearSession : Storage := {}

/-- A call of `tryRefresh` that waits for the answer to its request. -/
structure Refreshing where
  token : String
  user : SessionUser
  /-- The number of the call at the server, once the request has arrived. -/
  request : Option ℕ := none
deriving DecidableEq, Repr

/-- A call of `apiFetch`. -/
inductive ApiCall
  /-- It waits for the answer to its request, which carries the access token. -/
  | fetching (isRetry : Bool) (token : Option AccessToken)
  /-- It waits for `refreshPromise`. -/
  | waiting
  | settled (result : Except FetchError Unit)

structure Tab where
  storage : Storage := {}
  refreshPromise : Option Refreshing := none
  calls : List ApiCall := []
  /-- The sign-ins that wait for their answers, by their numbers at the server. -/
  signIns : List (ℕ × SessionUser) := []
  /-- The refresh tokens that have been sent to the server, in this order. -/
  presented : List String := []

def sessionExpired : FetchError := .apiError "Session expired — please sign in again." 401

/-- A waiting call goes on once the promise is settled: it tries again, or it gives up. -/
def ApiCall.goOn (refreshed : Bool) (token : Option AccessToken) : ApiCall → ApiCall
  | waiting => if refreshed then fetching true token else settled (.error sessionExpired)
  | c => c

namespace Tab

/-- `apiFetch` up to its request. -/
def apiFetch (t : Tab) : Tab :=
  { t with calls := t.calls ++ [.fetching false t.storage.accessToken] }

/-- The promise is fulfilled, and with it all that wait for it go on. -/
def refreshed (result : Option TokenPair) (user : SessionUser) (t : Tab) : Tab :=
  let storage := match result with
    | some pair => setSession pair user
    | none => clearSession
  { t with
    storage, refreshPromise := none
    calls := t.calls.map (ApiCall.goOn result.isSome storage.accessToken) }

/-- The call waits for the refresh, which is begun if there is none. -/
def awaitRefresh (i : ℕ) (t : Tab) : Tab :=
  match t.refreshPromise, t.storage.refreshToken, t.storage.user with
  | some _, _, _ => { t with calls := t.calls.set i .waiting }
  | none, some token, some user =>
      { t with
        refreshPromise := some ⟨token, user, none⟩
        presented := t.presented ++ [token]
        calls := t.calls.set i .waiting }
  -- `tryRefresh` gives up at once.
  | none, _, _ =>
      { t with storage := clearSession, calls := t.calls.set i (.settled (.error sessionExpired)) }

/-- The answer to the request of the call `i`, or the error of the network. -/
def respond (i : ℕ) (res : Option Response) (t : Tab) : Tab :=
  match t.calls[i]?, res with
  | some (.fetching _ _), none => { t with calls := t.calls.set i (.settled (.error .other)) }
  | some (.fetching isRetry _), some res =>
      if res.status = 401 ∧ isRetry = false ∧ t.storage.refreshToken.isSome then t.awaitRefresh i
      else { t with calls := t.calls.set i (.settled (readResponse res)) }
  | _, _ => t

end Tab

/-! ## The tab and the server -/

structure Session where
  tab : Tab := {}
  pool : SessionPool

inductive Event
  | apiFetch
  | respond (i : ℕ) (res : Option Response)
  /-- The request of `tryRefresh` arrives at the server, which draws a random number for it. -/
  | arrive (random : String)
  /-- The answer to that request arrives at the tab, or it never will. -/
  | settle (delivered : Bool)
  /-- The user signs in, and the request arrives at the server. -/
  | signIn (random : String) (user : SessionUser)
  /-- The answer to the sign-in that is the call number `i` at the server arrives at the tab. -/
  | signedIn (i : ℕ)
  /-- The user signs out. -/
  | clearSession
  /-- The server goes on, with these calls or with others. -/
  | server (e : Lib.Event SessionCall)

/-- What the call number `i` at the server has answered. -/
def answerAt (p : SessionPool) (i : ℕ) : Option TokenPair :=
  (p.threads[i]?).bind SessionThread.answer

variable (env : AuthEnv)

namespace Session

/-- A request arrives at the server. -/
def start (c : SessionCall) (s : Session) : SessionPool :=
  s.pool.step (SessionCall.code env) (.start c)

def step (s : Session) : Event → Session
  | .apiFetch => { s with tab := s.tab.apiFetch }
  | .respond i res => { s with tab := s.tab.respond i res }
  | .arrive random =>
      match s.tab.refreshPromise with
      | some ⟨token, user, none⟩ =>
          ⟨{ s.tab with refreshPromise := some ⟨token, user, some s.pool.threads.length⟩ },
            s.start env (.refresh random token)⟩
      | _ => s
  | .settle delivered =>
      match s.tab.refreshPromise with
      | some r =>
          let answer := r.request.bind (answerAt s.pool)
          { s with tab := s.tab.refreshed (if delivered then answer else none) r.user }
      | none => s
  | .signIn random user =>
      ⟨{ s.tab with signIns := s.tab.signIns ++ [(s.pool.threads.length, user)] },
        s.start env (.signIn random user.id user.role)⟩
  | .signedIn i =>
      match s.tab.signIns.find? fun x => x.1 = i, answerAt s.pool i with
      | some (_, user), some pair =>
          { s with
            tab := { s.tab with
              storage := setSession pair user
              signIns := s.tab.signIns.filter fun x => x.1 ≠ i } }
      | _, _ => s
  | .clearSession => { s with tab := { s.tab with storage := SessionTab.clearSession } }
  | .server e => { s with pool := s.pool.step (SessionCall.code env) e }

end Session

/-! ## What the server answers -/

variable {env}

/-- Who answers with tokens has just created the refresh token, under a hash that was free. -/
def Issues (env : AuthEnv) (_ : SessionCall) (_ : SessionStage) (_ : Act) (s s' : Db)
    (answer : Option TokenPair) : Prop :=
  ∀ pair ∈ answer, s.refreshTokenByHash (AuthService.hashToken env pair.refreshToken) = none ∧
    ∃ x, s'.refreshTokenByHash (AuthService.hashToken env pair.refreshToken) = some x

/-- A new token is found under its hash. -/
lemma issued_of_insert {s s' : Db} {t : RefreshToken} {h : String} (ht : t.tokenHash = h)
    (hnone : s.refreshTokenByHash t.tokenHash = none)
    (hinsert : s'.refreshToken = s.refreshToken.insert t) :
    s.refreshTokenByHash h = none ∧ ∃ x, s'.refreshTokenByHash h = some x := by
  subst ht
  refine ⟨hnone, (s.refreshToken.next, t), ?_⟩
  rw [refreshTokenByHash_insert hinsert, hnone, if_pos rfl, Option.none_or]

lemma reports_mono {φ : Type} {P : Protocol Db Act φ} {α : Type}
    {Q Q' : φ → Act → Db → Db → α → Prop} (hQ : ∀ st l s s' a, Q st l s s' a → Q' st l s s' a)
    {m : Svc α} {st : φ} (h : P.Reports Q st m) : P.Reports Q' st m := by
  induction m generalizing st with
  | ret a => trivial
  | fail e => trivial
  | atom l w k ih => exact fun s hs => ⟨fun a ha => hQ _ _ _ _ a ((h s hs).1 a ha), ih s (h s hs).2⟩

/-- A call that answers without tokens. -/
lemma reports_bind_none (c : SessionCall) {β : Type} (m : Svc β) (st : SessionStage) :
    (c.protocol env).Reports (Issues env c) st (m >>= fun _ => pure none) := by
  induction m generalizing st with
  | ret b => trivial
  | fail e => trivial
  | atom l w k ih =>
    refine fun s _ => ⟨fun answer hanswer => ?_, ih s _⟩
    beta_reduce at hanswer
    have hnone : answer = none := by
      cases hk : k s with
      | ret b =>
        rw [hk] at hanswer
        exact (Prog.ret.inj hanswer).symm
      | fail e =>
        rw [hk] at hanswer
        cases hanswer
      | atom l' w' k' =>
        rw [hk] at hanswer
        cases hanswer
    rw [hnone]
    exact fun pair hpair => absurd hpair (Option.not_mem_none _)

lemma reports_signIn (random : String) (userId : Id) (role : Role) :
    ((SessionCall.signIn random userId role).protocol env).Reports
      (Issues env (.signIn random userId role)) .start
      (SessionCall.code env (.signIn random userId role)) := by
  rw [SessionCall.code, AuthService.issueTokens, Prog.bind_assoc]
  refine fun s₀ _ => ⟨fun a ha => (by cases ha), fun s _ => ⟨fun answer hanswer => ?_, ?_⟩⟩
  · beta_reduce at hanswer
    split_ifs at hanswer with htaken
    · cases hanswer
    · cases hanswer
      rintro pair ⟨⟩
      have hfree := htaken
      rw [Bool.not_eq_true, Option.isSome_eq_false_iff, Option.isNone_iff_eq_none] at hfree
      let row : RefreshToken :=
        { userId
          tokenHash := AuthService.hashToken env
            (AuthService.newRefreshToken env userId s₀.clock random)
          expiresAt := s.clock + AuthService.parseTtlMs (env.jwtRefreshTtl.getD "7d") }
      refine issued_of_insert (t := row) rfl hfree ?_
      beta_reduce
      rw [if_neg htaken]
      rfl
  · beta_reduce
    split_ifs <;> exact trivial

theorem issues (c : SessionCall) : (c.protocol env).Reports (Issues env c) .start (c.code env) := by
  cases c with
  | refresh random refreshToken =>
    refine reports_mono (fun st l s s' answer hrotates pair hpair => ?_)
      (SessionCall.governs (.refresh random refreshToken)).2
    obtain ⟨i, u, t, -, -, hhash, hnone, hinsert⟩ := hrotates pair hpair
    exact issued_of_insert hhash hnone hinsert
  | logout refreshToken => exact reports_bind_none _ _ _
  | logoutAll userId => exact reports_bind_none _ _ _
  | resetPassword salt token newPassword => exact reports_bind_none _ _ _
  | deactivateStaffAccount actor userId => exact reports_bind_none _ _ _
  | reactivateStaffAccount userId => exact reports_bind_none _ _ _
  | signIn random userId role => exact reports_signIn random userId role

/-! ## What is known of the server -/

/-- The refresh token is known to the server. -/
def Known (env : AuthEnv) (d : Db) (token : String) : Prop :=
  ∃ x, d.refreshTokenByHash (AuthService.hashToken env token) = some x

/-- What is known of the server at every moment. -/
structure ServerOk (env : AuthEnv) (p : SessionPool) : Prop where
  tracked : Pool.Tracked (SessionCall.protocol env) p
  reporting : Pool.Reporting (P := SessionCall.protocol env) (Issues env) p
  known : ∀ i pair, answerAt p i = some pair → Known env p.shared pair.refreshToken
  /-- No two calls have answered with one refresh token. -/
  distinct : ∀ i j pair pair', answerAt p i = some pair → answerAt p j = some pair' →
    pair.refreshToken = pair'.refreshToken → i = j

/-- What a step of the server does to its answers: they stay, and what is new is a token that was
not known before. -/
structure Answers (env : AuthEnv) (p p' : SessionPool) : Prop where
  keeps : ∀ token, Known env p.shared token → Known env p'.shared token
  stays : ∀ i, i < p.threads.length → ∀ pair, answerAt p i = some pair → answerAt p' i = some pair
  fresh : ∀ i pair, answerAt p' i = some pair → answerAt p i = some pair ∨
    (¬ Known env p.shared pair.refreshToken ∧ Known env p'.shared pair.refreshToken ∧
      ∀ j, j ≠ i → answerAt p' j = answerAt p j)

lemma ServerOk.idle (d : Db) : ServerOk env (Pool.idle d) where
  tracked := Pool.tracked_idle _ d
  reporting := fun _ ht => absurd ht List.not_mem_nil
  known := fun _ _ h => by cases h
  distinct := fun _ _ _ _ h => by cases h

lemma ServerOk.answers {p : SessionPool} (hp : ServerOk env p) (e : Lib.Event SessionCall) :
    Answers env p (p.step (SessionCall.code env) e) := by
  rcases hp.tracked.step (SessionCall.code env) (fun _ => trivial) e with
    ⟨k, -, -, hstep⟩ | ⟨c, -, hstep⟩ | ⟨k, t, l, w, m, -, hk, hrest, hallows, hstep⟩
  · rw [hstep]
    exact ⟨fun _ h => h, fun _ _ _ h => h, fun _ _ h => Or.inl h⟩
  · -- A call that starts has not answered.
    have hsame : ∀ i, answerAt (p.step (SessionCall.code env) e) i = answerAt p i := by
      intro i
      rw [hstep, answerAt, answerAt]
      rcases Nat.lt_trichotomy i p.threads.length with hi | rfl | hi
      · rw [List.getElem?_append_left hi]
      · rw [List.getElem?_concat_length, List.getElem?_eq_none le_rfl]
        exact answer_start c
      · rw [List.getElem?_eq_none (by simp; omega), List.getElem?_eq_none hi.le]
    refine ⟨fun token h => ?_, fun i _ pair h => ?_, fun i pair h => Or.inl ?_⟩
    · rw [hstep]
      exact h
    · rw [hsame, h]
    · rw [← hsame, h]
  · have hothers : ∀ j, j ≠ k → answerAt (p.step (SessionCall.code env) e) j = answerAt p j := by
      intro j hj
      rw [hstep, answerAt, answerAt, List.getElem?_set_ne (Ne.symm hj)]
    have hbefore : answerAt p k = none := by
      rw [answerAt, hk, Option.bind_some, SessionThread.answer, hrest]
    have hkeeps : ∀ token, Known env p.shared token →
        Known env (p.step (SessionCall.code env) e).shared token := by
      rintro token ⟨x, hx⟩
      obtain ⟨y, hy, -⟩ := (TokenWrite.Does.change hallows).keepsTokens _ _ hx
      rw [hstep]
      exact ⟨y, hy⟩
    refine ⟨hkeeps, fun i _ pair h => ?_, fun i pair h => ?_⟩
    · by_cases hi : i = k
      · rw [hi, hbefore] at h
        cases h
      · rw [hothers i hi, h]
    · by_cases hi : i = k
      · subst hi
        refine Or.inr ?_
        have hlt : i < p.threads.length := (List.getElem?_eq_some_iff.mp hk).1
        have hreports := hp.reporting t (List.mem_of_getElem? hk)
        rw [hrest] at hreports
        rw [hstep, answerAt, List.getElem?_set_self hlt, Option.bind_some,
          SessionThread.answer] at h
        cases hm : m p.shared with
        | ret answer =>
          rw [hm] at h
          obtain ⟨hnone, hsome⟩ := (hreports p.shared trivial).1 answer hm pair h
          refine ⟨?_, ?_, hothers⟩
          · rintro ⟨x, hx⟩
            rw [hnone] at hx
            cases hx
          · rw [hstep]
            exact hsome
        | fail err =>
          rw [hm] at h
          cases h
        | atom l' w' m' =>
          rw [hm] at h
          cases h
      · rw [hothers i hi] at h
        exact Or.inl h

lemma ServerOk.step {p : SessionPool} (hp : ServerOk env p) (e : Lib.Event SessionCall) :
    ServerOk env (p.step (SessionCall.code env) e) where
  tracked := hp.tracked.preserved _ (fun c => c.governs.1) (fun _ => trivial) e
  reporting := hp.reporting.preserved issues (fun _ => trivial) e
  known := by
    intro i pair hpair
    have ha := hp.answers e
    rcases ha.fresh i pair hpair with hold | ⟨-, hnew, -⟩
    · exact ha.keeps _ (hp.known i pair hold)
    · exact hnew
  distinct := by
    intro i j pair pair' hi hj htoken
    have ha := hp.answers e
    by_contra hne
    -- An answer that is new differs from all the others, which were known.
    rcases ha.fresh i pair hi with hiold | ⟨hunknown, -, hothers⟩
    · rcases ha.fresh j pair' hj with hjold | ⟨hunknown, -, hothers⟩
      · exact hne (hp.distinct i j pair pair' hiold hjold htoken)
      · exact hunknown (htoken ▸ hp.known i pair hiold)
    · rw [hothers j (Ne.symm hne)] at hj
      exact hunknown (htoken ▸ hp.known j pair' hj)

/-! ## What is known of the tab -/

/-- The calls at the server whose answers the tab waits for. -/
def Session.awaited (s : Session) : List ℕ :=
  (s.tab.refreshPromise.bind Refreshing.request).toList ++ s.tab.signIns.map Prod.fst

/-- What is known of the tab and the server at every moment: a refresh token that has been presented
is in the storage only while it is being refreshed, and what is yet to arrive is new. -/
structure TabOk (env : AuthEnv) (s : Session) : Prop where
  server : ServerOk env s.pool
  nodup : s.tab.presented.Nodup
  known : ∀ token ∈ s.tab.presented, Known env s.pool.shared token
  stored : ∀ token, s.tab.storage.refreshToken = some token → Known env s.pool.shared token ∧
    (token ∈ s.tab.presented → ∃ r, s.tab.refreshPromise = some r ∧ r.token = token)
  awaited : ∀ i ∈ s.awaited, i < s.pool.threads.length ∧ ∀ pair, answerAt s.pool i = some pair →
    pair.refreshToken ∉ s.tab.presented ∧
      s.tab.storage.refreshToken ≠ some pair.refreshToken
  awaitedOnce : s.awaited.Nodup

/-- The server goes on by itself. -/
lemma TabOk.server_step {s : Session} (h : TabOk env s) (e : Lib.Event SessionCall) :
    TabOk env ⟨s.tab, s.pool.step (SessionCall.code env) e⟩ := by
  have ha := h.server.answers e
  refine ⟨h.server.step e, h.nodup, fun token ht => ha.keeps _ (h.known token ht),
    fun token ht => ⟨ha.keeps _ (h.stored token ht).1, (h.stored token ht).2⟩, fun i hi => ?_,
    h.awaitedOnce⟩
  obtain ⟨hlt, hnew⟩ := h.awaited i hi
  refine ⟨?_, fun pair hpair => ?_⟩
  · refine hlt.trans_le ?_
    cases e with
    | start c => exact (List.length_append ▸ Nat.le_add_right _ _)
    | sched j =>
      have hlength : (s.pool.step (SessionCall.code env) (.sched j)).threads.length =
          s.pool.threads.length := by
        rw [Pool.step]
        split
        · exact List.length_set
        · rfl
      exact hlength.ge
  · rcases ha.fresh i pair hpair with hold | ⟨hunknown, -, -⟩
    · exact hnew pair hold
    · exact ⟨fun hmem => hunknown (h.known _ hmem), fun heq => hunknown (h.stored _ heq).1⟩

/-- A change of the tab alone that presents nothing and awaits nothing more, and that leaves the
session as it is or ends it. -/
lemma TabOk.of_tab {s : Session} (h : TabOk env s) {t : Tab}
    (hpresented : t.presented = s.tab.presented)
    (hpromise : t.refreshPromise = s.tab.refreshPromise) (hsignIns : t.signIns = s.tab.signIns)
    (hstorage : t.storage = s.tab.storage ∨ t.storage = clearSession) :
    TabOk env ⟨t, s.pool⟩ := by
  have hawaited : Session.awaited ⟨t, s.pool⟩ = s.awaited := by
    rw [Session.awaited, Session.awaited, hpromise, hsignIns]
  have hkeeps : ∀ token, t.storage.refreshToken = some token →
      s.tab.storage.refreshToken = some token := by
    rcases hstorage with heq | heq <;> rw [heq]
    · exact fun _ => id
    · exact fun _ hnone => by cases hnone
  refine ⟨h.server, hpresented ▸ h.nodup, ?_, fun token ht => ?_, ?_, hawaited ▸ h.awaitedOnce⟩
  · rw [hpresented]
    exact h.known
  · rw [hpresented, hpromise]
    exact h.stored token (hkeeps token ht)
  · rw [hawaited, hpresented]
    intro i hi
    obtain ⟨hlt, hnew⟩ := h.awaited i hi
    refine ⟨hlt, fun pair hpair => ⟨(hnew pair hpair).1, fun heq => ?_⟩⟩
    exact (hnew pair hpair).2 (hkeeps _ heq)

/-- A call that waits for the refresh: if it has to begin it, then with a token that has not been
presented. -/
lemma TabOk.awaitRefresh {s : Session} (h : TabOk env s) (i : ℕ) :
    TabOk env ⟨s.tab.awaitRefresh i, s.pool⟩ := by
  rw [Tab.awaitRefresh]
  split
  · exact h.of_tab rfl rfl rfl (Or.inl rfl)
  · rename_i token user hpromise htoken huser
    obtain ⟨hknown, hunused⟩ := h.stored token htoken
    have hnew : token ∉ s.tab.presented := by
      intro hmem
      obtain ⟨r, hr, -⟩ := hunused hmem
      rw [hpromise] at hr
      cases hr
    have hawaited : s.awaited = s.tab.signIns.map Prod.fst := by
      rw [Session.awaited, hpromise]
      rfl
    refine ⟨h.server, ?_, ?_, ?_, ?_, ?_⟩
    · refine List.nodup_append.mpr ⟨h.nodup, List.nodup_singleton _, ?_⟩
      rintro a ha b hb rfl
      exact hnew (List.mem_singleton.mp hb ▸ ha)
    · intro other hother
      rcases List.mem_append.mp hother with hother | hother
      · exact h.known other hother
      · rw [List.mem_singleton.mp hother]
        exact hknown
    · intro other hother
      refine ⟨(h.stored other hother).1, fun _ => ⟨_, rfl, ?_⟩⟩
      exact Option.some.inj (htoken.symm.trans hother)
    · intro j hj
      have hj' : j ∈ s.awaited := hawaited ▸ hj
      obtain ⟨hlt, hfresh⟩ := h.awaited j hj'
      refine ⟨hlt, fun pair hpair => ⟨fun hmem => ?_, (hfresh pair hpair).2⟩⟩
      rcases List.mem_append.mp hmem with hmem | hmem
      · exact (hfresh pair hpair).1 hmem
      · refine (hfresh pair hpair).2 ?_
        rw [htoken, List.mem_singleton.mp hmem]
    · have honce := h.awaitedOnce
      rw [hawaited] at honce
      exact honce
  · exact h.of_tab rfl rfl rfl (Or.inr rfl)

lemma TabOk.respond {s : Session} (h : TabOk env s) (i : ℕ) (res : Option Response) :
    TabOk env ⟨s.tab.respond i res, s.pool⟩ := by
  unfold Tab.respond
  split
  · exact h.of_tab rfl rfl rfl (Or.inl rfl)
  · split
    · exact h.awaitRefresh i
    · exact h.of_tab rfl rfl rfl (Or.inl rfl)
  · exact h

/-- The promise is settled without new tokens. -/
lemma TabOk.refreshed_none {s : Session} (h : TabOk env s) (user : SessionUser) :
    TabOk env ⟨s.tab.refreshed none user, s.pool⟩ := by
  have hawaited : Session.awaited ⟨s.tab.refreshed none user, s.pool⟩ =
      s.tab.signIns.map Prod.fst := rfl
  refine ⟨h.server, h.nodup, h.known, fun _ hnone => (by cases hnone), fun i hi => ?_, ?_⟩
  · obtain ⟨hlt, hnew⟩ := h.awaited i (List.mem_append_right _ hi)
    exact ⟨hlt, fun pair hpair => ⟨(hnew pair hpair).1, fun hnone => (by cases hnone)⟩⟩
  · rw [hawaited]
    exact (List.nodup_append.mp h.awaitedOnce).2.1

/-- The tab takes over the tokens that a call has answered with, and waits for this call no more. -/
lemma TabOk.take {s : Session} (h : TabOk env s) {i : ℕ} {pair : TokenPair}
    (hi : i ∈ s.awaited) (hpair : answerAt s.pool i = some pair) {t : Tab} {user : SessionUser}
    (hstorage : t.storage = setSession pair user) (hpresented : t.presented = s.tab.presented)
    (hawaited : ∀ j ∈ Session.awaited ⟨t, s.pool⟩, j ∈ s.awaited ∧ j ≠ i)
    (honce : (Session.awaited ⟨t, s.pool⟩).Nodup) : TabOk env ⟨t, s.pool⟩ := by
  refine ⟨h.server, hpresented ▸ h.nodup, ?_, fun token ht => ?_, fun j hj => ?_, honce⟩
  · rw [hpresented]
    exact h.known
  · rw [hstorage] at ht
    obtain rfl : pair.refreshToken = token := Option.some.inj ht
    refine ⟨h.server.known i pair hpair, fun hmem => ?_⟩
    rw [hpresented] at hmem
    exact absurd hmem ((h.awaited i hi).2 pair hpair).1
  · obtain ⟨hold, hne⟩ := hawaited j hj
    obtain ⟨hlt, hnew⟩ := h.awaited j hold
    refine ⟨hlt, fun pair' hpair' => ⟨?_, fun heq => ?_⟩⟩
    · rw [hpresented]
      exact (hnew pair' hpair').1
    · rw [hstorage] at heq
      exact hne (h.server.distinct j i pair' pair hpair' hpair (Option.some.inj heq).symm)

/-- A request arrives at the server: a call that has answered nothing. -/
lemma TabOk.start {s : Session} (h : TabOk env s) (c : SessionCall) {t : Tab}
    (hstorage : t.storage = s.tab.storage) (hpresented : t.presented = s.tab.presented)
    (hpromise : ∀ r, s.tab.refreshPromise = some r →
      ∃ r', t.refreshPromise = some r' ∧ r'.token = r.token)
    (hawaited : (Session.awaited ⟨t, s.start env c⟩).Perm (s.pool.threads.length :: s.awaited)) :
    TabOk env ⟨t, s.start env c⟩ := by
  have hstep := h.server_step (.start c)
  have hlength : (s.start env c).threads.length = s.pool.threads.length + 1 :=
    List.length_append
  refine ⟨hstep.server, hpresented ▸ h.nodup, ?_, fun token ht => ?_, fun i hi => ?_, ?_⟩
  · rw [hpresented]
    exact hstep.known
  · rw [hstorage] at ht
    refine ⟨(hstep.stored token ht).1, fun hmem => ?_⟩
    rw [hpresented] at hmem
    obtain ⟨r, hr, rfl⟩ := (h.stored token ht).2 hmem
    exact hpromise r hr
  · rw [hstorage, hpresented]
    rcases List.mem_cons.mp (hawaited.mem_iff.mp hi) with rfl | hold
    · refine ⟨hlength ▸ Nat.lt_succ_self _, fun pair hpair => ?_⟩
      have hnone : answerAt (s.start env c) s.pool.threads.length = none := by
        rw [answerAt, Session.start, Pool.step, List.getElem?_concat_length]
        exact answer_start c
      rw [hnone] at hpair
      cases hpair
    · exact hstep.awaited i hold
  · refine hawaited.nodup_iff.mpr (List.nodup_cons.mpr ⟨fun hmem => ?_, h.awaitedOnce⟩)
    exact absurd (h.awaited _ hmem).1 (lt_irrefl _)

/-- **A step of the tab and the server.** -/
theorem TabOk.step {s : Session} (h : TabOk env s) (e : Event) : TabOk env (s.step env e) := by
  cases e with
  | apiFetch => exact h.of_tab rfl rfl rfl (Or.inl rfl)
  | respond i res => exact h.respond i res
  | arrive random =>
    rw [Session.step]
    split
    · rename_i token user hpromise
      refine h.start (.refresh random token) rfl rfl (fun r hr => ?_) ?_
      · rw [hpromise] at hr
        exact ⟨_, rfl, by rw [← Option.some.inj hr]⟩
      · rw [Session.awaited, Session.awaited, hpromise]
        exact List.Perm.refl _
    · exact h
  | settle delivered =>
    rw [Session.step]
    split
    · rename_i r hpromise
      cases hanswer : (if delivered then r.request.bind (answerAt s.pool) else none) with
      | none =>
        dsimp only
        rw [hanswer]
        exact h.refreshed_none r.user
      | some pair =>
        dsimp only
        rw [hanswer]
        split_ifs at hanswer
        obtain ⟨i, hi, hpair⟩ := Option.bind_eq_some_iff.mp hanswer
        have hsplit : s.awaited = i :: s.tab.signIns.map Prod.fst := by
          rw [Session.awaited, hpromise, Option.bind_some, hi]
          rfl
        have honce := h.awaitedOnce
        rw [hsplit, List.nodup_cons] at honce
        refine h.take (i := i) (by rw [hsplit]; exact List.mem_cons_self) hpair rfl rfl
          (fun j hj => ⟨?_, ?_⟩) honce.2
        · rw [hsplit]
          exact List.mem_cons_of_mem _ hj
        · rintro rfl
          exact honce.1 hj
    · exact h
  | signIn random user =>
    refine h.start (.signIn random user.id user.role) rfl rfl (fun r hr => ⟨r, hr, rfl⟩) ?_
    have hawaited : Session.awaited (s.step env (.signIn random user)) =
        s.awaited ++ [s.pool.threads.length] := by
      rw [Session.awaited, Session.awaited, List.append_assoc, Session.step, List.map_append]
      rfl
    exact hawaited ▸ List.perm_append_singleton _ _
  | signedIn i =>
    unfold Session.step
    dsimp only
    split
    · rename_i j user pair hfind hpair
      obtain rfl : j = i := by simpa using List.find?_some hfind
      have hmem : j ∈ s.tab.signIns.map Prod.fst :=
        List.mem_map_of_mem (List.mem_of_find?_eq_some hfind)
      obtain ⟨hpromise, honce, hdisjoint⟩ := List.nodup_append.mp h.awaitedOnce
      have hsub : ((s.tab.signIns.filter fun x => x.1 ≠ j).map Prod.fst).Sublist
          (s.tab.signIns.map Prod.fst) := List.filter_sublist.map Prod.fst
      refine h.take (List.mem_append_right _ hmem) hpair rfl rfl (fun l hl => ?_) ?_
      · rcases List.mem_append.mp hl with hl | hl
        · exact ⟨List.mem_append_left _ hl, hdisjoint l hl j hmem⟩
        · refine ⟨List.mem_append_right _ (hsub.subset hl), ?_⟩
          obtain ⟨x, hx, rfl⟩ := List.mem_map.mp hl
          simpa using (List.mem_filter.mp hx).2
      · exact List.Sublist.nodup (List.Sublist.append (List.Sublist.refl _) hsub) h.awaitedOnce
    · exact h
  | clearSession => exact h.of_tab rfl rfl rfl (Or.inr rfl)
  | server e => exact h.server_step e

/-! ## What the server is asked -/

/-- The request with this token is under way. -/
def Session.sending (token : String) (s : Session) : Bool :=
  s.tab.refreshPromise.any fun r => r.token = token ∧ r.request = none

/-- The calls at the server that present the token are requests of the tab. -/
def Counted (token : String) (s : Session) : Prop :=
  (s.pool.threads.countP fun t => t.call.presents token) + (if s.sending token then 1 else 0) ≤
    s.tab.presented.count token

variable (env) in
lemma countP_start (token : String) (c : SessionCall) (s : Session) :
    (s.start env c).threads.countP (fun t => t.call.presents token) =
      s.pool.threads.countP (fun t => t.call.presents token) +
        if c.presents token then 1 else 0 := by
  rw [Session.start, Pool.step, List.countP_append, List.countP_singleton]

/-- A call goes on: the calls are the same. -/
lemma countP_sched (token : String) (p : SessionPool) (i : ℕ) :
    (p.step (SessionCall.code env) (.sched i)).threads.countP (fun t => t.call.presents token) =
      p.threads.countP (fun t => t.call.presents token) := by
  rcases hi : p.threads[i]? with _ | ⟨c, done, rest⟩
  · simp [Pool.step, hi]
  · cases rest with
    | ret a => simp [Pool.step, hi]
    | fail e => simp [Pool.step, hi]
    | atom l w k =>
      have h := Pool.countP_set hi (fun t => t.call.presents token)
        ⟨c, done ++ [(l, p.shared)], k p.shared⟩
      simpa [Pool.step, hi] using h

lemma Counted.awaitRefresh {token : String} {s : Session} (h : Counted token s) (i : ℕ) :
    Counted token ⟨s.tab.awaitRefresh i, s.pool⟩ := by
  rw [Tab.awaitRefresh]
  split
  · exact h
  · rename_i token' user hpromise _ _
    -- The new request is one more, and one that has not arrived.
    rw [Counted, Session.sending, hpromise] at h
    rw [Counted, Session.sending, List.count_append, List.count_singleton]
    by_cases heq : token' = token
    · simp [heq] at h ⊢
      omega
    · simp [heq] at h ⊢
      omega
  · exact h

lemma Counted.step {token : String} {s : Session} (h : Counted token s) {e : Event}
    (he : ∀ random, e ≠ .server (.start (.refresh random token))) :
    Counted token (s.step env e) := by
  cases e with
  | apiFetch => exact h
  | respond i res =>
    have hrespond : Counted token ⟨s.tab.respond i res, s.pool⟩ := by
      unfold Tab.respond
      split
      · exact h
      · split
        · exact h.awaitRefresh i
        · exact h
      · exact h
    exact hrespond
  | arrive random =>
    unfold Session.step
    dsimp only
    split
    · rename_i token' user hpromise
      rw [Counted, Session.sending, hpromise] at h
      rw [Counted, countP_start, Session.sending, SessionCall.presents]
      by_cases heq : token' = token
      · simp [heq] at h ⊢
        omega
      · simp [heq] at h ⊢
        omega
    · exact h
  | settle delivered =>
    unfold Session.step
    dsimp only
    split
    · rw [Counted] at h ⊢
      exact le_trans (Nat.add_le_add_left (Nat.zero_le _) _) h
    · exact h
  | signIn random user =>
    have hcount := countP_start env token (.signIn random user.id user.role) s
    rw [Counted] at h ⊢
    rw [Session.step, hcount]
    exact h
  | signedIn i =>
    unfold Session.step
    dsimp only
    split <;> exact h
  | clearSession => exact h
  | server e =>
    cases e with
    | start c =>
      have hcount := countP_start env token c s
      have hother : c.presents token = false := by
        cases c with
        | refresh random token' =>
          refine decide_eq_false fun heq => he random ?_
          rw [heq]
        | _ => rfl
      rw [hother] at hcount
      rw [Counted] at h ⊢
      rw [Session.step, ← Session.start, hcount]
      exact h
    | sched j =>
      rw [Counted] at h ⊢
      rw [Session.step, countP_sched]
      exact h

/-! ## The calls that wait -/

/-- Calls wait exactly as long as there is a promise. -/
def Waits (t : Tab) : Prop := ApiCall.waiting ∈ t.calls ↔ t.refreshPromise.isSome = true

lemma mem_waiting_set {calls : List ApiCall} {i : ℕ} {isRetry : Bool} {token : Option AccessToken}
    (hi : calls[i]? = some (.fetching isRetry token)) (result : Except FetchError Unit) :
    ApiCall.waiting ∈ calls.set i (.settled result) ↔ ApiCall.waiting ∈ calls := by
  constructor
  · intro h
    rcases List.mem_or_eq_of_mem_set h with h | h
    · exact h
    · cases h
  · intro h
    obtain ⟨j, hj⟩ := List.mem_iff_getElem?.mp h
    have hne : i ≠ j := by
      rintro rfl
      rw [hi] at hj
      cases hj
    exact List.mem_iff_getElem?.mpr ⟨j, (List.getElem?_set_ne hne).trans hj⟩

lemma Waits.respond {t : Tab} (h : Waits t) (i : ℕ) (res : Option Response) :
    Waits (t.respond i res) := by
  unfold Tab.respond
  split
  · rename_i isRetry token hi
    exact (mem_waiting_set hi _).trans h
  · rename_i isRetry token res hi
    split
    · have hwaiting : ApiCall.waiting ∈ t.calls.set i .waiting := by
        rw [List.mem_iff_getElem?]
        exact ⟨i, List.getElem?_set_self (List.getElem?_eq_some_iff.mp hi).1⟩
      unfold Tab.awaitRefresh
      split
      · rename_i hpromise
        exact iff_of_true hwaiting (by rw [hpromise]; rfl)
      · exact iff_of_true hwaiting rfl
      · exact (mem_waiting_set hi _).trans h
    · exact (mem_waiting_set hi _).trans h
  · exact h

/-- Nobody waits for a promise that is settled. -/
lemma Waits.refreshed (result : Option TokenPair) (user : SessionUser) (t : Tab) :
    Waits (t.refreshed result user) := by
  refine iff_of_false ?_ Bool.false_ne_true
  intro hmem
  obtain ⟨c, -, hc⟩ := List.mem_map.mp hmem
  cases c with
  | fetching isRetry token => cases hc
  | settled r => cases hc
  | waiting =>
    rw [ApiCall.goOn] at hc
    split_ifs at hc

lemma Waits.step {s : Session} (h : Waits s.tab) (e : Event) : Waits (s.step env e).tab := by
  cases e with
  | apiFetch =>
    rw [Waits] at h ⊢
    rw [Session.step, Tab.apiFetch, List.mem_append, List.mem_singleton]
    simpa using h
  | respond i res => exact h.respond i res
  | arrive random =>
    unfold Session.step
    dsimp only
    split
    · rename_i token user hpromise
      rw [Waits, hpromise] at h
      exact h
    · exact h
  | settle delivered =>
    unfold Session.step
    dsimp only
    split
    · exact .refreshed _ _ _
    · exact h
  | signIn random user => exact h
  | signedIn i =>
    unfold Session.step
    dsimp only
    split <;> exact h
  | clearSession => exact h
  | server e => exact h

/-! ## Every run -/

/-- A tab that has just been opened, with what the storage holds, and the server. -/
def Session.opened (storage : Storage) (d : Db) : Session := ⟨{ storage }, Pool.idle d⟩

lemma tabOk_opened {storage : Storage} {d : Db}
    (h : ∀ token, storage.refreshToken = some token → Known env d token) :
    TabOk env (Session.opened storage d) where
  server := .idle d
  nodup := List.nodup_nil
  known := fun _ ht => absurd ht List.not_mem_nil
  stored := fun token ht => ⟨h token ht, fun hmem => absurd hmem List.not_mem_nil⟩
  awaited := fun _ hi => absurd hi List.not_mem_nil
  awaitedOnce := List.nodup_nil

variable (env) in
/-- **A tab refreshes with each token once**, whatever the server, the network and the user do, and
however many calls are answered with 401.  A token that nobody else presents yields at most one pair
of tokens; and no call waits for a refresh that has ended. -/
theorem Session.single_use {storage : Storage} {d : Db}
    (h : ∀ token, storage.refreshToken = some token → Known env d token) (es : List Event) :
    (runFrom (Session.step env) (Session.opened storage d) es).tab.presented.Nodup ∧
      (∀ token, (∀ random, .server (.start (.refresh random token)) ∉ es) →
        pairsFor (runFrom (Session.step env) (Session.opened storage d) es).pool token ≤ 1) ∧
      Waits (runFrom (Session.step env) (Session.opened storage d) es).tab := by
  have hok : TabOk env (runFrom (Session.step env) (Session.opened storage d) es) :=
    (invariant (I := TabOk env) (fun _ e hs => hs.step e) (tabOk_opened h) es).last
  refine ⟨hok.nodup, fun token hothers => ?_, ?_⟩
  · have hsteps : AllSteps (Session.step env)
        (fun _ e => ∀ random, e ≠ .server (.start (.refresh random token)))
        (Session.opened storage d) es := by
      refine AllSteps.of_forall_mem ?_ _
      rintro _ e he random rfl
      exact hothers random he
    have hstart : Counted token (Session.opened storage d) := Nat.zero_le _
    have hcounted :=
      (hsteps.invariant (I := Counted token) (fun _ e hs he => hs.step he) hstart).last
    have honce := List.nodup_iff_count_le_one.mp hok.nodup token
    refine le_trans (List.countP_mono_left fun t _ ht => ?_)
      ((Nat.le_add_right _ _).trans (hcounted.trans honce))
    exact (Bool.and_eq_true _ _ ▸ ht).1
  · have hstart : Waits (Session.opened storage d).tab :=
      iff_of_false List.not_mem_nil Bool.false_ne_true
    exact (invariant (I := fun s : Session => Waits s.tab) (fun _ e hs => hs.step e) hstart es).last

/-- The storage of a tab with a session. -/
def signedInStorage : Storage := setSession ⟨⟨0, .customer⟩, "token"⟩ ⟨0, some "a@b.c", .customer⟩

/-- Two calls are answered with 401 at the same time, and go on after one refresh. -/
def twoUnauthorized : List Event :=
  [.apiFetch, .apiFetch, .respond 0 (some ⟨401, .empty⟩), .respond 1 (some ⟨401, .empty⟩),
    .arrive "0.5"] ++ List.replicate 6 (.server (.sched 0)) ++
    [.settle true, .respond 1 (some ⟨200, .empty⟩), .respond 0 (some ⟨200, .empty⟩)]

theorem single_use_twoUnauthorized :
    (runFrom (Session.step sampleAuthEnv) (Session.opened signedInStorage oneSessionDb)
        twoUnauthorized).tab.presented.Nodup ∧
      (∀ token, (∀ random, .server (.start (.refresh random token)) ∉ twoUnauthorized) →
        pairsFor (runFrom (Session.step sampleAuthEnv) (Session.opened signedInStorage oneSessionDb)
          twoUnauthorized).pool token ≤ 1) ∧
      Waits (runFrom (Session.step sampleAuthEnv) (Session.opened signedInStorage oneSessionDb)
        twoUnauthorized).tab := by
  refine Session.single_use sampleAuthEnv ?_ twoUnauthorized
  rintro token ⟨⟩
  exact Option.isSome_iff_exists.mp (by decide +kernel)

end SessionTab

end Asoju

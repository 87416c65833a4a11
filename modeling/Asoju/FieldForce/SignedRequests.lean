/-
Runs of the integration gateway: replays, and clients in each other's way.

The gateway remembers a nonce for five minutes from its use, and accepts a timestamp up to five
minutes ahead of its clock.  A request that is accepted while its timestamp is still ahead stays
fresh for longer than its nonce is remembered, so it can be replayed; `no_replay` says that this is
the only way.

The nonces of all clients are in one store, and a nonce is used up before the signature is checked.
So whoever sends the nonce of a client first, in any name and with any signature, makes the client's
own request a replay; `results_unaffected_iff` says that this is the only way.
-/
import Asoju.FieldForce.IntegrationGateway
import Asoju.Lib.Run
import Mathlib.Algebra.Order.Ring.Int
import Mathlib.Data.LawfulXor.Basic

namespace Asoju.FieldForce

open Lib

namespace Gateway

variable (hmac : String → String → String)

/-! ## One call -/

/-- The comparison answers whether the texts are equal. -/
lemma constantTimeEq_iff (expected provided : List Char) :
    constantTimeEq expected provided = true ↔ expected = provided := by
  have hfold : ∀ (xs : List ℕ) (n : ℕ), xs.foldl (· ||| ·) n = 0 ↔ n = 0 ∧ ∀ x ∈ xs, x = 0 := by
    intro xs
    induction xs with
    | nil => simp
    | cons x xs ih => simp [ih, Nat.or_eq_zero_iff, and_assoc]
  rw [constantTimeEq]
  induction expected generalizing provided with
  | nil => cases provided <;> simp
  | cons a expected ih =>
    cases provided with
    | nil => simp
    | cons b provided =>
      have hrec := ih provided
      by_cases hlength : expected.length = provided.length
      · simp only [hlength, ne_eq, not_true_eq_false, if_false, decide_eq_true_eq, hfold,
          true_and] at hrec
        simp only [List.length_cons, hlength, ne_eq, not_true_eq_false, if_false,
          List.zipWith_cons_cons, decide_eq_true_eq, hfold, List.forall_mem_cons, true_and, hrec,
          List.cons.injEq, xor_eq_zero_iff, Char.toNat_inj]
      · have hne : expected ≠ provided := fun h => hlength (congrArg List.length h)
        simp [hlength, hne]

/-- A signature is valid when it is the one the secret makes. -/
lemma verifyHmacSignature_iff (payload signature clientSecret : String) :
    verifyHmacSignature hmac payload signature clientSecret = true ↔
      generateHmacSignature hmac payload clientSecret = signature := by
  rw [verifyHmacSignature, constantTimeEq_iff, String.toList_inj]

/-- What becomes of a request whose nonce was unused. -/
def verdict (c : Call) (a : Admission) : Except AuthError String :=
  if ¬ signedWith hmac c.request a.credentials a.clientSecret then .error .invalidSignature
  else match missingScope a.scopes c.requiredScopes with
    | some required => .error (.insufficientScope required)
    | none => .ok a.credentials.clientId

/-- The call comes as far as the check of its nonce. -/
def Call.admitted (g : State) (c : Call) : Except AuthError Admission :=
  admission g.client c.clock.timestamp c.request

/-- The store of nonces still has a nonce at a time. -/
abbrev State.Remembers (g : State) (t : ℤ) (nonce : String) : Prop :=
  Expiring.Alive g.nonceStore t nonce

variable {hmac} {g : State} {c : Call} {a : Admission} {e : AuthError} {t : ℤ} {nonce : String}

lemma authenticate_of_error (h : c.admitted g = .error e) :
    authenticateIntegrationRequest hmac g c = (.error e, g) := by
  rw [Call.admitted] at h
  rw [authenticateIntegrationRequest, h]

/-- The answer to a call that comes as far as its nonce. -/
lemma answer_of_ok (h : c.admitted g = .ok a) :
    (authenticateIntegrationRequest hmac g c).1 =
      if (checkNonce c.clock.nonce a.credentials.nonce g.nonceStore).1 then verdict hmac c a
      else .error .replayDetected := by
  rw [Call.admitted] at h
  rw [authenticateIntegrationRequest, h, verdict]
  dsimp only
  by_cases hunused : (checkNonce c.clock.nonce a.credentials.nonce g.nonceStore).1 = true
  · by_cases hsigned : signedWith hmac c.request a.credentials a.clientSecret = true
    · simp only [hunused, hsigned, not_true_eq_false, if_false, if_true]
      cases missingScope a.scopes c.requiredScopes <;> rfl
    · simp [hunused, hsigned]
  · simp [hunused]

/-- The nonces after a call that comes as far as its nonce. -/
lemma nonceStore_of_ok (h : c.admitted g = .ok a) :
    (authenticateIntegrationRequest hmac g c).2.nonceStore =
      (checkNonce c.clock.nonce a.credentials.nonce g.nonceStore).2 := by
  rw [Call.admitted] at h
  rw [authenticateIntegrationRequest, h]
  dsimp only
  split_ifs
  · cases missingScope a.scopes c.requiredScopes <;> rfl
  · rfl
  · rfl

/-- A call whose nonce is still remembered is a replay. -/
lemma answer_of_remembered (h : c.admitted g = .ok a)
    (halive : g.Remembers c.clock.nonce a.credentials.nonce) :
    (authenticateIntegrationRequest hmac g c).1 = .error .replayDetected := by
  rw [answer_of_ok h, if_neg]
  exact fun hunused => Expiring.use_fst.mp hunused halive

/-- A call whose nonce is not remembered any more is judged by its signature and its scopes. -/
lemma answer_of_not_remembered (h : c.admitted g = .ok a)
    (hfree : ¬ g.Remembers c.clock.nonce a.credentials.nonce) :
    (authenticateIntegrationRequest hmac g c).1 = verdict hmac c a := by
  rw [answer_of_ok h, if_pos]
  exact Expiring.use_fst.mpr hfree

variable (g c) in
/-- The call uses up the nonce, whatever its answer. -/
def Call.Takes (nonce : String) : Prop :=
  ∃ a, c.admitted g = .ok a ∧ a.credentials.nonce = nonce ∧ ¬ g.Remembers c.clock.nonce nonce

/-- **The nonces after a call**: the same ones are remembered from then on, and the one that it has
used up for five minutes. -/
lemma remembers_after (hle : c.clock.nonce ≤ t) :
    (authenticateIntegrationRequest hmac g c).2.Remembers t nonce ↔
      g.Remembers t nonce ∨ (c.Takes g nonce ∧ t ≤ c.clock.nonce + nonceFreshnessWindow) := by
  cases h : c.admitted g with
  | error e => simp [authenticate_of_error h, Call.Takes, h]
  | ok a =>
    rw [State.Remembers, nonceStore_of_ok h, checkNonce, Expiring.alive_use hle]
    refine or_congr_right ?_
    constructor
    · rintro ⟨hfree, rfl, ht⟩
      exact ⟨⟨a, h, rfl, hfree⟩, ht⟩
    · rintro ⟨⟨a', ha', rfl, hfree⟩, ht⟩
      obtain rfl : a = a' := Except.ok.inj (h.symm.trans ha')
      exact ⟨hfree, rfl, ht⟩

/-- What is known of a call that comes as far as its nonce. -/
lemma admitted_eq_ok (h : c.admitted g = .ok a) :
    c.request.credentials = some a.credentials ∧
      isTimestampFresh c.clock.timestamp a.credentials.timestamp = true := by
  rw [Call.admitted, admission] at h
  cases hcredentials : c.request.credentials with
  | none =>
    rw [hcredentials] at h
    cases h
  | some credentials =>
    rw [hcredentials] at h
    dsimp only at h
    cases hclient : findClient g.client credentials.clientId with
    | none =>
      rw [hclient] at h
      cases h
    | some client =>
      rw [hclient] at h
      dsimp only at h
      split_ifs at h with hactive hfresh
      cases h
      exact ⟨rfl, hfresh⟩

/-- A call that is authenticated uses up its nonce. -/
lemma takes_of_isOk (h : (authenticateIntegrationRequest hmac g c).1.isOk = true) :
    ∃ a, c.admitted g = .ok a ∧ c.Takes g a.credentials.nonce := by
  cases hadmitted : c.admitted g with
  | error e =>
    rw [authenticate_of_error hadmitted] at h
    cases h
  | ok a =>
    refine ⟨a, rfl, a, hadmitted, rfl, fun halive => ?_⟩
    rw [answer_of_remembered hadmitted halive] at h
    cases h

/-! ## Runs -/

variable (hmac) in
/-- The gateway after a call. -/
def step (g : State) (c : Call) : State := (authenticateIntegrationRequest hmac g c).2

variable (hmac) in
/-- The calls of a run with their answers. -/
def answers : State → List Call → List (Call × Except AuthError String)
  | _, [] => []
  | g, c :: cs => (c, (authenticateIntegrationRequest hmac g c).1) :: answers (step hmac g c) cs

/-- The readings of a call in their order. -/
def Readings.inOrder (t : Readings) : List ℤ := [t.timestamp, t.nonce, t.request]

/-- The server's clock never goes back, within the calls and between them. -/
def Chronological (cs : List Call) : Prop :=
  (cs.flatMap fun c => c.clock.inOrder).Pairwise (· ≤ ·)

instance (cs : List Call) : Decidable (Chronological cs) :=
  inferInstanceAs (Decidable ((cs.flatMap fun c => c.clock.inOrder).Pairwise (· ≤ ·)))

/-- The nonces are checked one after the other. -/
lemma Chronological.nonces {cs : List Call} (h : Chronological cs) :
    cs.Pairwise fun c c' => c.clock.nonce ≤ c'.clock.nonce := by
  refine (List.pairwise_flatMap.mp h).2.imp fun {c c'} hle => ?_
  exact hle _ (by simp [Readings.inOrder]) _ (by simp [Readings.inOrder])

lemma mem_of_mem_answers {cs : List Call} {x : Call × Except AuthError String}
    (h : x ∈ answers hmac g cs) : x.1 ∈ cs := by
  induction cs generalizing g with
  | nil => cases h
  | cons c cs ih =>
    rcases List.mem_cons.mp h with rfl | h
    · exact List.mem_cons_self ..
    · exact List.mem_cons_of_mem _ (ih h)

/-! ### The clients -/

lemma findClient_touch (clients : List IntegrationClient) (clientId k : String) (now : ℤ) :
    findClient (touch clients clientId now) k = (findClient clients k).map fun c =>
      if c.clientId = clientId then { c with lastRequestAt := some now } else c := by
  rw [touch, findClient, findClient, List.find?_map]
  congr 2
  funext c
  by_cases h : c.clientId = clientId <;> simp [h]

/-- That a request has been authenticated makes no difference to the checks before the nonce. -/
lemma admission_touch (clients : List IntegrationClient) (clientId : String) (now t : ℤ)
    (r : SignedRequest) : admission (touch clients clientId now) t r = admission clients t r := by
  rw [admission, admission]
  cases r.credentials with
  | none => rfl
  | some credentials =>
    dsimp only
    rw [findClient_touch]
    cases findClient clients credentials.clientId with
    | none => rfl
    | some client =>
      dsimp only [Option.map_some]
      split_ifs <;> rfl

/-- A call leaves the clients as they are, or notes when it has been. -/
lemma client_step (hmac : String → String → String) (g : State) (c : Call) :
    (step hmac g c).client = g.client ∨
      ∃ clientId now, (step hmac g c).client = touch g.client clientId now := by
  rw [step, authenticateIntegrationRequest]
  cases admission g.client c.clock.timestamp c.request with
  | error e => exact Or.inl rfl
  | ok a =>
    dsimp only
    split_ifs
    · cases missingScope a.scopes c.requiredScopes with
      | some required => exact Or.inl rfl
      | none => exact Or.inr ⟨_, _, rfl⟩
    · exact Or.inl rfl
    · exact Or.inl rfl

lemma admitted_step (g : State) (c c' : Call) : c'.admitted (step hmac g c) = c'.admitted g := by
  rw [Call.admitted, Call.admitted]
  rcases client_step hmac g c with h | ⟨clientId, now, h⟩
  · rw [h]
  · rw [h, admission_touch]

/-! ## Replays -/

/-- No two calls with the same request are both authenticated. -/
def NoReplay (xs : List (Call × Except AuthError String)) : Prop :=
  xs.Pairwise fun x y => x.2.isOk = true → y.2.isOk = true → x.1.request ≠ y.1.request

instance (xs : List (Call × Except AuthError String)) : Decidable (NoReplay xs) :=
  inferInstanceAs (Decidable (xs.Pairwise fun x y =>
    x.2.isOk = true → y.2.isOk = true → x.1.request ≠ y.1.request))

/-- The time a request claims to have been sent at. -/
def SignedRequest.sentAt (r : SignedRequest) : Option ℤ :=
  r.credentials.bind fun h => parseInt h.timestamp

/-- If the timestamp of the call passes for fresh, then it is not ahead of the clock when the nonce
is checked, and it is still fresh then. -/
def Call.Punctual (c : Call) : Prop :=
  ∀ ts ∈ c.request.sentAt, |c.clock.timestamp - ts| ≤ nonceFreshnessWindow →
    ts ≤ c.clock.nonce ∧ c.clock.nonce ≤ ts + nonceFreshnessWindow

instance (c : Call) : Decidable c.Punctual :=
  inferInstanceAs (Decidable (∀ ts ∈ c.request.sentAt,
    |c.clock.timestamp - ts| ≤ nonceFreshnessWindow →
      ts ≤ c.clock.nonce ∧ c.clock.nonce ≤ ts + nonceFreshnessWindow))

/-- The timestamp of a call that comes as far as its nonce. -/
lemma sentAt_of_admitted (h : c.admitted g = .ok a) :
    ∃ ts, c.request.sentAt = some ts ∧ |c.clock.timestamp - ts| ≤ nonceFreshnessWindow := by
  obtain ⟨hcredentials, hfresh⟩ := admitted_eq_ok h
  rw [isTimestampFresh] at hfresh
  cases hts : parseInt a.credentials.timestamp with
  | none =>
    rw [hts] at hfresh
    cases hfresh
  | some ts =>
    rw [hts] at hfresh
    refine ⟨ts, ?_, of_decide_eq_true hfresh⟩
    rw [SignedRequest.sentAt, hcredentials, Option.bind_some, hts]

lemma sentAt_of_isOk {cs : List Call} {x : Call × Except AuthError String}
    (hx : x ∈ answers hmac g cs) (hok : x.2.isOk = true) :
    ∃ ts, x.1.request.sentAt = some ts ∧
      |x.1.clock.timestamp - ts| ≤ nonceFreshnessWindow := by
  induction cs generalizing g with
  | nil => cases hx
  | cons c cs ih =>
    rcases List.mem_cons.mp hx with rfl | hx
    · obtain ⟨a, hadmitted, -⟩ := takes_of_isOk hok
      exact sentAt_of_admitted hadmitted
    · exact ih hx

/-- As long as a nonce is remembered, no call with it is authenticated. -/
lemma refused_while_remembered {limit : ℤ} {cs : List Call} (h : g.Remembers limit nonce)
    (hclock : cs.Pairwise fun c c' => c.clock.nonce ≤ c'.clock.nonce)
    {x : Call × Except AuthError String} (hx : x ∈ answers hmac g cs) (hok : x.2.isOk = true)
    (hnonce : x.1.request.credentials.map Credentials.nonce = some nonce) :
    limit < x.1.clock.nonce := by
  induction cs generalizing g with
  | nil => cases hx
  | cons c cs ih =>
    obtain ⟨hlater, hclock⟩ := List.pairwise_cons.mp hclock
    by_cases hpassed : limit < c.clock.nonce
    · rcases List.mem_cons.mp hx with rfl | hx
      · exact hpassed
      · exact lt_of_lt_of_le hpassed (hlater _ (mem_of_mem_answers hx))
    · have hle : c.clock.nonce ≤ limit := not_lt.mp hpassed
      rcases List.mem_cons.mp hx with rfl | hx
      · -- The call comes too early.
        obtain ⟨a, hadmitted, a', ha', -, hfree⟩ := takes_of_isOk hok
        rw [(admitted_eq_ok hadmitted).1, Option.map_some, Option.some.injEq] at hnonce
        rw [hnonce] at hfree
        exact absurd (h.of_le hle) hfree
      · exact ih ((remembers_after hle).mpr (Or.inl h)) hclock hx

/-- **A request whose timestamp is not ahead of the clock cannot be replayed.** -/
theorem no_replay (hmac : String → String → String) (g : State) (cs : List Call)
    (hclock : Chronological cs) (hpunctual : ∀ c ∈ cs, c.Punctual) :
    NoReplay (answers hmac g cs) := by
  have hnonces := hclock.nonces
  clear hclock
  induction cs generalizing g with
  | nil => exact List.Pairwise.nil
  | cons c cs ih =>
    obtain ⟨hlater, hnonces⟩ := List.pairwise_cons.mp hnonces
    obtain ⟨hc, hcs⟩ := List.forall_mem_cons.mp hpunctual
    refine List.Pairwise.cons (fun y hy hok hok' hsame => ?_) (ih (step hmac g c) hcs hnonces)
    change c.request = y.1.request at hsame
    obtain ⟨a, hadmitted, htakes⟩ := takes_of_isOk hok
    obtain ⟨ts, hts, hfresh⟩ := sentAt_of_admitted hadmitted
    obtain ⟨hsent, -⟩ := hc ts hts hfresh
    -- The nonce is remembered for five minutes from its use, which is not before the timestamp.
    have hremembers : (step hmac g c).Remembers (c.clock.nonce + nonceFreshnessWindow)
        a.credentials.nonce :=
      (remembers_after (by rw [nonceFreshnessWindow]; omega)).mpr (Or.inr ⟨htakes, le_rfl⟩)
    have hnonce : y.1.request.credentials.map Credentials.nonce = some a.credentials.nonce := by
      rw [← hsame, (admitted_eq_ok hadmitted).1, Option.map_some]
    have hlate := refused_while_remembered hremembers hnonces hy hok' hnonce
    -- The second call is fresh, so its nonce is checked within five minutes of the timestamp.
    obtain ⟨ts', hts', hfresh'⟩ := sentAt_of_isOk hy hok'
    obtain rfl : ts = ts' := Option.some.inj (hts.symm.trans (hsame ▸ hts'))
    obtain ⟨-, hnext⟩ := hcs y.1 (mem_of_mem_answers hy) ts hts' hfresh'
    omega

/-! ### An example -/

/-- A client with one scope; its signature, in the examples, is its secret. -/
def asoju : IntegrationClient := ⟨"asoju", "s1", "missions:write", true, none⟩

/-- A request of the client, sent at the time `ts`. -/
def missionRequest (timestamp : String) : SignedRequest where
  clientId := some "asoju"
  timestamp := some timestamp
  nonce := some "n1"
  signature := some "s1"
  method := "POST"
  path := "/api/v1/integration/missions"
  body := "\x7b\x7d"

/-- The request arrives at the time `now`. -/
def arrival (timestamp : String) (now : ℤ) : Call where
  request := missionRequest timestamp
  requiredScopes := ["missions:write"]
  clock := ⟨now, now, now⟩

theorem no_replay_late :
    (answers (fun secret _ => secret) ⟨[asoju], []⟩
      [arrival "1000000" 1000500, arrival "1000000" 1300000]).map Prod.snd =
        [.ok "asoju", .error .replayDetected] ∧
    NoReplay (answers (fun secret _ => secret) ⟨[asoju], []⟩
      [arrival "1000000" 1000500, arrival "1000000" 1300000]) :=
  ⟨by decide +kernel, no_replay _ _ _ (by decide +kernel) (by decide +kernel)⟩

/-- The client's clock is a minute ahead of the server's: the request is still fresh when its nonce
has been forgotten. -/
theorem replayed_request :
    Chronological [arrival "1060000" 1000000, arrival "1060000" 1300001] ∧
    ¬ NoReplay (answers (fun secret _ => secret) ⟨[asoju], []⟩
      [arrival "1060000" 1000000, arrival "1060000" 1300001]) := by
  decide +kernel

/-- A call that would come as far as its nonce does so at any time when its timestamp is fresh. -/
lemma admission_of_fresh {clients : List IntegrationClient} {now later : ℤ} {r : SignedRequest}
    (h : admission clients now r = .ok a)
    (hfresh : isTimestampFresh later a.credentials.timestamp = true) :
    admission clients later r = .ok a := by
  rw [admission] at h ⊢
  cases hcredentials : r.credentials with
  | none =>
    rw [hcredentials] at h
    cases h
  | some credentials =>
    rw [hcredentials] at h
    dsimp only at h ⊢
    cases hclient : findClient clients credentials.clientId with
    | none =>
      rw [hclient] at h
      cases h
    | some client =>
      rw [hclient] at h
      dsimp only at h ⊢
      split_ifs at h with hactive hnow
      cases h
      rw [if_neg (not_not_intro hactive), if_neg (not_not_intro hfresh)]

/-- **Exactly the requests that are ahead of the clock can be replayed**, as soon as their nonce is
forgotten: here for calls that read the clock once. -/
theorem replayable_iff {now ts : ℤ} (hclock : c.clock = ⟨now, now, now⟩)
    (hok : (authenticateIntegrationRequest hmac g c).1.isOk = true)
    (hts : c.request.sentAt = some ts) :
    (∃ later, now ≤ later ∧ (authenticateIntegrationRequest hmac (step hmac g c)
      { c with clock := ⟨later, later, later⟩ }).1.isOk = true) ↔ now < ts := by
  obtain ⟨a, hadmitted, htakes⟩ := takes_of_isOk hok
  have hcredentials := (admitted_eq_ok hadmitted).1
  have hremembers : ∀ t, now ≤ t → ((step hmac g c).Remembers t a.credentials.nonce ↔
      g.Remembers t a.credentials.nonce ∨ t ≤ now + nonceFreshnessWindow) := by
    intro t ht
    have hnow : c.clock.nonce = now := by rw [hclock]
    rw [step, remembers_after (hnow.trans_le ht), and_iff_right htakes, hnow]
  constructor
  · rintro ⟨later, hle, haccepted⟩
    obtain ⟨a', hadmitted', b, hb, hbnonce, hfree⟩ := takes_of_isOk haccepted
    obtain rfl : a' = b := Except.ok.inj (hadmitted'.symm.trans hb)
    have hsame : a.credentials = a'.credentials :=
      Option.some.inj (hcredentials.symm.trans (admitted_eq_ok hadmitted').1)
    rw [← hsame] at hfree
    have hlate : ¬ later ≤ now + nonceFreshnessWindow := fun hle' =>
      hfree ((hremembers later hle).mpr (Or.inr hle'))
    obtain ⟨ts', hts', hfresh⟩ := sentAt_of_admitted hadmitted'
    obtain rfl : ts = ts' := Option.some.inj (hts.symm.trans hts')
    have hsent : |later - ts| ≤ nonceFreshnessWindow := hfresh
    have hbound := (abs_le.mp hsent).2
    omega
  · -- The last moment at which the timestamp is fresh.
    intro hahead
    have hwindow : (0 : ℤ) ≤ nonceFreshnessWindow := by decide
    refine ⟨ts + nonceFreshnessWindow, by omega, ?_⟩
    have hfree : ¬ (step hmac g c).Remembers (ts + nonceFreshnessWindow) a.credentials.nonce := by
      rw [hremembers _ (by omega)]
      rintro (halive | hle)
      · obtain ⟨b, hb, hbnonce, hunused⟩ := htakes
        have hnow : c.clock.nonce = now := by rw [hclock]
        exact hunused (halive.of_le (by omega))
      · omega
    have hfresh : isTimestampFresh (ts + nonceFreshnessWindow) a.credentials.timestamp = true := by
      rw [SignedRequest.sentAt, hcredentials, Option.bind_some] at hts
      rw [isTimestampFresh, hts]
      simp [abs_of_nonneg hwindow]
    have hverdict : (verdict hmac c a).isOk = true := by
      obtain ⟨b, hb, -, hunused⟩ := htakes
      rwa [answer_of_not_remembered hadmitted hunused] at hok
    rw [answer_of_not_remembered (a := a) ?_ hfree]
    · exact hverdict
    · rw [admitted_step]
      exact admission_of_fresh hadmitted hfresh

/-! ## Other callers -/

lemma admitted_runFrom (hmac : String → String → String) (g : State) (cs : List Call) (c : Call) :
    c.admitted (runFrom (step hmac) g cs) = c.admitted g := by
  induction cs generalizing g with
  | nil => rfl
  | cons c' cs ih => rw [runFrom_cons, ih, admitted_step]

lemma answers_concat (g : State) (cs : List Call) (c : Call) :
    answers hmac g (cs ++ [c]) = answers hmac g cs ++
      [(c, (authenticateIntegrationRequest hmac (runFrom (step hmac) g cs) c).1)] := by
  induction cs generalizing g with
  | nil => rfl
  | cons c' cs ih =>
    rw [List.cons_append, answers, ih, answers, List.cons_append, runFrom_cons]

lemma verdict_ne_replay : verdict hmac c a ≠ .error .replayDetected := by
  rw [verdict]
  split_ifs
  · cases missingScope a.scopes c.requiredScopes <;> simp
  · simp

variable (hmac) in
/-- The call is made in the name of the client, and its signature is valid. -/
def Call.IsBy (clients : List IntegrationClient) (clientId : String) (c : Call) : Bool :=
  match c.request.credentials with
  | none => false
  | some h =>
      h.clientId = clientId && (findClient clients clientId).any fun client =>
        signedWith hmac c.request h client.clientSecret

variable (hmac) in
/-- The calls of the client are answered as if nobody else had called. -/
def Unaffected (clientId : String) (g : State) (cs : List Call) : Prop :=
  (answers hmac g cs).filter (fun x => x.1.IsBy hmac g.client clientId) =
    answers hmac g (cs.filter fun c => c.IsBy hmac g.client clientId)

instance (clientId : String) (g : State) (cs : List Call) :
    Decidable (Unaffected hmac clientId g cs) :=
  inferInstanceAs (Decidable (_ = _))

variable (hmac) in
/-- Among the calls, one that is not the client's has used up the nonce, less than five minutes
before the time `t`. -/
def Spoilt (clientId : String) (g : State) (cs : List Call) (t : ℤ) (nonce : String) : Prop :=
  ∃ pre c post, cs = pre ++ c :: post ∧ c.IsBy hmac g.client clientId = false ∧
    c.Takes (runFrom (step hmac) g pre) nonce ∧ t ≤ c.clock.nonce + nonceFreshnessWindow

variable {clientId : String} {cs : List Call}

lemma Spoilt.of_le {t' : ℤ} (h : Spoilt hmac clientId g cs t nonce) (hle : t' ≤ t) :
    Spoilt hmac clientId g cs t' nonce := by
  obtain ⟨pre, c, post, hcs, hother, htakes, ht⟩ := h
  exact ⟨pre, c, post, hcs, hother, htakes, hle.trans ht⟩

/-- A place in a list that has been extended: the last one, or one of the old ones. -/
lemma split_concat {α : Type} {xs pre post : List α} {x y : α}
    (h : xs ++ [x] = pre ++ y :: post) :
    (xs = pre ∧ x = y ∧ post = []) ∨ ∃ post', post = post' ++ [x] ∧ xs = pre ++ y :: post' := by
  rcases List.eq_nil_or_concat' post with rfl | ⟨post, z, rfl⟩
  · obtain ⟨hxs, hx⟩ := List.append_singleton_inj.mp h
    exact Or.inl ⟨hxs, hx, rfl⟩
  · rw [← List.cons_append, ← List.append_assoc] at h
    obtain ⟨hxs, rfl⟩ := List.append_singleton_inj.mp h
    exact Or.inr ⟨post, rfl, hxs⟩

lemma spoilt_concat :
    Spoilt hmac clientId g (cs ++ [c]) t nonce ↔ Spoilt hmac clientId g cs t nonce ∨
      (c.IsBy hmac g.client clientId = false ∧ c.Takes (runFrom (step hmac) g cs) nonce ∧
        t ≤ c.clock.nonce + nonceFreshnessWindow) := by
  constructor
  · rintro ⟨pre, c', post, hcs, hother, htakes, ht⟩
    rcases split_concat hcs with ⟨rfl, rfl, rfl⟩ | ⟨post, rfl, rfl⟩
    · exact Or.inr ⟨hother, htakes, ht⟩
    · exact Or.inl ⟨pre, c', post, rfl, hother, htakes, ht⟩
  · rintro (⟨pre, c', post, rfl, hother, htakes, ht⟩ | ⟨hother, htakes, ht⟩)
    · exact ⟨pre, c', post ++ [c], by simp, hother, htakes, ht⟩
    · exact ⟨cs, c, [], rfl, hother, htakes, ht⟩

/-- The state of a run from which the calls of others have been removed. -/
abbrev reduced (hmac : String → String → String) (clientId : String) (g : State)
    (cs : List Call) : State :=
  runFrom (step hmac) g (cs.filter fun c => c.IsBy hmac g.client clientId)

/-- How the two stores of nonces compare from the time `horizon` on: the whole run remembers what
the reduced run remembers and what others have spoilt, and the two are apart. -/
def Compares (hmac : String → String → String) (clientId : String) (g : State) (cs : List Call)
    (horizon : ℤ) : Prop :=
  ∀ t nonce, horizon ≤ t →
    ((runFrom (step hmac) g cs).Remembers t nonce ↔
      (reduced hmac clientId g cs).Remembers t nonce ∨ Spoilt hmac clientId g cs t nonce) ∧
    ¬ ((reduced hmac clientId g cs).Remembers t nonce ∧ Spoilt hmac clientId g cs t nonce)

/-- The nonces that the calls of the client come with have not been spoilt. -/
def Apart (hmac : String → String → String) (clientId : String) (g : State) (cs : List Call) :
    Prop :=
  ∀ pre c post, cs = pre ++ c :: post → c.IsBy hmac g.client clientId = true →
    ∀ a, c.admitted g = .ok a →
      ¬ Spoilt hmac clientId g pre c.clock.nonce a.credentials.nonce

lemma apart_concat : Apart hmac clientId g (cs ++ [c]) ↔ Apart hmac clientId g cs ∧
    (c.IsBy hmac g.client clientId = true → ∀ a, c.admitted g = .ok a →
      ¬ Spoilt hmac clientId g cs c.clock.nonce a.credentials.nonce) := by
  constructor
  · intro h
    exact ⟨fun pre c' post hcs => h pre c' (post ++ [c]) (by simp [hcs]), h cs c [] rfl⟩
  · rintro ⟨h, hc⟩ pre c' post hcs
    rcases split_concat hcs with ⟨rfl, rfl, rfl⟩ | ⟨post, rfl, rfl⟩
    · exact hc
    · exact h pre c' post rfl

lemma compares_nil (horizon : ℤ) : Compares hmac clientId g [] horizon := by
  intro t nonce _
  have hnone : ¬ Spoilt hmac clientId g [] t nonce := by
    rintro ⟨pre, c, post, hcs, -⟩
    exact absurd hcs (by simp)
  exact ⟨⟨Or.inl, fun h => h.resolve_right hnone⟩, fun h => hnone h.2⟩

/-- A call of the client does the same to both stores, if its nonce has not been spoilt. -/
lemma Compares.concat_own {horizon : ℤ} (h : Compares hmac clientId g cs horizon)
    (hle : horizon ≤ c.clock.nonce) (hown : c.IsBy hmac g.client clientId = true)
    (hclean : ∀ a, c.admitted g = .ok a →
      ¬ Spoilt hmac clientId g cs c.clock.nonce a.credentials.nonce) :
    Compares hmac clientId g (cs ++ [c]) c.clock.nonce := by
  intro t nonce ht
  have htakes : c.Takes (runFrom (step hmac) g cs) nonce ↔
      c.Takes (reduced hmac clientId g cs) nonce := by
    rw [Call.Takes, Call.Takes, admitted_runFrom, admitted_runFrom]
    refine exists_congr fun a => and_congr_right fun hadmitted => and_congr_right ?_
    rintro rfl
    rw [(h _ a.credentials.nonce hle).1, or_iff_left (hclean a hadmitted)]
  have hspoilt : Spoilt hmac clientId g (cs ++ [c]) t nonce ↔
      Spoilt hmac clientId g cs t nonce := by
    rw [spoilt_concat, hown]
    simp
  have hfull : (runFrom (step hmac) g (cs ++ [c])).Remembers t nonce ↔
      (runFrom (step hmac) g cs).Remembers t nonce ∨
        (c.Takes (runFrom (step hmac) g cs) nonce ∧
          t ≤ c.clock.nonce + nonceFreshnessWindow) := by
    rw [runFrom_append]
    exact remembers_after ht
  have hreduced : (reduced hmac clientId g (cs ++ [c])).Remembers t nonce ↔
      (reduced hmac clientId g cs).Remembers t nonce ∨
        (c.Takes (reduced hmac clientId g cs) nonce ∧
          t ≤ c.clock.nonce + nonceFreshnessWindow) := by
    rw [reduced, List.filter_append, List.filter_singleton, hown, runFrom_append]
    exact remembers_after ht
  obtain ⟨hsame, hapart⟩ := h t nonce (hle.trans ht)
  rw [hfull, hreduced, hspoilt, hsame, htakes]
  refine ⟨or_right_comm, ?_⟩
  rintro ⟨hremembers | ⟨hnow, -⟩, hforeign⟩
  · exact hapart ⟨hremembers, hforeign⟩
  · -- The nonce that has just been used had not been spoilt.
    obtain ⟨a, hadmitted, rfl, -⟩ := hnow
    rw [admitted_runFrom] at hadmitted
    exact hclean a hadmitted (hforeign.of_le ht)

/-- A call of somebody else may use up a nonce that neither store remembers. -/
lemma Compares.concat_other {horizon : ℤ} (h : Compares hmac clientId g cs horizon)
    (hle : horizon ≤ c.clock.nonce) (hother : c.IsBy hmac g.client clientId = false) :
    Compares hmac clientId g (cs ++ [c]) c.clock.nonce := by
  intro t nonce ht
  have hfull : (runFrom (step hmac) g (cs ++ [c])).Remembers t nonce ↔
      (runFrom (step hmac) g cs).Remembers t nonce ∨
        (c.Takes (runFrom (step hmac) g cs) nonce ∧
          t ≤ c.clock.nonce + nonceFreshnessWindow) := by
    rw [runFrom_append]
    exact remembers_after ht
  have hreduced : reduced hmac clientId g (cs ++ [c]) = reduced hmac clientId g cs := by
    rw [reduced, List.filter_append, List.filter_singleton, hother, Bool.cond_false,
      List.append_nil]
  obtain ⟨hsame, hapart⟩ := h t nonce (hle.trans ht)
  rw [hfull, hreduced, spoilt_concat, and_iff_right hother, hsame]
  refine ⟨or_assoc, ?_⟩
  rintro ⟨hremembers, hforeign | ⟨htakes, -⟩⟩
  · exact hapart ⟨hremembers, hforeign⟩
  · obtain ⟨a, -, -, hfree⟩ := htakes
    refine hfree (((h _ nonce hle).1).mpr (Or.inl ?_))
    exact hremembers.of_le ht

/-- The answer to a call of the client is the one it gets alone, if and only if its nonce has not
been spoilt. -/
lemma Compares.answer_iff {horizon : ℤ} (h : Compares hmac clientId g cs horizon)
    (hle : horizon ≤ c.clock.nonce) :
    (authenticateIntegrationRequest hmac (runFrom (step hmac) g cs) c).1 =
        (authenticateIntegrationRequest hmac (reduced hmac clientId g cs) c).1 ↔
      ∀ a, c.admitted g = .ok a →
        ¬ Spoilt hmac clientId g cs c.clock.nonce a.credentials.nonce := by
  have hfull := admitted_runFrom hmac g cs c
  have hreduced := admitted_runFrom hmac g
    (cs.filter fun c => c.IsBy hmac g.client clientId) c
  cases hadmitted : c.admitted g with
  | error e =>
    rw [authenticate_of_error (hfull.trans hadmitted),
      authenticate_of_error (hreduced.trans hadmitted)]
    simp
  | ok a =>
    obtain ⟨hsame, hapart⟩ := h c.clock.nonce a.credentials.nonce hle
    have hall : (∀ a', (Except.ok a : Except AuthError Admission) = .ok a' →
        ¬ Spoilt hmac clientId g cs c.clock.nonce a'.credentials.nonce) ↔
          ¬ Spoilt hmac clientId g cs c.clock.nonce a.credentials.nonce := by simp
    rw [hall]
    by_cases hspoilt : Spoilt hmac clientId g cs c.clock.nonce a.credentials.nonce
    · -- In the whole run the call is a replay; alone it is not.
      have hfree : ¬ (reduced hmac clientId g cs).Remembers c.clock.nonce a.credentials.nonce :=
        fun hremembers => hapart ⟨hremembers, hspoilt⟩
      rw [answer_of_remembered (hfull.trans hadmitted) (hsame.mpr (Or.inr hspoilt)),
        answer_of_not_remembered (hreduced.trans hadmitted) hfree]
      exact iff_of_false (fun heq => verdict_ne_replay heq.symm) (not_not_intro hspoilt)
    · rw [or_iff_left hspoilt] at hsame
      refine iff_of_true ?_ hspoilt
      by_cases hremembers :
          (reduced hmac clientId g cs).Remembers c.clock.nonce a.credentials.nonce
      · rw [answer_of_remembered (hfull.trans hadmitted) (hsame.mpr hremembers),
          answer_of_remembered (hreduced.trans hadmitted) hremembers]
      · rw [answer_of_not_remembered (hfull.trans hadmitted) fun h => hremembers (hsame.mp h),
          answer_of_not_remembered (hreduced.trans hadmitted) hremembers]

lemma unaffected_concat_own (hown : c.IsBy hmac g.client clientId = true) :
    Unaffected hmac clientId g (cs ++ [c]) ↔ Unaffected hmac clientId g cs ∧
      (authenticateIntegrationRequest hmac (runFrom (step hmac) g cs) c).1 =
        (authenticateIntegrationRequest hmac (reduced hmac clientId g cs) c).1 := by
  rw [Unaffected, Unaffected, List.filter_append, List.filter_singleton, hown, Bool.cond_true,
    answers_concat, answers_concat, List.filter_append, List.filter_singleton, hown,
    Bool.cond_true, List.append_singleton_inj, Prod.mk.injEq, eq_self_iff_true, true_and]

lemma unaffected_concat_other (hother : c.IsBy hmac g.client clientId = false) :
    Unaffected hmac clientId g (cs ++ [c]) ↔ Unaffected hmac clientId g cs := by
  rw [Unaffected, Unaffected, List.filter_append, List.filter_singleton, hother, Bool.cond_false,
    answers_concat, List.filter_append, List.filter_singleton, hother, Bool.cond_false,
    List.append_nil, List.append_nil]

lemma Compares.mono {horizon horizon' : ℤ} (h : Compares hmac clientId g cs horizon)
    (hle : horizon ≤ horizon') : Compares hmac clientId g cs horizon' :=
  fun t nonce ht => h t nonce (hle.trans ht)

/-- **The calls of a client are answered as if nobody else had called, if and only if nobody else
has used up one of their nonces** less than five minutes before. -/
theorem unaffected_iff (hmac : String → String → String) (clientId : String) (g : State)
    (cs : List Call) (hclock : Chronological cs) :
    Unaffected hmac clientId g cs ↔ Apart hmac clientId g cs := by
  have hnonces := hclock.nonces
  clear hclock
  suffices h : (Unaffected hmac clientId g cs ↔ Apart hmac clientId g cs) ∧
      (Apart hmac clientId g cs → ∀ horizon, (∀ c ∈ cs, c.clock.nonce ≤ horizon) →
        Compares hmac clientId g cs horizon) from h.1
  induction cs using List.reverseRecOn with
  | nil =>
    refine ⟨iff_of_true rfl ?_, fun _ horizon _ => compares_nil horizon⟩
    intro pre c post hcs
    exact absurd hcs (by simp)
  | append_singleton cs c ih =>
    obtain ⟨hcs, -, hbefore⟩ := List.pairwise_append.mp hnonces
    have hle : ∀ c' ∈ cs, c'.clock.nonce ≤ c.clock.nonce := fun c' hc' =>
      hbefore c' hc' c (List.mem_singleton_self c)
    obtain ⟨hiff, hcompares⟩ := ih hcs
    have hlast : ∀ horizon, (∀ c' ∈ cs ++ [c], c'.clock.nonce ≤ horizon) →
        c.clock.nonce ≤ horizon := fun horizon h => h c (by simp)
    rw [apart_concat]
    cases hown : c.IsBy hmac g.client clientId with
    | false =>
      rw [unaffected_concat_other hown, hiff]
      simp only [Bool.false_eq_true, false_implies, and_true, true_and]
      intro hapart horizon hhorizon
      exact ((hcompares hapart _ hle).concat_other le_rfl hown).mono (hlast horizon hhorizon)
    | true =>
      rw [unaffected_concat_own hown, hiff]
      simp only [true_implies]
      refine ⟨and_congr_right fun hapart => (hcompares hapart _ hle).answer_iff le_rfl, ?_⟩
      rintro ⟨hapart, hclean⟩ horizon hhorizon
      exact ((hcompares hapart _ hle).concat_own le_rfl hown hclean).mono (hlast horizon hhorizon)

/-! ### An example -/

/-- Another client, and a request of it under the same nonce. -/
def otherClient : IntegrationClient := ⟨"other", "s2", "missions:write", true, none⟩

def otherRequest (signature : String) : SignedRequest :=
  { missionRequest "1000000" with clientId := some "other", signature := some signature }

def otherArrival (signature : String) (now : ℤ) : Call where
  request := otherRequest signature
  requiredScopes := ["missions:write"]
  clock := ⟨now, now, now⟩

/-- The other client comes second with the nonce. -/
theorem unaffected_iff_apart :
    Unaffected (fun secret _ => secret) "asoju" ⟨[asoju, otherClient], []⟩
      [arrival "1000000" 1000500, otherArrival "s2" 1300000] ↔
    Apart (fun secret _ => secret) "asoju" ⟨[asoju, otherClient], []⟩
      [arrival "1000000" 1000500, otherArrival "s2" 1300000] :=
  unaffected_iff _ _ _ _ (by decide +kernel)

/-- The other client, without a valid signature, comes first. -/
theorem spoilt_request :
    Chronological [otherArrival "forged" 1000000, arrival "1000000" 1000500] ∧
    ¬ Unaffected (fun secret _ => secret) "asoju" ⟨[asoju, otherClient], []⟩
      [otherArrival "forged" 1000000, arrival "1000000" 1000500] := by
  decide +kernel

end Gateway

end Asoju.FieldForce

import Mathlib.Logic.Function.Basic
import SignOn.Proofs.Issuance
import SignOn.Proofs.Jose.SharedSecret

/-!
# Clients that share a service

Any number of clients read the service that they share, exchange it and issue tokens, in any order
of their steps. What they share is touched in one step at a time: a reload builds its service before
it puts it in place, and issuing reads the service once and does all the rest with what it read.
-/

namespace SignOn

open Jose Outcome

/-! ## Issuing step by step -/

/-- How far the issuing of a token has come. -/
inductive Progress where
  | pinned
  | resolved (kid : Option String)
  | drafted (kid : Option String) (claims : Claims)
  | signed (claims : Claims) (token : SignedToken)

/-- A token that is being issued. The issuer has the service that was read in the beginning. -/
structure Issuance where
  issuer : TokenIssuer
  principal : Principal
  app : App
  progress : Progress

namespace Issuance

/-- The next step. Either there is more to do, or it was the last one. -/
def advance (i : Issuance) : Issuance ⊕ Except IssuanceError IssuedToken :=
  let ⟨x, p, a, progress⟩ := i
  match progress with
  | .pinned => .inl { i with progress := .resolved x.service.defaultSigningKeyId }
  | .resolved kid =>
    match (x.draft p a kid).build x.moment.now x.moment.entropy.uuid with
    | .ok claims => .inl { i with progress := .drafted kid claims }
    | .error e => .inr (.error e)
  | .drafted kid claims =>
    match x.service.sign x.moment.entropy claims.toJson kid none with
    | .ok token => .inl { i with progress := .signed claims token }
    | .error e => .inr (.error (.tokenIssuanceFailed a.id e))
  | .signed claims token =>
    .inr ((fun delivered ↦ ⟨delivered.1, claims, token.keyId, token.algorithm, delivered.2⟩) <$>
      x.wrapped a token)

/-- The number of steps that are left, if none of them fails. -/
def remaining (i : Issuance) : Nat :=
  match i.progress with
  | .pinned => 4
  | .resolved _ => 3
  | .drafted _ _ => 2
  | .signed _ _ => 1

theorem remaining_le (i : Issuance) : i.remaining ≤ 4 := by
  obtain ⟨x, p, a, progress⟩ := i
  cases progress <;> simp [remaining]

theorem remaining_of_advance {i j : Issuance} (h : i.advance = .inl j) :
    i.remaining = j.remaining + 1 := by
  obtain ⟨x, p, a, progress⟩ := i
  cases progress with
  | pinned =>
    obtain rfl := Sum.inl.inj h
    rfl
  | resolved kid =>
    simp only [advance] at h
    split at h
    · obtain rfl := Sum.inl.inj h
      rfl
    · cases h
  | drafted kid claims =>
    simp only [advance] at h
    split at h
    · obtain rfl := Sum.inl.inj h
      rfl
    · cases h
  | signed claims token => cases h

/-- What comes out in the end, when all that is left is done. -/
def outcome (i : Issuance) : Except IssuanceError IssuedToken :=
  match _h : i.advance with
  | .inl j => j.outcome
  | .inr result => result
termination_by i.remaining
decreasing_by exact Nat.lt_of_lt_of_eq (Nat.lt_succ_self _) (remaining_of_advance _h).symm

theorem outcome_of_advance {i j : Issuance} (h : i.advance = .inl j) : i.outcome = j.outcome := by
  rw [outcome]
  split
  · next j' h' => rw [Sum.inl.inj (h.symm.trans h')]
  · next result h' => cases h.symm.trans h'

theorem outcome_of_finish {i : Issuance} {result : Except IssuanceError IssuedToken}
    (h : i.advance = .inr result) : i.outcome = result := by
  rw [outcome]
  split
  · next j h' => cases h.symm.trans h'
  · next result' h' => rw [Sum.inr.inj (h.symm.trans h')]

/-- The steps of issuing do together what issuing does at once. -/
theorem outcome_pinned (x : TokenIssuer) (p : Principal) (a : App) :
    outcome ⟨x, p, a, .pinned⟩ = x.issued p a := by
  let kid := x.service.defaultSigningKeyId
  rw [outcome_of_advance (j := ⟨x, p, a, .resolved kid⟩) rfl]
  cases hclaims : (x.draft p a kid).build x.moment.now x.moment.entropy.uuid with
  | error e =>
    have hfinish : advance ⟨x, p, a, .resolved kid⟩ = .inr (.error e) := by
      simp only [advance, hclaims]
    rw [outcome_of_finish hfinish]
    simp only [TokenIssuer.issued, hclaims, kid, error_bind]
  | ok claims =>
    have hdrafted : advance ⟨x, p, a, .resolved kid⟩ = .inl ⟨x, p, a, .drafted kid claims⟩ := by
      simp only [advance, hclaims]
    rw [outcome_of_advance hdrafted]
    cases hsigned : x.service.sign x.moment.entropy claims.toJson kid none with
    | error e =>
      have hfinish : advance ⟨x, p, a, .drafted kid claims⟩ =
          .inr (.error (.tokenIssuanceFailed a.id e)) := by
        simp only [advance, hsigned]
      rw [outcome_of_finish hfinish]
      simp only [TokenIssuer.issued, hclaims, kid, ok_bind, hsigned]
    | ok token =>
      have hadvance : advance ⟨x, p, a, .drafted kid claims⟩ =
          .inl ⟨x, p, a, .signed claims token⟩ := by
        simp only [advance, hsigned]
      rw [outcome_of_advance hadvance, outcome_of_finish rfl,
        TokenIssuer.issued_eq hclaims hsigned]

end Issuance

/-- A token that was issued with one service. The claims, the result and the header of what was
signed all name its default signing key, with which it was signed, and what was encrypted was
encrypted with a key that it has too. -/
structure IssuedToken.MadeWith (i : IssuedToken) (s : Service) (a : App) (signer : Signer)
    (inner : String) : Prop where
  key : s.defaultSigningKeyId = some i.keyId
  kid : i.claims.kid = some i.keyId
  lookup : s.signers.lookup i.keyId = some signer
  algorithm : i.algorithm = s.defaults.signingAlgorithm.getD signer.preferred
  header : SignatureHeader.ofToken inner = .ok ⟨.supported i.algorithm, some i.keyId⟩
  plain : a.tokenEncryption = none → i.token = inner
  nested : ∀ w, a.tokenEncryption = some w → ∃ id encrypter header,
    w.keyId.or s.defaultEncryptionKeyId = some id ∧ s.encrypters.lookup id = some encrypter ∧
      header.kid = some id ∧
      header.alg = (w.algorithm.or s.defaults.encryptionAlgorithm).getD encrypter.preferred.1 ∧
      header.enc = (w.method.or s.defaults.encryptionMethod).getD encrypter.preferred.2 ∧
      HasForm i.token header (Text.utf8 inner)

theorem TokenIssuer.madeWith_of_issued {x : TokenIssuer} {p : Principal} {a : App}
    {i : IssuedToken} (hbuilt : x.service.Built) (h : x.issued p a = .ok i) :
    ∃ signer inner, i.MadeWith x.service a signer inner := by
  obtain ⟨hclaims, signed, hsigned, hwrapped, hkeyId, halgorithm⟩ := issued_eq_ok h
  obtain ⟨-, hkid⟩ := reflects_of_build hclaims
  obtain ⟨hdefault, ⟨signer, hsigner, hchosen⟩, hheader⟩ := Service.token_of_sign hbuilt hsigned
  rw [Option.or_self, ← hkeyId] at hdefault
  refine ⟨signer, signed.compact, hdefault, hkid.trans hdefault, ?_, ?_, ?_, fun hplain ↦ ?_,
    fun w hw ↦ ?_⟩
  · rw [hkeyId, hsigner]
  · rw [halgorithm, hchosen, Service.choose, Option.none_or]
  · rw [halgorithm, hkeyId, hheader]
  · rw [wrapped, hplain] at hwrapped
    exact (Prod.mk.inj (Except.ok.inj hwrapped)).1.symm
  · obtain ⟨t, ht, htoken, -⟩ := wrapped_eq_ok x hw hwrapped
    obtain ⟨hkey, ⟨y, hy, halg, henc⟩, hform⟩ := Service.token_of_encryptWith hbuilt ht
    rw [← htoken] at hform
    exact ⟨t.keyId, y, _, hkey, hy, rfl, halg, henc, hform⟩

/-! ## Clients and what they share -/

/-- What a call returned. -/
inductive Answer where
  | snapshot (s : Service)
  | replaced
  | reloaded (result : Except Failure Unit)
  | issued (result : Except IssuanceError IssuedToken)

/-- What a client does. Issuing is begun by reading the service, and then resumed step by step. -/
inductive Action where
  | snapshot
  | replace (s : Service) (built : s.Built)
  | reload (ring : KeyRing) (defaults : Defaults)
  | issue (issuer : String) (moment : Moment) (p : Principal) (a : App)
  | resume

/-- The service that an action puts in place of the one that is shared. -/
def Action.installs : Action → Option Service
  | .replace s _ => some s
  | .reload ring defaults => (Service.build ring defaults).toOption
  | .snapshot | .issue _ _ _ _ | .resume => none

theorem Action.built_of_installs {a : Action} {s : Service} (h : a.installs = some s) :
    s.Built := by
  cases a with
  | replace s' built =>
    obtain rfl := Option.some.inj h
    exact built
  | reload ring defaults =>
    cases hs : Service.build ring defaults with
    | ok s' =>
      rw [installs, hs] at h
      obtain rfl := Option.some.inj h
      exact (Service.of_build hs).2.2
    | error f =>
      rw [installs, hs] at h
      cases h
  | snapshot | issue | resume => cases h

/-- What the calls of a client returned so far, and the token that it is issuing, if any. -/
structure Client where
  answers : List Answer
  issuance : Option Issuance

namespace Client

/-- A call returns. -/
def answer (x : Client) (a : Answer) : Client := ⟨x.answers ++ [a], none⟩

/-- One step of a client, which makes one call after the other. -/
def step (x : Client) (shared : SharedService) (a : Action) : Option (SharedService × Client) :=
  match x.issuance, a with
  | none, .snapshot => some (shared, x.answer (.snapshot shared.snapshot))
  | none, .replace s _ => some (shared.replace s, x.answer .replaced)
  | none, .reload ring defaults =>
    let (shared, result) := shared.reload ring defaults
    some (shared, x.answer (.reloaded result))
  | none, .issue issuer moment p a =>
    some (shared, { x with issuance := some ⟨⟨issuer, shared.snapshot, moment⟩, p, a, .pinned⟩ })
  | some i, .resume =>
    match i.advance with
    | .inl j => some (shared, { x with issuance := some j })
    | .inr result => some (shared, x.answer (.issued result))
  | _, _ => none

/-- What a step can be. -/
inductive Moves (x : Client) (shared : SharedService) : Action → SharedService → Client → Prop
  | snapshot (hidle : x.issuance = none) :
    Moves x shared .snapshot shared (x.answer (.snapshot shared.current))
  | replace (hidle : x.issuance = none) (s : Service) (built : s.Built) :
    Moves x shared (.replace s built) ⟨s⟩ (x.answer .replaced)
  | reload (hidle : x.issuance = none) {ring : KeyRing} {defaults : Defaults} {s : Service}
      (hs : Service.build ring defaults = .ok s) :
    Moves x shared (.reload ring defaults) ⟨s⟩ (x.answer (.reloaded (.ok ())))
  | keep (hidle : x.issuance = none) {ring : KeyRing} {defaults : Defaults} {f : Failure}
      (hf : Service.build ring defaults = .error f) :
    Moves x shared (.reload ring defaults) shared (x.answer (.reloaded (.error f)))
  | issue (hidle : x.issuance = none) (issuer : String) (moment : Moment) (p : Principal)
      (a : App) :
    Moves x shared (.issue issuer moment p a) shared
      { x with issuance := some ⟨⟨issuer, shared.current, moment⟩, p, a, .pinned⟩ }
  | advance {i j : Issuance} (hi : x.issuance = some i) (hj : i.advance = .inl j) :
    Moves x shared .resume shared { x with issuance := some j }
  | finish {i : Issuance} {result : Except IssuanceError IssuedToken} (hi : x.issuance = some i)
      (hresult : i.advance = .inr result) :
    Moves x shared .resume shared (x.answer (.issued result))

theorem moves_of_step {x x' : Client} {shared shared' : SharedService} {a : Action}
    (h : x.step shared a = some (shared', x')) : x.Moves shared a shared' x' := by
  rw [step.eq_def] at h
  split at h
  · next hidle =>
    obtain ⟨rfl, rfl⟩ := Prod.mk.inj (Option.some.inj h)
    exact .snapshot hidle
  · next s built hidle =>
    obtain ⟨rfl, rfl⟩ := Prod.mk.inj (Option.some.inj h)
    exact .replace hidle s built
  · next ring defaults hidle =>
    cases hs : Service.build ring defaults with
    | ok s =>
      simp only [SharedService.reload, hs] at h
      obtain ⟨rfl, rfl⟩ := Prod.mk.inj (Option.some.inj h)
      exact .reload hidle hs
    | error f =>
      simp only [SharedService.reload, hs] at h
      obtain ⟨rfl, rfl⟩ := Prod.mk.inj (Option.some.inj h)
      exact .keep hidle hs
  · next issuer moment p a hidle =>
    obtain ⟨rfl, rfl⟩ := Prod.mk.inj (Option.some.inj h)
    exact .issue hidle issuer moment p a
  · next i hi =>
    split at h
    · next j hj =>
      obtain ⟨rfl, rfl⟩ := Prod.mk.inj (Option.some.inj h)
      exact .advance hi hj
    · next result hresult =>
      obtain ⟨rfl, rfl⟩ := Prod.mk.inj (Option.some.inj h)
      exact .finish hi hresult
  · cases h

/-! What a step does to what is shared, and to the answers of the client. -/

section

variable {x x' : Client} {shared shared' : SharedService} {a : Action}

theorem Moves.current (h : x.Moves shared a shared' x') :
    shared'.current = a.installs.getD shared.current := by
  cases h with
  | snapshot | replace | issue | advance | finish => rfl
  | reload hidle hs => rw [Action.installs, hs]; rfl
  | keep hidle hf => rw [Action.installs, hf]; rfl

/-- No answer is ever taken back or changed. -/
theorem Moves.answers_prefix (h : x.Moves shared a shared' x') : x.answers <+: x'.answers := by
  cases h with
  | issue | advance => exact List.prefix_rfl
  | snapshot | replace | reload | keep | finish => exact List.prefix_append _ _

theorem Moves.of_snapshot (h : x.Moves shared .snapshot shared' x') :
    x'.answers = x.answers ++ [.snapshot shared.current] := by
  cases h
  rfl

theorem Moves.of_reload_ok {ring : KeyRing} {defaults : Defaults} {s : Service}
    (h : x.Moves shared (.reload ring defaults) shared' x')
    (hs : Service.build ring defaults = .ok s) :
    shared'.current = s ∧ x'.answers = x.answers ++ [.reloaded (.ok ())] := by
  cases h with
  | reload _ hs' => exact ⟨Except.ok.inj (hs'.symm.trans hs), rfl⟩
  | keep _ hf => cases hf.symm.trans hs

theorem Moves.of_reload_error {ring : KeyRing} {defaults : Defaults} {f : Failure}
    (h : x.Moves shared (.reload ring defaults) shared' x')
    (hf : Service.build ring defaults = .error f) :
    shared'.current = shared.current ∧ x'.answers = x.answers ++ [.reloaded (.error f)] := by
  cases h with
  | reload _ hs => cases hs.symm.trans hf
  | keep _ hf' => exact ⟨rfl, by rw [Except.error.inj (hf.symm.trans hf')]; rfl⟩

theorem Moves.of_resume {i : Issuance} (h : x.Moves shared .resume shared' x')
    (hi : x.issuance = some i) :
    shared' = shared ∧ ((∃ j, i.advance = .inl j ∧ x'.issuance = some j) ∨
      ∃ result, i.advance = .inr result ∧ x'.issuance = none) := by
  cases h with
  | advance hi' hj =>
    obtain rfl := Option.some.inj (hi.symm.trans hi')
    exact ⟨rfl, .inl ⟨_, hj, rfl⟩⟩
  | finish hi' hresult =>
    obtain rfl := Option.some.inj (hi.symm.trans hi')
    exact ⟨rfl, .inr ⟨_, hresult, rfl⟩⟩

/-- The client is issuing a token, of which `result` will come out, or has issued it. -/
def Awaits (before : List Answer) (result : Except IssuanceError IssuedToken) (x : Client) : Prop :=
  (x.answers = before ∧ ∃ i, x.issuance = some i ∧ i.outcome = result) ∨
    before ++ [.issued result] <+: x.answers

theorem Moves.awaits_of_issue {issuer : String} {moment : Moment} {p : Principal} {app : App}
    (h : x.Moves shared (.issue issuer moment p app) shared' x') :
    x'.Awaits x.answers (TokenIssuer.issued ⟨issuer, shared.current, moment⟩ p app) := by
  cases h
  exact .inl ⟨rfl, _, rfl, Issuance.outcome_pinned _ p app⟩

/-- While the client issues a token it does nothing else, and what the others do does not matter. -/
theorem Awaits.of_moves {before : List Answer} {result : Except IssuanceError IssuedToken}
    (hx : x.Awaits before result) (h : x.Moves shared a shared' x') : x'.Awaits before result := by
  rcases hx with ⟨hbefore, i, hi, hresult⟩ | hissued
  · cases h with
    | snapshot hidle | replace hidle | reload hidle | keep hidle | issue hidle =>
      rw [hi] at hidle
      cases hidle
    | advance hi' hj =>
      obtain rfl := Option.some.inj (hi.symm.trans hi')
      exact .inl ⟨hbefore, _, rfl, (Issuance.outcome_of_advance hj).symm.trans hresult⟩
    | finish hi' hfinish =>
      obtain rfl := Option.some.inj (hi.symm.trans hi')
      obtain rfl := (Issuance.outcome_of_finish hfinish).symm.trans hresult
      refine .inr ?_
      rw [← hbefore]
      exact List.prefix_rfl
  · exact .inr (hissued.trans h.answers_prefix)

end

end Client

/-! ## All clients together -/

/-- A service that is shared, and the clients that share it. -/
structure World where
  shared : SharedService
  clients : Nat → Client

namespace World

/-- Nothing was done yet. -/
def start (s : Service) : World := ⟨⟨s⟩, fun _ ↦ ⟨[], none⟩⟩

def step (w : World) (c : Nat) (a : Action) : Option World :=
  ((w.clients c).step w.shared a).map fun y ↦ ⟨y.1, Function.update w.clients c y.2⟩

/-- The steps of all clients, in the order in which they happen. -/
def run (w : World) : List (Nat × Action) → Option World
  | [] => some w
  | (c, a) :: history => (w.step c a).bind fun w' ↦ w'.run history

/-- The service that was put in place last. -/
def latest (initial : Service) (history : List (Nat × Action)) : Service :=
  (history.filterMap fun x ↦ x.2.installs).getLast?.getD initial

variable {w w' : World} {c : Nat} {a : Action}

/-- A step of a client leaves the other clients as they are. -/
theorem step_eq_some (h : w.step c a = some w') :
    (w.clients c).Moves w.shared a w'.shared (w'.clients c) ∧
      ∀ c' ≠ c, w'.clients c' = w.clients c' := by
  obtain ⟨⟨shared, x⟩, hx, rfl⟩ := Option.map_eq_some_iff.1 h
  refine ⟨?_, fun c' hc ↦ Function.update_of_ne hc _ _⟩
  show Client.Moves _ _ _ shared (Function.update w.clients c x c)
  rw [Function.update_self]
  exact Client.moves_of_step hx

/-- What every step of a client preserves is preserved, whatever the others do. -/
theorem run_induction {P : Client → Prop}
    (hP : ∀ x x' shared shared' a, P x → x.Moves shared a shared' x' → P x')
    {history : List (Nat × Action)} (h : w.run history = some w') (hw : P (w.clients c)) :
    P (w'.clients c) := by
  induction history generalizing w with
  | nil =>
    obtain rfl := Option.some.inj h
    exact hw
  | cons x history ih =>
    obtain ⟨c', a⟩ := x
    obtain ⟨v, hv, h⟩ := Option.bind_eq_some_iff.1 h
    obtain ⟨hmoves, hothers⟩ := step_eq_some hv
    refine ih h ?_
    by_cases hc : c = c'
    · subst hc
      exact hP _ _ _ _ _ hw hmoves
    · rw [hothers c hc]
      exact hw

theorem awaits_of_run {before : List Answer} {result : Except IssuanceError IssuedToken}
    {history : List (Nat × Action)} (h : w.run history = some w')
    (hw : (w.clients c).Awaits before result) : (w'.clients c).Awaits before result :=
  run_induction (fun _ _ _ _ _ hx hx' ↦ hx.of_moves hx') h hw

theorem current_of_run {history : List (Nat × Action)} (h : w.run history = some w') :
    w'.shared.current = latest w.shared.current history := by
  induction history generalizing w with
  | nil =>
    obtain rfl := Option.some.inj h
    rfl
  | cons x history ih =>
    obtain ⟨c, a⟩ := x
    obtain ⟨v, hv, h⟩ := Option.bind_eq_some_iff.1 h
    rw [ih h, (step_eq_some hv).1.current, latest, latest, List.filterMap_cons]
    cases a.installs with
    | none => rfl
    | some s => rw [List.getLast?_cons]; rfl

/-- What is put in place was built. -/
theorem built_latest {initial : Service} (h : initial.Built) (history : List (Nat × Action)) :
    (latest initial history).Built := by
  have hinstalled : ∀ s ∈ history.filterMap fun x ↦ x.2.installs, s.Built := by
    intro s hs
    obtain ⟨x, -, hx⟩ := List.mem_filterMap.1 hs
    exact Action.built_of_installs hx
  rw [latest]
  cases hlast : (history.filterMap fun x ↦ x.2.installs).getLast? with
  | none => exact h
  | some s => exact hinstalled s (List.mem_of_getLast? hlast)

/-- A client that is issuing a token can go on with it, and one that is not can make every call. -/
theorem exists_step (h : a = .resume ↔ (w.clients c).issuance.isSome) :
    ∃ w', w.step c a = some w' := by
  rw [← Option.isSome_iff_exists, step, Option.isSome_map, Client.step.eq_def]
  cases hi : (w.clients c).issuance with
  | none =>
    rw [hi] at h
    cases a with
    | resume => cases h.1 rfl
    | snapshot | replace | reload | issue => rfl
  | some i =>
    rw [hi] at h
    obtain rfl := h.2 rfl
    dsimp only
    cases i.advance <;> rfl

/-- No client has to wait for another one: what it began it can finish alone. -/
theorem exists_run_resume {i : Issuance} (hi : (w.clients c).issuance = some i) :
    ∃ n ≤ i.remaining, ∃ w', w.run (List.replicate n (c, .resume)) = some w' ∧
      (w'.clients c).issuance = none ∧ w'.shared = w.shared := by
  induction hn : i.remaining generalizing i w with
  | zero =>
    obtain ⟨x, p, a, progress⟩ := i
    cases progress <;> cases hn
  | succ n ih =>
    obtain ⟨v, hv⟩ := exists_step (w := w) (c := c) (a := .resume) (by simp [hi])
    obtain ⟨hmoves, -⟩ := step_eq_some hv
    obtain ⟨hshared, ⟨j, hj, hissuance⟩ | ⟨result, -, hdone⟩⟩ := hmoves.of_resume hi
    · rw [Issuance.remaining_of_advance hj, Nat.succ_inj] at hn
      obtain ⟨m, hm, w', hw', hdone, hshared'⟩ := ih hissuance hn
      refine ⟨m + 1, Nat.succ_le_succ hm, w', ?_, hdone, hshared'.trans hshared⟩
      rw [List.replicate_succ, run, hv, Option.bind_some, hw']
    · refine ⟨1, Nat.succ_le_succ n.zero_le, v, ?_, hdone, hshared⟩
      rw [List.replicate_one, run, hv, Option.bind_some, run]

/-- A token that is awaited comes, if only its client goes on. -/
theorem exists_run_of_awaits {before : List Answer} {result : Except IssuanceError IssuedToken}
    (h : (w.clients c).Awaits before result) :
    ∃ n ≤ 4, ∃ w', w.run (List.replicate n (c, .resume)) = some w' ∧
      before ++ [.issued result] <+: (w'.clients c).answers := by
  rcases h with ⟨hbefore, i, hi, hresult⟩ | hissued
  · obtain ⟨n, hn, w', hw', hdone, -⟩ := exists_run_resume hi
    refine ⟨n, hn.trans i.remaining_le, w', hw', ?_⟩
    rcases awaits_of_run hw' (.inl ⟨hbefore, i, hi, hresult⟩) with ⟨-, j, hj, -⟩ | hissued
    · rw [hdone] at hj
      cases hj
    · exact hissued
  · exact ⟨0, Nat.zero_le 4, w, rfl, hissued⟩

/-- The service is read in one step and exchanged in one step, whatever the clients do in between,
and no client has to wait. A client that reads it gets the one that was put in place last, and keeps
it. A reload that fails changes nothing. A token is issued as if its client was alone with the
service that it read, so all keys that it is made with are keys of this service. -/
theorem issues_with_one_service {initial : Service} (hinitial : initial.Built)
    {history more : List (Nat × Action)} {w'' : World}
    (h : (start initial).run history = some w) (hstep : w.step c a = some w')
    (hmore : w'.run more = some w'') :
    (a = .snapshot →
      (w'.clients c).answers = (w.clients c).answers ++ [.snapshot (latest initial history)]) ∧
    (∀ ring defaults s, a = .reload ring defaults → Service.build ring defaults = .ok s →
      w'.shared.snapshot = s ∧
        (w'.clients c).answers = (w.clients c).answers ++ [.reloaded (.ok ())]) ∧
    (∀ ring defaults f, a = .reload ring defaults → Service.build ring defaults = .error f →
      w'.shared.snapshot = latest initial history ∧
        (w'.clients c).answers = (w.clients c).answers ++ [.reloaded (.error f)]) ∧
    (∀ c', (w'.clients c').answers <+: (w''.clients c').answers) ∧
    (∀ c' a', (a' = .resume ↔ (w''.clients c').issuance.isSome) →
      ∃ v, w''.step c' a' = some v) ∧
    ∀ issuer moment p app, a = .issue issuer moment p app →
      ∃ result, (∀ context, result =
          ((TokenIssuer.issue ⟨issuer, latest initial history, moment⟩ p app).run context).1) ∧
        (w''.clients c).Awaits (w.clients c).answers result ∧
        (∃ n ≤ 4, ∃ v, w''.run (List.replicate n (c, .resume)) = some v ∧
          (w.clients c).answers ++ [.issued result] <+: (v.clients c).answers) ∧
        ∀ i, result = .ok i →
          ∃ signer inner, i.MadeWith (latest initial history) app signer inner := by
  have hcurrent : w.shared.current = latest initial history := current_of_run h
  obtain ⟨hmoves, -⟩ := step_eq_some hstep
  rw [← hcurrent]
  refine ⟨?_, ?_, ?_, fun c' ↦ ?_, fun _ _ ↦ exists_step, ?_⟩
  · rintro rfl
    exact hmoves.of_snapshot
  · rintro ring defaults s rfl hs
    exact hmoves.of_reload_ok hs
  · rintro ring defaults f rfl hf
    exact hmoves.of_reload_error hf
  · exact run_induction (P := fun x ↦ (w'.clients c').answers <+: x.answers)
      (fun _ _ _ _ _ hx hx' ↦ hx.trans hx'.answers_prefix) hmore List.prefix_rfl
  · rintro issuer moment p app rfl
    have hawaits := awaits_of_run hmore hmoves.awaits_of_issue
    have hbuilt := built_latest hinitial history
    rw [← hcurrent] at hbuilt
    exact ⟨_, fun context ↦ (TokenIssuer.run_issue _ p app context).symm, hawaits,
      exists_run_of_awaits hawaits, fun i hi ↦ TokenIssuer.madeWith_of_issued hbuilt hi⟩

/-- A client issues an encrypted token, while another one exchanges the only key. -/
theorem issues_with_one_service_sample :
    ∃ (initial other : Service) (app : App) (more : List (Nat × Action)) (w w' : World)
      (i : IssuedToken), initial.Built ∧ initial.ring.ids = ["a"] ∧ other.ring.ids = ["b"] ∧
      (start initial).step 0 (.issue "issuer" ⟨.zeros, 0⟩ .sample app) = some w ∧
      w.run more = some w' ∧ w'.shared.snapshot = other ∧ app.tokenEncryption ≠ none ∧
      (∃ n v, w'.run (List.replicate n (0, .resume)) = some v ∧
        (v.clients 0).answers.head? = some (.issued (.ok i))) ∧
      ∃ signer inner, i.MadeWith initial app signer inner := by
  have hkey := Crypto.Rsa.PrivateKey.strong_sample
  generalize Crypto.Rsa.PrivateKey.sample = key at hkey
  obtain ⟨-, -, hbuilt⟩ := Service.of_build (Service.build_ofPrivateKey "a" .none hkey)
  have hlength : (List.replicate 32 (0 : UInt8)).length = 32 := List.length_replicate
  have hother := Service.build_ofSecret "b" hlength .none
  let initial := Service.ofPrivateKey "a" key .none
  let app := App.sample (some ⟨none, none, none⟩)
  obtain ⟨i, s', hi⟩ := TokenIssuer.exists_run_issue_sample hkey (w := app.tokenEncryption)
    (fun _ hv ↦ (Option.some.inj hv).symm)
  obtain ⟨w, hstep, hidle⟩ : ∃ w,
      (start initial).step 0 (.issue "issuer" ⟨.zeros, 0⟩ .sample app) = some w ∧
      (w.clients 1).issuance = none := ⟨_, rfl, rfl⟩
  let reload := Action.reload (.single "b" (.ofSecret "b" (.replicate 32 0))) .none
  obtain ⟨w', hw'⟩ := exists_step (a := reload) (by rw [hidle]; exact ⟨nofun, nofun⟩)
  obtain ⟨hmoves, -⟩ := step_eq_some hw'
  have hmore : w.run [(1, reload)] = some w' := by rw [run, hw', Option.bind_some, run]
  have hstart : (start initial).run [] = some (start initial) := rfl
  obtain ⟨-, -, -, -, -, hissue⟩ := issues_with_one_service hbuilt hstart hstep hmore
  obtain ⟨result, hresult, -, ⟨n, -, v, hv, later, hlater⟩, hmade⟩ := hissue _ _ _ _ rfl
  obtain rfl : result = .ok i := (hresult .idle).trans (congrArg Prod.fst hi)
  refine ⟨initial, Service.ofSecret "b" (.replicate 32 0) .none, app, _, w, w', i, hbuilt, rfl, rfl,
    hstep, hmore, ?_, nofun, ⟨n, v, hv, ?_⟩, hmade i rfl⟩
  · rw [SharedService.snapshot, (hmoves.of_reload_ok hother).1]
  · rw [← hlater]
    rfl

end World

end SignOn

import SignOn.Proofs.Claims

/-!
# Claims put together step by step

Each step sets something, and what it sets stays until a later step sets the same; only audiences
add up. So what comes out depends on the last step of each kind alone, and steps of different kinds
may change places. The exception is the subject, which two kinds of steps set.
-/

namespace SignOn.ClaimsDraft

open Outcome

/-! ## Steps -/

/-- One of the steps by which claims are put together. -/
inductive Step where
  | principal (p : Principal)
  | subject (s : String)
  | audience (s : String)
  | lifetime (minutes : Int64)
  | issuedAt (seconds : Int64)
  | keyId (kid : Option String)
deriving DecidableEq, Repr

namespace Step

/-- The kinds of steps. -/
inductive Setter where
  | principal
  | subject
  | audience
  | lifetime
  | issuedAt
  | keyId
deriving DecidableEq, Repr

def setter : Step → Setter
  | .principal _ => .principal
  | .subject _ => .subject
  | .audience _ => .audience
  | .lifetime _ => .lifetime
  | .issuedAt _ => .issuedAt
  | .keyId _ => .keyId

/-- What the step makes of a draft. -/
def apply (s : Step) (d : ClaimsDraft) : ClaimsDraft :=
  match s with
  | .principal p => d.principal p
  | .subject s => d.withSubject s
  | .audience s => d.addAudience s
  | .lifetime minutes => d.withLifetime minutes
  | .issuedAt seconds => d.withIssuedAt seconds
  | .keyId kid => d.withKeyId kid

/-! What a step sets, if it is of the right kind. -/

def principal? : Step → Option Principal
  | .principal p => some p
  | _ => none

/-- A user is a subject too. -/
def subject? : Step → Option String
  | .principal p => some p.username
  | .subject s => some s
  | _ => none

def audience? : Step → Option String
  | .audience s => some s
  | _ => none

def lifetime? : Step → Option Int64
  | .lifetime minutes => some minutes
  | _ => none

def issuedAt? : Step → Option Int64
  | .issuedAt seconds => some seconds
  | _ => none

def keyId? : Step → Option (Option String)
  | .keyId kid => some kid
  | _ => none

/-- What the last step sets that sets it at all. -/
def last? {α : Type} (steps : List Step) (get : Step → Option α) : Option α :=
  (steps.filterMap get).getLast?

/-- The lifetime in minutes, which is not a valid one before it is set. -/
def minutes (steps : List Step) : Int64 := (last? steps lifetime?).getD 0

/-- The time of issue, which is now if no other time is set. -/
def issueTime (steps : List Step) (now : Int64) : Int64 := (last? steps issuedAt?).getD now

/-- Neither of two kinds of steps sets what the other one does. -/
structure Setter.Independent (a b : Setter) : Prop where
  ne : a ≠ b
  not_subject : a = .principal → b ≠ .subject
  not_principal : a = .subject → b ≠ .principal

end Step

/-- What a sequence of steps makes of a new draft. -/
def assemble (issuer : String) (steps : List Step) : ClaimsDraft :=
  steps.foldl (fun d s ↦ s.apply d) (start issuer)

/-! ## What a sequence of steps comes to -/

section

variable {issuer : String} {steps : List Step} {s t : Step}

theorem Step.last?_concat {α : Type} (steps : List Step) (s : Step) (get : Step → Option α) :
    last? (steps ++ [s]) get = (get s).or (last? steps get) := by
  rw [last?, last?, List.filterMap_append]
  cases hs : get s <;> simp [hs]

theorem assemble_concat (issuer : String) (steps : List Step) (s : Step) :
    assemble issuer (steps ++ [s]) = s.apply (assemble issuer steps) := by
  rw [assemble, List.foldl_append]
  rfl

/-- The draft that the steps come to, read off the last ones of each kind. The whole profile is that
of the last user: what this user does not have is left out, and so is an empty id. -/
def summary (issuer : String) (steps : List Step) : ClaimsDraft :=
  let user := Step.last? steps Step.principal?
  { issuer := issuer
    subject := Step.last? steps Step.subject?
    audience := steps.filterMap Step.audience?
    lifetimeMinutes := Step.minutes steps
    issuedAt := Step.last? steps Step.issuedAt?
    email := user.bind (·.email)
    name := user.bind (·.displayName)
    userId := user.bind fun p ↦ if p.userId = "" then none else some p.userId
    externalId := user.bind (·.externalId)
    locale := user.bind (·.locale)
    onlineTicket := user.bind (·.sessionTicketId)
    kid := (Step.last? steps Step.keyId?).join }

theorem assemble_eq_summary (issuer : String) (steps : List Step) :
    assemble issuer steps = summary issuer steps := by
  induction steps using List.reverseRecOn with
  | nil => rfl
  | append_singleton steps s ih =>
    rw [assemble_concat, ih]
    cases s <;>
      simp [summary, Step.minutes, Step.last?_concat, Step.apply, principal, withSubject,
        addAudience, withLifetime, withIssuedAt, withKeyId, Step.principal?, Step.subject?,
        Step.audience?, Step.lifetime?, Step.issuedAt?, Step.keyId?]

/-- The claims that the steps come to. -/
structure Summarizes (issuer : String) (steps : List Step) (now : Int64) (jti : String)
    (c : Claims) : Prop where
  iss : c.iss = issuer
  sub : Step.last? steps Step.subject? = some c.sub
  aud : c.aud = steps.filterMap Step.audience?
  jti : c.jti = jti
  iat : c.iat = Step.issueTime steps now
  exp : c.exp.toInt = c.iat.toInt + 60 * (Step.minutes steps).toInt
  iat_lt_exp : c.iat < c.exp
  lifetimeSeconds : c.lifetimeSeconds.toInt = 60 * (Step.minutes steps).toInt
  email : c.email = (Step.last? steps Step.principal?).bind (·.email)
  name : c.name = (Step.last? steps Step.principal?).bind (·.displayName)
  userId : c.userId = (Step.last? steps Step.principal?).bind fun p ↦
    if p.userId = "" then none else some p.userId
  externalId : c.externalId = (Step.last? steps Step.principal?).bind (·.externalId)
  locale : c.locale = (Step.last? steps Step.principal?).bind (·.locale)
  onlineTicket : c.onlineTicket = (Step.last? steps Step.principal?).bind (·.sessionTicketId)
  kid : c.kid = (Step.last? steps Step.keyId?).join

/-- How the claims come out that the steps put together. -/
structure ComesOut (issuer : String) (steps : List Step) (now : Int64) (jti : String)
    (answer : Except IssuanceError Claims) : Prop where
  invalidLifetime_iff : ∀ app minutes, answer = .error (.invalidLifetime app minutes) ↔
    app = String.intercalate "," (steps.filterMap Step.audience?) ∧
      minutes = Step.minutes steps ∧ ¬Expires (Step.minutes steps) (Step.issueTime steps now)
  missingClaim_iff : ∀ claim, answer = .error (.missingClaim claim) ↔
    claim = "sub" ∧ Expires (Step.minutes steps) (Step.issueTime steps now) ∧
      ∀ s ∈ steps, s.setter ≠ .principal ∧ s.setter ≠ .subject
  exists_ok : Expires (Step.minutes steps) (Step.issueTime steps now) →
    (∃ s ∈ steps, s.setter = .principal ∨ s.setter = .subject) →
      ∃ c, answer = .ok c ∧ Summarizes issuer steps now jti c

theorem Step.last?_eq_none_iff {α : Type} {get : Step → Option α} :
    last? steps get = none ↔ ∀ s ∈ steps, get s = none := by
  rw [last?, List.getLast?_eq_none_iff, List.filterMap_eq_nil_iff]

theorem Step.subject?_eq_none_iff :
    s.subject? = none ↔ s.setter ≠ .principal ∧ s.setter ≠ .subject := by
  cases s <;> simp [subject?, setter]

/-- The claims last as long as was set, and times are far enough from their limits for that to be
told. -/
theorem lifetimeSeconds_of_exp {c : Claims} {minutes : Int64} (hminutes : Expires minutes c.iat)
    (hexp : c.exp.toInt = c.iat.toInt + 60 * minutes.toInt) :
    c.lifetimeSeconds.toInt = 60 * minutes.toInt := by
  obtain ⟨-, ⟨hmin, hmax⟩, -⟩ := hminutes
  rw [Int64.toInt_minValue] at hmin
  rw [Int64.toInt_maxValue] at hmax
  have hdifference : c.exp.toInt - c.iat.toInt = 60 * minutes.toInt := by omega
  rw [Claims.lifetimeSeconds, Int64.toInt_sub, hdifference]
  exact Int.bmod_eq_of_le (by omega) (by omega)

theorem summarizes_of_build {now : Int64} {jti : String} {c : Claims}
    (h : (assemble issuer steps).build now jti = .ok c) : Summarizes issuer steps now jti c := by
  rw [assemble_eq_summary] at h
  obtain ⟨exp, sub, hexp, hsub, rfl⟩ := build_eq_ok_iff.1 h
  have hexpires := exists_expiry?_iff.1 ⟨exp, hexp⟩
  obtain ⟨hpositive, htime⟩ := expiry?_eq_some hexp
  have hminutes := Int64.lt_iff_toInt_lt.1 hpositive
  rw [Int64.toInt_zero] at hminutes
  have hlater : Step.issueTime steps now < exp := Int64.lt_iff_toInt_lt.2 (by
    rw [htime]
    exact Int.lt_add_of_pos_right _ (by omega))
  exact ⟨rfl, hsub, rfl, rfl, rfl, htime, hlater, lifetimeSeconds_of_exp hexpires htime, rfl, rfl,
    rfl, rfl, rfl, rfl, rfl⟩

theorem build_assemble_eq_error_iff {now : Int64} {jti : String} {e : IssuanceError} :
    (assemble issuer steps).build now jti = .error e ↔
      ¬Expires (Step.minutes steps) (Step.issueTime steps now) ∧
          e = .invalidLifetime (String.intercalate "," (steps.filterMap Step.audience?))
            (Step.minutes steps) ∨
        Expires (Step.minutes steps) (Step.issueTime steps now) ∧
          (∀ s ∈ steps, s.setter ≠ .principal ∧ s.setter ≠ .subject) ∧
          e = .missingClaim "sub" := by
  simp only [← Step.subject?_eq_none_iff, ← Step.last?_eq_none_iff]
  rw [assemble_eq_summary]
  exact build_eq_error_iff

theorem comesOut_build (issuer : String) (steps : List Step) (now : Int64) (jti : String) :
    ComesOut issuer steps now jti ((assemble issuer steps).build now jti) where
  invalidLifetime_iff app minutes := by
    rw [build_assemble_eq_error_iff]
    simp only [IssuanceError.invalidLifetime.injEq, reduceCtorEq, and_false, or_false]
    exact ⟨fun ⟨hnot, happ, hminutes⟩ ↦ ⟨happ, hminutes, hnot⟩,
      fun ⟨happ, hminutes, hnot⟩ ↦ ⟨hnot, happ, hminutes⟩⟩
  missingClaim_iff claim := by
    rw [build_assemble_eq_error_iff]
    simp only [IssuanceError.missingClaim.injEq, reduceCtorEq, and_false, false_or]
    exact ⟨fun ⟨hexpires, hnone, hclaim⟩ ↦ ⟨hclaim, hexpires, hnone⟩,
      fun ⟨hclaim, hexpires, hnone⟩ ↦ ⟨hexpires, hnone, hclaim⟩⟩
  exists_ok hexpires hsets := by
    obtain ⟨s, hs, hsets⟩ := hsets
    cases h : (assemble issuer steps).build now jti with
    | ok c => exact ⟨c, rfl, summarizes_of_build h⟩
    | error e =>
      rcases build_assemble_eq_error_iff.1 h with ⟨hnot, -⟩ | ⟨-, hnone, -⟩
      · exact absurd hexpires hnot
      · obtain ⟨hprincipal, hsubject⟩ := hnone s hs
        rcases hsets with hsets | hsets
        · exact absurd hsets hprincipal
        · exact absurd hsets hsubject

/-! ## Steps that change places -/

theorem Step.apply_comm (d : ClaimsDraft) (h : s.setter.Independent t.setter) :
    t.apply (s.apply d) = s.apply (t.apply d) := by
  obtain ⟨hne, hsubject, hprincipal⟩ := h
  cases s <;> cases t
  all_goals first
    | rfl
    | exact absurd rfl hne
    | exact absurd rfl (hsubject rfl)
    | exact absurd rfl (hprincipal rfl)

theorem assemble_swap (h : s.setter.Independent t.setter) (before after : List Step) :
    assemble issuer (before ++ s :: t :: after) = assemble issuer (before ++ t :: s :: after) := by
  simp only [assemble, List.foldl_append, List.foldl_cons, Step.apply_comm _ h]

theorem build_withJti (d : ClaimsDraft) (now : Int64) (jti jti' : String) :
    d.build now jti' = (fun c ↦ { c with jti := jti' }) <$> d.build now jti := by
  rw [build, build]
  split
  · rfl
  · split
    · rfl
    · rfl

end

/-- For every sequence of steps it is told from the last steps of each kind whether claims come out
and which. Two steps next to each other that set different things may change places; but for the id
of the token, which is new each time, that is not noticed. -/
theorem assembled (issuer : String) (steps : List Step) (now : Int64) (jti : String) :
    ComesOut issuer steps now jti ((assemble issuer steps).build now jti) ∧
    ∀ before s t after, steps = before ++ s :: t :: after → s.setter.Independent t.setter →
      ∀ jti', (assemble issuer (before ++ t :: s :: after)).build now jti' =
        (fun c ↦ { c with jti := jti' }) <$> (assemble issuer steps).build now jti := by
  refine ⟨comesOut_build issuer steps now jti, ?_⟩
  rintro before s t after rfl h jti'
  rw [assemble_swap h]
  exact build_withJti _ now jti jti'

/-- With a lifetime and a subject claims come out, in whatever order they are set. -/
theorem assembled_sample :
    (∃ c, (assemble "issuer" [.lifetime 1, .subject "x"]).build 0 "id" = .ok c ∧ c.sub = "x" ∧
      c.exp.toInt = 60) ∧
    (assemble "issuer" [.subject "x", .lifetime 1]).build 0 "id'" =
      (fun c ↦ { c with jti := "id'" }) <$>
        (assemble "issuer" [.lifetime 1, .subject "x"]).build 0 "id" := by
  obtain ⟨hout, hswap⟩ := assembled "issuer" [.lifetime 1, .subject "x"] 0 "id"
  constructor
  · have hexpires : Expires 1 0 := ⟨by decide, by decide, by decide⟩
    obtain ⟨c, hc, hsum⟩ := hout.exists_ok hexpires
      ⟨.subject "x", List.mem_cons_of_mem _ List.mem_cons_self, .inr rfl⟩
    refine ⟨c, hc, (Option.some.inj hsum.sub).symm, ?_⟩
    rw [hsum.exp, hsum.iat]
    rfl
  · refine hswap [] (.lifetime 1) (.subject "x") [] rfl ⟨?_, ?_, ?_⟩ "id'"
    all_goals decide

end SignOn.ClaimsDraft

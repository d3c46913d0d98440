import SignOn.Proofs.Jose.Construction

/-!
# What errors tell of secrets that do not decode

A capability is not made from a key if a secret member that it needs is no base64url text. The error
then repeats what the decoder found: the kind of the fault, and for a wrong symbol the symbol itself
and where it stands. So it depends on the secret exactly as far as the fault does, and two secrets
that are wrong in different ways are told apart.
-/

namespace SignOn.Jose

open Crypto Outcome Text

theorem eq_error_of_lift {α : Type} {x : Except Error α} {e : Error}
    (h : (liftM x : Except Failure α) = .error (.error e)) : x = .error e := by
  obtain ⟨e', he, heq⟩ := lift_eq_error_iff.1 h
  rw [he, Failure.error.inj heq]

/-- A capability that is made from a key. -/
inductive Ability where
  | encrypter
  | decrypter
  | signer
  | verifier
deriving DecidableEq, Repr

namespace Ability

/-- The capability is not made from the key, but ends with an error. -/
def FailsWith (a : Ability) (kid : String) (k : Jwk) (e : Error) : Prop :=
  match a with
  | .encrypter => Encrypter.ofJwk kid k = .error e
  | .decrypter => Decrypter.ofJwk kid k = .error (.error e)
  | .signer => Signer.ofJwk kid k = .error (.error e)
  | .verifier => Verifier.ofJwk kid k = .error e

/-- The capability needs the private half of an RSA key. -/
def NeedsPrivate (a : Ability) : Prop := a = .decrypter ∨ a = .signer

variable {a : Ability} {kid : String} {k : Jwk} {e : Error}

/-- Every capability of a shared secret needs the secret. -/
theorem failsWith_of_sharedSecret (hkind : k.kind = .octets) (h : k.sharedSecret = .error e) :
    a.FailsWith kid k e := by
  have hlift : (liftM k.sharedSecret : Except Failure Bytes) = .error (.error e) :=
    lift_eq_error_iff.2 ⟨e, h, rfl⟩
  cases a with
  | encrypter =>
    show Encrypter.ofJwk kid k = .error e
    rw [Encrypter.ofJwk, hkind]
    exact bind_eq_error_iff.2 (.inl h)
  | decrypter =>
    exact Decrypter.ofJwk_eq_withSecret.trans
      (Jwk.withSecret_eq_error_iff.2 (.inr ⟨hkind, hlift⟩))
  | signer =>
    exact Signer.ofJwk_eq_withSecret.trans (Jwk.withSecret_eq_error_iff.2 (.inr ⟨hkind, hlift⟩))
  | verifier =>
    show Verifier.ofJwk kid k = .error e
    rw [Verifier.ofJwk, hkind]
    exact bind_eq_error_iff.2 (.inl h)

theorem failsWith_of_rsaPrivateKey? (ha : a.NeedsPrivate) (hkind : k.kind = .rsa)
    (h : k.rsaPrivateKey? = .error (.error e)) : a.FailsWith kid k e := by
  rcases ha with rfl | rfl
  · exact Decrypter.ofJwk_eq_withSecret.trans (Jwk.withSecret_eq_error_iff.2 (.inl ⟨hkind, h⟩))
  · exact Signer.ofJwk_eq_withSecret.trans (Jwk.withSecret_eq_error_iff.2 (.inl ⟨hkind, h⟩))

/-- It is the secret that has a fault, or the private half of an RSA key, or its public half. -/
theorem FailsWith.cause (h : a.FailsWith kid k e) :
    k.kind = .octets ∧ k.sharedSecret = .error e ∨
    k.kind = .rsa ∧ a.NeedsPrivate ∧ k.rsaPrivateKey? = .error (.error e) ∨
    k.kind = .rsa ∧
      (k.rsaPublicKey = .error e ∨ ∃ value, Verifier.strictMember kid value = .error e) := by
  have hprivate {α : Type} {ofKey : Option Rsa.PrivateKey → Option α}
      {ofSecret : Bytes → Option α} (ha : a.NeedsPrivate)
      (h : k.withSecret ofKey ofSecret = .error (.error e)) :
      k.kind = .octets ∧ k.sharedSecret = .error e ∨
        k.kind = .rsa ∧ a.NeedsPrivate ∧ k.rsaPrivateKey? = .error (.error e) := by
    rcases Jwk.withSecret_eq_error_iff.1 h with ⟨hkind, h⟩ | ⟨hkind, h⟩
    · exact .inr ⟨hkind, ha, h⟩
    · exact .inl ⟨hkind, eq_error_of_lift h⟩
  rw [← or_assoc]
  cases a with
  | decrypter => exact .inl (hprivate (.inl rfl) (Decrypter.ofJwk_eq_withSecret.symm.trans h))
  | signer => exact .inl (hprivate (.inr rfl) (Signer.ofJwk_eq_withSecret.symm.trans h))
  | encrypter =>
    rw [FailsWith, Encrypter.ofJwk] at h
    split at h
    · next hkind =>
      rcases bind_eq_error_iff.1 h with h | ⟨key, -, h⟩
      · exact .inr ⟨hkind, .inl h⟩
      · cases h
    · next hkind =>
      rcases bind_eq_error_iff.1 h with h | ⟨secret, -, h⟩
      · exact .inl (.inl ⟨hkind, h⟩)
      · cases h
    all_goals cases h
  | verifier =>
    rw [FailsWith, Verifier.ofJwk] at h
    split at h
    · next hkind =>
      rcases bind_eq_error_iff.1 h with h | ⟨key, -, h⟩
      · exact .inr ⟨hkind, .inl h⟩
      rcases bind_eq_error_iff.1 h with h | ⟨n, -, h⟩
      · exact .inr ⟨hkind, .inr ⟨_, h⟩⟩
      rcases bind_eq_error_iff.1 h with h | ⟨e', -, h⟩
      · exact .inr ⟨hkind, .inr ⟨_, h⟩⟩
      cases h
    · next hkind =>
      rcases bind_eq_error_iff.1 h with h | ⟨secret, -, h⟩
      · exact .inl (.inl ⟨hkind, h⟩)
      · split at h <;> cases h
    all_goals cases h

end Ability

namespace Jwk

/-- The text of a member does not decode. -/
def Faulty (s : String) (fault : Base64Url.Error) : Prop :=
  Base64Url.decode (Base64Url.stripPadding s) = .error fault

instance (s : String) (fault : Base64Url.Error) : Decidable (Faulty s fault) :=
  inferInstanceAs (Decidable (_ = _))

/-- Of the members that are read to make a capability, the first one that does not decode is this
secret one, and what is wrong with it is this. The members are read in the order of the cases. -/
inductive FaultAt (k : Jwk) (a : Ability) : String → Base64Url.Error → Prop where
  | secret {s : String} {fault : Base64Url.Error} (hkind : k.kind = .octets)
      (hs : k.secret.k = some s) (hfault : Faulty s fault) : FaultAt k a "k" fault
  | exponent {n e : Nat} {s : String} {fault : Base64Url.Error} (hkind : k.kind = .rsa)
      (ha : a.NeedsPrivate) (hn : k.number "n" k.n = .ok n) (he : k.number "e" k.e = .ok e)
      (hs : k.secret.d = some s) (hfault : Faulty s fault) : FaultAt k a "d" fault
  | factor1 {n e d : Nat} {s : String} {fault : Base64Url.Error} (hkind : k.kind = .rsa)
      (ha : a.NeedsPrivate) (hn : k.number "n" k.n = .ok n) (he : k.number "e" k.e = .ok e)
      (hd : k.number "d" k.secret.d = .ok d) (hs : k.secret.p = some s)
      (hfault : Faulty s fault) : FaultAt k a "p" fault
  | factor2 {n e d p : Nat} {s : String} {fault : Base64Url.Error} (hkind : k.kind = .rsa)
      (ha : a.NeedsPrivate) (hn : k.number "n" k.n = .ok n) (he : k.number "e" k.e = .ok e)
      (hd : k.number "d" k.secret.d = .ok d) (hp : k.number "p" k.secret.p = .ok p)
      (hs : k.secret.q = some s) (hfault : Faulty s fault) : FaultAt k a "q" fault

/-- The error for a member that does not decode. -/
def faultError (k : Jwk) (name : String) (fault : Base64Url.Error) : Error :=
  .invalidKeyMaterial k.id ("'" ++ name ++ "' is not base64url: " ++ fault.message)

variable {k k' : Jwk} {a : Ability} {kid name name' : String} {fault fault' : Base64Url.Error}

theorem member_of_faulty {s : String} (h : Faulty s fault) (name : String) :
    k.member name (some s) = .error (k.faultError name fault) := by
  have hdecode : Base64Url.decode (Base64Url.stripPadding s) = .error fault := h
  rw [member, hdecode]
  rfl

theorem number_of_faulty {s : String} (h : Faulty s fault) (name : String) :
    k.number name (some s) = .error (k.faultError name fault) := by
  rw [number, member_of_faulty h]
  rfl

theorem rsaPrivateKey?_of_rsaFactors {n x d : Nat} {e : Error} (hn : k.number "n" k.n = .ok n)
    (hx : k.number "e" k.e = .ok x) (hd : k.number "d" k.secret.d = .ok d)
    (h : k.rsaFactors = .error e) : k.rsaPrivateKey? = .error (.error e) := by
  simp only [rsaPrivateKey?, if_neg (ne_none_of_number hd), hn, hx, hd, lift_ok, ok_bind, h]
  rfl

/-- The private key of a key is not read beyond its first member that does not decode. -/
theorem FaultAt.rsaPrivateKey?_eq (h : k.FaultAt a name fault) (hkind : k.kind = .rsa) :
    k.rsaPrivateKey? = .error (.error (k.faultError name fault)) := by
  cases h with
  | secret hoctets =>
    rw [hkind] at hoctets
    cases hoctets
  | exponent _ _ hn he hs hfault =>
    simp only [rsaPrivateKey?, hn, he, lift_ok, ok_bind, hs, number_of_faulty hfault]
    rfl
  | factor1 _ _ hn he hd hs hfault =>
    have hfactors : k.rsaFactors = .error (k.faultError "p" fault) := by
      have hgiven : ¬(k.secret.p = none ∧ k.secret.q = none) := by simp [hs]
      rw [rsaFactors, if_neg hgiven, hs, number_of_faulty hfault, error_bind]
    exact rsaPrivateKey?_of_rsaFactors hn he hd hfactors
  | factor2 _ _ hn he hd hp hs hfault =>
    have hfactors : k.rsaFactors = .error (k.faultError "q" fault) := by
      have hgiven : ¬(k.secret.p = none ∧ k.secret.q = none) := by simp [hs]
      rw [rsaFactors, if_neg hgiven, hp, ok_bind, hs, number_of_faulty hfault, error_bind]
    exact rsaPrivateKey?_of_rsaFactors hn he hd hfactors

/-- The member is a shared secret, or it belongs to the private half of an RSA key. -/
theorem FaultAt.kind_eq (h : k.FaultAt a name fault) :
    k.kind = .octets ∧ k.sharedSecret = .error (k.faultError name fault) ∨
      k.kind = .rsa ∧ a.NeedsPrivate := by
  cases h with
  | secret hkind hs hfault =>
    refine .inl ⟨hkind, ?_⟩
    rw [sharedSecret, hs, member_of_faulty hfault, error_bind]
  | exponent hkind ha | factor1 hkind ha | factor2 hkind ha => exact .inr ⟨hkind, ha⟩

/-- Making the capability ends with the error for this member. -/
theorem FaultAt.failsWith (h : k.FaultAt a name fault) (kid : String) :
    a.FailsWith kid k (k.faultError name fault) := by
  rcases h.kind_eq with ⟨hkind, hsecret⟩ | ⟨hkind, ha⟩
  · exact Ability.failsWith_of_sharedSecret hkind hsecret
  · exact Ability.failsWith_of_rsaPrivateKey? ha hkind (h.rsaPrivateKey?_eq hkind)

/-- Nothing of a fault is lost in the text of its error, nor is the name of the member. -/
theorem message_faultError_inj (hid : k.id = k'.id) (hlength : name.length = name'.length)
    (h : (k.faultError name fault).message = (k'.faultError name' fault').message) :
    name = name' ∧ fault = fault' := by
  have hmessage (k : Jwk) (name : String) (fault : Base64Url.Error) :
      (k.faultError name fault).message = "invalid key material for " ++ Error.quoted k.id ++
        ": " ++ ("'" ++ name ++ "' is not base64url: " ++ fault.message) := rfl
  simp only [hmessage, hid, String.append_right_inj, String.append_assoc] at h
  have hlist := congrArg String.toList h
  simp only [String.toList_append] at hlist
  obtain ⟨hname, hrest⟩ := List.append_inj hlist hlength
  rw [List.append_cancel_left_eq, String.toList_inj] at hrest
  exact ⟨String.toList_inj.1 hname, Base64Url.Error.message_injective hrest⟩

/-! ### Errors that name a secret member -/

/-- The members that hold secrets. -/
def secretNames : List String := ["k", "d", "p", "q"]

theorem length_of_mem_secretNames : ∀ s ∈ secretNames, 1 = s.length := by decide

/-- Whatever else is wrong with a key, the text does not start with the name of a member. -/
theorem ne_faultError {reason : String} (h : reason.toList.head? ≠ some '\'') :
    Error.invalidKeyMaterial kid reason ≠ k.faultError name fault := by
  intro heq
  obtain ⟨-, rfl⟩ := Error.invalidKeyMaterial.inj heq
  exact h (by simp)

theorem reason_ne_faultError (reason : Rsa.Reason) :
    Error.invalidKeyMaterial kid reason.message ≠ k.faultError name fault := by
  refine ne_faultError ?_
  cases reason <;> decide

theorem strictMember_ne_faultError {value : Option String} :
    Verifier.strictMember kid value ≠ .error (k.faultError name fault) := by
  intro h
  cases value with
  | none => exact ne_faultError (by decide) (Except.error.inj h)
  | some s =>
    rw [Verifier.strictMember] at h
    split at h
    · cases h
    · exact ne_faultError (by simp [VerificationFault.message]) (Except.error.inj h)

theorem faulty_of_member {value : Option String}
    (h : k.member name value = .error (k.faultError name' fault))
    (hlength : name.length = name'.length) :
    name = name' ∧ ∃ s, value = some s ∧ Faulty s fault := by
  cases value with
  | none =>
    have hother : ("missing '" ++ name ++ "'").toList.head? ≠ some '\'' := by simp
    exact absurd (Except.error.inj h) (ne_faultError hother)
  | some s =>
    cases hdecode : Base64Url.decode (Base64Url.stripPadding s) with
    | ok bs =>
      rw [member, hdecode] at h
      cases h
    | error fault' =>
      rw [member_of_faulty hdecode] at h
      have hmessage := congrArg Error.message (Except.error.inj h)
      obtain ⟨hname, rfl⟩ := message_faultError_inj rfl hlength hmessage
      exact ⟨hname, s, rfl, hdecode⟩

theorem faulty_of_number {value : Option String}
    (h : k.number name value = .error (k.faultError name' fault))
    (hlength : name.length = name'.length) :
    name = name' ∧ ∃ s, value = some s ∧ Faulty s fault := by
  have hmember : k.member name value = .error (k.faultError name' fault) := by
    rw [number] at h
    cases hmember : k.member name value with
    | ok bs =>
      rw [hmember] at h
      cases h
    | error e =>
      rw [hmember] at h
      exact congrArg Except.error (Except.error.inj h)
  exact faulty_of_member hmember hlength

section

variable (hname : name ∈ secretNames)

include hname

theorem rsaPublicKey_ne_faultError : k.rsaPublicKey ≠ .error (k.faultError name fault) := by
  have hlength := length_of_mem_secretNames name hname
  intro h
  rcases bind_eq_error_iff.1 h with h | ⟨n, -, h⟩
  · obtain ⟨rfl, -⟩ := faulty_of_number h hlength
    exact absurd hname (by decide)
  rcases bind_eq_error_iff.1 h with h | ⟨e, -, h⟩
  · obtain ⟨rfl, -⟩ := faulty_of_number h hlength
    exact absurd hname (by decide)
  split at h
  · cases h
  · exact reason_ne_faultError _ (Except.error.inj h)

theorem faultAt_of_sharedSecret (hkind : k.kind = .octets)
    (h : k.sharedSecret = .error (k.faultError name fault)) : k.FaultAt a name fault := by
  rcases bind_eq_error_iff.1 h with h | ⟨bs, -, h⟩
  · obtain ⟨rfl, s, hs, hfault⟩ := faulty_of_member h (length_of_mem_secretNames name hname)
    exact .secret hkind hs hfault
  · split at h
    · exact absurd (Except.error.inj h) (ne_faultError (by decide))
    · cases h

theorem faultAt_of_rsaPrivateKey? (hkind : k.kind = .rsa) (ha : a.NeedsPrivate)
    (h : k.rsaPrivateKey? = .error (.error (k.faultError name fault))) :
    k.FaultAt a name fault := by
  have hlength := length_of_mem_secretNames name hname
  rw [rsaPrivateKey?] at h
  split at h
  · cases h
  rcases bind_eq_error_iff.1 h with h | ⟨n, hn, h⟩
  · obtain ⟨rfl, -⟩ := faulty_of_number (eq_error_of_lift h) hlength
    exact absurd hname (by decide)
  rcases bind_eq_error_iff.1 h with h | ⟨e, he, h⟩
  · obtain ⟨rfl, -⟩ := faulty_of_number (eq_error_of_lift h) hlength
    exact absurd hname (by decide)
  rw [lift_eq_ok_iff] at hn he
  rcases bind_eq_error_iff.1 h with h | ⟨d, hd, h⟩
  · obtain ⟨rfl, s, hs, hfault⟩ := faulty_of_number (eq_error_of_lift h) hlength
    exact .exponent hkind ha hn he hs hfault
  rw [lift_eq_ok_iff] at hd
  rcases bind_eq_error_iff.1 h with h | ⟨factors, -, h⟩
  · have hfactors := eq_error_of_lift h
    rw [rsaFactors] at hfactors
    split at hfactors
    · cases hfactors
    rcases bind_eq_error_iff.1 hfactors with h | ⟨p, hp, h⟩
    · obtain ⟨rfl, s, hs, hfault⟩ := faulty_of_number h hlength
      exact .factor1 hkind ha hn he hd hs hfault
    rcases bind_eq_error_iff.1 h with h | ⟨q, -, h⟩
    · obtain ⟨rfl, s, hs, hfault⟩ := faulty_of_number h hlength
      exact .factor2 hkind ha hn he hd hp hs hfault
    cases h
  split at h
  · cases h
  · exact absurd (Failure.error.inj (Except.error.inj h)) (reason_ne_faultError _)
  · cases h

/-- Making a capability ends with the error for a secret member exactly if, of the members that are
read, this one is the first that does not decode. -/
theorem faultAt_iff (kid : String) :
    k.FaultAt a name fault ↔ a.FailsWith kid k (k.faultError name fault) := by
  constructor
  · exact fun h ↦ h.failsWith kid
  · intro h
    rcases h.cause with ⟨hkind, h⟩ | ⟨hkind, ha, h⟩ | ⟨-, h | ⟨value, h⟩⟩
    · exact faultAt_of_sharedSecret hname hkind h
    · exact faultAt_of_rsaPrivateKey? hname hkind ha h
    · exact absurd h (rsaPublicKey_ne_faultError hname)
    · exact absurd h strictMember_ne_faultError

end

/-! ### Two keys -/

/-- If the same secret member of two keys does not decode, then making a capability ends with the
same error, and with the same text of it, exactly if the same is wrong with both: the same kind of
fault, at the same place, with the same symbol. -/
theorem FaultAt.errors_eq_iff (hid : k.id = k'.id) (h : k.FaultAt a name fault)
    (h' : k'.FaultAt a name fault') (kid : String) :
    ∃ e e', a.FailsWith kid k e ∧ a.FailsWith kid k' e' ∧
      (e = e' ↔ fault = fault') ∧ (e.message = e'.message ↔ fault = fault') := by
  refine ⟨_, _, h.failsWith kid, h'.failsWith kid, ⟨fun heq ↦ ?_, ?_⟩,
    fun heq ↦ (message_faultError_inj hid rfl heq).2, ?_⟩
  · exact (message_faultError_inj hid rfl (congrArg Error.message heq)).2
  · rintro rfl
    rw [faultError, faultError, hid]
  · rintro rfl
    rw [faultError, faultError, hid]

/-- A shared secret given by its text. -/
def ofSecretText (s : String) : Jwk where
  kty := "oct"
  kid := some "a"
  use := none
  alg := none
  n := none
  e := none
  crv := none
  x := none
  y := none
  secret := { SecretMembers.none with k := some s }

theorem faultAt_ofSecretText {s : String} (h : Faulty s fault) (a : Ability) :
    (ofSecretText s).FaultAt a "k" fault := .secret rfl rfl h

theorem FaultAt.errors_eq_iff_sample :
    ∃ e e', Ability.signer.FailsWith "a" (ofSecretText "!") e ∧
      Ability.signer.FailsWith "a" (ofSecretText "!A") e' ∧ e = e' ∧ e.message = e'.message := by
  have h : Faulty "!" (.symbol 33 0) := by decide +kernel
  have h' : Faulty "!A" (.symbol 33 0) := by decide +kernel
  have hid : (ofSecretText "!").id = (ofSecretText "!A").id := rfl
  obtain ⟨e, e', he, he', heq, hmessage⟩ := FaultAt.errors_eq_iff hid
    (faultAt_ofSecretText h .signer) (faultAt_ofSecretText h' .signer) "a"
  exact ⟨e, e', he, he', heq.2 rfl, hmessage.2 rfl⟩

/-- The errors for two secrets of one wrong symbol each differ. -/
theorem errors_ofSecretText_ne :
    ∃ e e', Ability.signer.FailsWith "a" (ofSecretText "!") e ∧
      Ability.signer.FailsWith "a" (ofSecretText "#") e' ∧ e ≠ e' ∧ e.message ≠ e'.message := by
  have h : Faulty "!" (.symbol 33 0) := by decide +kernel
  have h' : Faulty "#" (.symbol 35 0) := by decide +kernel
  have hne : ((ofSecretText "!").faultError "k" (.symbol 33 0)).message ≠
      ((ofSecretText "#").faultError "k" (.symbol 35 0)).message := fun heq ↦ by
    cases (message_faultError_inj rfl rfl heq).2
  exact ⟨_, _, (faultAt_ofSecretText h .signer).failsWith "a",
    (faultAt_ofSecretText h' .signer).failsWith "a",
    fun heq ↦ hne (congrArg Error.message heq), hne⟩

end Jwk

end SignOn.Jose

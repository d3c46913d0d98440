import SignOn.Proofs.Jose.Construction
import SignOn.Proofs.Text.Padding

/-!
# Padded numbers

The verifier of an RSA key is made from the same two members as its encrypter, and if there is no
encrypter there is no verifier for the same reason. But the verifier reads the members once more
without passing over their padding. So a key with a padded number encrypts, does not verify, and is
the end of every service that it is a key of.
-/

namespace SignOn.Jose

open Outcome Text

/-- What stands in a member, if it is written with padding. -/
def Jwk.padded? (value : Option String) : Option String := value.filter (Base64Url.Padded ·)

/-- The first of the public numbers that is written with padding. -/
def Jwk.paddedNumber? (k : Jwk) : Option String := (padded? k.n).or (padded? k.e)

/-- The error about a padded number. -/
def Verifier.paddingError (kid : String) (fault : Base64Url.Error) : Error :=
  .invalidKeyMaterial kid ("Base64 error: " ++ fault.message)

/-- A text is an encoding with padding, and this is what decoding it finds. -/
def Base64Url.HasFault (s : String) (fault : Base64Url.Error) : Prop :=
  ∃ (bs : Bytes) (p : Nat), 0 < p ∧ s = Base64Url.encode bs ++ Base64Url.padding p ∧
    fault = Base64Url.paddingFault 0 (Base64Url.encodeBytes bs).length p

variable {kid : String} {k : Jwk}

theorem Jwk.stripPadding_of_member {name : String} {value : Option String} {bs : Bytes}
    (h : k.member name value = .ok bs) :
    ∃ s, value = some s ∧ Base64Url.stripPadding s = Base64Url.encode bs := by
  cases value with
  | none => cases h
  | some s =>
    rw [member] at h
    split at h
    · next bs' hdecode =>
      obtain rfl := Except.ok.inj h
      exact ⟨s, rfl, Base64Url.decode_eq_ok_iff.1 hdecode⟩
    · cases h

namespace Verifier

/-- What is read of a member with padding passed over is read without that if there is none. -/
theorem strictMember_of_member (kid : String) {name : String} {value : Option String} {bs : Bytes}
    (h : k.member name value = .ok bs) :
    strictMember kid value = .ok bs ∧ Jwk.padded? value = none ∨
      ∃ s fault, Jwk.padded? value = some s ∧ Base64Url.HasFault s fault ∧
        strictMember kid value = .error (paddingError kid fault) := by
  obtain ⟨s, rfl, hs⟩ := Jwk.stripPadding_of_member h
  rcases Base64Url.decode_of_stripPadding hs with ⟨hdecode, hplain⟩ | ⟨p, hp, rfl, hpadded⟩
  · refine .inl ⟨?_, ?_⟩
    · rw [strictMember, hdecode]
    · simp [Jwk.padded?, Option.filter, hplain]
  · refine .inr ⟨_, _, ?_, ⟨bs, p, hp, rfl, rfl⟩, ?_⟩
    · simp [Jwk.padded?, Option.filter, hpadded]
    · rw [strictMember, Base64Url.decode_padded bs hp]
      rfl

/-- The public numbers are read as they were for the public key, up to the first one that is
padded. -/
theorem ofJwk_of_rsaPublicKey (hk : k.kind = .rsa) {key : Crypto.Rsa.PublicKey}
    (hkey : k.rsaPublicKey = .ok key) :
    (∃ v, Verifier.ofJwk kid k = .ok v) ∧ k.paddedNumber? = none ∨
      ∃ s fault, k.paddedNumber? = some s ∧ Base64Url.HasFault s fault ∧
        Verifier.ofJwk kid k = .error (paddingError kid fault) := by
  obtain ⟨hn, he⟩ := Jwk.number_of_rsaPublicKey hkey
  obtain ⟨ns, hn, -⟩ := map_eq_ok_iff.1 hn
  obtain ⟨es, he, -⟩ := map_eq_ok_iff.1 he
  have hof : Verifier.ofJwk kid k = do
      let n ← strictMember kid k.n
      let e ← strictMember kid k.e
      return some ⟨kid, .rsa ⟨n, e⟩, SignatureAlgorithm.rsa⟩ := by
    rw [ofJwk, hk]
    simp only [hkey, ok_bind]
  rw [hof, Jwk.paddedNumber?]
  rcases strictMember_of_member kid hn with ⟨hn, hplain⟩ | ⟨s, fault, hs, hfault, hn⟩
  · rw [hn, ok_bind, hplain, Option.none_or]
    rcases strictMember_of_member kid he with ⟨he, hplain⟩ | ⟨s, fault, hs, hfault, he⟩
    · rw [he, ok_bind]
      exact .inl ⟨⟨_, rfl⟩, hplain⟩
    · rw [he, error_bind]
      exact .inr ⟨s, fault, hs, hfault, rfl⟩
  · rw [hn, error_bind, hs, Option.some_or]
    exact .inr ⟨s, fault, rfl, hfault, rfl⟩

end Verifier

/-! ## Encrypters and verifiers -/

/-- How the verifier of an RSA key comes out, beside its encrypter and in a service: the error about
the public numbers is the same, and numbers that are accepted make a verifier exactly if none of
them is padded. -/
structure Jwk.VerifiesBeside (kid : String) (k : Jwk) : Prop where
  ok_iff : (∃ v, Verifier.ofJwk kid k = .ok v) ↔
    (∃ x, Encrypter.ofJwk kid k = .ok x) ∧ k.paddedNumber? = none
  same_error : ∀ e, Encrypter.ofJwk kid k = .error e → Verifier.ofJwk kid k = .error e
  error_of_padded : ∀ x s, Encrypter.ofJwk kid k = .ok x → k.paddedNumber? = some s →
    ∃ fault, Base64Url.HasFault s fault ∧
      Verifier.ofJwk kid k = .error (Verifier.paddingError kid fault)
  exists_build_iff : ∀ (ring : KeyRing) (defaults : Defaults) x y z, ring.get? kid = some k →
    (∀ other ∈ ring.entries, other.1 ≠ kid → ¬other.2.Unsound other.1) →
    Encrypter.ofJwk kid k = .ok x → Decrypter.ofJwk kid k = .ok y → Signer.ofJwk kid k = .ok z →
      ((∃ s, Service.build ring defaults = .ok s) ↔ k.paddedNumber? = none)

theorem Encrypter.ofJwk_eq_map (hk : k.kind = .rsa) :
    Encrypter.ofJwk kid k = (fun key ↦ some (.rsa kid key)) <$> k.rsaPublicKey := by
  rw [ofJwk, hk]
  cases k.rsaPublicKey <;> rfl

/-- A service is built only from sound keys. -/
theorem Service.not_unsound_of_build {ring : KeyRing} {defaults : Defaults} {s : Service}
    (hs : build ring defaults = .ok s) (hget : ring.get? kid = some k) : ¬k.Unsound kid := by
  intro hunsound
  obtain ⟨rfl, -, hbuilt⟩ := of_build hs
  obtain ⟨c, hc⟩ := exists_ofJwk_of_get? hbuilt hget
  obtain ⟨f, hf⟩ := Capabilities.exists_eq_error_iff.2 hunsound
  rw [hc] at hf
  cases hf

/-- If there is nothing else wrong with the keys, a service is built exactly if there is a verifier
for this one. -/
theorem Service.exists_build_iff_verifier {ring : KeyRing} {defaults : Defaults}
    {x : Option Encrypter} {y : Option Decrypter} {z : Option Signer}
    (hget : ring.get? kid = some k)
    (hothers : ∀ other ∈ ring.entries, other.1 ≠ kid → ¬other.2.Unsound other.1)
    (hx : Encrypter.ofJwk kid k = .ok x) (hy : Decrypter.ofJwk kid k = .ok y)
    (hz : Signer.ofJwk kid k = .ok z) :
    (∃ s, build ring defaults = .ok s) ↔ ∃ v, Verifier.ofJwk kid k = .ok v := by
  have hunsound : k.Unsound kid ↔ ∃ e, Verifier.ofJwk kid k = .error e := by
    simp [Jwk.Unsound, hx, hy, hz]
  constructor
  · rintro ⟨s, hs⟩
    cases hv : Verifier.ofJwk kid k with
    | ok v => exact ⟨v, rfl⟩
    | error e => exact absurd (hunsound.2 ⟨e, hv⟩) (not_unsound_of_build hs hget)
  · rintro ⟨v, hv⟩
    refine exists_build fun other hother ↦ ?_
    by_cases hid : other.1 = kid
    · subst hid
      obtain rfl : other.2 = k := Option.some.inj ((KeyRing.get?_of_mem hother).symm.trans hget)
      rw [hunsound, hv]
      simp
    · exact hothers other hother hid

namespace Verifier

variable {x : Option Encrypter}

/-- Where the encrypter fails the verifier does, with the same error. -/
theorem ofJwk_eq_error_of_encrypter (hk : k.kind = .rsa) {e : Error}
    (h : Encrypter.ofJwk kid k = .error e) : ofJwk kid k = .error e := by
  rw [Encrypter.ofJwk_eq_map hk] at h
  rw [ofJwk, hk]
  cases hkey : k.rsaPublicKey with
  | error e' =>
    rw [hkey] at h
    obtain rfl := Except.error.inj h
    rfl
  | ok key =>
    rw [hkey] at h
    cases h

/-- Beside an encrypter, only padding is in the way of a verifier. -/
theorem ofJwk_of_encrypter (hk : k.kind = .rsa) (hx : Encrypter.ofJwk kid k = .ok x) :
    (∃ v, ofJwk kid k = .ok v) ∧ k.paddedNumber? = none ∨
      ∃ s fault, k.paddedNumber? = some s ∧ Base64Url.HasFault s fault ∧
        ofJwk kid k = .error (paddingError kid fault) := by
  rw [Encrypter.ofJwk_eq_map hk] at hx
  obtain ⟨key, hkey, -⟩ := map_eq_ok_iff.1 hx
  exact ofJwk_of_rsaPublicKey hk hkey

theorem exists_ofJwk_iff_of_encrypter (hk : k.kind = .rsa) (hx : Encrypter.ofJwk kid k = .ok x) :
    (∃ v, ofJwk kid k = .ok v) ↔ k.paddedNumber? = none := by
  rcases ofJwk_of_encrypter hk hx with ⟨hv, hplain⟩ | ⟨s, fault, hs, -, hv⟩
  · exact iff_of_true hv hplain
  · simp [hv, hs]

end Verifier

/-- Every RSA key verifies beside its encrypter, whatever id it is used under. -/
theorem Jwk.verifiesBeside (kid : String) (hk : k.kind = .rsa) : k.VerifiesBeside kid where
  ok_iff := by
    cases hx : Encrypter.ofJwk kid k with
    | ok x => simp [Verifier.exists_ofJwk_iff_of_encrypter hk hx]
    | error e => simp [Verifier.ofJwk_eq_error_of_encrypter hk hx]
  same_error e := Verifier.ofJwk_eq_error_of_encrypter hk
  error_of_padded x s hx hs := by
    rcases Verifier.ofJwk_of_encrypter hk hx with ⟨-, hplain⟩ | ⟨s', fault, hs', hfault, hv⟩
    · rw [hs] at hplain
      cases hplain
    · obtain rfl := Option.some.inj (hs.symm.trans hs')
      exact ⟨fault, hfault, hv⟩
  exists_build_iff ring defaults x y z hget hothers hx hy hz := by
    rw [Service.exists_build_iff_verifier hget hothers hx hy hz]
    exact Verifier.exists_ofJwk_iff_of_encrypter hk hx

/-- The public half of the key of the textbooks. -/
def publicTextbookKey (n e : String) : Jwk where
  kty := "RSA"
  kid := some "t"
  use := none
  alg := none
  n := some n
  e := some e
  crv := none
  x := none
  y := none
  secret := .none

/-- Without padding it verifies; with the padding that other codes put there it does not. -/
theorem Jwk.verifiesBeside_sample :
    (∃ v, Verifier.ofJwk "t" (publicTextbookKey "DKE" "EQ") = .ok v) ∧
    ∃ fault, Base64Url.HasFault "DKE=" fault ∧
      Verifier.ofJwk "t" (publicTextbookKey "DKE=" "EQ==") =
        .error (Verifier.paddingError "t" fault) := by
  have hencrypter (n e : String) (h : (publicTextbookKey n e).rsaPublicKey = .ok ⟨3233, 17⟩) :
      Encrypter.ofJwk "t" (publicTextbookKey n e) = .ok (some (.rsa "t" ⟨3233, 17⟩)) := by
    rw [Encrypter.ofJwk_eq_map rfl, h, map_ok]
  have hplain := hencrypter "DKE" "EQ" (by decide +kernel)
  have hpadded := hencrypter "DKE=" "EQ==" (by decide +kernel)
  refine ⟨?_, ?_⟩
  · exact (verifiesBeside "t" rfl).ok_iff.2 ⟨⟨_, hplain⟩, by decide +kernel⟩
  · exact (verifiesBeside "t" rfl).error_of_padded _ _ hpadded (by decide +kernel)

/-- The padded numbers make an encrypter, but no verifier, and no service. -/
theorem Verifier.ne_ok_of_encrypter :
    let k := publicTextbookKey "DKE=" "EQ=="
    k.kind = .rsa ∧ Encrypter.ofJwk "t" k = .ok (some (.rsa "t" ⟨3233, 17⟩)) ∧
      (∀ v, Verifier.ofJwk "t" k ≠ .ok v) ∧
      Service.build (.single "t" k) .none =
        .error (.error (.invalidKeyMaterial "t" "Base64 error: Invalid padding")) := by
  intro k
  have hv : Verifier.ofJwk "t" k =
      .error (.invalidKeyMaterial "t" "Base64 error: Invalid padding") := by decide +kernel
  have hentries : Capabilities.ofEntries (KeyRing.single "t" k).entries =
      .error (.error (.invalidKeyMaterial "t" "Base64 error: Invalid padding")) := by
    decide +kernel
  refine ⟨rfl, by decide +kernel, fun v ↦ ?_, ?_⟩
  · rw [hv]
    simp
  · rw [Service.build, hentries, error_bind]

end SignOn.Jose

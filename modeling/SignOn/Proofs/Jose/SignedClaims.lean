import SignOn.Proofs.Jose.RegisteredClaims
import SignOn.Proofs.Jose.SharedSecret
import SignOn.Proofs.Jose.Signing
import SignOn.Proofs.Json.Canonical

/-!
# Claims that were signed

Signing takes claims of any type. Verification gives them back as they were, unless they hold a
registered claim that cannot be read.
-/

namespace SignOn.Jose.Service

open Json Outcome Text

variable {ring : KeyRing} {defaults : Defaults} {s : Service} {r : Entropy}
  {ms : List (String × Value)} {kid : Option String} {algorithm : Option SignatureAlgorithm}
  {t : SignedToken}

theorem verify_of_sign_object (hbuilt : s.Built) (hcanonical : (Value.object ms).Canonical)
    (hdepth : (Value.object ms).depth ≤ maxDepth)
    (hrsa : ∀ k, s.ring.get? t.keyId = some k → k.Countersigned)
    (ht : s.sign r (.object ms) kid algorithm = .ok t) :
    s.verify Decode.any t.compact none =
      if RegisteredClaims.Readable ms then .ok (.object ms)
      else .error (.verificationFailed t.keyId "JSON error: <malformed JSON>") := by
  have hclaims := Decode.any_text hcanonical hdepth
  have hintegral := Value.integralMembers_iff.1 (Value.integral_of_canonical _ hcanonical)
  have hnodup : (ms.map Prod.fst).Nodup := hcanonical.1.nodup
  rw [verify_of_sign_eq hbuilt hrsa ht hclaims]
  by_cases hreadable : RegisteredClaims.Readable ms
  · rw [RegisteredClaims.decode_text hintegral hnodup hreadable, if_pos hreadable]
  · rw [RegisteredClaims.decode_text_of_not_readable hintegral hnodup hreadable, if_neg hreadable]
    rfl

/-! ## Under a shared secret -/

theorem countersigned_of_get?_ofSecret {id kid : String} {secret : Bytes} {k : Jwk}
    (hk : (KeyRing.single kid (Jwk.ofSecret kid secret)).get? id = some k) : k.Countersigned := by
  obtain ⟨-, rfl⟩ := KeyRing.get?_single_eq_some_iff.1 hk
  rintro key n e ⟨⟩

/-- A secret of 32 bytes signs all claims. -/
theorem exists_sign_ofSecret (kid : String) (secret : Bytes) (r : Entropy) (claims : Value) :
    ∃ t, (ofSecret kid secret .none).sign r claims none none = .ok t ∧ t.keyId = kid := by
  have hsigner : (ofSecret kid secret .none).signers.lookup kid =
      some ⟨kid, .secret secret, [.hs256], .hs256⟩ := List.lookup_cons_self
  have hresolve : resolve (ofSecret kid secret .none).signers .sign none
      (ofSecret kid secret .none).defaultSigningKeyId =
        .ok ⟨kid, .secret secret, [.hs256], .hs256⟩ :=
    resolve_eq_ok_iff.2 ⟨kid, rfl, hsigner⟩
  rw [sign, hresolve, ok_bind]
  exact ⟨_, rfl, rfl⟩

/-! ## Under any key -/

/-- What is signed verifies under the key that the token names, whatever claims it holds, as long as
they are not nested too deeply: the claims come back as they were. The exception is a registered
claim that cannot be read, which makes the token malformed although its signature is right. Of an
RSA key it is assumed that its public numbers accept what its private half signs. -/
theorem verify_sign (hs : build ring defaults = .ok s)
    (hcanonical : (Value.object ms).Canonical) (hdepth : (Value.object ms).depth ≤ maxDepth)
    (hrsa : ∀ k, ring.get? t.keyId = some k → k.Countersigned)
    (ht : s.sign r (.object ms) kid algorithm = .ok t) :
    s.verify Decode.any t.compact none =
      if RegisteredClaims.Readable ms then .ok (.object ms)
      else .error (.verificationFailed t.keyId "JSON error: <malformed JSON>") := by
  obtain ⟨rfl, -, hbuilt⟩ := of_build hs
  exact verify_of_sign_object hbuilt hcanonical hdepth hrsa ht

/-- It is so of an expiry that is no time at all, and of times that are missing. -/
theorem verify_sign_sample :
    ∃ s t, build (.single "a" (.ofSecret "a" (List.replicate 32 0))) .none = .ok s ∧
      s.sign .zeros (.object [("exp", .string "never"), ("nbf", .array [])]) none none = .ok t ∧
      s.verify Decode.any t.compact none =
        .ok (.object [("exp", .string "never"), ("nbf", .array [])]) := by
  have hlength : (List.replicate 32 (0 : UInt8)).length = 32 := List.length_replicate
  have hs := build_ofSecret "a" hlength .none
  obtain ⟨t, ht, -⟩ := exists_sign_ofSecret "a" (List.replicate 32 0) .zeros
    (.object [("exp", .string "never"), ("nbf", .array [])])
  have hcanonical : (Value.object [("exp", .string "never"), ("nbf", .array [])]).Canonical :=
    ⟨List.pairwise_pair.2 (by decide), trivial, trivial, trivial⟩
  have hreadable : RegisteredClaims.Readable [("exp", .string "never"), ("nbf", .array [])] := by
    decide
  refine ⟨_, t, hs, ht, ?_⟩
  rw [verify_sign hs hcanonical (by decide) (fun _ ↦ countersigned_of_get?_ofSecret) ht,
    if_pos hreadable]

/-- An expiry that is an array keeps a token from verifying that was signed properly. -/
theorem verify_sign_ne_ok :
    ∃ s t, build (.single "a" (.ofSecret "a" (List.replicate 32 0))) .none = .ok s ∧
      s.sign .zeros (.object [("exp", .array [.number (.int 1)])]) none none = .ok t ∧
      s.verify Decode.any t.compact none =
        .error (.verificationFailed "a" "JSON error: <malformed JSON>") ∧
      s.verify Decode.any t.compact none ≠ .ok (.object [("exp", .array [.number (.int 1)])]) := by
  have hlength : (List.replicate 32 (0 : UInt8)).length = 32 := List.length_replicate
  have hs := build_ofSecret "a" hlength .none
  obtain ⟨-, -, hbuilt⟩ := of_build hs
  obtain ⟨t, ht, hkid⟩ := exists_sign_ofSecret "a" (List.replicate 32 0) .zeros
    (.object [("exp", .array [.number (.int 1)])])
  have hcanonical : (Value.object [("exp", .array [.number (.int 1)])]).Canonical :=
    ⟨List.pairwise_singleton _ _, ⟨⟨by decide, by decide⟩, trivial⟩, trivial⟩
  have hunreadable : ¬RegisteredClaims.Readable [("exp", .array [.number (.int 1)])] := by decide
  have hverify := verify_of_sign_object hbuilt hcanonical (by decide)
    (fun _ ↦ countersigned_of_get?_ofSecret) ht
  rw [if_neg hunreadable, hkid] at hverify
  refine ⟨_, t, hs, ht, hverify, ?_⟩
  rw [hverify]
  rintro ⟨⟩

end SignOn.Jose.Service

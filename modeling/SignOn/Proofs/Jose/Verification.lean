import SignOn.Proofs.Jose.Header
import SignOn.Proofs.Jose.PrivateKey
import SignOn.Proofs.Text.Base64Url

/-!
# What a token that verifies is

The header of a token is written by whoever made the token. It may choose among the keys of the
ring and among the algorithms of the key it chose, but not beyond.
-/

namespace SignOn.Jose

open Crypto Json Outcome Text

/-! ## The parts of a token -/

namespace SignedParts

theorem ofToken_eq_ok_iff {token : String} {p : SignedParts} :
    ofToken token = .ok p ↔
      token = p.input ++ "." ++ p.signature ∧ p.input = p.header ++ "." ++ p.payload ∧
        Dotted.Dotless p.payload ∧ Dotted.Dotless p.signature := by
  constructor
  · intro h
    rw [ofToken] at h
    split at h
    · cases h
    · next input signature hinput =>
      split at h
      · cases h
      · next header payload hheader =>
        obtain rfl := Except.ok.inj h
        obtain ⟨htoken, hsignature⟩ := Dotted.splitLast?_eq_some_iff.1 hinput
        obtain ⟨hinput', hpayload⟩ := Dotted.splitLast?_eq_some_iff.1 hheader
        exact ⟨htoken, hinput', hpayload, hsignature⟩
  · rintro ⟨htoken, hinput, hpayload, hsignature⟩
    rw [ofToken, Dotted.splitLast?_eq_some_iff.2 ⟨htoken, hsignature⟩]
    dsimp only
    rw [Dotted.splitLast?_eq_some_iff.2 ⟨hinput, hpayload⟩]

theorem decodeSegment_eq_ok_iff {segment : String} {bs : Bytes} :
    decodeSegment segment = .ok bs ↔ segment = Base64Url.encode bs := by
  rw [decodeSegment, ← Base64Url.decode_eq_ok_iff]
  cases Base64Url.decode segment <;> simp

theorem decodeJson_eq_ok_iff {α : Type} {d : Decoder α} {bs : Bytes} {a : α} :
    decodeJson d bs = .ok a ↔ d.runBytes bs = .ok a := by
  rw [decodeJson]
  cases d.runBytes bs <;> simp

theorem decodeHeader_eq_ok_iff {p : SignedParts} {h : SignatureHeader} :
    p.decodeHeader = .ok h ↔
      ∃ bs, p.header = Base64Url.encode bs ∧ SignatureHeader.decode.runBytes bs = .ok h := by
  simp only [decodeHeader, bind_eq_ok_iff, decodeSegment_eq_ok_iff, decodeJson_eq_ok_iff]

/-- A token whose header decodes has no more than three segments. -/
theorem split_of_decodeHeader {token : String} {p : SignedParts} {h : SignatureHeader}
    (hp : ofToken token = .ok p) (hh : p.decodeHeader = .ok h) :
    Dotted.split token = [p.header, p.payload, p.signature] := by
  obtain ⟨htoken, hinput, hpayload, hsignature⟩ := ofToken_eq_ok_iff.1 hp
  obtain ⟨bs, hheader, -⟩ := decodeHeader_eq_ok_iff.1 hh
  have hjoin : token = Dotted.join [p.header, p.payload, p.signature] := by
    rw [htoken, hinput, Dotted.join_cons_cons, Dotted.join_cons_cons, Dotted.join_singleton]
    simp only [String.append_assoc]
  rw [hjoin]
  refine Dotted.split_join (by simp) fun segment hsegment ↦ ?_
  simp only [List.mem_cons, List.not_mem_nil, or_false] at hsegment
  rcases hsegment with rfl | rfl | rfl
  · rw [hheader]
    exact Base64Url.dotless_encode bs
  · exact hpayload
  · exact hsignature

/-- A signed token falls into what was put together. -/
theorem ofToken_join (kid : String) (a : SignatureAlgorithm) (claims : Value)
    (signature : Bytes) :
    ofToken (Dotted.join [Signer.signingInput kid a claims, Base64Url.encode signature]) =
      .ok ⟨Signer.signingInput kid a claims, Base64Url.encode (utf8 (Signer.header kid a).text),
        Base64Url.encode (utf8 claims.text), Base64Url.encode signature⟩ := by
  refine ofToken_eq_ok_iff.2 ⟨?_, ?_, Base64Url.dotless_encode _, Base64Url.dotless_encode _⟩
  · rw [Dotted.join_cons_cons, Dotted.join_singleton]
  · rw [Signer.signingInput, Dotted.join_cons_cons, Dotted.join_singleton]

end SignedParts

theorem SignatureHeader.ofToken_eq_ok_iff {token : String} {h : SignatureHeader} :
    SignatureHeader.ofToken token = .ok h ↔
      ∃ p, SignedParts.ofToken token = .ok p ∧ p.decodeHeader = .ok h := by
  simp only [SignatureHeader.ofToken, bind_eq_ok_iff]

theorem SignatureHeader.ofToken_join (kid : String) (a : SignatureAlgorithm) (claims : Value)
    (signature : Bytes) :
    ofToken (Dotted.join [Signer.signingInput kid a claims, Base64Url.encode signature]) =
      .ok ⟨.supported a, some kid⟩ := by
  refine ofToken_eq_ok_iff.2 ⟨_, SignedParts.ofToken_join kid a claims signature, ?_⟩
  exact SignedParts.decodeHeader_eq_ok_iff.2 ⟨_, rfl, decode_header kid a⟩

/-! ## Checking -/

/-- The text is the signature of the message by the algorithm. -/
def CheckingKey.Accepts (key : CheckingKey) (a : SignatureAlgorithm) (message : Bytes)
    (signature : String) : Prop :=
  match key with
  | .rsa key => ∃ padding bs, a.padding? = some padding ∧ signature = Base64Url.encode bs ∧
      key.verify padding a.hash message bs = true
  | .secret bytes => signature = Base64Url.encode (a.hash.hmac bytes message)

theorem CheckingKey.check_eq_ok_iff {key : CheckingKey} {a : SignatureAlgorithm} {message : Bytes}
    {signature : String} :
    key.check a message signature = .ok () ↔ key.Accepts a message signature := by
  cases key with
  | rsa key =>
    cases hpadding : a.padding? with
    | none => simp [check, Accepts, hpadding]
    | some padding =>
      simp only [check, Accepts, hpadding, bind_eq_ok_iff, SignedParts.decodeSegment_eq_ok_iff]
      constructor
      · rintro ⟨bs, hbs, h⟩
        split at h
        · next hverify => exact ⟨padding, bs, rfl, hbs, hverify⟩
        · cases h
      · rintro ⟨_, bs, ⟨⟩, hbs, hverify⟩
        exact ⟨bs, hbs, by rw [if_pos hverify]⟩
  | secret bytes =>
    simp only [check, Accepts]
    constructor
    · intro h
      split at h
      · next heq => exact heq.symm
      · cases h
    · intro h
      rw [if_pos h.symm]

theorem HeaderAlgorithm.toSupported_eq_ok_iff {x : HeaderAlgorithm} {a : SignatureAlgorithm} :
    x.toSupported = .ok a ↔ x = .supported a := by
  cases x <;> simp [toSupported]

/-- What a verifier opens has a header that names one of its algorithms, a signature that its key
accepts, and a payload that decodes. -/
theorem Verifier.open?_eq_ok_iff {α : Type} {x : Verifier} {d : Decoder α} {token : String}
    {c : α} :
    x.open? d token = .ok c ↔
      ∃ p h a, SignedParts.ofToken token = .ok p ∧ p.decodeHeader = .ok h ∧
        h.alg = .supported a ∧ a ∈ x.algorithms ∧ x.key.Accepts a (utf8 p.input) p.signature ∧
        ∃ payload, p.payload = Base64Url.encode payload ∧ d.runBytes payload = .ok c ∧
          RegisteredClaims.decode.runBytes payload = .ok () := by
  have hsupported {p : SignedParts} {h : SignatureHeader} {a : SignatureAlgorithm}
      (hp : SignedParts.ofToken token = .ok p) (hh : p.decodeHeader = .ok h)
      (ha : h.alg = .supported a) :
      x.open? d token = .ok c ↔
        a ∈ x.algorithms ∧ x.key.Accepts a (utf8 p.input) p.signature ∧
        ∃ payload, p.payload = Base64Url.encode payload ∧ d.runBytes payload = .ok c ∧
          RegisteredClaims.decode.runBytes payload = .ok () := by
    rw [open?, hp, ok_bind, hh, ok_bind, ha]
    simp only [HeaderAlgorithm.toSupported, pure_eq, ok_bind, error_bind, ite_error_eq_ok_iff,
      Decidable.not_not, bind_eq_ok_iff, SignedParts.decodeSegment_eq_ok_iff,
      SignedParts.decodeJson_eq_ok_iff, Except.ok.injEq]
    refine and_congr_right fun _ ↦ ?_
    constructor
    · rintro ⟨_, haccepts, payload, hpayload, c', hc, _, hregistered, rfl⟩
      exact ⟨CheckingKey.check_eq_ok_iff.1 haccepts, payload, hpayload, hc, hregistered⟩
    · rintro ⟨haccepts, payload, hpayload, hc, hregistered⟩
      exact ⟨(), CheckingKey.check_eq_ok_iff.2 haccepts, payload, hpayload, c, hc, (), hregistered,
        rfl⟩
  constructor
  · intro hopen
    obtain ⟨p, hp, hrest⟩ := bind_eq_ok_iff.1 hopen
    obtain ⟨h, hh, hrest⟩ := bind_eq_ok_iff.1 hrest
    cases ha : h.alg.toSupported with
    | error e =>
      rw [ha] at hrest
      cases hrest
    | ok a =>
      have ha' := HeaderAlgorithm.toSupported_eq_ok_iff.1 ha
      exact ⟨p, h, a, hp, hh, ha', (hsupported hp hh ha').1 hopen⟩
  · rintro ⟨p, h, a, hp, hh, ha, hrest⟩
    exact (hsupported hp hh ha).2 hrest

/-- Once the signature is accepted and the payload decoded, only the registered claims can keep a
token from being opened. -/
theorem Verifier.open?_of_accepts {α : Type} {x : Verifier} {d : Decoder α} {token : String}
    {p : SignedParts} {h : SignatureHeader} {a : SignatureAlgorithm} {payload : Bytes} {c : α}
    (hp : SignedParts.ofToken token = .ok p) (hh : p.decodeHeader = .ok h)
    (ha : h.alg = .supported a) (hmem : a ∈ x.algorithms)
    (haccepts : x.key.Accepts a (utf8 p.input) p.signature)
    (hpayload : p.payload = Base64Url.encode payload) (hc : d.runBytes payload = .ok c) :
    x.open? d token = (fun _ ↦ c) <$> SignedParts.decodeJson RegisteredClaims.decode payload := by
  have hsegment : SignedParts.decodeSegment p.payload = .ok payload :=
    SignedParts.decodeSegment_eq_ok_iff.2 hpayload
  have hdecode : SignedParts.decodeJson d payload = .ok c := SignedParts.decodeJson_eq_ok_iff.2 hc
  have hcheck := CheckingKey.check_eq_ok_iff.2 haccepts
  rw [open?, hp, ok_bind, hh, ok_bind, ha]
  simp only [HeaderAlgorithm.toSupported, pure_eq, ok_bind, if_neg (not_not_intro hmem), hcheck,
    hsegment, hdecode]
  cases SignedParts.decodeJson RegisteredClaims.decode payload <;> rfl

theorem Verifier.verify_eq_ok_iff {α : Type} {x : Verifier} {d : Decoder α} {token : String}
    {c : α} : x.verify d token = .ok c ↔ x.open? d token = .ok c := by
  rw [verify]
  cases x.open? d token <;> simp

/-! ## Services -/

theorem SignatureAlgorithm.mem_forSecretLength {a : SignatureAlgorithm} {n : Nat} :
    a ∈ forSecretLength n ↔ a ∈ hmac ∧ ∃ least, a.minSecretLength? = some least ∧ least ≤ n := by
  simp only [forSecretLength, List.mem_filter, Option.any_eq_true, decide_eq_true_eq]

/-- A text is the signature of a message under a key, by an algorithm of the key's family: for RSA
under the public numbers, for a shared secret as the code of the message, by an algorithm that the
secret is long enough for. -/
def Jwk.Vouches (k : Jwk) (a : SignatureAlgorithm) (message : Bytes) (signature : String) : Prop :=
  match k.kind with
  | .rsa => a ∈ SignatureAlgorithm.rsa ∧ ∃ n e bs padding,
      k.n = some (Base64Url.encode n) ∧ k.e = some (Base64Url.encode e) ∧
      signature = Base64Url.encode bs ∧ a.padding? = some padding ∧
      Rsa.VerifyingKey.verify ⟨n, e⟩ padding a.hash message bs = true
  | .octets => a ∈ SignatureAlgorithm.hmac ∧ ∃ secret least,
      k.sharedSecret = .ok secret ∧ a.minSecretLength? = some least ∧ least ≤ secret.length ∧
      signature = Base64Url.encode (a.hash.hmac secret message)
  | _ => False

theorem Verifier.strictMember_eq_ok_iff {kid : String} {value : Option String} {bs : Bytes} :
    strictMember kid value = .ok bs ↔ value = some (Base64Url.encode bs) := by
  cases value with
  | none => simp [strictMember]
  | some s =>
    rw [Option.some.injEq, ← Base64Url.decode_eq_ok_iff, strictMember]
    cases Base64Url.decode s <;> simp

theorem Verifier.vouches_of_accepts {kid : String} {k : Jwk} {x : Verifier}
    (hx : Verifier.ofJwk kid k = .ok (some x)) {a : SignatureAlgorithm} (ha : a ∈ x.algorithms)
    {message : Bytes} {signature : String} (haccepts : x.key.Accepts a message signature) :
    k.Vouches a message signature := by
  rcases Verifier.ofJwk_eq_some_iff.1 hx with ⟨hkind, -, n, e, hn, he, rfl⟩ |
    ⟨hkind, secret, hsecret, -, rfl⟩
  · obtain ⟨padding, bs, hpadding, hbs, hverify⟩ := haccepts
    rw [Jwk.Vouches, hkind]
    exact ⟨ha, n, e, bs, padding, strictMember_eq_ok_iff.1 hn, strictMember_eq_ok_iff.1 he, hbs,
      hpadding, hverify⟩
  · obtain ⟨hhmac, least, hleast, hle⟩ := SignatureAlgorithm.mem_forSecretLength.1 ha
    rw [Jwk.Vouches, hkind]
    exact ⟨hhmac, secret, least, hsecret, hleast, hle, haccepts⟩

/-- How the verification of a token ends whose signature the key in its header accepts. -/
theorem Service.verify_join_eq {s : Service} {kid : String} {x : Verifier}
    (hx : s.verifiers.lookup kid = some x) {a : SignatureAlgorithm} (ha : a ∈ x.algorithms)
    {claims : Value} {signature : Bytes}
    (haccepts : x.key.Accepts a (utf8 (Signer.signingInput kid a claims))
      (Base64Url.encode signature))
    {α : Type} {d : Decoder α} {c : α} (hclaims : d.runBytes (utf8 claims.text) = .ok c) :
    s.verify d (Dotted.join [Signer.signingInput kid a claims, Base64Url.encode signature]) none =
      match RegisteredClaims.decode.runBytes (utf8 claims.text) with
      | .ok _ => .ok c
      | .error e => .error (.verificationFailed x.kid (VerificationFault.message (.json e))) := by
  have hheader := SignatureHeader.ofToken_join kid a claims signature
  have hkid : headerKeyId (Dotted.join [Signer.signingInput kid a claims,
      Base64Url.encode signature]) = some kid := by
    rw [headerKeyId, hheader]
  have hresolve : resolve s.verifiers .verify (some kid) s.defaultSigningKeyId = .ok x :=
    resolve_eq_ok_iff.2 ⟨kid, Option.some_or, hx⟩
  have hopen := Verifier.open?_of_accepts (SignedParts.ofToken_join kid a claims signature)
    (SignedParts.decodeHeader_eq_ok_iff.2 ⟨_, rfl, SignatureHeader.decode_header kid a⟩) rfl ha
    haccepts rfl hclaims
  rw [verify, Option.none_or, hkid, hresolve, ok_bind, Verifier.verify, hopen,
    SignedParts.decodeJson]
  cases RegisteredClaims.decode.runBytes (utf8 claims.text) <;> rfl

/-- A token with a signature that the key in its header accepts verifies, if its claims can be
decoded. -/
theorem Service.verify_join {s : Service} {kid : String} {x : Verifier}
    (hx : s.verifiers.lookup kid = some x) {a : SignatureAlgorithm} (ha : a ∈ x.algorithms)
    {claims : Value} {signature : Bytes}
    (haccepts : x.key.Accepts a (utf8 (Signer.signingInput kid a claims))
      (Base64Url.encode signature))
    {α : Type} {d : Decoder α} {c : α} (hclaims : d.runBytes (utf8 claims.text) = .ok c)
    (hregistered : RegisteredClaims.decode.runBytes (utf8 claims.text) = .ok ()) :
    s.verify d (Dotted.join [Signer.signingInput kid a claims, Base64Url.encode signature]) none =
      .ok c := by
  rw [verify_join_eq hx ha haccepts hclaims, hregistered]

/-- A token that verifies falls into header, payload and signature. The key is the one that the
caller names, or the header, or the default, and it is a key of the ring; the algorithm is the
header's and belongs to the family of this key; and the key vouches for header and payload. -/
theorem Service.verify_sound {ring : KeyRing} {defaults : Defaults} {s : Service}
    (hs : build ring defaults = .ok s) {α : Type} {d : Decoder α} {token : String}
    {kid : Option String} {c : α} (h : s.verify d token kid = .ok c) :
    ∃ (header payload signature : String) (hd : SignatureHeader) (id : String) (k : Jwk)
      (a : SignatureAlgorithm),
      Dotted.split token = [header, payload, signature] ∧
      (∃ bs, Base64Url.decode header = .ok bs ∧ SignatureHeader.decode.runBytes bs = .ok hd) ∧
      (kid.or hd.kid).or s.defaultSigningKeyId = some id ∧
      (s.verifiers.lookup id).isSome ∧ ring.get? id = some k ∧
      hd.alg = .supported a ∧ k.Vouches a (utf8 (header ++ "." ++ payload)) signature ∧
      ∃ bs, Base64Url.decode payload = .ok bs ∧ d.runBytes bs = .ok c := by
  obtain ⟨rfl, -, hbuilt⟩ := of_build hs
  obtain ⟨x, hx, h⟩ := bind_eq_ok_iff.1 h
  obtain ⟨id, hid, hlookup⟩ := resolve_eq_ok_iff.1 hx
  obtain ⟨p, hd, a, hp, hh, ha, hmem, haccepts, bs, hpayload, hc, -⟩ :=
    Verifier.open?_eq_ok_iff.1 (Verifier.verify_eq_ok_iff.1 h)
  obtain ⟨k, hk, hxk⟩ := (lookup_verifiers_eq_some_iff hbuilt).1 hlookup
  obtain ⟨-, hinput, -, -⟩ := SignedParts.ofToken_eq_ok_iff.1 hp
  obtain ⟨hbytes, hheader, hdecode⟩ := SignedParts.decodeHeader_eq_ok_iff.1 hh
  -- the service and the verifier read the same header
  have hheaderKeyId : headerKeyId token = hd.kid := by
    rw [headerKeyId, SignatureHeader.ofToken_eq_ok_iff.2 ⟨p, hp, hh⟩]
  rw [hheaderKeyId] at hid
  rw [hinput] at haccepts
  refine ⟨p.header, p.payload, p.signature, hd, id, k, a, SignedParts.split_of_decodeHeader hp hh,
    ⟨hbytes, Base64Url.decode_eq_ok_iff.2 hheader, hdecode⟩, hid, ?_, hk, ha,
    Verifier.vouches_of_accepts hxk hmem haccepts, bs, Base64Url.decode_eq_ok_iff.2 hpayload, hc⟩
  rw [hlookup]
  rfl

/-- Such a token exists, for a key of 2048 bits. -/
theorem Service.verify_sound_sample :
    ∃ s token, build (.single "a" (Jwk.ofPrivateKey "a" .sample)) .none = .ok s ∧
      s.verify Decode.any token none = .ok (.object []) ∧
      ∃ (header payload signature : String) (hd : SignatureHeader) (id : String) (k : Jwk)
        (a : SignatureAlgorithm),
        Dotted.split token = [header, payload, signature] ∧
        (∃ bs, Base64Url.decode header = .ok bs ∧ SignatureHeader.decode.runBytes bs = .ok hd) ∧
        ((none : Option String).or hd.kid).or s.defaultSigningKeyId = some id ∧
        (s.verifiers.lookup id).isSome ∧
        (KeyRing.single "a" (Jwk.ofPrivateKey "a" .sample)).get? id = some k ∧
        hd.alg = .supported a ∧ k.Vouches a (utf8 (header ++ "." ++ payload)) signature ∧
        ∃ bs, Base64Url.decode payload = .ok bs ∧
          Decoder.runBytes Decode.any bs = .ok (.object []) := by
  have hkey := Rsa.PrivateKey.strong_sample
  generalize Rsa.PrivateKey.sample = key at hkey ⊢
  have hs := build_ofPrivateKey "a" .none hkey
  have hv := lookup_verifiers_ofPrivateKey "a" key .none
  have hsalt : (List.replicate 32 (0 : UInt8)).length = Hash.length .sha256 := rfl
  obtain ⟨signature, hsign⟩ := hkey.exists_sign .fixed hsalt
    (utf8 (Signer.signingInput "a" .rs256 (.object [])))
  have haccepts := hkey.signsFor .fixed .sha256 _ _ signature hsalt hsign
  have hintegral : (Value.object []).Integral := trivial
  have hclaims : Decoder.runBytes Decode.any (utf8 (Value.object []).text) = .ok (.object []) := by
    rw [Decoder.runBytes_text _ hintegral]
    rfl
  have hregistered : RegisteredClaims.decode.runBytes (utf8 (Value.object []).text) = .ok () := by
    rw [Decoder.runBytes_text _ hintegral]
    rfl
  have hverify := verify_join hv (List.mem_cons_self) ⟨.fixed, signature, rfl, rfl, haccepts⟩
    hclaims hregistered
  exact ⟨_, _, hs, hverify, verify_sound hs hverify⟩

end SignOn.Jose

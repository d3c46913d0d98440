import SignOn.Proofs.Crypto.Rsa.Checked
import SignOn.Proofs.Jose.Construction
import SignOn.Proofs.Jose.KeyDocument

/-!
# Keys whose private exponent is zero

Recovering the factors of an RSA key starts from the product of both exponents less one. Of a key
without factors whose private exponent is zero there is no such number, and the construction of a
service stops there. It stops at no other place, whatever the numbers of the keys are.
-/

namespace SignOn.Jose

open Crypto Outcome

theorem lift_ne_negativeDifference {α : Type} (x : Except Error α) :
    (liftM x : Except Failure α) ≠ .error .negativeDifference := by
  cases x <;> rintro ⟨⟩

namespace Jwk

variable {kid : String} {k : Jwk}

/-- The private exponent of the RSA key is zero, its factors are missing, and its public numbers are
accepted, with an exponent that is large enough for the factors to be recovered. -/
structure ZeroExponent (k : Jwk) : Prop where
  kind : k.kind = .rsa
  accepted : ∃ key, k.rsaPublicKey = .ok key ∧ Nat.pow 2 16 < key.exponent
  zero : k.number "d" k.secret.d = .ok 0
  factors : k.secret.p = none ∧ k.secret.q = none

theorem check_of_rsaPublicKey {key : Rsa.PublicKey} (h : k.rsaPublicKey = .ok key) :
    key.check = .ok () := by
  rw [rsaPublicKey] at h
  obtain ⟨n, -, h⟩ := bind_eq_ok_iff.1 h
  obtain ⟨e, -, h⟩ := bind_eq_ok_iff.1 h
  split at h
  · next key' hkey =>
    obtain rfl := Except.ok.inj h
    obtain ⟨-, hcheck, rfl⟩ := Rsa.PublicKey.ofNumbers_eq_ok hkey
    exact hcheck
  · cases h

theorem rsaFactors_eq_ok_none_iff :
    k.rsaFactors = .ok none ↔ k.secret.p = none ∧ k.secret.q = none := by
  rw [rsaFactors]
  split
  · next h => exact ⟨fun _ ↦ h, fun _ ↦ rfl⟩
  · next h =>
    constructor
    · intro hnone
      obtain ⟨p, -, hnone⟩ := bind_eq_ok_iff.1 hnone
      obtain ⟨q, -, hnone⟩ := bind_eq_ok_iff.1 hnone
      cases hnone
    · exact fun hnone ↦ absurd hnone h

theorem rsaPrivateKey?_eq_negativeDifference_iff :
    k.rsaPrivateKey? = .error .negativeDifference ↔ ∃ n e d, k.number "n" k.n = .ok n ∧
      k.number "e" k.e = .ok e ∧ k.number "d" k.secret.d = .ok d ∧ k.secret.p = none ∧
      k.secret.q = none ∧ Nat.pow 2 16 < e ∧ e < Nat.pow 2 256 ∧ (d * e = 0 ∨ n = 0) := by
  rw [rsaPrivateKey?]
  constructor
  · intro h
    split at h
    · cases h
    rcases bind_eq_error_iff.1 h with h | ⟨n, hn, h⟩
    · exact absurd h (lift_ne_negativeDifference _)
    rcases bind_eq_error_iff.1 h with h | ⟨e, he, h⟩
    · exact absurd h (lift_ne_negativeDifference _)
    rcases bind_eq_error_iff.1 h with h | ⟨d, hd, h⟩
    · exact absurd h (lift_ne_negativeDifference _)
    rcases bind_eq_error_iff.1 h with h | ⟨factors, hfactors, h⟩
    · exact absurd h (lift_ne_negativeDifference _)
    split at h
    · cases h
    · cases h
    · next hkey =>
      obtain ⟨rfl, hlow, hhigh, hzero⟩ := Rsa.PrivateKey.ofNumbers_eq_negativeDifference_iff.1 hkey
      obtain ⟨hp, hq⟩ := rsaFactors_eq_ok_none_iff.1 (lift_eq_ok_iff.1 hfactors)
      exact ⟨n, e, d, lift_eq_ok_iff.1 hn, lift_eq_ok_iff.1 he, lift_eq_ok_iff.1 hd, hp, hq, hlow,
        hhigh, hzero⟩
  · rintro ⟨n, e, d, hn, he, hd, hp, hq, hlow, hhigh, hzero⟩
    have hsome : k.secret.d ≠ none := by
      intro hnone
      rw [hnone] at hd
      cases hd
    have hkey := Rsa.PrivateKey.ofNumbers_eq_negativeDifference_iff.2 ⟨rfl, hlow, hhigh, hzero⟩
    rw [if_neg hsome, hn, he, hd, rsaFactors_eq_ok_none_iff.2 ⟨hp, hq⟩]
    simp only [lift_ok, ok_bind, hkey]

/-- If the public numbers of an RSA key are accepted, the private exponent is the only number of it
that can be in the way of a difference. -/
theorem zeroExponent_iff : k.ZeroExponent ↔ k.kind = .rsa ∧ (∃ key, k.rsaPublicKey = .ok key) ∧
    k.rsaPrivateKey? = .error .negativeDifference := by
  constructor
  · rintro ⟨hkind, ⟨key, hkey, hlow⟩, hzero, hp, hq⟩
    obtain ⟨hn, he⟩ := number_of_rsaPublicKey hkey
    obtain ⟨-, -, hbound⟩ := Rsa.PublicKey.check_eq_ok (check_of_rsaPublicKey hkey)
    refine ⟨hkind, ⟨key, hkey⟩, rsaPrivateKey?_eq_negativeDifference_iff.2
      ⟨_, _, 0, hn, he, hzero, hp, hq, hlow, ?_, .inl (Nat.zero_mul _)⟩⟩
    exact lt_trans hbound (by decide)
  · rintro ⟨hkind, ⟨key, hkey⟩, h⟩
    obtain ⟨n, e, d, hn, he, hd, hp, hq, hlow, -, hzero⟩ :=
      rsaPrivateKey?_eq_negativeDifference_iff.1 h
    obtain ⟨hn', he'⟩ := number_of_rsaPublicKey hkey
    obtain rfl : key.modulus = n := Except.ok.inj (hn'.symm.trans hn)
    obtain rfl : key.exponent = e := Except.ok.inj (he'.symm.trans he)
    obtain ⟨hmodulus, hexponent, -⟩ := Rsa.PublicKey.check_eq_ok (check_of_rsaPublicKey hkey)
    have hd0 : d = 0 := by
      rcases hzero with hzero | hzero
      · rcases Nat.mul_eq_zero.1 hzero with hzero | hzero
        · exact hzero
        · omega
      · omega
    exact ⟨hkind, ⟨key, hkey, hlow⟩, hd0 ▸ hd, hp, hq⟩

end Jwk

section

variable {kid : String} {k : Jwk}

theorem Jwk.of_withSecret_eq_negativeDifference {α : Type}
    {ofKey : Option Rsa.PrivateKey → Option α} {ofSecret : Bytes → Option α}
    (h : k.withSecret ofKey ofSecret = .error .negativeDifference) :
    k.kind = .rsa ∧ k.rsaPrivateKey? = .error .negativeDifference := by
  rcases withSecret_eq_error_iff.1 h with hrsa | ⟨-, h⟩
  · exact hrsa
  · exact absurd h (lift_ne_negativeDifference _)

theorem Encrypter.exists_rsaPublicKey {x : Option Encrypter} (hk : k.kind = .rsa)
    (h : Encrypter.ofJwk kid k = .ok x) : ∃ key, k.rsaPublicKey = .ok key := by
  rw [Encrypter.ofJwk, hk] at h
  obtain ⟨key, hkey, -⟩ := bind_eq_ok_iff.1 h
  exact ⟨key, hkey⟩

/-- Only a private exponent that is zero makes building the capabilities of a key stop. -/
theorem Capabilities.ofJwk_eq_negativeDifference_iff :
    ofJwk kid k = .error .negativeDifference ↔ k.ZeroExponent := by
  rw [Jwk.zeroExponent_iff]
  constructor
  · intro h
    -- the encrypter comes first, so the public numbers are accepted when a private key is made
    rcases bind_eq_error_iff.1 h with h | ⟨x, hx, h⟩
    · exact absurd h (lift_ne_negativeDifference _)
    have hprivate : k.kind = .rsa ∧ k.rsaPrivateKey? = .error .negativeDifference := by
      rcases bind_eq_error_iff.1 h with h | ⟨y, -, h⟩
      · exact Jwk.of_withSecret_eq_negativeDifference (Decrypter.ofJwk_eq_withSecret.symm.trans h)
      rcases bind_eq_error_iff.1 h with h | ⟨z, -, h⟩
      · exact Jwk.of_withSecret_eq_negativeDifference (Signer.ofJwk_eq_withSecret.symm.trans h)
      rcases bind_eq_error_iff.1 h with h | ⟨v, -, h⟩
      · exact absurd h (lift_ne_negativeDifference _)
      · cases h
    exact ⟨hprivate.1, Encrypter.exists_rsaPublicKey hprivate.1 (lift_eq_ok_iff.1 hx), hprivate.2⟩
  · rintro ⟨hkind, ⟨key, hkey⟩, h⟩
    simp only [ofJwk, Encrypter.ofJwk, Decrypter.ofJwk, hkind, hkey, h, ok_bind, pure_eq, lift_ok,
      error_bind]

theorem Capabilities.exists_eq_ok_iff : (∃ c, ofJwk kid k = .ok c) ↔ ¬k.Unsound kid := by
  rw [← exists_eq_error_iff]
  cases ofJwk kid k <;> simp

end

/-- The unsound key with the smallest id has a private exponent that is zero. -/
def KeyRing.StopsAtZero (r : KeyRing) : Prop :=
  ∃ before kid k after, r.entries = before ++ (kid, k) :: after ∧
    (∀ x ∈ before, ¬x.2.Unsound x.1) ∧ k.ZeroExponent

namespace Service

variable {ring : KeyRing} {defaults : Defaults}

theorem build_eq_negativeDifference_iff :
    build ring defaults = .error .negativeDifference ↔ ring.StopsAtZero := by
  have hentries : build ring defaults = .error .negativeDifference ↔
      Capabilities.ofEntries ring.entries = .error .negativeDifference := by
    rw [build]
    cases Capabilities.ofEntries ring.entries <;> simp
  simp only [hentries, Capabilities.ofEntries_eq_error_iff, Capabilities.exists_eq_ok_iff,
    Capabilities.ofJwk_eq_negativeDifference_iff]
  rfl

/-- How building a service ends, and exchanging the one that is shared for it. Nothing is divided by
zero, whatever the numbers of the keys are, and no difference is below zero but the one that a
private exponent of zero asks for. -/
structure Ends (ring : KeyRing) (defaults : Defaults) (x : SharedService) : Prop where
  stops_iff : build ring defaults = .error .negativeDifference ↔ ring.StopsAtZero
  reload_of_stops : ring.StopsAtZero → x.reload ring defaults = (x, .error .negativeDifference)
  ends : ¬ring.StopsAtZero →
    (∃ s, build ring defaults = .ok s ∧ x.reload ring defaults = (⟨s⟩, .ok ())) ∨
    ∃ kid reason, kid ∈ ring.ids ∧
      build ring defaults = .error (.error (.invalidKeyMaterial kid reason)) ∧
      x.reload ring defaults = (x, .error (.error (.invalidKeyMaterial kid reason)))
  checked : ∀ n e d factors, Rsa.Checked.ofNumbers n e d factors =
    (Rsa.PrivateKey.ofNumbers n e d factors).mapError .ofFailure
  no_division_by_zero : ∀ n e d factors,
    Rsa.Checked.ofNumbers n e d factors ≠ .error .divisionByZero
  subtracts_iff : ∀ n e d factors,
    Rsa.Checked.ofNumbers n e d factors = .error .negativeDifference ↔ factors = none ∧
      Nat.pow 2 16 < e ∧ e < Nat.pow 2 256 ∧ (d * e = 0 ∨ n = 0)

/-- Building a service ends with the service, or with an error about the material of a key, unless
the first key that is unsound has a private exponent that is zero, and no factors. -/
theorem build_ends (ring : KeyRing) (defaults : Defaults) (x : SharedService) :
    Ends ring defaults x := by
  refine ⟨build_eq_negativeDifference_iff, fun h ↦ ?_, fun h ↦ ?_, Rsa.Checked.ofNumbers_eq,
    Rsa.Checked.ofNumbers_ne_divisionByZero,
    fun _ _ _ _ ↦ Rsa.Checked.ofNumbers_eq_negativeDifference_iff⟩
  · rw [SharedService.reload, build_eq_negativeDifference_iff.2 h]
  · rw [SharedService.reload]
    cases hbuild : build ring defaults with
    | ok s => exact .inl ⟨s, rfl, rfl⟩
    | error f =>
      obtain ⟨kid, k, hk, -, -, -, habout⟩ := build_eq_error hbuild
      cases habout with
      | material reason =>
        exact .inr ⟨kid, reason, List.mem_map_of_mem (KeyRing.mem_of_get? hk), rfl, rfl⟩
      | negativeDifference => exact absurd (build_eq_negativeDifference_iff.1 hbuild) h

/-- A private exponent of zero with factors is refused, and the service in place stays. -/
theorem build_ends_sample :
    let k : Jwk := ⟨"RSA", some "z", none, none, some "2yN1lP5eu9s", some "AQAB", none, none, none,
      ⟨some "AA", some "AQ", some "AQ", none, none, none, none⟩⟩
    let x : SharedService := ⟨⟨.empty, .none, []⟩⟩
    ∃ kid reason, x.reload (.single "z" k) .none =
      (x, .error (.error (.invalidKeyMaterial kid reason))) := by
  intro k x
  have hstops : ¬(KeyRing.single "z" k).StopsAtZero := by
    rintro ⟨before, kid, k', after, hentries, -, hzero⟩
    have hmem : (kid, k') ∈ (KeyRing.single "z" k).entries := by simp [hentries]
    obtain ⟨-, rfl⟩ := Prod.mk.inj (List.mem_singleton.1 hmem)
    exact absurd hzero.factors.1 (by decide)
  rcases (build_ends (.single "z" k) .none x).ends hstops with ⟨s, hs, -⟩ | ⟨kid, reason, -, -, h⟩
  · have hok : (build (.single "z" k) .none).isOk = false := by decide +kernel
    rw [hs] at hok
    cases hok
  · exact ⟨kid, reason, h⟩

/-- A key-set document that is read, but whose only key makes building a service stop. -/
theorem build_stops :
    let document := "\x7b\"keys\":[\x7b\"kty\":\"RSA\",\"n\":\"2yN1lP5eu9s\",\"e\":\"AQAB\"," ++
      "\"d\":\"AA\",\"kid\":\"z\"\x7d]\x7d"
    ∃ ring, KeyRing.parse document = .ok ring ∧
      build ring .none = .error .negativeDifference ∧ (¬∃ s, build ring .none = .ok s) ∧
      ¬∃ kid reason, build ring .none = .error (.error (.invalidKeyMaterial kid reason)) := by
  intro document
  have hstops : (KeyRing.parse document).toOption.map (fun ring ↦
      decide (Capabilities.ofEntries ring.entries = .error .negativeDifference)) = some true := by
    decide +kernel
  obtain ⟨ring, hring, hentries⟩ := Option.map_eq_some_iff.1 hstops
  have hbuild : build ring .none = .error .negativeDifference := by
    rw [build, of_decide_eq_true hentries]
    rfl
  refine ⟨ring, ?_, hbuild, by simp [hbuild], by simp [hbuild]⟩
  cases hparse : KeyRing.parse document with
  | ok r =>
    rw [hparse] at hring
    rw [Option.some.inj hring]
  | error e =>
    rw [hparse] at hring
    cases hring

end Service

end SignOn.Jose

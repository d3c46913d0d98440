import SignOn.Claims
import SignOn.Proofs.Jose.Header
import SignOn.Proofs.Jose.RegisteredClaims

/-!
# Claims read back as they were written

Whatever texts the claims hold, their JSON text decodes to them, and a verifier of signatures that
looks at the registered claims among them has nothing to object to.
-/

namespace SignOn

open Json Outcome

/-! ## Values of claims -/

theorem Decode.sequence_strings (room : Nat) (xs : List String) :
    Decode.sequence Decode.string (room + 1) (Value.strings xs).node = .ok xs :=
  Decode.items_map fun _ _ ↦ rfl

theorem Decode.integer_int (room : Nat) (n : Int64) :
    Decode.integer room (Value.int n).node = .ok n := by
  have hmin : -2 ^ 63 ≤ n.toInt := Int64.le_toInt n
  have hmax : n.toInt < 2 ^ 63 := Int64.toInt_lt n
  have h63 : Nat.pow 2 63 = 2 ^ 63 := rfl
  have h64 : Nat.pow 2 64 = 2 ^ 64 := rfl
  have hnumber : (Numeral.ofInt n.toInt).number? = some (.int n.toInt) :=
    number?_ofInt (by omega) (by omega)
  have hfits : n.toInt ≤ Int64.maxValue.toInt := by
    rw [Int64.toInt_maxValue]
    omega
  simp only [Decode.integer, Value.int, Value.node, hnumber, if_pos hfits, Int64.ofInt_toInt]

namespace Claims

variable (c : Claims)

/-- The claims that are always there. -/
def fixedMembers : List (String × Value) :=
  [("iss", .string c.iss), ("sub", .string c.sub), ("aud", .strings c.aud),
    ("jti", .string c.jti), ("iat", .int c.iat), ("exp", .int c.exp)]

theorem integral_strings (xs : List String) : (Value.strings xs).Integral := by
  refine Value.integralItems_iff.2 fun v hv ↦ ?_
  obtain ⟨s, -, rfl⟩ := List.mem_map.1 hv
  exact trivial

theorem integral_of_mem : ∀ m ∈ c.fixedMembers ++ Jose.Jwk.present c.optionalFields,
    m.2.Integral := by
  intro m hm
  rcases List.mem_append.1 hm with hm | hm
  · simp only [fixedMembers, List.mem_cons, List.not_mem_nil, or_false] at hm
    rcases hm with rfl | rfl | rfl | rfl | rfl | rfl
    · exact trivial
    · exact trivial
    · exact integral_strings c.aud
    · exact trivial
    · exact trivial
    · exact trivial
  · exact Jose.Jwk.integral_of_mem_present m hm

theorem nodup_keys :
    ((c.fixedMembers ++ Jose.Jwk.present c.optionalFields).map Prod.fst).Nodup :=
  Jose.Jwk.nodup_written (by simp [fixedMembers, optionalFields])

theorem lookup_nodes (name : String) :
    (nodes (c.fixedMembers ++ Jose.Jwk.present c.optionalFields)).lookup name =
      ((c.fixedMembers.lookup name).map Value.node).or
        ((c.optionalFields.lookup name).join.map fun s ↦ .string (.ok s)) :=
  Jose.Jwk.lookup_written c.fixedMembers c.optionalFields (by simp [optionalFields]) name

instance : Record.Lawful record := by
  rw [record]
  infer_instance

theorem decode_toJson : decode.runBytes (Text.utf8 c.toJson.text) = .ok c := by
  have hlookup := c.lookup_nodes
  refine Record.decode_text c.integral_of_mem c.nodup_keys ?_
  simp only [record, Record.build_seq, Record.build_map]
  rw [Record.build_required (hlookup "iss"), Record.build_required (hlookup "sub"),
    Record.build_required (hlookup "aud"), Record.build_required (hlookup "jti"),
    Record.build_required (hlookup "iat"), Record.build_required (hlookup "exp"),
    Record.build_optional_string (hlookup "email"), Record.build_optional_string (hlookup "name"),
    Record.build_optional_string (hlookup "user_id"),
    Record.build_optional_string (hlookup "external_id"),
    Record.build_optional_string (hlookup "locale"),
    Record.build_optional_string (hlookup "online_ticket"),
    Record.build_optional_string (hlookup "kid")]
  have haud : Decode.sequence Decode.string (maxDepth - 1) (Value.strings c.aud).node =
      .ok c.aud := Decode.sequence_strings 125 c.aud
  simp only [haud, Decode.integer_int, Value.node, Decode.string]
  rfl

end Claims

/-- The registered claims are well formed. -/
theorem Claims.registered_toJson (c : Claims) :
    Jose.RegisteredClaims.decode.runBytes (Text.utf8 c.toJson.text) = .ok () := by
  refine Jose.RegisteredClaims.decode_text c.integral_of_mem c.nodup_keys fun m hm ↦ ?_
  rcases List.mem_append.1 hm with hm | hm
  · simp only [List.mem_cons, List.not_mem_nil, or_false] at hm
    rcases hm with rfl | rfl | rfl | rfl | rfl | rfl <;> rfl
  · obtain ⟨f, -, hf⟩ := List.mem_filterMap.1 hm
    obtain ⟨s, -, rfl⟩ := Option.map_eq_some_iff.1 hf
    exact Jose.RegisteredClaims.isUnreadable_string f.1 s

/-! ## Drafts -/

namespace ClaimsDraft

theorem fit?_eq_some {n : Int} {k : Int64} (h : fit? n = some k) : k.toInt = n := by
  rw [fit?] at h
  split at h
  · next hfits =>
    obtain rfl := Option.some.inj h
    rw [Int64.toInt_minValue, Int64.toInt_maxValue] at hfits
    exact Int64.toInt_ofInt_of_le (by omega) (by omega)
  · cases h

/-- A token that expires at all lives for a positive number of minutes. -/
theorem expiry?_eq_some {minutes iat exp : Int64} (h : expiry? minutes iat = some exp) :
    0 < minutes ∧ exp.toInt = iat.toInt + 60 * minutes.toInt := by
  rw [expiry?] at h
  split at h
  · cases h
  · next hpos =>
    obtain ⟨seconds, hseconds, h⟩ := Option.bind_eq_some_iff.1 h
    have hseconds' := fit?_eq_some hseconds
    have hexp := fit?_eq_some h
    exact ⟨Int64.not_le.1 hpos, by omega⟩

/-- The number fits 64 bits. -/
def Fits (n : Int) : Prop := Int64.minValue.toInt ≤ n ∧ n ≤ Int64.maxValue.toInt

instance (n : Int) : Decidable (Fits n) := inferInstanceAs (Decidable (_ ∧ _))

theorem exists_fit?_iff {n : Int} : (∃ k, fit? n = some k) ↔ Fits n := by
  rw [fit?]
  split
  · next h => exact ⟨fun _ ↦ h, fun _ ↦ ⟨_, rfl⟩⟩
  · next h =>
    constructor
    · rintro ⟨k, ⟨⟩⟩
    · exact fun hfits ↦ absurd hfits h

/-- A token that is issued at `iat` and lives for so many minutes expires at a time that can be
told. -/
structure Expires (minutes iat : Int64) : Prop where
  positive : 0 < minutes
  lasts : Fits (60 * minutes.toInt)
  expires : Fits (iat.toInt + 60 * minutes.toInt)

theorem exists_expiry?_iff {minutes iat : Int64} :
    (∃ exp, expiry? minutes iat = some exp) ↔ Expires minutes iat := by
  by_cases hpositive : 0 < minutes
  · have hminutes : minutes.toInt * 60 = 60 * minutes.toInt := Int.mul_comm _ _
    rw [expiry?, if_neg (Int64.not_le.2 hpositive), hminutes]
    constructor
    · rintro ⟨exp, h⟩
      obtain ⟨seconds, hseconds, hexp⟩ := Option.bind_eq_some_iff.1 h
      refine ⟨hpositive, exists_fit?_iff.1 ⟨seconds, hseconds⟩, ?_⟩
      rw [← fit?_eq_some hseconds]
      exact exists_fit?_iff.1 ⟨exp, hexp⟩
    · rintro ⟨-, hlasts, hexpires⟩
      obtain ⟨seconds, hseconds⟩ := exists_fit?_iff.2 hlasts
      rw [← fit?_eq_some hseconds] at hexpires
      obtain ⟨exp, hexp⟩ := exists_fit?_iff.2 hexpires
      exact ⟨exp, Option.bind_eq_some_iff.2 ⟨seconds, hseconds, hexp⟩⟩
  · refine iff_of_false ?_ fun h ↦ hpositive h.positive
    rintro ⟨exp, h⟩
    exact hpositive (expiry?_eq_some h).1

theorem expiry?_eq_none_iff {minutes iat : Int64} :
    expiry? minutes iat = none ↔ ¬Expires minutes iat := by
  rw [← exists_expiry?_iff, ← Option.isSome_iff_exists, Option.not_isSome_iff_eq_none]

theorem build_eq_ok_iff {d : ClaimsDraft} {now : Int64} {jti : String} {c : Claims} :
    d.build now jti = .ok c ↔
      ∃ exp sub, expiry? d.lifetimeMinutes (d.issuedAt.getD now) = some exp ∧
        d.subject = some sub ∧
        c = ⟨d.issuer, sub, d.audience, jti, d.issuedAt.getD now, exp, d.email, d.name, d.userId,
          d.externalId, d.locale, d.onlineTicket, d.kid⟩ := by
  constructor
  · intro h
    simp only [build] at h
    split at h
    · cases h
    · next exp hexp =>
      split at h
      · cases h
      · next sub hsub =>
        obtain rfl := Except.ok.inj h
        exact ⟨exp, sub, hexp, hsub, rfl⟩
  · rintro ⟨exp, sub, hexp, hsub, rfl⟩
    simp only [build, hexp, hsub]

/-- The lifetime is looked at first, and the subject only if there is nothing wrong with it. -/
theorem build_eq_error_iff {d : ClaimsDraft} {now : Int64} {jti : String} {e : IssuanceError} :
    d.build now jti = .error e ↔
      ¬Expires d.lifetimeMinutes (d.issuedAt.getD now) ∧
          e = .invalidLifetime (String.intercalate "," d.audience) d.lifetimeMinutes ∨
        Expires d.lifetimeMinutes (d.issuedAt.getD now) ∧ d.subject = none ∧
          e = .missingClaim "sub" := by
  rw [build]
  cases hexp : expiry? d.lifetimeMinutes (d.issuedAt.getD now) with
  | none => simp [expiry?_eq_none_iff.1 hexp, eq_comm]
  | some exp =>
    have hexpires := exists_expiry?_iff.1 ⟨exp, hexp⟩
    cases hsub : d.subject with
    | none => simp [hexpires, eq_comm]
    | some sub => simp [hexpires]

end ClaimsDraft

end SignOn

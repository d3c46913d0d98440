import Mathlib.Data.List.DropRight
import SignOn.Proofs.Text.Base64Url

/-!
# Texts with padding

A text that was padded is an encoding with signs of padding behind it. The code has no padding, so
such a text does not decode. What is found wrong with it depends on where the padding ends: if it
only fills up the group of the last symbol, it is seen as padding; otherwise its first sign is no
symbol.
-/

namespace SignOn.Text.Base64Url

open Outcome

/-! ## Stripping -/

/-- The text ends with a sign of padding. -/
def Padded (s : String) : Prop := s.toList.getLast? = some '='

instance : DecidablePred Padded := fun s ↦
  inferInstanceAs (Decidable (s.toList.getLast? = some '='))

/-- So many signs of padding. -/
def padding (p : Nat) : String := ofAscii (List.replicate p pad)

theorem utf8_padding (p : Nat) : utf8 (padding p) = List.replicate p pad := by
  refine utf8_ofAscii fun b hb ↦ ?_
  obtain rfl := List.eq_of_mem_replicate hb
  decide

theorem toList_padding (p : Nat) : (padding p).toList = List.replicate p '=' := by
  rw [padding, ofAscii, String.toList_ofList, List.map_replicate]
  rfl

theorem toList_stripPadding (s : String) :
    (stripPadding s).toList = s.toList.rdropWhile (· = '=') := String.toList_ofList

theorem stripPadding_eq_self_iff {s : String} : stripPadding s = s ↔ ¬Padded s := by
  rw [← String.toList_inj, toList_stripPadding, List.rdropWhile_eq_self_iff, Padded]
  cases s.toList using List.reverseRecOn <;> simp

/-- What is stripped is padding. -/
theorem exists_eq_stripPadding_append (s : String) : ∃ p, s = stripPadding s ++ padding p := by
  have hall : ∀ c ∈ s.toList.rtakeWhile (· = '='), c = '=' := fun c hc ↦ by
    simpa using List.mem_rtakeWhile_imp hc
  refine ⟨(s.toList.rtakeWhile (· = '=')).length, ?_⟩
  rw [← String.toList_inj, String.toList_append, toList_stripPadding, toList_padding,
    ← List.eq_replicate_of_mem hall, List.rdropWhile_append_rtakeWhile]

/-! ## Decoding -/

/-- What is wrong with so many signs of padding behind `n` symbols. -/
def paddingFault (offset n p : Nat) : Error :=
  if 2 ≤ n % 4 ∧ n % 4 + p ≤ 4 then .padding else .symbol pad (offset + n)

theorem paddingFault_group (offset n p : Nat) :
    paddingFault (offset + 4) n p = paddingFault offset (n + 4) p := by
  rw [paddingFault, paddingFault, Nat.add_mod_right, Nat.add_right_comm, Nat.add_assoc]

theorem valueAt_symbol {v : Nat} (h : v < 64) (offset : Nat) :
    valueAt offset (symbol v) = .ok v := valueAt_eq_ok_iff.2 (value?_symbol h)

theorem valueAt_pad (offset : Nat) : valueAt offset pad = .error (.symbol pad offset) := by
  rw [valueAt, value?_pad]

/-- In the last group the signs of padding are told from symbols. -/
theorem tailValues_padded (offset index : Nat) {vs : List Nat} (h : ∀ v ∈ vs, v < 64) {p : Nat}
    (hp : 0 < p) :
    tailValues offset index (vs.map symbol ++ List.replicate p pad) =
      if index + vs.length < 2 then .error (.symbol pad (offset + (index + vs.length)))
      else .ok (vs.map fun v ↦ (symbol v, v), true) := by
  induction vs generalizing index with
  | nil =>
    obtain ⟨p, rfl⟩ := Nat.exists_eq_succ_of_ne_zero hp.ne'
    simp [List.replicate_succ, tailValues]
  | cons v vs ih =>
    have hv : v < 64 := h v List.mem_cons_self
    have hpad : symbol v ≠ pad := fun hpad ↦ by
      have hvalue := value?_symbol hv
      rw [hpad, value?_pad] at hvalue
      cases hvalue
    have hindex : index + 1 + vs.length = index + (v :: vs).length := by
      rw [List.length_cons]
      omega
    rw [List.map_cons, List.cons_append, tailValues, if_neg hpad, valueAt_symbol hv, ok_bind,
      ih (index + 1) fun w hw ↦ h w (List.mem_cons_of_mem v hw), hindex]
    split <;> rfl

/-- No more than four bytes are a last group. -/
theorem decodeFrom_of_length_le (offset : Nat) {cs : Bytes} (hne : cs ≠ []) (h : cs.length ≤ 4) :
    decodeFrom offset cs = decodeTail offset cs := by
  rw [decodeFrom.eq_def]
  split
  · simp only [List.length_cons] at h
    omega
  · exact absurd rfl hne
  · rfl

/-- Behind less than a group of symbols. -/
theorem decodeFrom_symbols_padded (offset : Nat) {vs : List Nat} (h : ∀ v ∈ vs, v < 64)
    (hlength : vs.length < 4) {p : Nat} (hp : 0 < p) :
    decodeFrom offset (vs.map symbol ++ List.replicate p pad) =
      .error (paddingFault offset vs.length p) := by
  have hbytes : (vs.map symbol ++ List.replicate p pad).length = vs.length + p := by simp
  rw [paddingFault, Nat.mod_eq_of_lt hlength]
  by_cases hshort : vs.length + p ≤ 4
  · have hne : vs.map symbol ++ List.replicate p pad ≠ [] := List.ne_nil_of_length_pos (by omega)
    rw [decodeFrom_of_length_le offset hne (by omega), decodeTail, tailValues_padded offset 0 h hp,
      Nat.zero_add]
    split
    · next hfew => rw [if_neg (by omega), error_bind]
    · next hmany =>
      rw [if_pos (by omega), ok_bind]
      simp only [List.length_map, if_neg hmany, if_true]
  · -- a group of four with padding in it and something behind it
    rw [if_neg (by omega)]
    obtain ⟨q, rfl⟩ : ∃ q, p = q + (5 - vs.length) := ⟨p - (5 - vs.length), by omega⟩
    rcases vs with _ | ⟨u, _ | ⟨v, _ | ⟨w, _ | ⟨x, vs⟩⟩⟩⟩
    · simp [List.replicate_succ, decodeFrom, valueAt_pad]
    · have hu : u < 64 := by simpa using h
      simp [List.replicate_succ, decodeFrom, valueAt_symbol hu, valueAt_pad]
    · obtain ⟨hu, hv⟩ : u < 64 ∧ v < 64 := by simpa using h
      simp [List.replicate_succ, decodeFrom, valueAt_symbol hu, valueAt_symbol hv, valueAt_pad]
    · obtain ⟨hu, hv, hw⟩ : u < 64 ∧ v < 64 ∧ w < 64 := by simpa using h
      simp [List.replicate_succ, decodeFrom, valueAt_symbol hu, valueAt_symbol hv,
        valueAt_symbol hw, valueAt_pad]
    · simp only [List.length_cons] at hlength
      omega

/-- Reading gets as far as the padding, a group at a time, and no further. -/
theorem decodeFrom_padded (offset : Nat) (bs : Bytes) {p : Nat} (hp : 0 < p) :
    decodeFrom offset (encodeBytes bs ++ List.replicate p pad) =
      .error (paddingFault offset (encodeBytes bs).length p) := by
  induction bs using encodeBytes.induct generalizing offset with
  | case1 a b c rest ih =>
    obtain ⟨v, hv, w, hw, x, hx, y, hy, habc⟩ := exists_eq_triple a b c
    have hbytes : encodeBytes (a :: b :: c :: rest) =
        symbol v :: symbol w :: symbol x :: symbol y :: encodeBytes rest := by
      rw [← encodeBytes_triple hv hw hx hy, ← habc]
      rfl
    have hne : encodeBytes rest ++ List.replicate p pad ≠ [] :=
      List.append_ne_nil_of_right_ne_nil _ (by simpa using hp.ne')
    have hrest := ih (offset + 4)
    obtain ⟨e, more, hmore⟩ := List.exists_cons_of_ne_nil hne
    rw [hmore] at hrest
    rw [hbytes]
    simp only [List.cons_append, hmore]
    rw [decodeFrom_group hv hw hx hy, hrest, paddingFault_group]
    rfl
  | case2 a b =>
    obtain ⟨v, hv, w, hw, x, hx, n, hn, hbits, hab⟩ := exists_eq_pair a b
    have hvs : ∀ u ∈ [v, w, x], u < 64 := by simp [hv, hw, hx]
    rw [hab, encodeBytes_pair hv hw hx hn hbits]
    exact decodeFrom_symbols_padded offset hvs (by simp) hp
  | case3 a =>
    obtain ⟨v, hv, w, hw, n, hn, hbits, ha⟩ := exists_eq_single a
    have hvs : ∀ u ∈ [v, w], u < 64 := by simp [hv, hw]
    rw [ha, encodeBytes_single hv hw hn hbits]
    exact decodeFrom_symbols_padded offset hvs (by simp) hp
  | case4 => exact decodeFrom_symbols_padded offset (List.forall_mem_nil _) (by decide) hp

/-- An encoding with padding does not decode, and this is why. -/
theorem decode_padded (bs : Bytes) {p : Nat} (hp : 0 < p) :
    decode (encode bs ++ padding p) = .error (paddingFault 0 (encodeBytes bs).length p) := by
  have hlast : (encodeBytes bs ++ List.replicate p pad).getLast? = some pad := by
    rw [List.getLast?_append, List.getLast?_replicate, if_neg hp.ne']
    rfl
  rw [decode, utf8_append, utf8_encode, utf8_padding, decodeBytes, hlast]
  dsimp only
  rw [if_neg fun h ↦ h.2.1 rfl, decodeFrom_padded 0 bs hp]

/-- Of the texts whose stripped form is an encoding just the encoding itself decodes. -/
theorem decode_of_stripPadding {s : String} {bs : Bytes} (h : stripPadding s = encode bs) :
    decode s = .ok bs ∧ ¬Padded s ∨ ∃ p, 0 < p ∧ s = encode bs ++ padding p ∧ Padded s := by
  obtain ⟨p, hp⟩ := exists_eq_stripPadding_append s
  rw [h] at hp
  by_cases hpadded : Padded s
  · refine .inr ⟨p, Nat.pos_of_ne_zero ?_, hp, hpadded⟩
    rintro rfl
    refine stripPadding_eq_self_iff.1 ?_ hpadded
    rw [h, hp]
    exact (String.append_empty).symm
  · rw [stripPadding_eq_self_iff.2 hpadded] at h
    exact .inl ⟨decode_eq_ok_iff.2 h, hpadded⟩

end SignOn.Text.Base64Url

import Mathlib.Data.List.TakeWhile
import SignOn.Proofs.Outcome
import SignOn.Proofs.Text.Dotted
import SignOn.Proofs.Text.Utf8
import SignOn.Text.Base64Url

/-!
# base64url texts are canonical

Decoding undoes encoding, and a text decodes only if it is the encoding of what it decodes to: no
padding, no bits left over and no other alphabet is accepted. The statement for the whole text
follows from one for a group of four symbols and one for the two or three symbols at the end.
-/

namespace SignOn.Text.Base64Url

open Outcome

/-! ## Symbols -/

theorem symbol_lt {v : Nat} (h : v < 64) : (symbol v).toNat < 128 := by
  revert v
  decide

theorem value?_pad : value? pad = none := by decide

theorem valueAt_eq_ok_iff {offset v : Nat} {b : UInt8} :
    valueAt offset b = .ok v ↔ value? b = some v := by
  rw [valueAt]
  split <;> simp_all

/-- The last six bits of a number have a symbol. -/
theorem symbol_mod (n : Nat) : ∃ v < 64, symbol (n % 64) = symbol v :=
  ⟨n % 64, Nat.mod_lt n (by decide), rfl⟩

/-- Every byte of an encoding is the symbol of some value. -/
theorem mem_encodeBytes {bs : Bytes} {b : UInt8} (h : b ∈ encodeBytes bs) :
    ∃ v < 64, b = symbol v := by
  fun_induction encodeBytes bs with
  | case1 x y z rest n ih =>
    have hn : n < 16777216 := by
      have := x.toNat_lt
      have := y.toNat_lt
      have := z.toNat_lt
      show x.toNat * 65536 + y.toNat * 256 + z.toNat < 16777216
      omega
    simp only [List.mem_cons] at h
    rcases h with rfl | rfl | rfl | rfl | h
    · exact ⟨n / 262144, by omega, rfl⟩
    · exact symbol_mod (n / 4096)
    · exact symbol_mod (n / 64)
    · exact symbol_mod n
    · exact ih h
  | case2 x y n =>
    have hn : n < 262144 := by
      have := x.toNat_lt
      have := y.toNat_lt
      show x.toNat * 1024 + y.toNat * 4 < 262144
      omega
    simp only [List.mem_cons, List.not_mem_nil, or_false] at h
    rcases h with rfl | rfl | rfl
    · exact ⟨n / 4096, by omega, rfl⟩
    · exact symbol_mod (n / 64)
    · exact symbol_mod n
  | case3 x n =>
    have hn : n < 4096 := by
      have := x.toNat_lt
      show x.toNat * 16 < 4096
      omega
    simp only [List.mem_cons, List.not_mem_nil, or_false] at h
    rcases h with rfl | rfl
    · exact ⟨n / 64, by omega, rfl⟩
    · exact symbol_mod n
  | case4 => simp at h

theorem length_encodeBytes_le (bs : Bytes) : (encodeBytes bs).length ≤ 2 * bs.length := by
  fun_induction encodeBytes bs with
  | case1 x y z rest n ih =>
    simp only [List.length_cons]
    omega
  | case2 x y n => exact Nat.le_of_ble_eq_true rfl
  | case3 x n => exact Nat.le_refl 2
  | case4 => exact Nat.le_refl 0

theorem utf8_encode (bs : Bytes) : utf8 (encode bs) = encodeBytes bs := by
  apply utf8_ofAscii
  intro b hb
  obtain ⟨v, hv, rfl⟩ := mem_encodeBytes hb
  exact symbol_lt hv

/-! ## Groups of symbols and the bytes that they stand for -/

theorem ofNat_eq {n : Nat} {b : UInt8} (h : n = b.toNat) : UInt8.ofNat n = b := by
  rw [h, UInt8.ofNat_toNat]

/-- The number that four values make up. -/
def number (v w x y : Nat) : Nat := v * 262144 + w * 4096 + x * 64 + y

/-- The three bytes that four symbols stand for. -/
def triple (n : Nat) : Bytes :=
  [UInt8.ofNat (n / 65536), UInt8.ofNat (n / 256 % 256), UInt8.ofNat (n % 256)]

/-- The two bytes that three symbols stand for. -/
def pair (n : Nat) : Bytes := [UInt8.ofNat (n / 1024), UInt8.ofNat (n / 4 % 256)]

/-- The byte that two symbols stand for. -/
def single (n : Nat) : Bytes := [UInt8.ofNat (n / 16)]

theorem encodeBytes_triple {v w x y : Nat} (hv : v < 64) (hw : w < 64) (hx : x < 64)
    (hy : y < 64) (rest : Bytes) :
    encodeBytes (triple (number v w x y) ++ rest) =
      symbol v :: symbol w :: symbol x :: symbol y :: encodeBytes rest := by
  have hn : number v w x y < 16777216 := by
    rw [number]
    omega
  have hbytes : ∀ n < 16777216,
      n / 65536 % 256 * 65536 + n / 256 % 256 % 256 * 256 + n % 256 % 256 = n := by
    intro n hn
    omega
  simp only [triple, List.cons_append, List.nil_append, encodeBytes, UInt8.toNat_ofNat',
    Nat.reducePow, hbytes _ hn]
  have hv' : number v w x y / 262144 = v := by rw [number]; omega
  have hw' : number v w x y / 4096 % 64 = w := by rw [number]; omega
  have hx' : number v w x y / 64 % 64 = x := by rw [number]; omega
  have hy' : number v w x y % 64 = y := by rw [number]; omega
  rw [hv', hw', hx', hy']

theorem encodeBytes_pair {v w x n : Nat} (hv : v < 64) (hw : w < 64) (hx : x < 64)
    (hn : n = v * 4096 + w * 64 + x) (hbits : n % 4 = 0) :
    encodeBytes (pair n) = [symbol v, symbol w, symbol x] := by
  have hbytes : n / 1024 % 256 * 1024 + n / 4 % 256 % 256 * 4 = n := by omega
  simp only [pair, encodeBytes, UInt8.toNat_ofNat', Nat.reducePow, hbytes]
  have hv' : n / 4096 = v := by omega
  have hw' : n / 64 % 64 = w := by omega
  have hx' : n % 64 = x := by omega
  rw [hv', hw', hx']

theorem encodeBytes_single {v w n : Nat} (hv : v < 64) (hw : w < 64) (hn : n = v * 64 + w)
    (hbits : n % 16 = 0) : encodeBytes (single n) = [symbol v, symbol w] := by
  have hbytes : n / 16 % 256 * 16 = n := by omega
  simp only [single, encodeBytes, UInt8.toNat_ofNat', Nat.reducePow, hbytes]
  have hv' : n / 64 = v := by omega
  have hw' : n % 64 = w := by omega
  rw [hv', hw']

theorem exists_eq_triple (a b c : UInt8) :
    ∃ v < 64, ∃ w < 64, ∃ x < 64, ∃ y < 64, [a, b, c] = triple (number v w x y) := by
  have ha := a.toNat_lt
  have hb := b.toNat_lt
  have hc := c.toNat_lt
  let n := a.toNat * 65536 + b.toNat * 256 + c.toNat
  have hn : number (n / 262144) (n / 4096 % 64) (n / 64 % 64) (n % 64) = n := by
    rw [number]
    omega
  refine ⟨n / 262144, by omega, n / 4096 % 64, by omega, n / 64 % 64, by omega, n % 64,
    by omega, ?_⟩
  rw [hn, triple, ofNat_eq (b := a) (by omega), ofNat_eq (b := b) (by omega),
    ofNat_eq (b := c) (by omega)]

theorem exists_eq_pair (a b : UInt8) :
    ∃ v < 64, ∃ w < 64, ∃ x < 64, ∃ n, n = v * 4096 + w * 64 + x ∧ n % 4 = 0 ∧
      [a, b] = pair n := by
  have ha := a.toNat_lt
  have hb := b.toNat_lt
  let n := a.toNat * 1024 + b.toNat * 4
  refine ⟨n / 4096, by omega, n / 64 % 64, by omega, n % 64, by omega, n, by omega, by omega, ?_⟩
  rw [pair, ofNat_eq (b := a) (by omega), ofNat_eq (b := b) (by omega)]

theorem exists_eq_single (a : UInt8) :
    ∃ v < 64, ∃ w < 64, ∃ n, n = v * 64 + w ∧ n % 16 = 0 ∧ [a] = single n := by
  have ha := a.toNat_lt
  let n := a.toNat * 16
  refine ⟨n / 64, by omega, n % 64, by omega, n, by omega, by omega, ?_⟩
  rw [single, ofNat_eq (b := a) (by omega)]

/-! ## The end of a text -/

theorem tailValues_of_values {offset index : Nat} {bs : Bytes} {vs : List (UInt8 × Nat)}
    (hbs : bs = vs.map Prod.fst) (h : ∀ s ∈ vs, value? s.1 = some s.2) :
    tailValues offset index bs = .ok (vs, false) := by
  induction vs generalizing bs index with
  | nil => subst hbs; rfl
  | cons s vs ih =>
    subst hbs
    have hs : value? s.1 = some s.2 := h s (by simp)
    have hpad : s.1 ≠ pad := by
      intro e
      rw [e, value?_pad] at hs
      cases hs
    have hat : valueAt (offset + index) s.1 = .ok s.2 := valueAt_eq_ok_iff.2 hs
    rw [List.map_cons, tailValues, if_neg hpad, hat]
    show (tailValues offset (index + 1) (vs.map Prod.fst) >>= _) = _
    rw [ih rfl fun t ht ↦ h t (by simp [ht])]
    rfl

theorem values_of_tailValues {offset index : Nat} {bs : Bytes} {vs : List (UInt8 × Nat)}
    (h : tailValues offset index bs = .ok (vs, false)) :
    bs = vs.map Prod.fst ∧ ∀ s ∈ vs, value? s.1 = some s.2 := by
  induction bs generalizing index vs with
  | nil => cases h; simp
  | cons b bs ih =>
    rw [tailValues] at h
    split at h
    · split at h
      · cases h
      · split at h <;> cases h
    · obtain ⟨v, hv, h⟩ := bind_eq_ok_iff.1 h
      obtain ⟨⟨ws, padded⟩, hws, h⟩ := bind_eq_ok_iff.1 h
      cases h
      obtain ⟨rfl, hvs⟩ := ih hws
      refine ⟨rfl, fun s hs ↦ ?_⟩
      rcases List.mem_cons.1 hs with rfl | hs
      · exact valueAt_eq_ok_iff.1 hv
      · exact hvs s hs

theorem decodeTail_symbols (offset : Nat) (vs : List Nat) (hlen : 2 ≤ vs.length)
    (h : ∀ v ∈ vs, v < 64) :
    decodeTail offset (vs.map symbol) = tailBytes offset (vs.map fun v ↦ (symbol v, v)) := by
  have hvs : tailValues offset 0 (vs.map symbol) = .ok (vs.map fun v ↦ (symbol v, v), false) := by
    apply tailValues_of_values
    · simp
    · intro s hs
      obtain ⟨v, hv, rfl⟩ := List.mem_map.1 hs
      exact value?_symbol (h v hv)
  have hshort : ¬vs.length < 2 := Nat.not_lt.2 hlen
  rw [decodeTail, hvs, ok_bind]
  simp [hshort]

/-- A last group decodes only if it is made of symbols. -/
theorem values_of_decodeTail {offset : Nat} {cs bs : Bytes} (h : decodeTail offset cs = .ok bs) :
    ∃ vs : List (UInt8 × Nat), cs = vs.map Prod.fst ∧ (∀ s ∈ vs, value? s.1 = some s.2) ∧
      tailBytes offset vs = .ok bs := by
  obtain ⟨⟨vs, padded⟩, hvs, h⟩ := bind_eq_ok_iff.1 h
  simp only at h
  split at h
  · cases h
  · split at h
    · cases h
    · rename_i hpadded
      obtain rfl : padded = false := by simpa using hpadded
      obtain ⟨hcs, hvalues⟩ := values_of_tailValues hvs
      exact ⟨vs, hcs, hvalues, h⟩

theorem eq_encodeBytes_of_tailBytes {offset : Nat} {vs : List (UInt8 × Nat)} {bs : Bytes}
    (h : ∀ s ∈ vs, symbol s.2 = s.1 ∧ s.2 < 64) (hbs : tailBytes offset vs = .ok bs) :
    vs.map Prod.fst = encodeBytes bs := by
  rw [tailBytes.eq_def] at hbs
  split at hbs
  · simp only [List.mem_cons, List.not_mem_nil, or_false, forall_eq_or_imp, forall_eq] at h
    obtain ⟨⟨rfl, hv⟩, ⟨rfl, hw⟩, ⟨rfl, hx⟩, ⟨rfl, hy⟩⟩ := h
    cases hbs
    exact (encodeBytes_triple hv hw hx hy []).symm
  · simp only [List.mem_cons, List.not_mem_nil, or_false, forall_eq_or_imp, forall_eq] at h
    obtain ⟨⟨rfl, hv⟩, ⟨rfl, hw⟩, ⟨rfl, hx⟩⟩ := h
    simp only at hbs
    split at hbs
    · cases hbs
      exact (encodeBytes_pair hv hw hx rfl ‹_›).symm
    · cases hbs
  · simp only [List.mem_cons, List.not_mem_nil, or_false, forall_eq_or_imp, forall_eq] at h
    obtain ⟨⟨rfl, hv⟩, ⟨rfl, hw⟩⟩ := h
    simp only at hbs
    split at hbs
    · cases hbs
      exact (encodeBytes_single hv hw rfl ‹_›).symm
    · cases hbs
  · cases hbs

/-- A last group is the encoding of what it decodes to. -/
theorem eq_encodeBytes_of_decodeTail {offset : Nat} {cs bs : Bytes}
    (h : decodeTail offset cs = .ok bs) : cs = encodeBytes bs := by
  obtain ⟨vs, rfl, hvs, hbs⟩ := values_of_decodeTail h
  exact eq_encodeBytes_of_tailBytes (fun s hs ↦ symbol_of_value? (hvs s hs)) hbs

/-- The encoding of one, two or three bytes decodes to them. -/
theorem decodeTail_encodeBytes {offset : Nat} {bs : Bytes} (hne : bs ≠ []) (hlen : bs.length ≤ 3) :
    decodeTail offset (encodeBytes bs) = .ok bs := by
  match bs, hne, hlen with
  | [a], _, _ =>
    obtain ⟨v, hv, w, hw, n, hn, hbits, ha⟩ := exists_eq_single a
    have h := decodeTail_symbols offset [v, w] (by simp) (by simp [hv, hw])
    rw [ha, encodeBytes_single hv hw hn hbits]
    simpa [tailBytes, ← hn, hbits, single] using h
  | [a, b], _, _ =>
    obtain ⟨v, hv, w, hw, x, hx, n, hn, hbits, hab⟩ := exists_eq_pair a b
    have h := decodeTail_symbols offset [v, w, x] (by simp)
      (by simp [hv, hw, hx])
    rw [hab, encodeBytes_pair hv hw hx hn hbits]
    simpa [tailBytes, ← hn, hbits, pair] using h
  | [a, b, c], _, _ =>
    obtain ⟨v, hv, w, hw, x, hx, y, hy, habc⟩ := exists_eq_triple a b c
    have h := decodeTail_symbols offset [v, w, x, y] (by simp)
      (by simp [hv, hw, hx, hy])
    have hsymbols := encodeBytes_triple hv hw hx hy []
    rw [List.append_nil] at hsymbols
    rw [habc, hsymbols]
    exact h

/-! ## Whole texts -/

theorem encodeBytes_eq_nil_iff {bs : Bytes} : encodeBytes bs = [] ↔ bs = [] := by
  fun_cases encodeBytes bs <;> simp

/-- No more than four symbols encode no more than three bytes. -/
theorem length_le_three_of_short {bs : Bytes}
    (h : ∀ a b c d e rest, encodeBytes bs ≠ a :: b :: c :: d :: e :: rest) : bs.length ≤ 3 := by
  match bs, h with
  | p :: q :: r :: s :: more, h =>
    obtain ⟨e, rest, hmore⟩ : ∃ e rest, encodeBytes (s :: more) = e :: rest :=
      List.exists_cons_of_ne_nil fun h ↦ by simpa using encodeBytes_eq_nil_iff.1 h
    rw [encodeBytes, hmore] at h
    exact absurd rfl (h _ _ _ _ _ _)
  | [p, q, r], _ | [p, q], _ | [p], _ | [], _ => simp

/-- Reading a whole group goes on behind it, if anything follows. -/
theorem decodeFrom_group {offset v w x y : Nat} (hv : v < 64) (hw : w < 64) (hx : x < 64)
    (hy : y < 64) (e : UInt8) (rest : Bytes) :
    decodeFrom offset (symbol v :: symbol w :: symbol x :: symbol y :: e :: rest) =
      (triple (number v w x y) ++ ·) <$> decodeFrom (offset + 4) (e :: rest) := by
  have hat : ∀ {offset v : Nat}, v < 64 → valueAt offset (symbol v) = .ok v :=
    fun h ↦ valueAt_eq_ok_iff.2 (value?_symbol h)
  rw [decodeFrom, hat hv, hat hw, hat hx, hat hy]
  cases decodeFrom (offset + 4) (e :: rest) <;> rfl

/-- Bytes decode exactly if they are the encoding of what they decode to. -/
theorem decodeFrom_eq_ok_iff {offset : Nat} {cs bs : Bytes} :
    decodeFrom offset cs = .ok bs ↔ cs = encodeBytes bs := by
  induction offset, cs using decodeFrom.induct generalizing bs with
  | case1 offset a b c d e rest ih =>
    constructor
    · intro h
      obtain ⟨v, hv, h⟩ := bind_eq_ok_iff.1 h
      obtain ⟨w, hw, h⟩ := bind_eq_ok_iff.1 h
      obtain ⟨x, hx, h⟩ := bind_eq_ok_iff.1 h
      obtain ⟨y, hy, h⟩ := bind_eq_ok_iff.1 h
      obtain ⟨more, hmore, h⟩ := bind_eq_ok_iff.1 h
      cases h
      obtain ⟨rfl, v_lt⟩ := symbol_of_value? (valueAt_eq_ok_iff.1 hv)
      obtain ⟨rfl, w_lt⟩ := symbol_of_value? (valueAt_eq_ok_iff.1 hw)
      obtain ⟨rfl, x_lt⟩ := symbol_of_value? (valueAt_eq_ok_iff.1 hx)
      obtain ⟨rfl, y_lt⟩ := symbol_of_value? (valueAt_eq_ok_iff.1 hy)
      rw [ih.1 hmore]
      exact (encodeBytes_triple v_lt w_lt x_lt y_lt more).symm
    · intro h
      match bs, h with
      | p :: q :: r :: more, h =>
        obtain ⟨v, hv, w, hw, x, hx, y, hy, hpqr⟩ := exists_eq_triple p q r
        have hbs : p :: q :: r :: more = triple (number v w x y) ++ more := by
          rw [← hpqr]
          rfl
        rw [hbs, encodeBytes_triple hv hw hx hy] at h
        simp only [List.cons.injEq] at h
        obtain ⟨rfl, rfl, rfl, rfl, hmore⟩ := h
        rw [decodeFrom_group hv hw hx hy, ih.2 hmore, hbs]
        rfl
      | [p, q], h => simp [encodeBytes] at h
      | [p], h => simp [encodeBytes] at h
      | [], h => simp [encodeBytes] at h
  | case2 offset =>
    rw [decodeFrom, eq_comm (a := []), encodeBytes_eq_nil_iff, Except.ok.injEq, eq_comm]
  | case3 offset cs hshort hne =>
    have htail : decodeFrom offset cs = decodeTail offset cs := by
      rw [decodeFrom.eq_def]
      split
      · exact (hshort _ _ _ _ _ _ rfl).elim
      · exact (hne rfl).elim
      · rfl
    rw [htail]
    constructor
    · exact eq_encodeBytes_of_decodeTail
    · rintro rfl
      exact decodeTail_encodeBytes (fun h ↦ hne (encodeBytes_eq_nil_iff.2 h))
        (length_le_three_of_short hshort)

theorem decodeBytes_eq_ok_iff {cs bs : Bytes} : decodeBytes cs = .ok bs ↔ cs = encodeBytes bs := by
  rw [decodeBytes]
  split
  · rename_i b hlast
    split
    · rename_i hodd
      constructor
      · intro h
        cases h
      · rintro rfl
        obtain ⟨v, hv, rfl⟩ := mem_encodeBytes (List.mem_of_getLast? hlast)
        rw [value?_symbol hv] at hodd
        simp at hodd
    · exact decodeFrom_eq_ok_iff
  · rename_i hlast
    rw [List.getLast?_eq_none_iff.1 hlast, eq_comm (a := []), encodeBytes_eq_nil_iff,
      Except.ok.injEq, eq_comm]

theorem decode_eq_ok_iff {s : String} {bs : Bytes} : decode s = .ok bs ↔ s = encode bs := by
  rw [decode, decodeBytes_eq_ok_iff, ← utf8_encode]
  exact ⟨fun h ↦ utf8_injective h, fun h ↦ by rw [h]⟩

@[simp] theorem decode_encode (bs : Bytes) : decode (encode bs) = .ok bs :=
  decode_eq_ok_iff.2 rfl

theorem decode?_eq_some_iff {s : String} {bs : Bytes} : decode? s = some bs ↔ s = encode bs := by
  rw [← decode_eq_ok_iff, decode?]
  cases decode s <;> simp [Except.toOption]

@[simp] theorem decode?_encode (bs : Bytes) : decode? (encode bs) = some bs :=
  decode?_eq_some_iff.2 rfl

theorem encode_injective {bs cs : Bytes} (h : encode bs = encode cs) : bs = cs := by
  have hbs := decode?_encode bs
  rw [h, decode?_encode] at hbs
  exact (Option.some.inj hbs).symm

/-- Every character of an encoding is the symbol of some value. -/
theorem exists_of_mem_encode {bs : Bytes} {c : Char} (h : c ∈ (encode bs).toList) :
    ∃ v < 64, c = Char.ofNat (symbol v).toNat := by
  rw [encode, ofAscii, String.toList_ofList, List.mem_map] at h
  obtain ⟨b, hb, rfl⟩ := h
  obtain ⟨v, hv, rfl⟩ := mem_encodeBytes hb
  exact ⟨v, hv, rfl⟩

/-- No symbol is a dot, so an encoding can stand as a segment. -/
theorem dotless_encode (bs : Bytes) : Dotted.Dotless (encode bs) := by
  intro hdot
  obtain ⟨v, hv, hc⟩ := exists_of_mem_encode hdot
  have hsymbol : ∀ v < 64, '.' ≠ Char.ofNat (symbol v).toNat := by decide
  exact hsymbol v hv hc

/-- Encodings that are joined with dots fall apart again. -/
theorem split_join_encode {parts : List Bytes} (hne : parts ≠ []) :
    Dotted.split (Dotted.join (parts.map encode)) = parts.map encode := by
  refine Dotted.split_join (by simpa using hne) fun segment hsegment ↦ ?_
  obtain ⟨bs, -, rfl⟩ := List.mem_map.1 hsegment
  exact dotless_encode bs

/-- An encoding has no padding that could be passed over. -/
theorem stripPadding_encode (bs : Bytes) : stripPadding (encode bs) = encode bs := by
  have hsymbol : ∀ v < 64, Char.ofNat (symbol v).toNat ≠ '=' := by decide
  have hnone : (encode bs).toList.reverse.dropWhile (· = '=') = (encode bs).toList.reverse := by
    rw [List.dropWhile_eq_self_iff]
    intro hpos
    obtain ⟨v, hv, hc⟩ := exists_of_mem_encode (List.mem_reverse.1 (List.getElem_mem hpos))
    rw [hc, decide_eq_true_eq]
    exact hsymbol v hv
  rw [stripPadding, hnone, List.reverse_reverse, String.ofList_toList]

/-! ## Messages -/

theorem toString_injective {m n : Nat} (h : toString m = toString n) : m = n := by
  have hdigits : Nat.toDigits 10 m = Nat.toDigits 10 n := by
    rw [← Nat.toList_repr, ← Nat.toList_repr]
    exact congrArg String.toList h
  rw [← Nat.ofDigitChars_ten_toDigits (n := m), hdigits, Nat.ofDigitChars_ten_toDigits]

theorem isDigit_of_mem_toString {n : Nat} : ∀ c ∈ (toString n).toList, c.isDigit = true :=
  fun _ hc ↦ Nat.isDigit_of_mem_toDigits (by decide) (by decide) (Nat.toList_repr ▸ hc)

/-- Digits in front of a comma can be told from what follows. -/
theorem digits_append_inj {ds ds' rest rest' : List Char} (hds : ∀ c ∈ ds, c.isDigit = true)
    (hds' : ∀ c ∈ ds', c.isDigit = true) (h : ds ++ ',' :: rest = ds' ++ ',' :: rest') :
    ds = ds' ∧ rest = rest' := by
  have htake {ds : List Char} (hds : ∀ c ∈ ds, c.isDigit = true) (rest : List Char) :
      (ds ++ ',' :: rest).takeWhile Char.isDigit = ds := by
    rw [List.takeWhile_append_of_pos hds]
    exact List.append_nil ds
  have hdigits : ds = ds' := by rw [← htake hds rest, h, htake hds' rest']
  subst hdigits
  exact ⟨rfl, (List.cons.inj (List.append_cancel_left h)).2⟩

/-- What stands behind the words of a message about a symbol. -/
def place (b : UInt8) (i : Nat) : String := toString b.toNat ++ (", offset " ++ (toString i ++ "."))

theorem place_inj {b b' : UInt8} {i i' : Nat} (h : place b i = place b' i') : b = b' ∧ i = i' := by
  have hcomma : ", offset ".toList = ',' :: " offset ".toList := rfl
  simp only [place, ← String.toList_inj, String.toList_append, hcomma, List.cons_append] at h
  obtain ⟨hb, hi⟩ := digits_append_inj isDigit_of_mem_toString isDigit_of_mem_toString h
  have hi' := List.append_cancel_right (List.append_cancel_left hi)
  exact ⟨UInt8.toNat_inj.1 (toString_injective (String.toList_inj.1 hb)),
    toString_injective (String.toList_inj.1 hi')⟩

namespace Error

/-- The words that a message starts with. -/
def opening : Error → String
  | .symbol _ _ => "Invalid symbol "
  | .lastSymbol _ _ => "Invalid last symbol "
  | .length _ => "Invalid input length: "
  | .padding => "Invalid padding"

/-- What stands behind these words. -/
def details : Error → String
  | .symbol b i | .lastSymbol b i => place b i
  | .length n => toString n
  | .padding => ""

/-- The ninth character of these words, by which they differ. -/
def initial : Error → Char
  | .symbol _ _ => 's'
  | .lastSymbol _ _ => 'l'
  | .length _ => 'i'
  | .padding => 'p'

theorem message_eq (e : Error) : e.message = e.opening ++ e.details := by
  cases e with
  | symbol b i =>
    show "Invalid symbol " ++ toString b.toNat ++ ", offset " ++ toString i ++ "." =
      "Invalid symbol " ++ place b i
    simp only [place, String.append_assoc]
  | lastSymbol b i =>
    show "Invalid last symbol " ++ toString b.toNat ++ ", offset " ++ toString i ++ "." =
      "Invalid last symbol " ++ place b i
    simp only [place, String.append_assoc]
  | length n => rfl
  | padding => rfl

theorem getElem?_message (e : Error) : e.message.toList[8]? = some e.initial := by
  have hopening : e.opening.toList[8]? = some e.initial := by
    cases e with
    | symbol => exact (by decide : "Invalid symbol ".toList[8]? = some 's')
    | lastSymbol => exact (by decide : "Invalid last symbol ".toList[8]? = some 'l')
    | length => exact (by decide : "Invalid input length: ".toList[8]? = some 'i')
    | padding => exact (by decide : "Invalid padding".toList[8]? = some 'p')
  obtain ⟨hlt, -⟩ := List.getElem?_eq_some_iff.1 hopening
  rw [message_eq, String.toList_append, List.getElem?_append_left hlt, hopening]

/-- A message tells all that there is to tell of a fault. -/
theorem message_injective : Function.Injective message := by
  intro e e' h
  have hinitial : e.initial = e'.initial := by
    rw [← Option.some_inj, ← getElem?_message, ← getElem?_message, h]
  rw [message_eq, message_eq] at h
  cases e <;> cases e' <;> simp only [initial, Char.reduceEq] at hinitial
  case symbol.symbol =>
    obtain ⟨rfl, rfl⟩ := place_inj ((String.append_right_inj _).1 h)
    rfl
  case lastSymbol.lastSymbol =>
    obtain ⟨rfl, rfl⟩ := place_inj ((String.append_right_inj _).1 h)
    rfl
  case length.length => exact congrArg length (toString_injective ((String.append_right_inj _).1 h))
  case padding.padding => rfl

end Error

end SignOn.Text.Base64Url

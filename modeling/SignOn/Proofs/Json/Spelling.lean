import SignOn.Json.Reader
import SignOn.Json.Value
import SignOn.Proofs.Outcome
import SignOn.Proofs.Text.Utf8

/-!
# Strings and integers read back as they were written

A string is read in pieces, and its text is put together from them afterwards. Every character is
written so that its own pieces come first and denote just its bytes, whatever follows. An integer
is written by its decimal digits, without a leading zero.
-/

namespace SignOn.Json

open Text Reader Outcome

/-- The bytes of characters. -/
def charBytes (cs : List Char) : Bytes := cs.flatMap String.utf8EncodeChar

@[simp] theorem charBytes_nil : charBytes [] = [] := rfl

@[simp] theorem charBytes_append (cs ds : List Char) :
    charBytes (cs ++ ds) = charBytes cs ++ charBytes ds := List.flatMap_append

theorem charBytes_cons (c : Char) (cs : List Char) :
    charBytes (c :: cs) = String.utf8EncodeChar c ++ charBytes cs := rfl

theorem charBytes_cons_of_lt {c : Char} (h : c.toNat < 128) (cs : List Char) :
    charBytes (c :: cs) = UInt8.ofNat c.toNat :: charBytes cs := by
  rw [charBytes_cons, utf8EncodeChar_of_lt h]
  rfl

theorem utf8_text (v : Value) : utf8 v.text = charBytes v.write := by
  rw [Value.text, utf8_ofList]
  rfl

/-! ## Characters inside a string -/

/-- The pieces that a written character is read in. -/
def piecesOf (c : Char) : List Piece :=
  if c.toNat < 32 ∧ c ∉ ['\x08', '\t', '\n', '\x0c', '\r'] then [.unit c.toNat]
  else (String.utf8EncodeChar c).map .byte

/-- Bytes that stand for themselves are read one by one. -/
theorem pieces_plain {bs : Bytes} (h : ∀ b ∈ bs, 32 ≤ b.toNat ∧ b ≠ 34 ∧ b ≠ 92) (rest : Bytes) :
    pieces (bs ++ rest) = (pieces rest).map fun x ↦ (bs.map .byte ++ x.1, x.2) := by
  induction bs with
  | nil => simp
  | cons b bs ih =>
    obtain ⟨hle, hmark, hback⟩ := h b (by simp)
    have hlow : ¬(b < 32 ∨ b = 92) := by
      rintro (hlt | rfl)
      · have : b.toNat < 32 := UInt8.lt_iff_toNat_lt.1 hlt
        omega
      · exact hback rfl
    rw [List.cons_append, pieces.eq_4 b (bs ++ rest) hmark (fun _ _ _ _ _ e ↦ absurd e hback)
      (fun _ _ e ↦ absurd e hback), if_neg hlow, ih fun c hc ↦ h c (by simp [hc])]
    cases pieces rest <;> rfl

theorem hexDigit?_digitChar {n : Nat} (h : n < 16) :
    hexDigit? (UInt8.ofNat (Nat.digitChar n).toNat) = some n := by
  revert n
  decide

theorem toNat_digitChar_lt {n : Nat} (h : n < 16) : (Nat.digitChar n).toNat < 128 := by
  revert n
  decide

/-- A control is read as the unit of its number. -/
theorem pieces_control {n : Nat} (h : n < 32) (rest : Bytes) :
    pieces (charBytes ('\\' :: 'u' :: '0' :: '0' :: Value.hexPair n) ++ rest) =
      (pieces rest).map fun x ↦ (.unit n :: x.1, x.2) := by
  have hbytes : charBytes ('\\' :: 'u' :: '0' :: '0' :: Value.hexPair n) =
      [92, 117, 48, 48, UInt8.ofNat (Nat.digitChar (n / 16)).toNat,
        UInt8.ofNat (Nat.digitChar (n % 16)).toNat] := by
    rw [Value.hexPair, charBytes_cons_of_lt (by decide), charBytes_cons_of_lt (by decide),
      charBytes_cons_of_lt (by decide), charBytes_cons_of_lt (by decide),
      charBytes_cons_of_lt (toNat_digitChar_lt (by omega)),
      charBytes_cons_of_lt (toNat_digitChar_lt (by omega))]
    rfl
  have hzero : hexDigit? 48 = some 0 := by decide
  have hnumber : 0 * 4096 + 0 * 256 + n / 16 * 16 + n % 16 = n := by omega
  rw [hbytes]
  simp only [List.cons_append, List.nil_append, pieces.eq_2, hzero,
    hexDigit?_digitChar (show n / 16 < 16 by omega),
    hexDigit?_digitChar (show n % 16 < 16 by omega), Option.bind_eq_bind, Option.bind_some, hnumber]
  cases pieces rest <;> rfl

/-- A character with a short escape is read as the byte that the escape stands for. -/
theorem pieces_escape {b e : UInt8} (hb : b ≠ 117) (he : escape? b = some e) (rest : Bytes) :
    pieces (92 :: b :: rest) = (pieces rest).map fun x ↦ (.byte e :: x.1, x.2) := by
  rw [pieces.eq_3 b rest (fun _ _ _ _ _ h ↦ absurd h hb), he]
  cases pieces rest <;> rfl

/-- The bytes of a character that needs no escape need none. -/
theorem plain_of_mem_utf8EncodeChar {c : Char} (hlow : ¬c.toNat < 32) (hmark : c ≠ '"')
    (hback : c ≠ '\\') {b : UInt8} (hb : b ∈ String.utf8EncodeChar c) :
    32 ≤ b.toNat ∧ b ≠ 34 ∧ b ≠ 92 := by
  by_cases hc : c.toNat < 128
  · rw [utf8EncodeChar_of_lt hc, List.mem_singleton] at hb
    have hn : b.toNat = c.toNat := by
      rw [hb, UInt8.toNat_ofNat']
      omega
    refine ⟨by omega, ?_, ?_⟩
    · rintro rfl
      exact hmark (Char.toNat_inj.1 hn.symm)
    · rintro rfl
      exact hback (Char.toNat_inj.1 hn.symm)
  · have hle := le_of_mem_utf8EncodeChar (Nat.not_lt.1 hc) hb
    refine ⟨by omega, ?_, ?_⟩
    · rintro rfl
      exact absurd hle (by decide)
    · rintro rfl
      exact absurd hle (by decide)

/-- A character written inside a string is read first, in its own pieces. -/
theorem pieces_writeChar (c : Char) (rest : Bytes) :
    pieces (charBytes (Value.writeChar c) ++ rest) =
      (pieces rest).map fun x ↦ (piecesOf c ++ x.1, x.2) := by
  rw [Value.writeChar]
  split
  · subst_vars; exact pieces_escape (b := 34) (by decide) rfl rest
  split
  · subst_vars; exact pieces_escape (b := 92) (by decide) rfl rest
  split
  · subst_vars; exact pieces_escape (b := 98) (by decide) rfl rest
  split
  · subst_vars; exact pieces_escape (b := 116) (by decide) rfl rest
  split
  · subst_vars; exact pieces_escape (b := 110) (by decide) rfl rest
  split
  · subst_vars; exact pieces_escape (b := 102) (by decide) rfl rest
  split
  · subst_vars; exact pieces_escape (b := 114) (by decide) rfl rest
  split
  · rename_i hlow
    have hpieces : piecesOf c = [.unit c.toNat] := by simp_all [piecesOf]
    rw [pieces_control hlow, hpieces]
    rfl
  · rename_i hmark hback _ _ _ _ _ hlow
    have hpieces : piecesOf c = (String.utf8EncodeChar c).map .byte := by simp [piecesOf, hlow]
    rw [charBytes_cons, charBytes_nil, List.append_nil, hpieces]
    exact pieces_plain (fun b hb ↦ plain_of_mem_utf8EncodeChar hlow hmark hback hb) rest

/-- The pieces of a character denote its bytes. -/
theorem pieceBytes_piecesOf (c : Char) (ps : List Piece) :
    pieceBytes (piecesOf c ++ ps) = (String.utf8EncodeChar c ++ ·) <$> pieceBytes ps := by
  have hbytes : ∀ bs : Bytes,
      pieceBytes (bs.map .byte ++ ps) = (bs ++ ·) <$> pieceBytes ps := by
    intro bs
    induction bs with
    | nil =>
      rw [List.map_nil, List.nil_append]
      cases pieceBytes ps <;> rfl
    | cons b bs ih =>
      rw [List.map_cons, List.cons_append, pieceBytes, ih]
      cases pieceBytes ps <;> rfl
  rw [piecesOf]
  split
  · rename_i h
    have hhigh : isHighSurrogate c.toNat = false := by simp [isHighSurrogate]; omega
    have hlow : isLowSurrogate c.toNat = false := by simp [isLowSurrogate]; omega
    cases ps with
    | nil => simp [pieceBytes, hhigh, hlow]
    | cons p ps => cases p <;> simp [pieceBytes, hhigh, hlow]
  · exact hbytes _

theorem pieces_writeChars (cs : List Char) (rest : Bytes) :
    pieces (charBytes (cs.flatMap Value.writeChar) ++ 34 :: rest) =
      some (cs.flatMap piecesOf, rest) := by
  induction cs with
  | nil => rfl
  | cons c cs ih =>
    rw [List.flatMap_cons, charBytes_append, List.append_assoc, pieces_writeChar, ih]
    rfl

theorem pieceBytes_flatMap (cs : List Char) :
    pieceBytes (cs.flatMap piecesOf) = .ok (charBytes cs) := by
  induction cs with
  | nil => rfl
  | cons c cs ih =>
    rw [List.flatMap_cons, pieceBytes_piecesOf, ih]
    rfl

/-- A written string is read up to its closing mark, and denotes its text. -/
theorem pieces_writeString (s : String) (rest : Bytes) :
    ∃ ps, pieces (charBytes (s.toList.flatMap Value.writeChar) ++ 34 :: rest) = some (ps, rest) ∧
      pieceText ps = .ok s := by
  refine ⟨_, pieces_writeChars s.toList rest, ?_⟩
  have hbytes : charBytes s.toList = utf8 s := (utf8_eq_flatMap s).symm
  rw [pieceText, pieceBytes_flatMap, hbytes, ok_bind, ofUtf8?_utf8]

/-! ## Integers -/

/-- The decimal digits of a number, the first of which is not zero unless it is the only one. -/
def decimalDigits (n : Nat) : List Nat :=
  if n < 10 then [n] else decimalDigits (n / 10) ++ [n % 10]

theorem toDigits_eq_map (n : Nat) :
    Nat.toDigits 10 n = (decimalDigits n).map Nat.digitChar := by
  fun_induction decimalDigits n with
  | case1 n h => rw [Nat.toDigits_of_lt_base h]; rfl
  | case2 n h ih =>
    rw [Nat.toDigits_of_base_le (by decide) (Nat.not_lt.1 h), ih]
    simp

theorem lt_of_mem_decimalDigits {n d : Nat} (h : d ∈ decimalDigits n) : d < 10 := by
  fun_induction decimalDigits n with
  | case1 n hn => simp_all
  | case2 n hn ih =>
    rcases List.mem_append.1 h with h | h
    · exact ih h
    · obtain rfl := List.mem_singleton.1 h
      exact Nat.mod_lt _ (by decide)

theorem ofDigits_decimalDigits (n : Nat) : Numeral.ofDigits (decimalDigits n) = n := by
  fun_induction decimalDigits n with
  | case1 n h => simp [Numeral.ofDigits]
  | case2 n h ih =>
    rw [Numeral.ofDigits] at ih ⊢
    rw [List.foldl_append, ih]
    simp only [List.foldl_cons, List.foldl_nil]
    omega

theorem decimalDigits_eq_cons (n : Nat) :
    ∃ d ds, decimalDigits n = d :: ds ∧ (d = 0 → ds = []) := by
  fun_induction decimalDigits n with
  | case1 n h => exact ⟨n, [], rfl, fun _ ↦ rfl⟩
  | case2 n h ih =>
    obtain ⟨d, ds, hds, hzero⟩ := ih
    refine ⟨d, ds ++ [n % 10], by rw [hds]; rfl, fun hd ↦ ?_⟩
    -- a leading zero would make up the whole of `n / 10`
    have hsum := ofDigits_decimalDigits (n / 10)
    rw [hds, hzero hd, hd] at hsum
    simp only [Numeral.ofDigits, List.foldl_cons, List.foldl_nil] at hsum
    omega

/-- How an integer is spelled. -/
def Numeral.ofInt (n : Int) : Numeral := ⟨decide (n < 0), decimalDigits n.natAbs, [], none⟩

/-- Nothing, a blank or the end of an item follows, so a number ends here. -/
def Ends (rest : Bytes) : Prop := ∀ b ∈ rest.head?, b = 10 ∨ b = 32 ∨ b = 44 ∨ b = 93 ∨ b = 125

theorem digits_of_ends {rest : Bytes} (h : Ends rest) : digits rest = ([], rest) := by
  match rest, h with
  | [], _ => rfl
  | b :: rest, h =>
    have hb : b = 10 ∨ b = 32 ∨ b = 44 ∨ b = 93 ∨ b = 125 := h b rfl
    rcases hb with rfl | rfl | rfl | rfl | rfl <;> rfl

theorem digit?_digitChar {d : Nat} (h : d < 10) :
    digit? (UInt8.ofNat (Nat.digitChar d).toNat) = some d := by
  revert d
  decide

theorem digits_digitChars {ds : List Nat} (h : ∀ d ∈ ds, d < 10) {rest : Bytes}
    (hrest : Ends rest) :
    digits (charBytes (ds.map Nat.digitChar) ++ rest) = (ds, rest) := by
  induction ds with
  | nil => exact digits_of_ends hrest
  | cons d ds ih =>
    have hd : d < 10 := h d (by simp)
    rw [List.map_cons, charBytes_cons_of_lt (toNat_digitChar_lt (by omega)), List.cons_append,
      digits, digit?_digitChar hd]
    simp only [ih fun e he ↦ h e (by simp [he])]

theorem whole?_digitChars (n : Nat) {rest : Bytes} (hrest : Ends rest) :
    whole? (charBytes ((decimalDigits n).map Nat.digitChar) ++ rest) =
      some (decimalDigits n, rest) := by
  rw [whole?, digits_digitChars (fun d hd ↦ lt_of_mem_decimalDigits hd) hrest]
  obtain ⟨d, ds, hds, hzero⟩ := decimalDigits_eq_cons n
  rw [hds]
  match d, ds, hzero with
  | 0, [], _ => rfl
  | 0, _ :: _, hzero => cases hzero rfl
  | _ + 1, _, _ => rfl

theorem fraction?_of_ends {rest : Bytes} (h : Ends rest) : fraction? rest = some ([], rest) := by
  match rest, h with
  | [], _ => rfl
  | b :: rest, h =>
    have hb : b = 10 ∨ b = 32 ∨ b = 44 ∨ b = 93 ∨ b = 125 := h b rfl
    rcases hb with rfl | rfl | rfl | rfl | rfl <;> rfl

theorem exponent?_of_ends {rest : Bytes} (h : Ends rest) :
    exponent? rest = some (none, rest) := by
  match rest, h with
  | [], _ => rfl
  | b :: rest, h =>
    have hb : b = 10 ∨ b = 32 ∨ b = 44 ∨ b = 93 ∨ b = 125 := h b rfl
    rcases hb with rfl | rfl | rfl | rfl | rfl <;> rfl

theorem toList_toString_int (n : Int) :
    (toString n).toList = (if n < 0 then ['-'] else []) ++
      (decimalDigits n.natAbs).map Nat.digitChar := by
  rw [Int.toString_eq_repr, Int.repr_eq_if]
  split
  · have habs : n.toNat = n.natAbs := by omega
    rw [if_neg (by omega), Nat.toList_repr, toDigits_eq_map, habs]
    rfl
  · have habs : (-n).toNat = n.natAbs := by omega
    rw [if_pos (by omega), String.toList_append, Nat.toList_repr, toDigits_eq_map, habs]
    rfl

/-- The digits of a number do not start with a sign. -/
theorem charBytes_digitChars_eq_cons (n : Nat) :
    ∃ b bs, charBytes ((decimalDigits n).map Nat.digitChar) = b :: bs ∧ ∃ d, digit? b = some d := by
  obtain ⟨d, ds, hds, -⟩ := decimalDigits_eq_cons n
  have hd : d < 10 := lt_of_mem_decimalDigits (n := n) (by simp [hds])
  refine ⟨_, charBytes (ds.map Nat.digitChar), ?_, d, digit?_digitChar hd⟩
  rw [hds, List.map_cons, charBytes_cons_of_lt (toNat_digitChar_lt (by omega))]

/-- A written integer is read as it is spelled. -/
theorem numeral?_int (n : Int) {rest : Bytes} (hrest : Ends rest) :
    numeral? (charBytes (toString n).toList ++ rest) = some (.ofInt n, rest) := by
  have hwhole := whole?_digitChars n.natAbs hrest
  obtain ⟨b, bs, hbs, d, hd⟩ := charBytes_digitChars_eq_cons n.natAbs
  have hsign : b ≠ 45 := by
    rintro rfl
    cases hd
  rw [toList_toString_int, charBytes_append]
  rw [hbs] at hwhole ⊢
  split
  · have hminus : charBytes ['-'] = [45] := rfl
    simp_all [numeral?, Numeral.ofInt, fraction?_of_ends, exponent?_of_ends]
  · simp_all [numeral?, Numeral.ofInt, fraction?_of_ends, exponent?_of_ends]

/-- An integer of 64 bits, with a sign or without, is what its spelling stands for. -/
theorem number?_ofInt {n : Int} (hmin : -Nat.pow 2 63 ≤ n) (hmax : n < Nat.pow 2 64) :
    (Numeral.ofInt n).number? = some (.int n) := by
  simp only [Numeral.number?, Numeral.ofInt, ofDigits_decimalDigits, and_self, if_true,
    decide_eq_true_eq]
  split
  · rw [if_pos (by omega)]
    congr 2
    omega
  · rw [if_pos (by omega)]
    congr 2
    omega

end SignOn.Json

import SignOn.Proofs.Json.Written

/-!
# How far a number or a string reaches

What is read off the front of a text is read off the front of every other text that starts with the
same bytes, unless a number would go on there. So each reader of a token takes up bytes of its own,
and what it says of them does not depend on the rest of the document.
-/

namespace SignOn.Json

open Reader

/-! ## The bytes that follow -/

/-- The first byte is such a one, if there is one. -/
def Heads (p : UInt8 → Prop) (bs : Bytes) : Prop := ∀ b ∈ bs.head?, p b

namespace Heads

variable {p q : UInt8 → Prop} {bs tail : Bytes}

theorem nil : Heads p [] := by simp [Heads]

theorem cons_iff {b : UInt8} : Heads p (b :: bs) ↔ p b := by simp [Heads]

theorem mono (h : Heads p bs) (hpq : ∀ b, p b → q b) : Heads q bs := fun b hb ↦ hpq b (h b hb)

theorem append (h : Heads p bs) (htail : Heads p tail) : Heads p (bs ++ tail) := by
  cases bs with
  | nil => exact htail
  | cons b bs => exact cons_iff.2 (cons_iff.1 h)

end Heads

/-- Digits do not go on here. -/
def AfterDigits : Bytes → Prop := Heads fun b ↦ digit? b = none

/-- A number does not go on behind its whole part. -/
def AfterFraction : Bytes → Prop := Heads fun b ↦ digit? b = none ∧ b ≠ 46

/-- A number does not go on at all. -/
def AfterNumeral : Bytes → Prop := Heads fun b ↦ digit? b = none ∧ b ≠ 46 ∧ b ≠ 101 ∧ b ≠ 69

/-- Nothing, a blank, a comma or a closing bracket or brace follows, as it does behind a value. -/
def AfterValue : Bytes → Prop := Heads fun b ↦ isBlank b = true ∨ b = 44 ∨ b = 93 ∨ b = 125

theorem isBlank_iff {b : UInt8} : isBlank b = true ↔ b = 32 ∨ b = 10 ∨ b = 9 ∨ b = 13 := by
  simp [isBlank, or_assoc]

theorem AfterValue.afterNumeral {bs : Bytes} (h : AfterValue bs) : AfterNumeral bs := by
  refine Heads.mono h fun b hb ↦ ?_
  rw [isBlank_iff] at hb
  rcases hb with (rfl | rfl | rfl | rfl) | rfl | rfl | rfl <;> decide

/-- All bytes are blanks. -/
def Blanks (bs : Bytes) : Prop := ∀ b ∈ bs, isBlank b = true

theorem Blanks.afterValue_append {blanks bs : Bytes} (hblanks : Blanks blanks) (h : AfterValue bs) :
    AfterValue (blanks ++ bs) :=
  Heads.append (fun b hb ↦ .inl (hblanks b (List.mem_of_mem_head? hb))) h

theorem Blanks.afterValue_cons {blanks : Bytes} (hblanks : Blanks blanks) {b : UInt8}
    (hb : b = 44 ∨ b = 93 ∨ b = 125) (bs : Bytes) : AfterValue (blanks ++ b :: bs) :=
  hblanks.afterValue_append (Heads.cons_iff.2 (.inr hb))

/-! ## Numbers -/

variable {bs rest : Bytes} {ds : List Nat}

theorem digits_of_after (h : AfterDigits bs) : digits bs = ([], bs) := by
  cases bs with
  | nil => rfl
  | cons b bs =>
    have hb : digit? b = none := Heads.cons_iff.1 h
    rw [digits, hb]

theorem exists_digits (h : digits bs = (ds, rest)) :
    ∃ taken, bs = taken ++ rest ∧
      ∀ tail, AfterDigits tail → digits (taken ++ tail) = (ds, tail) := by
  induction bs generalizing ds rest with
  | nil =>
    obtain ⟨rfl, rfl⟩ := Prod.mk.inj h
    exact ⟨[], rfl, fun tail ↦ digits_of_after⟩
  | cons b bs ih =>
    rw [digits] at h
    cases hb : digit? b with
    | none =>
      rw [hb] at h
      obtain ⟨rfl, rfl⟩ := Prod.mk.inj h
      exact ⟨[], rfl, fun tail ↦ digits_of_after⟩
    | some d =>
      rw [hb] at h
      obtain ⟨rfl, rfl⟩ := Prod.mk.inj h
      obtain ⟨taken, htaken, hread⟩ := ih rfl
      refine ⟨b :: taken, congrArg (b :: ·) htaken, fun tail htail ↦ ?_⟩
      rw [List.cons_append, digits, hb]
      simp only [hread tail htail]

theorem ne_nil_of_digits {taken : Bytes} (hds : ds ≠ [])
    (h : ∀ tail, AfterDigits tail → digits (taken ++ tail) = (ds, tail)) : taken ≠ [] := by
  rintro rfl
  exact hds (congrArg Prod.fst (h [] Heads.nil)).symm

theorem whole?_eq_some_iff : whole? bs = some (ds, rest) ↔
    digits bs = (ds, rest) ∧ ds ≠ [] ∧ ∀ d es, ds ≠ 0 :: d :: es := by
  rw [whole?]
  split
  · next heq =>
    rw [heq]
    simp only [reduceCtorEq, false_iff, Prod.mk.injEq]
    rintro ⟨⟨rfl, -⟩, hne, -⟩
    exact hne rfl
  · next heq =>
    rw [heq]
    simp only [reduceCtorEq, false_iff, Prod.mk.injEq]
    rintro ⟨⟨rfl, -⟩, -, hzero⟩
    exact hzero _ _ rfl
  · next hnil hzero =>
    rw [Option.some_inj]
    constructor
    · intro h
      refine ⟨h, ?_, ?_⟩
      · rintro rfl
        exact hnil _ h
      · rintro d es rfl
        exact hzero _ _ _ h
    · exact And.left

theorem exists_whole? (h : whole? bs = some (ds, rest)) :
    ∃ taken, bs = taken ++ rest ∧ taken ≠ [] ∧
      ∀ tail, AfterDigits tail → whole? (taken ++ tail) = some (ds, tail) := by
  obtain ⟨hdigits, hne, hzero⟩ := whole?_eq_some_iff.1 h
  obtain ⟨taken, htaken, hread⟩ := exists_digits hdigits
  exact ⟨taken, htaken, ne_nil_of_digits hne hread,
    fun tail htail ↦ whole?_eq_some_iff.2 ⟨hread tail htail, hne, hzero⟩⟩

theorem fraction?_point_eq_some_iff : fraction? (46 :: bs) = some (ds, rest) ↔
    digits bs = (ds, rest) ∧ ds ≠ [] := by
  rw [fraction?]
  split
  · next heq =>
    rw [heq]
    simp only [reduceCtorEq, false_iff, Prod.mk.injEq]
    rintro ⟨⟨rfl, -⟩, hne⟩
    exact hne rfl
  · next hnil =>
    rw [Option.some_inj]
    constructor
    · intro h
      refine ⟨h, ?_⟩
      rintro rfl
      exact hnil _ h
    · exact And.left

theorem exists_fraction? (h : fraction? bs = some (ds, rest)) :
    ∃ taken, bs = taken ++ rest ∧ Heads (· = 46) taken ∧
      ∀ tail, AfterFraction tail → fraction? (taken ++ tail) = some (ds, tail) := by
  by_cases hpoint : ∃ cs, bs = 46 :: cs
  · obtain ⟨cs, rfl⟩ := hpoint
    obtain ⟨hdigits, hne⟩ := fraction?_point_eq_some_iff.1 h
    obtain ⟨taken, rfl, hread⟩ := exists_digits hdigits
    exact ⟨46 :: taken, rfl, Heads.cons_iff.2 rfl, fun tail htail ↦
      fraction?_point_eq_some_iff.2 ⟨hread tail (htail.mono fun b ↦ And.left), hne⟩⟩
  · have hnone {cs : Bytes} (hcs : ∀ ds, cs ≠ 46 :: ds) : fraction? cs = some ([], cs) := by
      rw [fraction?]
      exact hcs
    rw [hnone fun cs hcs ↦ hpoint ⟨cs, hcs⟩] at h
    cases h
    refine ⟨[], rfl, Heads.nil, fun tail htail ↦ hnone ?_⟩
    rintro ds rfl
    exact (Heads.cons_iff.1 htail).2 rfl

/-- The letter of an exponent. -/
def IsLetter (b : UInt8) : Prop := b = 101 ∨ b = 69

/-- The sign of an exponent and what follows it. -/
def cutSign : Bytes → Bool × Bytes
  | 43 :: bs => (false, bs)
  | 45 :: bs => (true, bs)
  | bs => (false, bs)

theorem cutSign_of_ne {b : UInt8} (hplus : b ≠ 43) (hminus : b ≠ 45) (bs : Bytes) :
    cutSign (b :: bs) = (false, b :: bs) := by
  rw [cutSign]
  · simpa using hplus
  · simpa using hminus

theorem exponent?_letter_eq_some_iff {b : UInt8} (hb : IsLetter b)
    {x : Option (Bool × List Nat)} : exponent? (b :: bs) = some (x, rest) ↔
      ∃ ds, digits (cutSign bs).2 = (ds, rest) ∧ ds ≠ [] ∧ x = some ((cutSign bs).1, ds) := by
  have hletter : b = 101 ∨ b = 69 := hb
  unfold exponent?
  simp only [if_pos hletter]
  split
  · next after heq =>
    have hdigits : digits (cutSign bs).2 = ([], after) := heq
    rw [hdigits]
    simp only [reduceCtorEq, false_iff, Prod.mk.injEq, not_exists]
    rintro ds ⟨⟨rfl, -⟩, hne, -⟩
    exact hne rfl
  · next ds after hnil heq =>
    have hdigits : digits (cutSign bs).2 = (ds, after) := heq
    rw [hdigits]
    show some (some ((cutSign bs).1, ds), after) = some (x, rest) ↔ _
    simp only [Option.some_inj, Prod.mk.injEq]
    constructor
    · rintro ⟨rfl, rfl⟩
      exact ⟨ds, ⟨rfl, rfl⟩, hnil, rfl⟩
    · rintro ⟨_, ⟨rfl, rfl⟩, -, rfl⟩
      exact ⟨rfl, rfl⟩

theorem exists_cutSign {taken : Bytes} (h : (cutSign bs).2 = taken ++ rest) (hne : taken ≠ []) :
    ∃ signed, bs = signed ++ rest ∧
      ∀ tail, cutSign (signed ++ tail) = ((cutSign bs).1, taken ++ tail) := by
  obtain ⟨d, taken, rfl⟩ := List.exists_cons_of_ne_nil hne
  fun_cases cutSign bs with
  | case1 cs => exact ⟨43 :: d :: taken, congrArg (43 :: ·) h, fun tail ↦ rfl⟩
  | case2 cs => exact ⟨45 :: d :: taken, congrArg (45 :: ·) h, fun tail ↦ rfl⟩
  | case3 _ hplus hminus =>
    obtain rfl : bs = d :: (taken ++ rest) := by rwa [cutSign.eq_3 bs hplus hminus] at h
    have hd43 : d ≠ 43 := by
      rintro rfl
      exact hplus _ rfl
    have hd45 : d ≠ 45 := by
      rintro rfl
      exact hminus _ rfl
    exact ⟨d :: taken, rfl, fun tail ↦ cutSign_of_ne hd43 hd45 _⟩

theorem exponent?_of_not {b : UInt8} (hb : ¬IsLetter b) :
    exponent? (b :: bs) = some (none, b :: bs) := if_neg hb

theorem exists_exponent? {x : Option (Bool × List Nat)} (h : exponent? bs = some (x, rest)) :
    ∃ taken, bs = taken ++ rest ∧ Heads IsLetter taken ∧
      ∀ tail, AfterNumeral tail → exponent? (taken ++ tail) = some (x, tail) := by
  have hnone {tail : Bytes} (htail : Heads (¬IsLetter ·) tail) :
      exponent? tail = some (none, tail) := by
    cases tail with
    | nil => rfl
    | cons b tail => exact exponent?_of_not (Heads.cons_iff.1 htail)
  by_cases hbs : Heads (¬IsLetter ·) bs
  · rw [hnone hbs] at h
    cases h
    exact ⟨[], rfl, Heads.nil, fun tail htail ↦ hnone (htail.mono fun b hb ↦
      not_or.2 ⟨hb.2.2.1, hb.2.2.2⟩)⟩
  · cases bs with
    | nil => exact absurd Heads.nil hbs
    | cons b bs =>
      have hb : IsLetter b := not_not.1 fun hb ↦ hbs (Heads.cons_iff.2 hb)
      obtain ⟨ds, hdigits, hds, rfl⟩ := (exponent?_letter_eq_some_iff hb).1 h
      obtain ⟨taken, htaken, hread⟩ := exists_digits hdigits
      obtain ⟨signed, rfl, hsigned⟩ := exists_cutSign htaken (ne_nil_of_digits hds hread)
      refine ⟨b :: signed, rfl, Heads.cons_iff.2 hb, fun tail htail ↦ ?_⟩
      rw [List.cons_append]
      refine (exponent?_letter_eq_some_iff hb).2 ⟨ds, ?_, hds, by rw [hsigned tail]⟩
      rw [hsigned tail]
      exact hread tail (htail.mono fun b ↦ And.left)

/-- What is read of a number behind its sign. -/
def unsigned (negative : Bool) (bs : Bytes) : Option (Numeral × Bytes) := do
  let (whole, bs) ← whole? bs
  let (fraction, bs) ← fraction? bs
  let (exponent, bs) ← exponent? bs
  return (⟨negative, whole, fraction, exponent⟩, bs)

theorem exists_unsigned {negative : Bool} {x : Numeral}
    (h : unsigned negative bs = some (x, rest)) :
    ∃ taken, bs = taken ++ rest ∧ taken ≠ [] ∧
      ∀ tail, AfterNumeral tail → unsigned negative (taken ++ tail) = some (x, tail) := by
  simp only [unsigned, Option.bind_eq_bind, Option.bind_eq_some_iff, Prod.exists] at h
  obtain ⟨ds, after, hwhole, fs, after', hfraction, e, after'', hexponent, h⟩ := h
  cases h
  obtain ⟨whole, rfl, hne, hreadWhole⟩ := exists_whole? hwhole
  obtain ⟨fraction, rfl, hpoint, hreadFraction⟩ := exists_fraction? hfraction
  obtain ⟨exponent, rfl, hletter, hreadExponent⟩ := exists_exponent? hexponent
  refine ⟨whole ++ (fraction ++ exponent), by simp only [List.append_assoc],
    List.append_ne_nil_of_left_ne_nil hne _, fun tail htail ↦ ?_⟩
  -- in front of a part there is a point or a letter, or the part is missing
  have hafter : AfterFraction (exponent ++ tail) := by
    refine (hletter.mono fun b hb ↦ ?_).append (htail.mono fun b hb ↦ ⟨hb.1, hb.2.1⟩)
    rcases hb with rfl | rfl <;> decide
  have hafter' : AfterDigits (fraction ++ (exponent ++ tail)) := by
    refine (hpoint.mono fun b hb ↦ ?_).append (hafter.mono fun b ↦ And.left)
    rw [hb]
    rfl
  simp only [List.append_assoc, unsigned, hreadWhole _ hafter', hreadFraction _ hafter,
    hreadExponent _ htail, Option.bind_eq_bind, Option.bind_some, Option.pure_def]

theorem numeral?_minus (bs : Bytes) : numeral? (45 :: bs) = unsigned true bs := rfl

theorem numeral?_of_ne {b : UInt8} (hb : b ≠ 45) (bs : Bytes) :
    numeral? (b :: bs) = unsigned false (b :: bs) := by
  rw [numeral?]
  · rfl
  · rintro cs h
    exact hb (List.cons.inj h).1

theorem exists_numeral? {x : Numeral} (h : numeral? bs = some (x, rest)) :
    ∃ taken, bs = taken ++ rest ∧ taken ≠ [] ∧
      ∀ tail, AfterNumeral tail → numeral? (taken ++ tail) = some (x, tail) := by
  cases bs with
  | nil => cases h
  | cons b bs =>
    by_cases hb : b = 45
    · subst hb
      rw [numeral?_minus] at h
      obtain ⟨taken, rfl, -, hread⟩ := exists_unsigned h
      exact ⟨45 :: taken, rfl, List.cons_ne_nil _ _, hread⟩
    · rw [numeral?_of_ne hb] at h
      obtain ⟨taken, htaken, hne, hread⟩ := exists_unsigned h
      obtain ⟨c, taken, rfl⟩ := List.exists_cons_of_ne_nil hne
      obtain rfl : b = c := (List.cons.inj htaken).1
      exact ⟨b :: taken, htaken, hne, fun tail htail ↦
        (numeral?_of_ne hb (taken ++ tail)).trans (hread tail htail)⟩

/-- A number starts with its sign or a digit. -/
theorem starts_of_numeral? {b : UInt8} {x : Numeral} (h : numeral? (b :: bs) = some (x, rest)) :
    b = 45 ∨ digit? b ≠ none := by
  by_cases hb : b = 45
  · exact .inl hb
  · rw [numeral?_of_ne hb] at h
    simp only [unsigned, Option.bind_eq_bind, Option.bind_eq_some_iff, Prod.exists] at h
    obtain ⟨ds, after, hwhole, -⟩ := h
    obtain ⟨hdigits, hds, -⟩ := whole?_eq_some_iff.1 hwhole
    refine .inr fun hnone ↦ hds ?_
    rw [digits, hnone] at hdigits
    exact (Prod.mk.inj hdigits).1.symm

theorem readScalar_of_numeral? {x : Numeral} (h : numeral? bs = some (x, rest)) :
    readScalar bs = (.number x, some rest) := by
  have hne (c : UInt8) (hc : c ≠ 45 ∧ digit? c = none) (cs : Bytes) : bs ≠ c :: cs := by
    rintro rfl
    exact (starts_of_numeral? h).elim hc.1 fun hdigit ↦ hdigit hc.2
  rw [readScalar.eq_4 bs (fun _ ↦ hne 110 (by decide) _) (fun _ ↦ hne 116 (by decide) _)
    (fun _ ↦ hne 102 (by decide) _), h]

theorem exists_readScalar {n : Node} (h : readScalar bs = (n, some rest)) :
    ∃ taken, bs = taken ++ rest ∧ taken ≠ [] ∧
      ∀ tail, AfterNumeral tail → readScalar (taken ++ tail) = (n, some tail) := by
  fun_cases readScalar bs with
  | case1 rest' =>
    cases h
    exact ⟨[110, 117, 108, 108], rfl, List.cons_ne_nil _ _, fun tail _ ↦ rfl⟩
  | case2 rest' =>
    cases h
    exact ⟨[116, 114, 117, 101], rfl, List.cons_ne_nil _ _, fun tail _ ↦ rfl⟩
  | case3 rest' =>
    cases h
    exact ⟨[102, 97, 108, 115, 101], rfl, List.cons_ne_nil _ _, fun tail _ ↦ rfl⟩
  | case4 _ hnull htrue hfalse x rest' hnumeral =>
    rw [readScalar_of_numeral? hnumeral] at h
    cases h
    obtain ⟨taken, htaken, hne, hread⟩ := exists_numeral? hnumeral
    exact ⟨taken, htaken, hne, fun tail htail ↦ readScalar_of_numeral? (hread tail htail)⟩
  | case5 _ hnull htrue hfalse hnumeral =>
    rw [readScalar.eq_4 bs hnull htrue hfalse, hnumeral] at h
    cases h

/-! ## Strings -/

theorem exists_pieces {ps : List Piece} (h : pieces bs = some (ps, rest)) :
    ∃ taken, bs = taken ++ rest ∧ ∀ tail, pieces (taken ++ tail) = some (ps, tail) := by
  induction bs using pieces.induct generalizing ps rest with
  | case1 bs =>
    cases h
    exact ⟨[34], rfl, fun tail ↦ rfl⟩
  | case2 a b c d bs ih =>
    rw [pieces] at h
    simp only [Option.bind_eq_bind, Option.bind_eq_some_iff, Prod.exists, Option.pure_def] at h
    obtain ⟨i, hi, j, hj, k, hk, l, hl, qs, after, hqs, h⟩ := h
    cases h
    obtain ⟨taken, rfl, hread⟩ := ih hqs
    refine ⟨92 :: 117 :: a :: b :: c :: d :: taken, rfl, fun tail ↦ ?_⟩
    simp only [List.cons_append, pieces.eq_2, hi, hj, hk, hl, hread tail, Option.bind_eq_bind,
      Option.bind_some, Option.pure_def]
  | case3 b bs hb ih =>
    rw [pieces.eq_3 b bs hb] at h
    simp only [Option.bind_eq_bind, Option.bind_eq_some_iff, Prod.exists, Option.pure_def] at h
    obtain ⟨e, he, qs, after, hqs, h⟩ := h
    cases h
    obtain ⟨taken, rfl, hread⟩ := ih hqs
    have hunit : b ≠ 117 := by
      rintro rfl
      cases he
    refine ⟨92 :: b :: taken, rfl, fun tail ↦ ?_⟩
    rw [List.cons_append, List.cons_append, pieces_escape hunit he, hread tail]
    rfl
  | case4 b bs hmark hunit hback hb =>
    rw [pieces.eq_4 b bs hmark hunit hback, if_pos hb] at h
    cases h
  | case5 b bs hmark hunit hback hb ih =>
    rw [pieces.eq_4 b bs hmark hunit hback, if_neg hb] at h
    simp only [Option.bind_eq_bind, Option.bind_eq_some_iff, Prod.exists, Option.pure_def] at h
    obtain ⟨qs, after, hqs, h⟩ := h
    cases h
    obtain ⟨taken, rfl, hread⟩ := ih hqs
    have hplain : ∀ c ∈ [b], 32 ≤ c.toNat ∧ c ≠ 34 ∧ c ≠ 92 := by
      rw [List.forall_mem_singleton]
      refine ⟨Nat.not_lt.1 fun hlt ↦ hb (.inl (UInt8.lt_iff_toNat_lt.2 hlt)), hmark, ?_⟩
      exact fun h92 ↦ hb (.inr h92)
    refine ⟨b :: taken, rfl, fun tail ↦ ?_⟩
    rw [← List.singleton_append, List.append_assoc, pieces_plain hplain, hread tail]
    rfl
  | case6 => cases h

end SignOn.Json

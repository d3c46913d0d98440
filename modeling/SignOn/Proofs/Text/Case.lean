import Mathlib.Data.List.Forall2
import SignOn.Proofs.Text.Trim
import SignOn.Text.Letter

/-!
# Texts that differ in the case of ASCII letters

Folding relates texts that differ in the case of ASCII letters and in nothing else. Lower-casing
changes many more characters, but of those outside ASCII only the Kelvin sign becomes a letter of
ASCII by itself; the dotted capital I becomes one together with a mark. So lower-casing leads to a
word of small letters without a k from the spellings that folding leads there from, and from no
others.
-/

namespace SignOn.Text

/-! ## Letters in the other case -/

/-- `c` is a capital letter of ASCII and `d` is its small letter. -/
structure SmallOf (c d : Char) : Prop where
  first : 'A' ≤ c
  last : c ≤ 'Z'
  toNat_eq : d.toNat = c.toNat + 32

/-- One character, or an ASCII letter in its two cases. -/
def SameLetter (c d : Char) : Prop := c = d ∨ SmallOf c d ∨ SmallOf d c

/-- The texts differ at most in the case of ASCII letters. -/
def Recased (s t : String) : Prop := List.Forall₂ SameLetter s.toList t.toList

theorem asciiLower_of_not {c : Char} (h : ¬('A' ≤ c ∧ c ≤ 'Z')) : asciiLower c = c := if_neg h

theorem asciiLower_of_lt {c : Char} (h : 90 < c.toNat) : asciiLower c = c := by
  refine asciiLower_of_not fun ⟨_, hlast⟩ ↦ ?_
  have hle : c.toNat ≤ 90 := hlast
  omega

/-- There are twenty-six capital letters. -/
theorem forall_capital {P : Char → Prop} (h : ∀ n < 26, P (Char.ofNat (65 + n))) {c : Char}
    (hfirst : 'A' ≤ c) (hlast : c ≤ 'Z') : P c := by
  have hle : 65 ≤ c.toNat := hfirst
  have hge : c.toNat ≤ 90 := hlast
  have hc := h (c.toNat - 65) (by omega)
  rwa [Nat.add_sub_of_le hle, Char.ofNat_toNat] at hc

theorem toNat_asciiLower {c : Char} (hfirst : 'A' ≤ c) (hlast : c ≤ 'Z') :
    (asciiLower c).toNat = c.toNat + 32 :=
  forall_capital (P := fun c ↦ (asciiLower c).toNat = c.toNat + 32) (by decide) hfirst hlast

/-- A small letter, like everything that is no capital one, stays as it is. -/
theorem SmallOf.asciiLower_eq {c d : Char} (h : SmallOf c d) : asciiLower c = d :=
  Char.toNat_inj.1 ((toNat_asciiLower h.first h.last).trans h.toNat_eq.symm)

theorem SmallOf.asciiLower_small {c d : Char} (h : SmallOf c d) : asciiLower d = d := by
  have hfirst : 65 ≤ c.toNat := h.first
  have heq := h.toNat_eq
  exact asciiLower_of_lt (by omega)

theorem asciiLower_eq_iff {c d : Char} : asciiLower c = asciiLower d ↔ SameLetter c d := by
  constructor
  · intro h
    by_cases hc : 'A' ≤ c ∧ c ≤ 'Z'
    · have hnc := toNat_asciiLower hc.1 hc.2
      by_cases hd : 'A' ≤ d ∧ d ≤ 'Z'
      · have hnd := toNat_asciiLower hd.1 hd.2
        rw [h] at hnc
        exact .inl (Char.toNat_inj.1 (by omega))
      · rw [asciiLower_of_not hd] at h
        exact .inr (.inl ⟨hc.1, hc.2, by rw [← h, hnc]⟩)
    · rw [asciiLower_of_not hc] at h
      by_cases hd : 'A' ≤ d ∧ d ≤ 'Z'
      · exact .inr (.inr ⟨hd.1, hd.2, by rw [h, toNat_asciiLower hd.1 hd.2]⟩)
      · rw [asciiLower_of_not hd] at h
        exact .inl h
  · rintro (rfl | h | h)
    · rfl
    · rw [h.asciiLower_eq, h.asciiLower_small]
    · rw [h.asciiLower_eq, h.asciiLower_small]

/-- Two texts are equal up to the case of ASCII letters if each character of one is the character
of the other, or the same letter in the other case. -/
theorem eqFold_iff {s t : String} : EqFold s t ↔ Recased s t := by
  rw [EqFold, Recased, ← List.forall₂_eq_eq_eq, List.forall₂_map_left_iff,
    List.forall₂_map_right_iff]
  simp only [asciiLower_eq_iff]

/-- A letter is in ASCII in both cases. -/
theorem SameLetter.lt_iff {c d : Char} (h : SameLetter c d) : c.toNat < 128 ↔ d.toNat < 128 := by
  rcases h with rfl | h | h
  · rfl
  · have hlast : c.toNat ≤ 90 := h.last
    have heq := h.toNat_eq
    omega
  · have hlast : d.toNat ≤ 90 := h.last
    have heq := h.toNat_eq
    omega

theorem Recased.ascii {s t : String} (h : Recased s t) (ht : ∀ d ∈ t.toList, d.toNat < 128) :
    ∀ c ∈ s.toList, c.toNat < 128 := by
  rw [Recased] at h
  generalize s.toList = cs, t.toList = ds at h ht
  induction h with
  | nil => exact ht
  | cons hsame _ ih =>
    obtain ⟨hd, hds⟩ := List.forall_mem_cons.1 ht
    exact List.forall_mem_cons.2 ⟨hsame.lt_iff.2 hd, ih hds⟩

/-! ## Blanks around a text -/

theorem isBlank_asciiLower (c : Char) : isBlank (asciiLower c) = isBlank c := by
  by_cases h : 'A' ≤ c ∧ c ≤ 'Z'
  · exact forall_capital (P := fun c ↦ isBlank (asciiLower c) = isBlank c) (by decide) h.1 h.2
  · rw [asciiLower_of_not h]

/-- Letters are no blanks, so it makes no difference whether a text is folded or trimmed first. -/
theorem map_trimChars (cs : List Char) :
    (trimChars cs).map asciiLower = trimChars (cs.map asciiLower) := by
  have hblank : isBlank ∘ asciiLower = isBlank := funext isBlank_asciiLower
  rw [trimChars, trimChars, List.dropWhile_map, hblank, ← List.map_reverse, List.dropWhile_map,
    hblank, ← List.map_reverse]

theorem EqFold.trim {s t : String} (h : EqFold s t) : EqFold (trim s) (trim t) := by
  rw [EqFold, toList_trim, toList_trim, map_trimChars, map_trimChars, h]

theorem trim_append {before after : String} (hbefore : Blank before) (hafter : Blank after)
    (s : String) : trim (before ++ s ++ after) = trim s := by
  obtain ⟨⟨first, last, hfirst, hlast, hs⟩, hstart, hfinish⟩ := trims_trim s
  refine (Trims.eq_trim ⟨⟨before ++ first, last ++ after, ?_, ?_, ?_⟩, hstart, hfinish⟩).symm
  · rw [Blank, String.toList_append]
    exact List.forall_mem_append.2 ⟨hbefore, hfirst⟩
  · rw [Blank, String.toList_append]
    exact List.forall_mem_append.2 ⟨hlast, hafter⟩
  · conv_lhs => rw [hs]
    simp only [String.append_assoc]

/-! ## Lower-casing -/

/-- What the characters of a row are lower-cased to are characters outside ASCII. -/
def CaseRow.Outside (r : CaseRow) : Prop :=
  128 ≤ r.first + r.shift ∧
    (r.last + r.shift < 0xD800 ∨ 0xDFFF < r.first + r.shift ∧ r.last + r.shift < 0x110000)

instance (r : CaseRow) : Decidable r.Outside := inferInstanceAs (Decidable (_ ∧ _))

/-- The row of the Kelvin sign. -/
def kelvinRow : CaseRow := ⟨0x212A, 0x212A, 1, -8383⟩

theorem outside_of_mem_caseRows {r : CaseRow} (h : r ∈ caseRows) : r.Outside ∨ r = kelvinRow := by
  revert h r
  decide +kernel

theorem toNat_ofNat_of_isValidChar {n : Nat} (h : n.isValidChar) : (Char.ofNat n).toNat = n := by
  rw [Char.ofNat, dif_pos h]
  rfl

theorem CaseRow.Outside.le_toNat_target {r : CaseRow} (hr : r.Outside) {n : Nat}
    (hn : r.Covers n) : 128 ≤ (Char.ofNat (r.target n)).toNat := by
  obtain ⟨hlow, hhigh⟩ := hr
  obtain ⟨hfirst, hlast, -⟩ := hn
  have htarget : (r.target n : Int) = n + r.shift := by
    rw [target]
    omega
  have hvalid : (r.target n).isValidChar := by
    rw [Nat.isValidChar]
    omega
  rw [toNat_ofNat_of_isValidChar hvalid]
  omega

theorem target_kelvinRow {n : Nat} (hn : kelvinRow.Covers n) :
    Char.ofNat (kelvinRow.target n) = 'k' := by
  obtain rfl : n = 0x212A := Nat.le_antisymm hn.2.1 hn.1
  rfl

/-- A character outside ASCII is lower-cased to something outside ASCII, unless it becomes a k. -/
theorem exists_mem_lowerChar {c : Char} (h : 128 ≤ c.toNat) :
    ∃ d ∈ lowerChar c, 128 ≤ d.toNat ∨ d = 'k' := by
  rw [lowerChar, if_neg (Nat.not_lt.2 h)]
  split
  · exact ⟨'\u0307', by decide⟩
  · split
    · next r hr =>
      have hcovers : r.Covers c.toNat := by simpa using List.find?_some hr
      refine ⟨_, List.mem_singleton_self _, ?_⟩
      rcases outside_of_mem_caseRows (List.mem_of_find?_eq_some hr) with hout | rfl
      · exact .inl (hout.le_toNat_target hcovers)
      · exact .inr (target_kelvinRow hcovers)
    · exact ⟨c, List.mem_singleton_self c, .inl h⟩

/-- So is a text with such a character, wherever it stands in a longer one. -/
theorem exists_mem_lowerFrom (before : List Char) {cs : List Char} {c : Char} (hc : c ∈ cs)
    (h : 128 ≤ c.toNat) : ∃ d ∈ lowerFrom before cs, 128 ≤ d.toNat ∨ d = 'k' := by
  induction cs generalizing before with
  | nil => cases hc
  | cons e cs ih =>
    rw [lowerFrom]
    rcases List.mem_cons.1 hc with rfl | hc
    · split
      · refine ⟨_, List.mem_append_left _ (List.mem_singleton_self _), .inl ?_⟩
        split <;> decide
      · obtain ⟨d, hd, hout⟩ := exists_mem_lowerChar h
        exact ⟨d, List.mem_append_left _ hd, hout⟩
    · obtain ⟨d, hd, hout⟩ := ih _ hc
      exact ⟨d, List.mem_append_right _ hd, hout⟩

/-- Within ASCII, lower-casing is folding. -/
theorem lowerFrom_of_ascii {before cs : List Char} (h : ∀ c ∈ cs, c.toNat < 128) :
    lowerFrom before cs = cs.map asciiLower := by
  induction cs generalizing before with
  | nil => rfl
  | cons c cs ih =>
    obtain ⟨hc, hcs⟩ := List.forall_mem_cons.1 h
    have hsigma : c ≠ 'Σ' := by
      rintro rfl
      exact absurd hc (by decide)
    rw [lowerFrom, if_neg hsigma, lowerChar, if_pos hc, ih hcs, List.map_cons]
    rfl

/-- A word of small letters without a k. -/
def PlainWord (t : String) : Prop := ∀ d ∈ t.toList, 'a' ≤ d ∧ d ≤ 'z' ∧ d ≠ 'k'

instance (t : String) : Decidable (PlainWord t) := List.decidableBAll _ _

theorem PlainWord.ascii {t : String} (ht : PlainWord t) : ∀ d ∈ t.toList, d.toNat < 128 := by
  intro d hd
  have hle : d.toNat ≤ 122 := (ht d hd).2.1
  omega

theorem PlainWord.map_asciiLower {t : String} (ht : PlainWord t) :
    t.toList.map asciiLower = t.toList := by
  refine (List.map_congr_left fun d hd ↦ ?_).trans (List.map_id _)
  have hfirst : 97 ≤ d.toNat := (ht d hd).1
  exact asciiLower_of_lt (by omega)

/-- Exactly those texts are lower-cased to a word without a k that differ from it in the case of
ASCII letters only. -/
theorem lower_eq_iff {s t : String} (ht : PlainWord t) : lower s = t ↔ EqFold s t := by
  rw [EqFold, ht.map_asciiLower]
  constructor
  · rintro rfl
    rw [PlainWord, lower, String.toList_ofList] at ht
    rw [lower, String.toList_ofList]
    refine (lowerFrom_of_ascii fun c hc ↦ ?_).symm
    by_contra hout
    obtain ⟨d, hd, hle | rfl⟩ := exists_mem_lowerFrom [] hc (Nat.not_lt.1 hout)
    · have hlast : d.toNat ≤ 122 := (ht d hd).2.1
      omega
    · exact (ht 'k' hd).2.2 rfl
  · intro h
    have hfold : Recased s t := eqFold_iff.1 (h.trans ht.map_asciiLower.symm)
    rw [lower, lowerFrom_of_ascii (hfold.ascii ht.ascii), h, String.ofList_toList]

/-- With a k it is otherwise. -/
example : lower "\u212Aey" = "key" ∧ ¬EqFold "\u212Aey" "key" := by decide +kernel

end SignOn.Text

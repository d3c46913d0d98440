/-! # White space: the `White_Space` property, trimming and blank text -/

namespace SignOn.Text

/-- The characters with the Unicode property `White_Space`. -/
def isBlank (c : Char) : Bool :=
  let n := c.toNat
  (9 ≤ n && n ≤ 13) || n == 0x20 || n == 0x85 || n == 0xA0 || n == 0x1680 ||
    (0x2000 ≤ n && n ≤ 0x200A) || n == 0x2028 || n == 0x2029 || n == 0x202F || n == 0x205F ||
    n == 0x3000

/-- The characters of `cs` without the blanks at either end. -/
def trimChars (cs : List Char) : List Char :=
  ((cs.dropWhile isBlank).reverse.dropWhile isBlank).reverse

/-- The text without the blanks at either end. -/
def trim (s : String) : String := String.ofList (trimChars s.toList)

/-- Nothing but blanks. -/
def Blank (s : String) : Prop := ∀ c ∈ s.toList, isBlank c = true

instance (s : String) : Decidable (Blank s) := List.decidableBAll _ _

@[simp] theorem toList_trim (s : String) : (trim s).toList = trimChars s.toList := by
  simp [trim]

/-- The text, unless it is missing or blank. -/
def nonBlank? : Option String → Option String
  | some s => if Blank s then none else some s
  | none => none

@[simp] theorem nonBlank?_none : nonBlank? none = none := rfl

theorem nonBlank?_eq_some_iff {o : Option String} {s : String} :
    nonBlank? o = some s ↔ o = some s ∧ ¬Blank s := by
  cases o with
  | none => simp
  | some t =>
    rw [nonBlank?]
    split
    · next ht =>
      constructor
      · rintro ⟨⟩
      · rintro ⟨⟨⟩, hs⟩
        exact absurd ht hs
    · next ht =>
      constructor
      · rintro ⟨⟩
        exact ⟨rfl, ht⟩
      · exact And.left

theorem nonBlank?_eq_none_iff {o : Option String} :
    nonBlank? o = none ↔ ∀ s, o = some s → Blank s := by
  rw [Option.eq_none_iff_forall_ne_some]
  simp only [ne_eq, nonBlank?_eq_some_iff, not_and, Decidable.not_not]

end SignOn.Text

import SignOn.Proofs.Outcome
import SignOn.Json.Decode

/-!
# Values that can be kept

A value can be kept, whatever it is, if its text is whole, its numbers are in range, its strings
and the names of its members are texts, and there is room for its nesting. Integers of 64 bits are
in range.
-/

namespace SignOn.Json

open Outcome

namespace Numeral

def integer (x : Numeral) : Int := if x.negative then -ofDigits x.whole else ofDigits x.whole

/-- An integer of 64 bits, with a sign or without. -/
def IsInteger64 (x : Numeral) : Prop :=
  x.fraction = [] ∧ x.exponent = none ∧ -Nat.pow 2 63 ≤ x.integer ∧ x.integer < Nat.pow 2 64

instance (x : Numeral) : Decidable x.IsInteger64 := inferInstanceAs (Decidable (_ ∧ _ ∧ _ ∧ _))

theorem le_foldl_digits (ds : List Nat) (m : Nat) : m ≤ ds.foldl (fun m d ↦ m * 10 + d) m := by
  induction ds generalizing m with
  | nil => exact Nat.le_refl m
  | cons d ds ih =>
    rw [List.foldl_cons]
    have hstep := ih (m * 10 + d)
    omega

theorem append_zero {ds : List Nat} (h : ofDigits ds = 0) : append 0 ds = (0, []) := by
  induction ds with
  | nil => rfl
  | cons d ds ih =>
    rw [ofDigits, List.foldl_cons] at h
    have hd := le_foldl_digits ds (0 * 10 + d)
    obtain rfl : d = 0 := by omega
    rw [append, if_pos (by decide)]
    exact ih h

/-- Zero is in range with either sign. -/
theorem real?_zero {x : Numeral} (hwhole : ofDigits x.whole = 0) (hfraction : x.fraction = []) :
    x.real? = some (signed x.negative 0) := by
  simp only [real?, append_zero hwhole, hfraction, append, if_true]

theorem IsInteger64.isSome_number? {x : Numeral} (h : x.IsInteger64) : x.number?.isSome := by
  obtain ⟨hfraction, hexponent, hlow, hhigh⟩ := h
  rw [integer] at hlow hhigh
  simp only [number?, hfraction, hexponent, and_self, if_true]
  by_cases hnegative : x.negative
  · rw [if_pos hnegative] at hlow ⊢
    rcases Nat.eq_zero_or_pos (ofDigits x.whole) with hzero | hpos
    · rw [if_neg (by omega), real?_zero hzero hfraction]
      rfl
    · rw [if_pos ⟨hpos, by omega⟩]
      rfl
  · rw [if_neg hnegative] at hhigh ⊢
    rw [if_pos (by omega)]
    rfl

end Numeral

/-! ## What a value consists of -/

section

variable (number : Numeral → Prop) (string : Except StringFault String → Prop)

mutual

/-- The text of the value is whole, and the numbers and strings in it are as given. The names of
members count as strings. -/
def Node.Consists : Node → Prop
  | .null | .bool _ => True
  | .number x => number x
  | .string s => string s
  | .array items => items.Consists
  | .object members => members.Consists
  | .broken => False

def Items.Consists : Items → Prop
  | .done => True
  | .cut => False
  | .next item rest => item.Consists ∧ rest.Consists

def Members.Consists : Members → Prop
  | .done => True
  | .cut => False
  | .next key value rest => string key ∧ value.Consists ∧ rest.Consists

end

end

mutual

/-- The number of arrays and objects that are nested in each other. -/
def Node.depth : Node → Nat
  | .array items => items.depth + 1
  | .object members => members.depth + 1
  | _ => 0

def Items.depth : Items → Nat
  | .next item rest => max item.depth rest.depth
  | _ => 0

def Members.depth : Members → Nat
  | .next _ value rest => max value.depth rest.depth
  | _ => 0

end

/-- The string is a text. -/
def IsText (s : Except StringFault String) : Prop := ∃ t, s = .ok t

section

variable {number number' : Numeral → Prop} {string : Except StringFault String → Prop}

mutual

theorem Node.Consists.mono {n : Node} (hn : n.Consists number string)
    (h : ∀ x, number x → number' x) : n.Consists number' string := by
  match n, hn with
  | .null, _ | .bool _, _ => exact trivial
  | .number x, hn => exact h x hn
  | .string _, hn => exact hn
  | .array _, hn => exact Items.Consists.mono hn h
  | .object _, hn => exact Members.Consists.mono hn h

theorem Items.Consists.mono {is : Items} (his : is.Consists number string)
    (h : ∀ x, number x → number' x) : is.Consists number' string := by
  match is, his with
  | .done, _ => exact trivial
  | .next _ _, his => exact ⟨his.1.mono h, his.2.mono h⟩

theorem Members.Consists.mono {ms : Members} (hms : ms.Consists number string)
    (h : ∀ x, number x → number' x) : ms.Consists number' string := by
  match ms, hms with
  | .done, _ => exact trivial
  | .next _ _ _, hms => exact ⟨hms.1, hms.2.1.mono h, hms.2.2.mono h⟩

end

end

/-! ## Keeping a value -/

namespace Decode

mutual

theorem exists_any_iff (room : Nat) (n : Node) : (∃ v, any room n = .ok v) ↔
    n.Consists (fun x ↦ x.number?.isSome) IsText ∧ n.depth ≤ room := by
  match n, room with
  | .null, _ | .bool _, _ => simp [any, Node.Consists, Node.depth]
  | .number x, _ =>
    cases hx : x.number? <;> simp [any, Node.Consists, Node.depth, hx]
  | .string s, _ =>
    cases s <;> simp [any, Node.Consists, Node.depth, IsText]
  | .array is, 0 => simp [any, Node.depth]
  | .object ms, 0 => simp [any, Node.depth]
  | .array is, room + 1 =>
    have hitems := exists_anyItems_iff room is
    simp only [any, Node.Consists, Node.depth, map_eq_ok_iff, Nat.add_le_add_iff_right, ← hitems]
    constructor
    · rintro ⟨_, vs, hvs, -⟩
      exact ⟨vs, hvs⟩
    · rintro ⟨vs, hvs⟩
      exact ⟨_, vs, hvs, rfl⟩
  | .object ms, room + 1 =>
    have hmembers := exists_anyMembers_iff room ms
    simp only [any, Node.Consists, Node.depth, map_eq_ok_iff, Nat.add_le_add_iff_right,
      ← hmembers]
    constructor
    · rintro ⟨_, vs, hvs, -⟩
      exact ⟨vs, hvs⟩
    · rintro ⟨vs, hvs⟩
      exact ⟨_, vs, hvs, rfl⟩
  | .broken, _ => simp [any, Node.Consists]

theorem exists_anyItems_iff (room : Nat) (is : Items) : (∃ vs, anyItems room is = .ok vs) ↔
    is.Consists (fun x ↦ x.number?.isSome) IsText ∧ is.depth ≤ room := by
  match is with
  | .done => simp [anyItems, Items.Consists, Items.depth]
  | .cut => simp [anyItems, Items.Consists]
  | .next item rest =>
    have hitem := exists_any_iff room item
    have hrest := exists_anyItems_iff room rest
    rw [Items.Consists, Items.depth, Nat.max_le, and_and_and_comm, ← hitem, ← hrest]
    simp only [anyItems, bind_eq_ok_iff]
    constructor
    · rintro ⟨_, v, hv, vs, hvs, -⟩
      exact ⟨⟨v, hv⟩, vs, hvs⟩
    · rintro ⟨⟨v, hv⟩, vs, hvs⟩
      exact ⟨_, v, hv, vs, hvs, rfl⟩

theorem exists_anyMembers_iff (room : Nat) (ms : Members) :
    (∃ vs, anyMembers room ms = .ok vs) ↔
      ms.Consists (fun x ↦ x.number?.isSome) IsText ∧ ms.depth ≤ room := by
  match ms with
  | .done => simp [anyMembers, Members.Consists, Members.depth]
  | .cut => simp [anyMembers, Members.Consists]
  | .next (.error _) _ _ => simp [anyMembers, Members.Consists, IsText]
  | .next (.ok key) value rest =>
    have hvalue := exists_any_iff room value
    have hrest := exists_anyMembers_iff room rest
    have hkey : IsText (.ok key) := ⟨key, rfl⟩
    rw [Members.Consists, Members.depth, Nat.max_le, and_iff_right hkey, and_and_and_comm,
      ← hvalue, ← hrest]
    simp only [anyMembers, bind_eq_ok_iff]
    constructor
    · rintro ⟨_, v, hv, vs, hvs, -⟩
      exact ⟨⟨v, hv⟩, vs, hvs⟩
    · rintro ⟨⟨v, hv⟩, vs, hvs⟩
      exact ⟨_, v, hv, vs, hvs, rfl⟩

end

end Decode

end SignOn.Json

import SignOn.Text.CaseTable
import SignOn.Text.LetterTable

/-! # Letters: which characters they are, and their case

A set of characters is given by the runs of their code points. ASCII letters are folded, and texts
of any script are lower-cased.
-/

namespace SignOn.Text

/-- The number lies in one of the runs, which are given by their first and last members. -/
def inRuns (runs : List (Nat × Nat)) (n : Nat) : Bool :=
  runs.any fun run ↦ run.1 ≤ n && n ≤ run.2

/-- A letter of any script. -/
def isLetter (c : Char) : Bool := c.isAlpha || inRuns letterRuns c.toNat

/-- A letter or a numeral of any script. -/
def isLetterOrNumeral (c : Char) : Bool := c.isDigit || isLetter c || inRuns numeralRuns c.toNat

/-- A to Z become a to z; every other character stays. -/
def asciiLower (c : Char) : Char :=
  if 'A' ≤ c ∧ c ≤ 'Z' then Char.ofNat (c.toNat + 32) else c

/-- The text with its ASCII letters in lower case. -/
def foldAscii (s : String) : String := String.ofList (s.toList.map asciiLower)

/-- Equal up to the case of ASCII letters. -/
def EqFold (s t : String) : Prop := s.toList.map asciiLower = t.toList.map asciiLower

instance (s t : String) : Decidable (EqFold s t) := inferInstanceAs (Decidable (_ = _))

namespace EqFold

theorem refl (s : String) : EqFold s s := rfl

theorem symm {s t : String} (h : EqFold s t) : EqFold t s := Eq.symm h

theorem trans {s t u : String} (h : EqFold s t) (k : EqFold t u) : EqFold s u := Eq.trans h k

end EqFold

/-- The lower-case form of one character, which for `İ` is two. -/
def lowerChar (c : Char) : List Char :=
  if c.toNat < 128 then [asciiLower c]
  else if c = 'İ' then ['i', '\u0307']
  else match caseRows.find? (fun r ↦ decide (r.Covers c.toNat)) with
    | some r => [Char.ofNat (r.target c.toNat)]
    | none => [c]

/-- The first character that is not ignorable has a case. -/
def casedNext (cs : List Char) : Bool :=
  match cs.dropWhile (fun c ↦ inRuns ignorableRuns c.toNat) with
  | c :: _ => inRuns casedRuns c.toNat
  | [] => false

/-- Lower-cases what follows `before`, given in reverse; a capital sigma that ends a word becomes
the final sigma. -/
def lowerFrom (before : List Char) : List Char → List Char
  | [] => []
  | c :: rest =>
    let here :=
      if c = 'Σ' then [if casedNext before && !casedNext rest then 'ς' else 'σ'] else lowerChar c
    here ++ lowerFrom (c :: before) rest

/-- The text in lower case, after the full mappings of the Unicode Standard. -/
def lower (s : String) : String := String.ofList (lowerFrom [] s.toList)

end SignOn.Text

/-! # Texts made of segments with dots between them -/

namespace SignOn.Text.Dotted

/-- The segments of `cs`, of which there is always one. -/
def splitChars : List Char → List (List Char)
  | [] => [[]]
  | '.' :: cs => [] :: splitChars cs
  | c :: cs =>
    match splitChars cs with
    | seg :: segs => (c :: seg) :: segs
    | [] => [[c]]

def split (s : String) : List String := (splitChars s.toList).map String.ofList

def join (segs : List String) : String := String.intercalate "." segs

/-- The text in front of the last dot, and behind it. -/
def splitLast? (s : String) : Option (String × String) :=
  match (split s).reverse with
  | last :: before :: more => some (join ((before :: more).reverse), last)
  | _ => none

theorem splitChars_ne_nil (cs : List Char) : splitChars cs ≠ [] := by
  fun_induction splitChars cs <;> simp_all

theorem split_ne_nil (s : String) : split s ≠ [] := by
  simp [split, splitChars_ne_nil]

end SignOn.Text.Dotted

import SignOn.Json.Value

/-!
# Ways of laying out the text of a value

The compact text of a value and the one over lines differ only in the blanks between their parts.
So both are one function of where these blanks are.
-/

namespace SignOn.Json

/-- The blanks of a text. -/
structure Layout where
  /-- In front of an item or a member that stands so many levels deep, and behind the last one of a
  level that is one deeper. -/
  gap : Nat → List Char
  /-- Behind the colon of a member. -/
  space : List Char
  blank_of_mem_gap : ∀ depth, ∀ c ∈ gap depth, c = ' ' ∨ c = '\n'
  blank_of_mem_space : ∀ c ∈ space, c = ' ' ∨ c = '\n'

namespace Layout

/-- No blanks at all. -/
def compact : Layout := ⟨fun _ ↦ [], [], by simp, by simp⟩

@[simp] theorem gap_compact (depth : Nat) : compact.gap depth = [] := rfl

@[simp] theorem space_compact : compact.space = [] := rfl

/-- Every item and member on a line of its own. -/
def lines : Layout where
  gap := Value.newLine
  space := [' ']
  blank_of_mem_gap depth c hc := by
    rcases List.mem_cons.1 hc with rfl | hc
    · exact .inr rfl
    · exact .inl (List.eq_of_mem_replicate hc)
  blank_of_mem_space c hc := .inl (List.mem_singleton.1 hc)

@[simp] theorem gap_lines (depth : Nat) : lines.gap depth = Value.newLine depth := rfl

@[simp] theorem space_lines : lines.space = [' '] := rfl

end Layout

namespace Value

mutual

/-- The characters of a value that stands `depth` levels deep. -/
def laidOut (l : Layout) (depth : Nat) : Value → List Char
  | .array [] => ['[', ']']
  | .array items => '[' :: laidOutItems l (depth + 1) items
  | .object [] => ['\x7b', '\x7d']
  | .object members => '\x7b' :: laidOutMembers l (depth + 1) members
  | v => v.write

def laidOutItems (l : Layout) (depth : Nat) : List Value → List Char
  | [] => [']']
  | [v] => l.gap depth ++ laidOut l depth v ++ l.gap (depth - 1) ++ [']']
  | v :: w :: rest =>
    l.gap depth ++ laidOut l depth v ++ ',' :: laidOutItems l depth (w :: rest)

def laidOutMembers (l : Layout) (depth : Nat) : List (String × Value) → List Char
  | [] => ['\x7d']
  | [(k, v)] =>
    l.gap depth ++ writeString k ++ ':' :: (l.space ++ laidOut l depth v) ++ l.gap (depth - 1) ++
      ['\x7d']
  | (k, v) :: m :: rest =>
    l.gap depth ++ writeString k ++ ':' :: (l.space ++ laidOut l depth v) ++
      ',' :: laidOutMembers l depth (m :: rest)

end

mutual

theorem laidOut_compact (depth : Nat) (v : Value) : laidOut .compact depth v = v.write := by
  match v with
  | .null | .bool _ | .number _ | .string _ | .array [] | .object [] => rfl
  | .array (v :: vs) => exact congrArg ('[' :: ·) (laidOutItems_compact (depth + 1) (v :: vs))
  | .object (m :: ms) =>
    exact congrArg ('\x7b' :: ·) (laidOutMembers_compact (depth + 1) (m :: ms))

theorem laidOutItems_compact (depth : Nat) (vs : List Value) :
    laidOutItems .compact depth vs = writeItems vs := by
  match vs with
  | [] => rfl
  | [v] => simp [laidOutItems, writeItems, laidOut_compact depth v]
  | v :: w :: vs =>
    simp [laidOutItems, writeItems, laidOut_compact depth v, laidOutItems_compact depth (w :: vs)]

theorem laidOutMembers_compact (depth : Nat) (ms : List (String × Value)) :
    laidOutMembers .compact depth ms = writeMembers ms := by
  match ms with
  | [] => rfl
  | [(k, v)] => simp [laidOutMembers, writeMembers, laidOut_compact depth v]
  | (k, v) :: m :: ms =>
    simp [laidOutMembers, writeMembers, laidOut_compact depth v,
      laidOutMembers_compact depth (m :: ms)]

end

mutual

theorem laidOut_lines (depth : Nat) (v : Value) : laidOut .lines depth v = v.writeLines depth := by
  match v with
  | .null | .bool _ | .number _ | .string _ | .array [] | .object [] => rfl
  | .array (v :: vs) => exact congrArg ('[' :: ·) (laidOutItems_lines (depth + 1) (v :: vs))
  | .object (m :: ms) => exact congrArg ('\x7b' :: ·) (laidOutMembers_lines (depth + 1) (m :: ms))

theorem laidOutItems_lines (depth : Nat) (vs : List Value) :
    laidOutItems .lines depth vs = itemLines depth vs := by
  match vs with
  | [] => rfl
  | [v] => rw [laidOutItems, itemLines, laidOut_lines depth v]; rfl
  | v :: w :: vs =>
    rw [laidOutItems, itemLines, laidOut_lines depth v, laidOutItems_lines depth (w :: vs)]
    rfl

theorem laidOutMembers_lines (depth : Nat) (ms : List (String × Value)) :
    laidOutMembers .lines depth ms = memberLines depth ms := by
  match ms with
  | [] => rfl
  | [(k, v)] =>
    simp [laidOutMembers, memberLines, laidOut_lines depth v]
  | (k, v) :: m :: ms =>
    simp [laidOutMembers, memberLines, laidOut_lines depth v,
      laidOutMembers_lines depth (m :: ms)]

end

end Value

end SignOn.Json

import SignOn.Text.Dotted

/-!
# Splitting at dots and joining with dots undo each other

Joining what a text was split into gives back the text, and splitting what was joined gives back
the segments, if there is one and none of them holds a dot.
-/

namespace SignOn.Text.Dotted

theorem splitChars_eq_splitOn (cs : List Char) : splitChars cs = cs.splitOn '.' := by
  fun_induction splitChars cs with
  | case1 => rfl
  | case2 cs ih => simp [List.splitOn_cons_eq_if_modifyHead, ih]
  | case3 c cs hc seg segs hsplit ih =>
    have hne : c ≠ '.' := hc
    simp [List.splitOn_cons_eq_if_modifyHead, hne, ← ih, hsplit]
  | case4 c cs hc hsplit ih => exact absurd hsplit (splitChars_ne_nil cs)

/-- A text can stand as a segment. -/
def Dotless (s : String) : Prop := '.' ∉ s.toList

theorem split_eq_splitOn (s : String) : split s = (s.toList.splitOn '.').map String.ofList := by
  rw [split, splitChars_eq_splitOn]

theorem join_cons_cons (s t : String) (segs : List String) :
    join (s :: t :: segs) = s ++ "." ++ join (t :: segs) := by
  simp [join, String.intercalate_cons_cons, String.append_assoc]

@[simp] theorem join_singleton (s : String) : join [s] = s := by simp [join]

theorem toList_join (segs : List String) :
    (join segs).toList = ['.'].intercalate (segs.map String.toList) := by
  simp [join, String.toList_intercalate]

theorem join_split (s : String) : join (split s) = s := by
  apply String.toList_inj.1
  rw [toList_join, split_eq_splitOn, List.map_map]
  simp [Function.comp_def]

theorem split_join {segs : List String} (hne : segs ≠ []) (h : ∀ s ∈ segs, Dotless s) :
    split (join segs) = segs := by
  rw [split_eq_splitOn, toList_join, List.splitOn_intercalate]
  · simp [Function.comp_def]
  · simpa [Dotless] using h
  · simpa using hne

/-- A text splits at a dot; what is behind its last dot is one segment. -/
theorem split_append_dot (s : String) {t : String} (h : Dotless t) :
    split (s ++ "." ++ t) = split s ++ [t] := by
  have hs : (s ++ "." ++ t).toList = s.toList ++ '.' :: t.toList := by simp
  rw [split_eq_splitOn, split_eq_splitOn, hs, List.splitOn_append_cons_self,
    List.splitOn_eq_singleton h]
  simp

theorem dotless_of_mem_splitChars {cs seg : List Char} (h : seg ∈ splitChars cs) :
    '.' ∉ seg := by
  fun_induction splitChars cs generalizing seg with
  | case1 => simp_all
  | case2 cs ih =>
    rcases List.mem_cons.1 h with rfl | h
    · simp
    · exact ih h
  | case3 c cs hc first segs hsplit ih =>
    rw [hsplit] at ih
    rcases List.mem_cons.1 h with rfl | h
    · simp only [List.mem_cons, not_or]
      exact ⟨fun e ↦ hc e.symm, ih (by simp)⟩
    · exact ih (by simp [h])
  | case4 c cs hc hsplit ih => exact absurd hsplit (splitChars_ne_nil cs)

theorem dotless_of_mem_split {s seg : String} (h : seg ∈ split s) : Dotless seg := by
  obtain ⟨cs, hcs, rfl⟩ := List.mem_map.1 h
  simpa [Dotless] using dotless_of_mem_splitChars hcs

theorem join_append_singleton {segs : List String} (hne : segs ≠ []) (s : String) :
    join (segs ++ [s]) = join segs ++ "." ++ s := by
  simp [join, String.intercalate_append_of_ne_nil hne]

theorem splitLast?_eq_some_iff {s a b : String} :
    splitLast? s = some (a, b) ↔ s = a ++ "." ++ b ∧ Dotless b := by
  constructor
  · intro h
    rw [splitLast?] at h
    split at h
    · rename_i last before more hrev
      obtain ⟨rfl, rfl⟩ := Prod.mk.inj (Option.some.inj h)
      have hsplit : split s = (before :: more).reverse ++ [last] := by
        rw [← List.reverse_reverse (split s), hrev, List.reverse_cons]
      constructor
      · rw [← join_append_singleton (by simp), ← hsplit, join_split]
      · exact dotless_of_mem_split (s := s) (by simp [hsplit])
    · cases h
  · rintro ⟨rfl, hb⟩
    obtain ⟨before, more, hrev⟩ : ∃ before more, (split a).reverse = before :: more :=
      List.exists_cons_of_ne_nil (by simp [split_ne_nil])
    rw [splitLast?, split_append_dot a hb, List.reverse_append, hrev]
    simp only [List.reverse_singleton, List.singleton_append]
    rw [← hrev, List.reverse_reverse, join_split]

end SignOn.Text.Dotted

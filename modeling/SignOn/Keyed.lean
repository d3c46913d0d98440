/-! # Lists of pairs in the ascending order of their text keys -/

namespace SignOn.Keyed

variable {α : Type}

/-- Every key comes once, and the keys ascend by their code points. -/
def Ascending (xs : List (String × α)) : Prop := (xs.map Prod.fst).Pairwise (· < ·)

/-- Puts a pair into its place, instead of one with the same key. -/
def insert (k : String) (v : α) : List (String × α) → List (String × α)
  | [] => [(k, v)]
  | (l, w) :: rest =>
    if k < l then (k, v) :: (l, w) :: rest
    else if k = l then (k, v) :: rest
    else (l, w) :: insert k v rest

/-- The pairs in order; of pairs with one key the last one counts. -/
def ofList (xs : List (String × α)) : List (String × α) :=
  xs.foldl (fun sorted x ↦ insert x.1 x.2 sorted) []

theorem mem_keys_insert {k l : String} {v : α} {xs : List (String × α)} :
    l ∈ (insert k v xs).map Prod.fst ↔ l = k ∨ l ∈ xs.map Prod.fst := by
  fun_induction insert k v xs <;> grind

theorem mem_insert {x : String × α} {k : String} {v : α} {xs : List (String × α)}
    (h : x ∈ insert k v xs) : x = (k, v) ∨ x ∈ xs := by
  fun_induction insert k v xs <;> grind

theorem ascending_insert {k : String} {v : α} {xs : List (String × α)} (h : Ascending xs) :
    Ascending (insert k v xs) := by
  fun_induction insert k v xs with
  | case1 => simp [Ascending]
  | case2 l w rest hlt =>
    simp only [Ascending, List.map_cons, List.pairwise_cons] at h ⊢
    refine ⟨?_, h⟩
    intro m hm
    rcases List.mem_cons.1 hm with rfl | hm
    · exact hlt
    · exact String.lt_trans hlt (h.1 m hm)
  | case3 => simpa [Ascending] using h
  | case4 l w rest hlt hne ih =>
    simp only [Ascending, List.map_cons, List.pairwise_cons] at h ih ⊢
    refine ⟨?_, ih h.2⟩
    intro m hm
    rcases mem_keys_insert.1 hm with rfl | hm
    · exact Std.lt_of_le_of_ne (Std.not_lt.1 hlt) (fun e ↦ hne e.symm)
    · exact h.1 m hm

theorem ascending_nil : Ascending ([] : List (String × α)) := by simp [Ascending]

end SignOn.Keyed

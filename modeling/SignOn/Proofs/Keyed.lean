import Mathlib.Data.List.Nodup
import SignOn.Keyed

/-! # Looking up keys that come once -/

namespace SignOn.Keyed

variable {α β : Type}

theorem Ascending.nodup {xs : List (String × α)} (h : Ascending xs) : (xs.map Prod.fst).Nodup := by
  have hne : (xs.map Prod.fst).Pairwise (· ≠ ·) := by
    refine List.Pairwise.imp ?_ h
    rintro k l hlt rfl
    exact String.lt_irrefl k hlt
  exact hne

/-- A key behind all others is put at the end. -/
theorem insert_of_forall_lt {xs : List (String × α)} {k : String} (v : α)
    (h : ∀ l ∈ xs.map Prod.fst, l < k) : insert k v xs = xs ++ [(k, v)] := by
  induction xs with
  | nil => rfl
  | cons x xs ih =>
    obtain ⟨l, w⟩ := x
    have hlt : l < k := h l List.mem_cons_self
    have hne : k ≠ l := fun e ↦ String.lt_irrefl k (e ▸ hlt)
    rw [insert, if_neg (String.lt_asymm hlt), if_neg hne,
      ih fun l hl ↦ h l (List.mem_cons_of_mem _ hl), List.cons_append]

/-- A key that is not there yet adds one pair. -/
theorem insert_perm {xs : List (String × α)} {k : String} (v : α) (h : k ∉ xs.map Prod.fst) :
    (insert k v xs).Perm ((k, v) :: xs) := by
  fun_induction insert k v xs with
  | case1 => exact .refl _
  | case2 => exact .refl _
  | case3 => exact absurd List.mem_cons_self h
  | case4 l w rest hlt hne ih =>
    have hrest := ih fun hk ↦ h (List.mem_cons_of_mem _ hk)
    exact (hrest.cons (l, w)).trans (.swap (k, v) (l, w) rest)

/-- There is one way to put pairs in order. -/
theorem Ascending.eq_of_perm {xs ys : List (String × α)} (hx : Ascending xs) (hy : Ascending ys)
    (h : xs.Perm ys) : xs = ys := by
  refine h.eq_of_pairwise ?_ (List.pairwise_map.1 hx) (List.pairwise_map.1 hy)
  exact fun x y _ _ hxy hyx ↦ absurd hyx (String.lt_asymm hxy)

theorem ofList_append_singleton (xs : List (String × α)) (k : String) (v : α) :
    ofList (xs ++ [(k, v)]) = insert k v (ofList xs) := List.foldl_concat ..

/-- Pairs that are in order stay as they are. -/
theorem ofList_of_ascending {xs : List (String × α)} (h : Ascending xs) : ofList xs = xs := by
  suffices ∀ ys : List (String × α), Ascending (ys ++ xs) →
      xs.foldl (fun sorted x ↦ insert x.1 x.2 sorted) ys = ys ++ xs from this [] h
  clear h
  induction xs with
  | nil => exact fun ys _ ↦ (List.append_nil ys).symm
  | cons x xs ih =>
    intro ys h
    have hbefore : ∀ l ∈ ys.map Prod.fst, l < x.1 := by
      rw [Ascending, List.map_append, List.pairwise_append] at h
      exact fun l hl ↦ h.2.2 l hl x.1 List.mem_cons_self
    have happend : ys ++ x :: xs = ys ++ [x] ++ xs := by simp
    rw [List.foldl_cons, insert_of_forall_lt x.2 hbefore, happend]
    exact ih _ (happend ▸ h)

theorem lookup_eq_none_iff {xs : List (String × α)} {k : String} :
    xs.lookup k = none ↔ k ∉ xs.map Prod.fst := by
  rw [List.lookup_eq_none_iff]
  constructor
  · intro h hk
    obtain ⟨x, hx, rfl⟩ := List.mem_map.1 hk
    simpa using h x hx
  · intro h x hx
    have hne : k ≠ x.1 := fun e ↦ h (e ▸ List.mem_map_of_mem hx)
    exact bne_iff_ne.2 hne

theorem isSome_lookup_iff {xs : List (String × α)} {k : String} :
    (xs.lookup k).isSome ↔ k ∈ xs.map Prod.fst := by
  rw [Option.isSome_iff_ne_none, ne_eq, lookup_eq_none_iff, Decidable.not_not]

theorem mem_of_lookup {xs : List (String × α)} {k : String} {a : α} (h : xs.lookup k = some a) :
    (k, a) ∈ xs := by
  obtain ⟨before, after, rfl, -⟩ := List.lookup_eq_some_iff.1 h
  exact List.mem_append_right _ List.mem_cons_self

/-- Putting a pair in changes what is found under its key, and nothing else. -/
theorem lookup_insert (k l : String) (v : α) (xs : List (String × α)) :
    (insert k v xs).lookup l = if l = k then some v else xs.lookup l := by
  fun_induction insert k v xs <;> grind

theorem lookup_of_mem {xs : List (String × α)} (h : (xs.map Prod.fst).Nodup) {x : String × α}
    (hx : x ∈ xs) : xs.lookup x.1 = some x.2 := by
  induction xs with
  | nil => cases hx
  | cons y xs ih =>
    rw [List.map_cons, List.nodup_cons] at h
    rcases List.mem_cons.1 hx with rfl | hx
    · exact List.lookup_cons_self
    · have hne : x.1 ≠ y.1 := fun e ↦ h.1 (e ▸ List.mem_map_of_mem hx)
      rw [List.lookup_cons, beq_false_of_ne hne]
      exact ih h.2 hx

/-- Keys that come once are found wherever their pairs stand. -/
theorem lookup_of_perm {xs ys : List (String × α)} (h : xs.Perm ys) (hx : (xs.map Prod.fst).Nodup)
    (k : String) : xs.lookup k = ys.lookup k := by
  have hy : (ys.map Prod.fst).Nodup := (h.map Prod.fst).nodup_iff.1 hx
  refine Option.ext fun a ↦ ⟨fun ha ↦ ?_, fun ha ↦ ?_⟩
  · exact lookup_of_mem hy (h.mem_iff.1 (mem_of_lookup ha))
  · exact lookup_of_mem hx (h.mem_iff.2 (mem_of_lookup ha))

theorem lookup_filter {p : String → Bool} {k : String} (hk : p k = true)
    (xs : List (String × α)) : (xs.filter fun x ↦ p x.1).lookup k = xs.lookup k := by
  induction xs with
  | nil => rfl
  | cons x xs ih =>
    obtain ⟨l, a⟩ := x
    by_cases hl : k = l
    · subst hl
      simp only [List.filter_cons, hk, if_true, List.lookup_cons_self]
    · have hne : (k == l) = false := beq_false_of_ne hl
      rw [List.lookup_cons, hne, ← ih, List.filter_cons]
      split
      · rw [List.lookup_cons, hne]
      · rfl

/-- The pairs that a function keeps stay in order. -/
theorem keys_filterMap_sublist (f : α → Option β) (xs : List (String × α)) :
    ((xs.filterMap fun x ↦ (f x.2).map fun b ↦ (x.1, b)).map Prod.fst).Sublist
      (xs.map Prod.fst) := by
  induction xs with
  | nil => exact List.Sublist.slnil
  | cons x xs ih =>
    rw [List.filterMap_cons, List.map_cons]
    cases f x.2 with
    | none => exact ih.cons x.1
    | some b => exact ih.cons_cons x.1

theorem keys_filterMap_subset (f : α → Option β) (xs : List (String × α)) :
    (xs.filterMap fun x ↦ (f x.2).map fun b ↦ (x.1, b)).map Prod.fst ⊆ xs.map Prod.fst :=
  (keys_filterMap_sublist f xs).subset

theorem Ascending.filterMap {xs : List (String × α)} (h : Ascending xs) (f : α → Option β) :
    Ascending (xs.filterMap fun x ↦ (f x.2).map fun b ↦ (x.1, b)) :=
  List.Pairwise.sublist (keys_filterMap_sublist f xs) h

/-- From pairs with the same keys the same is kept if the function makes no difference between what
stands under a key. -/
theorem filterMap_congr {f : String × α → Option β} {xs ys : List (String × α)}
    (hkeys : xs.map Prod.fst = ys.map Prod.fst)
    (h : ∀ x ∈ xs, ∀ y ∈ ys, x.1 = y.1 → f x = f y) : xs.filterMap f = ys.filterMap f := by
  induction xs generalizing ys with
  | nil =>
    rw [List.map_nil, eq_comm, List.map_eq_nil_iff] at hkeys
    rw [hkeys]
  | cons x xs ih =>
    obtain ⟨y, ys, rfl⟩ : ∃ y ys', ys = y :: ys' :=
      List.exists_cons_of_ne_nil (by rintro rfl; cases hkeys)
    obtain ⟨hkey, hkeys⟩ := List.cons.inj hkeys
    rw [List.filterMap_cons, List.filterMap_cons,
      h x List.mem_cons_self y List.mem_cons_self hkey,
      ih hkeys fun x hx y hy ↦ h x (List.mem_cons_of_mem _ hx) y (List.mem_cons_of_mem _ hy)]

/-- Looking up among the pairs that a function keeps, if every key comes once. -/
theorem lookup_filterMap {xs : List (String × α)} (h : (xs.map Prod.fst).Nodup)
    (f : α → Option β) (k : String) :
    (xs.filterMap fun x ↦ (f x.2).map fun b ↦ (x.1, b)).lookup k = (xs.lookup k).bind f := by
  induction xs with
  | nil => rfl
  | cons x xs ih =>
    obtain ⟨l, a⟩ := x
    rw [List.map_cons, List.nodup_cons] at h
    rw [List.filterMap_cons, List.lookup_cons]
    by_cases hk : k = l
    · subst hk
      rw [beq_self_eq_true]
      cases hf : f a with
      | some b => simp [hf]
      | none =>
        have hnot : k ∉ (xs.filterMap fun x ↦ (f x.2).map fun b ↦ (x.1, b)).map Prod.fst :=
          fun hk ↦ h.1 (keys_filterMap_subset f xs hk)
        simpa [hf] using lookup_eq_none_iff.2 hnot
    · rw [beq_false_of_ne hk, ← ih h.2]
      cases f a with
      | none => rfl
      | some b => exact List.lookup_cons.trans (by rw [beq_false_of_ne hk])

end SignOn.Keyed

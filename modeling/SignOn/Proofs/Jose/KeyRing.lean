import SignOn.Jose.KeyRing
import SignOn.Proofs.Keyed
import SignOn.Proofs.Outcome

/-!
# Rings of keys

A ring is its entries. Keys are put in one after the other; an id must not come twice, but the order
in which the keys come does not matter.
-/

namespace SignOn.Jose.KeyRing

open Outcome

variable {r ring : KeyRing}

theorem eq_of_entries (h : r.entries = ring.entries) : r = ring := by
  cases r
  cases ring
  congr

theorem id_of_mem {x : String × Jwk} (hx : x ∈ r.entries) : x.2.id = x.1 := by
  rw [Jwk.id, r.named x hx, Option.getD_some]

theorem get?_of_mem {x : String × Jwk} (hx : x ∈ r.entries) : r.get? x.1 = some x.2 :=
  Keyed.lookup_of_mem r.ascending.nodup hx

theorem mem_of_get? {id : String} {k : Jwk} (h : r.get? id = some k) : (id, k) ∈ r.entries :=
  Keyed.mem_of_lookup h

/-! ## Rings of one key -/

theorem soleId?_eq_some_iff {id : String} : ring.soleId? = some id ↔ ring.ids = [id] := by
  rw [soleId?, ids]
  cases ring.entries with
  | nil => simp
  | cons x entries => cases entries <;> simp

theorem soleId?_eq_none_iff : ring.soleId? = none ↔ ring.size ≠ 1 := by
  rw [soleId?, size]
  cases ring.entries with
  | nil => simp
  | cons x entries => cases entries <;> simp

/-! ## Putting keys in -/

/-- The entries that keys make under the ids that are given to them. -/
def entriesOf (pairs : List (String × Jwk)) : List (String × Jwk) :=
  pairs.map fun x ↦ (x.1, { x.2 with kid := some x.1 })

theorem entriesOf_cons (x : String × Jwk) (pairs : List (String × Jwk)) :
    entriesOf (x :: pairs) = (x.1, { x.2 with kid := some x.1 }) :: entriesOf pairs := rfl

theorem keys_entriesOf (pairs : List (String × Jwk)) :
    (entriesOf pairs).map Prod.fst = pairs.map Prod.fst := by
  rw [entriesOf, List.map_map]
  rfl

section

variable {kid : String} (k : Jwk) (h : kid ∉ r.ids)

include h

theorem insert_perm :
    (r.insert kid k).entries.Perm ((kid, { k with kid := some kid }) :: r.entries) :=
  Keyed.insert_perm _ h

/-- It does not matter whether an id is put in, or stands before those that are to be. -/
theorem ids_insert_perm (ids : List String) :
    ((r.insert kid k).ids ++ ids).Perm (r.ids ++ kid :: ids) :=
  (((insert_perm k h).map Prod.fst).append_right ids).trans List.perm_middle.symm

end

/-- Keys can be put in exactly if no id comes twice. In what order they come does not matter: the
ring is the one with these entries. -/
theorem add_eq_ok_iff {pairs : List (String × Jwk)} :
    add r pairs = .ok ring ↔
      (r.ids ++ pairs.map Prod.fst).Nodup ∧ ring.entries.Perm (r.entries ++ entriesOf pairs) := by
  induction pairs generalizing r with
  | nil =>
    rw [add, Except.ok.injEq, List.map_nil, List.append_nil]
    constructor
    · rintro rfl
      exact ⟨r.ascending.nodup, .of_eq (List.append_nil _).symm⟩
    · rintro ⟨-, h⟩
      have hperm : ring.entries.Perm r.entries := h.trans (.of_eq (List.append_nil _))
      exact eq_of_entries (r.ascending.eq_of_perm ring.ascending hperm.symm)
  | cons x pairs ih =>
    obtain ⟨kid, k⟩ := x
    rw [add, ite_error_eq_ok_iff, ih, List.map_cons, entriesOf_cons]
    have hentries (hnew : kid ∉ r.ids) : ((r.insert kid k).entries ++ entriesOf pairs).Perm
        (r.entries ++ (kid, { k with kid := some kid }) :: entriesOf pairs) :=
      ((insert_perm k hnew).append_right _).trans List.perm_middle.symm
    constructor
    · rintro ⟨hnew, hnodup, h⟩
      exact ⟨(ids_insert_perm k hnew _).nodup_iff.1 hnodup, h.trans (hentries hnew)⟩
    · rintro ⟨hnodup, h⟩
      have hnew : kid ∉ r.ids := fun hkid ↦
        (List.nodup_append.1 hnodup).2.2 kid hkid kid List.mem_cons_self rfl
      exact ⟨hnew, (ids_insert_perm k hnew _).nodup_iff.2 hnodup, h.trans (hentries hnew).symm⟩

theorem entriesOf_entries (r : KeyRing) : entriesOf r.entries = r.entries := by
  refine (List.map_congr_left fun x hx ↦ ?_).trans (List.map_id _)
  rw [← r.named x hx]
  rfl

/-- A ring is made of its own entries. -/
theorem ofList_entries (r : KeyRing) : ofList r.entries = .ok r :=
  add_eq_ok_iff.2 ⟨r.ascending.nodup, .of_eq (entriesOf_entries r).symm⟩

theorem mem_ids_of_add {pairs : List (String × Jwk)} (h : add r pairs = .ok ring) :
    ∀ id ∈ ring.ids, id ∈ r.ids ∨ id ∈ pairs.map Prod.fst := by
  have hids := (add_eq_ok_iff.1 h).2.map Prod.fst
  rw [List.map_append, keys_entriesOf] at hids
  exact fun id hid ↦ List.mem_append.1 (hids.mem_iff.1 hid)

/-- Putting keys in fails with the first id that is there already. -/
theorem add_eq_error_iff {pairs : List (String × Jwk)} {e : Error} :
    add r pairs = .error e ↔ ∃ before id k after, pairs = before ++ (id, k) :: after ∧
      (r.ids ++ before.map Prod.fst).Nodup ∧ id ∈ r.ids ++ before.map Prod.fst ∧
      e = .duplicateKeyId id := by
  induction pairs generalizing r with
  | nil => simp [add]
  | cons x pairs ih =>
    obtain ⟨kid, k⟩ := x
    rw [add]
    by_cases hkid : kid ∈ r.ids
    · rw [if_pos hkid, Except.error.injEq]
      constructor
      · rintro rfl
        refine ⟨[], kid, k, pairs, rfl, ?_, ?_, rfl⟩
        · rw [List.map_nil, List.append_nil]
          exact r.ascending.nodup
        · exact List.mem_append_left _ hkid
      · rintro ⟨before, id, k', after, hpairs, hnodup, -, rfl⟩
        cases before with
        | nil =>
          obtain ⟨⟨⟩, -⟩ := List.cons.inj hpairs
          rfl
        | cons x before =>
          obtain ⟨rfl, -⟩ := List.cons.inj hpairs
          exact absurd rfl
            ((List.nodup_append.1 hnodup).2.2 kid hkid kid List.mem_cons_self)
    · rw [if_neg hkid, ih]
      have hids (before : List (String × Jwk)) := ids_insert_perm k hkid (before.map Prod.fst)
      constructor
      · rintro ⟨before, id, k', after, rfl, hnodup, hid, rfl⟩
        exact ⟨(kid, k) :: before, id, k', after, rfl, (hids before).nodup_iff.1 hnodup,
          (hids before).mem_iff.1 hid, rfl⟩
      · rintro ⟨before, id, k', after, hpairs, hnodup, hid, rfl⟩
        cases before with
        | nil =>
          obtain ⟨⟨⟩, -⟩ := List.cons.inj hpairs
          rw [List.map_nil, List.append_nil] at hid
          exact absurd hid hkid
        | cons x before =>
          obtain ⟨rfl, rfl⟩ := List.cons.inj hpairs
          exact ⟨before, id, k', after, rfl, (hids before).nodup_iff.2 hnodup,
            (hids before).mem_iff.2 hid, rfl⟩

/-! ## Making a ring -/

/-- Keys are taken under their own ids, none of which may be empty. -/
theorem withIds_eq_ok_iff {keys : List Jwk} {index : Nat} {pairs : List (String × Jwk)} :
    withIds index keys = .ok pairs ↔
      (∀ k ∈ keys, k.id ≠ "") ∧ pairs = keys.map fun k ↦ (k.id, k) := by
  induction keys generalizing index pairs with
  | nil =>
    rw [withIds, Except.ok.injEq, List.map_nil]
    exact ⟨fun h ↦ ⟨by simp, h.symm⟩, fun h ↦ h.2.symm⟩
  | cons k keys ih =>
    rw [withIds, ite_error_eq_ok_iff]
    simp only [bind_eq_ok_iff, ih, pure_eq, Except.ok.injEq, List.forall_mem_cons, List.map_cons]
    constructor
    · rintro ⟨hk, more, ⟨hkeys, rfl⟩, rfl⟩
      exact ⟨⟨hk, hkeys⟩, rfl⟩
    · rintro ⟨⟨hk, hkeys⟩, rfl⟩
      exact ⟨hk, _, ⟨hkeys, rfl⟩, rfl⟩

/-- The first key without an id ends the reading of the ids. -/
theorem withIds_eq_error_iff {keys : List Jwk} {index : Nat} {e : Error} :
    withIds index keys = .error e ↔ ∃ before k after, keys = before ++ k :: after ∧
      (∀ k' ∈ before, k'.id ≠ "") ∧ k.id = "" ∧ e = .missingKeyId (index + before.length) := by
  induction keys generalizing index with
  | nil => simp [withIds]
  | cons k keys ih =>
    rw [withIds]
    by_cases hk : k.id = ""
    · rw [if_pos hk, Except.error.injEq]
      constructor
      · rintro rfl
        exact ⟨[], k, keys, rfl, by simp, hk, rfl⟩
      · rintro ⟨before, k', after, hkeys, hbefore, -, rfl⟩
        cases before with
        | nil => rfl
        | cons k'' before =>
          obtain ⟨rfl, -⟩ := List.cons.inj hkeys
          exact absurd hk (hbefore k List.mem_cons_self)
    · rw [if_neg hk, bind_eq_error_iff, ih]
      constructor
      · rintro (⟨before, k', after, rfl, hbefore, hk', rfl⟩ | ⟨more, -, ⟨⟩⟩)
        refine ⟨k :: before, k', after, rfl, List.forall_mem_cons.2 ⟨hk, hbefore⟩, hk', ?_⟩
        rw [List.length_cons, Nat.add_right_comm, Nat.add_assoc]
      · rintro ⟨before, k', after, hkeys, hbefore, hk', rfl⟩
        cases before with
        | nil =>
          obtain ⟨rfl, -⟩ := List.cons.inj hkeys
          exact absurd hk' hk
        | cons k'' before =>
          obtain ⟨rfl, rfl⟩ := List.cons.inj hkeys
          refine .inl ⟨before, k', after, rfl, (List.forall_mem_cons.1 hbefore).2, hk', ?_⟩
          rw [List.length_cons, Nat.add_right_comm, Nat.add_assoc]

/-! ## Rings of keys with given ids -/

theorem ofList_eq_ok_iff {pairs : List (String × Jwk)} :
    ofList pairs = .ok ring ↔
      (pairs.map Prod.fst).Nodup ∧ ring.entries.Perm (entriesOf pairs) := add_eq_ok_iff

theorem ofList_eq_error_iff {pairs : List (String × Jwk)} {e : Error} :
    ofList pairs = .error e ↔ ∃ before id k after, pairs = before ++ (id, k) :: after ∧
      (before.map Prod.fst).Nodup ∧ id ∈ before.map Prod.fst ∧ e = .duplicateKeyId id :=
  add_eq_error_iff

theorem exists_ofList_iff {pairs : List (String × Jwk)} :
    (∃ ring, ofList pairs = .ok ring) ↔ (pairs.map Prod.fst).Nodup := by
  constructor
  · rintro ⟨ring, h⟩
    exact (ofList_eq_ok_iff.1 h).1
  · intro hnodup
    cases h : ofList pairs with
    | ok ring => exact ⟨ring, rfl⟩
    | error e =>
      obtain ⟨before, id, k, after, rfl, -, hid, -⟩ := ofList_eq_error_iff.1 h
      rw [List.map_append] at hnodup
      exact absurd rfl ((List.nodup_append.1 hnodup).2.2 id hid id List.mem_cons_self)

/-- What comes of keys that are put under ids: a ring of exactly these keys, in the order of the
ids and with the ids as their own, unless an id comes twice. -/
structure Gathers (pairs : List (String × Jwk)) (result : Except Error KeyRing) : Prop where
  isOk_iff : (∃ ring, result = .ok ring) ↔ (pairs.map Prod.fst).Nodup
  eq_error_iff : ∀ e, result = .error e ↔ ∃ before id k after, pairs = before ++ (id, k) :: after ∧
    (before.map Prod.fst).Nodup ∧ id ∈ before.map Prod.fst ∧ e = .duplicateKeyId id
  perm_entries : ∀ ring, result = .ok ring →
    ring.entries.Perm (pairs.map fun x ↦ (x.1, { x.2 with kid := some x.1 }))
  get?_eq_some_iff : ∀ ring, result = .ok ring → ∀ id k, ring.get? id = some k ↔
    ∃ k', (id, k') ∈ pairs ∧ k = { k' with kid := some id }
  ascending_entries : ∀ ring, result = .ok ring → Keyed.Ascending ring.entries
  ascending_ids : ∀ ring, result = .ok ring → ring.ids.Pairwise (· < ·)
  ascending_publicKeys : ∀ ring, result = .ok ring → Keyed.Ascending ring.publicKeys
  soleId?_isSome_iff : ∀ ring, result = .ok ring → (ring.soleId?.isSome ↔ pairs.length = 1)
  of_perm : ∀ ring, result = .ok ring → ∀ pairs', pairs'.Perm pairs → ofList pairs' = .ok ring

theorem gathers_ofList (pairs : List (String × Jwk)) : Gathers pairs (ofList pairs) where
  isOk_iff := exists_ofList_iff
  eq_error_iff _ := ofList_eq_error_iff
  perm_entries _ h := (ofList_eq_ok_iff.1 h).2
  get?_eq_some_iff ring h id k := by
    have hperm := (ofList_eq_ok_iff.1 h).2
    constructor
    · intro hk
      obtain ⟨⟨id', k'⟩, hx, heq⟩ := List.mem_map.1 (hperm.mem_iff.1 (mem_of_get? hk))
      obtain ⟨rfl, rfl⟩ := Prod.mk.inj heq
      exact ⟨k', hx, rfl⟩
    · rintro ⟨k', hx, rfl⟩
      exact get?_of_mem (hperm.mem_iff.2 (List.mem_map.2 ⟨(id, k'), hx, rfl⟩))
  ascending_entries ring _ := ring.ascending
  ascending_ids ring _ := ring.ascending
  ascending_publicKeys ring _ := ring.ascending.filterMap Jwk.public?
  soleId?_isSome_iff ring h := by
    have hsize : ring.size = pairs.length := by
      rw [size, (ofList_eq_ok_iff.1 h).2.length_eq, entriesOf, List.length_map]
    rw [Option.isSome_iff_ne_none, ne_eq, soleId?_eq_none_iff, hsize, Decidable.not_not]
  of_perm ring h pairs' hpairs := by
    obtain ⟨hnodup, hperm⟩ := ofList_eq_ok_iff.1 h
    exact ofList_eq_ok_iff.2
      ⟨(hpairs.map Prod.fst).nodup_iff.2 hnodup, hperm.trans (hpairs.map _).symm⟩

/-! ## Rings of keys with their own ids -/

theorem id_eq_empty_iff {k : Jwk} : k.id = "" ↔ k.kid = none ∨ k.kid = some "" := by
  rw [Jwk.id]
  cases k.kid <;> simp

theorem ofKeySet_of_ids {s : KeySet} (h : ∀ k ∈ s.keys, k.id ≠ "") :
    ofKeySet s = ofList (s.keys.map fun k ↦ (k.id, k)) := by
  rw [ofKeySet, withIds_eq_ok_iff.2 ⟨h, rfl⟩, ok_bind]

theorem ofKeySet_eq_missingKeyId_iff {s : KeySet} {index : Nat} :
    ofKeySet s = .error (.missingKeyId index) ↔ ∃ before k after, s.keys = before ++ k :: after ∧
      before.length = index ∧ (∀ k' ∈ before, k'.id ≠ "") ∧ k.id = "" := by
  rw [ofKeySet, bind_eq_error_iff, withIds_eq_error_iff]
  constructor
  · rintro (⟨before, k, after, hkeys, hbefore, hk, hindex⟩ | ⟨pairs, -, hpairs⟩)
    · refine ⟨before, k, after, hkeys, ?_, hbefore, hk⟩
      rw [Error.missingKeyId.inj hindex, Nat.zero_add]
    · obtain ⟨-, id, -, -, -, -, -, ⟨⟩⟩ := ofList_eq_error_iff.1 hpairs
  · rintro ⟨before, k, after, hkeys, rfl, hbefore, hk⟩
    exact .inl ⟨before, k, after, hkeys, hbefore, hk, by rw [Nat.zero_add]⟩

/-- A key without an id is told, whatever the ids of the others are. -/
theorem exists_ofKeySet_eq_missingKeyId {s : KeySet} {k : Jwk} (hk : k ∈ s.keys) (hid : k.id = "") :
    ∃ index, ofKeySet s = .error (.missingKeyId index) := by
  cases h : withIds 0 s.keys with
  | ok pairs => exact absurd hid ((withIds_eq_ok_iff.1 h).1 k hk)
  | error e =>
    obtain ⟨before, -, -, -, -, -, rfl⟩ := withIds_eq_error_iff.1 h
    exact ⟨_, by rw [ofKeySet, h, error_bind]⟩

/-- Keys that are put under ids make a ring unless an id comes twice; then the first id that was
there before is told. The keys of a set are put under their own ids, but the first of them that has
none is told before anything else. In every ring that is made so, keys are found under their own
ids. -/
theorem gathers_keys (pairs : List (String × Jwk)) (s : KeySet) :
    Gathers pairs (ofList pairs) ∧
    (∀ index, ofKeySet s = .error (.missingKeyId index) ↔
      ∃ before k after, s.keys = before ++ k :: after ∧ before.length = index ∧
        (∀ k' ∈ before, k'.kid ≠ none ∧ k'.kid ≠ some "") ∧ (k.kid = none ∨ k.kid = some "")) ∧
    ((∃ k ∈ s.keys, k.kid = none ∨ k.kid = some "") →
      ∃ index, ofKeySet s = .error (.missingKeyId index)) ∧
    ((∀ k ∈ s.keys, k.kid ≠ none ∧ k.kid ≠ some "") →
      ofKeySet s = ofList (s.keys.map fun k ↦ (k.id, k)) ∧ ∀ k ∈ s.keys, k.kid = some k.id) ∧
    ∀ ring, ofList pairs = .ok ring ∨ ofKeySet s = .ok ring →
      ∀ id k, ring.get? id = some k → k.kid = some id := by
  have hid (k : Jwk) : k.kid ≠ none ∧ k.kid ≠ some "" ↔ k.id ≠ "" := by
    rw [← not_or, ← id_eq_empty_iff]
  simp only [← id_eq_empty_iff, hid]
  refine ⟨gathers_ofList pairs, fun index ↦ ofKeySet_eq_missingKeyId_iff, ?_, fun hids ↦ ?_,
    fun ring _ id k hk ↦ ring.named (id, k) (mem_of_get? hk)⟩
  · rintro ⟨k, hk, hempty⟩
    exact exists_ofKeySet_eq_missingKeyId hk hempty
  · refine ⟨ofKeySet_of_ids hids, fun k hk ↦ ?_⟩
    have hne := ((hid k).2 (hids k hk)).1
    obtain ⟨id, hkid⟩ := Option.ne_none_iff_exists'.1 hne
    rw [Jwk.id, hkid, Option.getD_some]

/-- Of two ids that come twice the one is told that is complete first. A key without an id is told
although two keys before it have the same one. Two keys make the same ring in either order. -/
theorem gathers_keys_sample :
    let k : Jwk := ⟨"oct", none, none, none, none, none, none, none, none, .none⟩
    let named (id : String) : Jwk := { k with kid := some id }
    ofList [("c", k), ("b", k), ("a", k), ("b", k), ("c", k)] = .error (.duplicateKeyId "b") ∧
      ofKeySet ⟨[named "a", named "a", named "", k]⟩ = .error (.missingKeyId 2) ∧
      ∃ ring, ofList [("b", k), ("a", k)] = .ok ring ∧ ofList [("a", k), ("b", k)] = .ok ring ∧
        ring.get? "b" = some (named "b") ∧ ring.soleId? = none := by
  intro k named
  obtain ⟨hduplicate, -, -, -, -⟩ :=
    gathers_keys [("c", k), ("b", k), ("a", k), ("b", k), ("c", k)] ⟨[]⟩
  obtain ⟨hgathers, hmissing, -, -, -⟩ :=
    gathers_keys [("b", k), ("a", k)] ⟨[named "a", named "a", named "", k]⟩
  obtain ⟨ring, hring⟩ := hgathers.isOk_iff.2 (by decide)
  refine ⟨?_, ?_, ring, hring, ?_, ?_, ?_⟩
  · exact (hduplicate.eq_error_iff _).2
      ⟨[("c", k), ("b", k), ("a", k)], "b", k, [("c", k)], rfl, by decide, by decide, rfl⟩
  · exact (hmissing 2).2 ⟨[named "a", named "a"], named "", [k], rfl, rfl, by decide, by decide⟩
  · exact hgathers.of_perm ring hring _ (.swap ("b", k) ("a", k) [])
  · exact (hgathers.get?_eq_some_iff ring hring "b" _).2 ⟨k, List.mem_cons_self, rfl⟩
  · have hsole := mt (hgathers.soleId?_isSome_iff ring hring).1 (by decide)
    rwa [Option.not_isSome_iff_eq_none] at hsole

end SignOn.Jose.KeyRing

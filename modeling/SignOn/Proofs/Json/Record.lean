import SignOn.Json.Record
import SignOn.Proofs.Json.Written
import SignOn.Proofs.Keyed
import SignOn.Proofs.Outcome

/-!
# Records that decode to what their fields build

A record checks its fields as the members come and builds the whole from them afterwards. Both use
the same decoders, so decoding an object succeeds as soon as building does, if no member is
repeated and the members that are not known are JSON. In turn, building succeeds as soon as the
checks of the fields do.
-/

namespace SignOn.Json

open Outcome

/-- Members in order, in an object that is closed. -/
def Members.ofList : List (String × Node) → Members
  | [] => .done
  | (k, n) :: ms => .next (.ok k) n (ofList ms)

namespace Record

variable {α β : Type}

/-! ## What records build -/

theorem build_map (f : α → β) (x : Record α) (g : Given) :
    (f <$> x).build g = f <$> x.build g := by
  show (Except.ok f >>= fun h ↦ x.build g >>= fun a ↦ Except.ok (h a)) = _
  cases x.build g <;> rfl

theorem build_seq (f : Record (α → β)) (x : Record α) (g : Given) :
    (f <*> x).build g = f.build g >>= fun h ↦ h <$> x.build g := by
  show (f.build g >>= fun h ↦ x.build g >>= fun a ↦ Except.ok (h a)) = _
  cases f.build g <;> cases x.build g <;> rfl

theorem build_required {name : String} {d : Decoder α} {g : Given} {n : Node}
    (h : g.values.lookup name = some n) : (required name d).build g = d g.room n := by
  simp only [required, h]

theorem build_optional_of_none {name : String} {d : Decoder α} {g : Given}
    (h : g.values.lookup name = none) : (optional name d).build g = .ok none := by
  simp only [optional, h]

theorem build_optional_of_some {name : String} {d : Decoder α} {g : Given} {n : Node}
    (h : g.values.lookup name = some n) :
    (optional name d).build g = Decode.nullable d g.room n := by
  simp only [optional, h]

/-- A text that may be missing is built from the member that is there, if it is. -/
theorem build_optional_string {name : String} {g : Given} {o : Option String}
    (h : g.values.lookup name = o.map fun s ↦ .string (.ok s)) :
    (optional name Decode.string).build g = .ok o := by
  cases o with
  | none => exact build_optional_of_none h
  | some s => exact build_optional_of_some h

theorem build_defaulted_of_none {name : String} {d : Decoder α} {a : α} {g : Given}
    (h : g.values.lookup name = none) : (defaulted name d a).build g = .ok a := by
  simp only [defaulted, h]

theorem build_defaulted_of_some {name : String} {d : Decoder α} {a : α} {g : Given} {n : Node}
    (h : g.values.lookup name = some n) : (defaulted name d a).build g = d g.room n := by
  simp only [defaulted, h]

/-! ## Lawful records -/

/-- What a record builds of has passed the checks of its fields. -/
class Lawful (r : Record α) : Prop where
  checked {g : Given} {a : α} : r.build g = .ok a → ∀ f ∈ r.fields, ∀ n,
    g.values.lookup f.name = some n → f.check g.room n = .ok ()
  present {g : Given} {a : α} : r.build g = .ok a → ∀ f ∈ r.fields,
    f.presence = .required → (g.values.lookup f.name).isSome

theorem checkOf_eq_ok {d : Decoder α} {room : Nat} {n : Node} {a : α} (h : d room n = .ok a) :
    checkOf d room n = .ok () := by
  rw [checkOf, h]
  rfl

instance (name : String) (d : Decoder α) : Lawful (required name d) where
  checked {g a} h f hf n hn := by
    obtain rfl := List.mem_singleton.1 hf
    rw [build_required hn] at h
    exact checkOf_eq_ok h
  present {g a} h f hf _ := by
    obtain rfl := List.mem_singleton.1 hf
    cases hn : g.values.lookup name with
    | none => simp [required, hn] at h
    | some n => rfl

instance (name : String) (d : Decoder α) : Lawful (optional name d) where
  checked {g a} h f hf n hn := by
    obtain rfl := List.mem_singleton.1 hf
    rw [build_optional_of_some hn] at h
    exact checkOf_eq_ok h
  present {g a} h f hf hp := by
    obtain rfl := List.mem_singleton.1 hf
    cases hp

instance (name : String) (d : Decoder α) (a : α) : Lawful (defaulted name d a) where
  checked {g b} h f hf n hn := by
    obtain rfl := List.mem_singleton.1 hf
    rw [build_defaulted_of_some hn] at h
    exact checkOf_eq_ok h
  present {g b} h f hf hp := by
    obtain rfl := List.mem_singleton.1 hf
    cases hp

instance (f : α → β) (x : Record α) [hx : Lawful x] : Lawful (f <$> x) where
  checked {g b} h := by
    rw [build_map] at h
    obtain ⟨a, ha, -⟩ := map_eq_ok_iff.1 h
    exact hx.checked ha
  present {g b} h := by
    rw [build_map] at h
    obtain ⟨a, ha, -⟩ := map_eq_ok_iff.1 h
    exact hx.present ha

instance (f : Record (α → β)) (x : Record α) [hf : Lawful f] [hx : Lawful x] :
    Lawful (f <*> x) where
  checked {g b} h := by
    rw [build_seq] at h
    obtain ⟨k, hk, h⟩ := bind_eq_ok_iff.1 h
    obtain ⟨a, ha, -⟩ := map_eq_ok_iff.1 h
    intro e he
    rcases List.mem_append.1 he with he | he
    · exact hf.checked hk e he
    · exact hx.checked ha e he
  present {g b} h := by
    rw [build_seq] at h
    obtain ⟨k, hk, h⟩ := bind_eq_ok_iff.1 h
    obtain ⟨a, ha, -⟩ := map_eq_ok_iff.1 h
    intro e he
    rcases List.mem_append.1 he with he | he
    · exact hf.present hk e he
    · exact hx.present ha e he

/-! ## Sufficient checks -/

/-- A record builds something as soon as its fields have passed their checks and none is missing
that is required. -/
class Sufficient (r : Record α) : Prop where
  exists_build (g : Given) : (∀ f ∈ r.fields, ∀ n, g.values.lookup f.name = some n →
      f.check g.room n = .ok ()) →
    (∀ f ∈ r.fields, f.presence = .required → (g.values.lookup f.name).isSome) →
    ∃ a, r.build g = .ok a

theorem exists_of_checkOf {d : Decoder α} {room : Nat} {n : Node}
    (h : checkOf d room n = .ok ()) : ∃ a, d room n = .ok a := by
  obtain ⟨a, ha, -⟩ := map_eq_ok_iff.1 h
  exact ⟨a, ha⟩

instance (name : String) (d : Decoder α) : Sufficient (required name d) where
  exists_build g hcheck hpresent := by
    obtain ⟨n, hn⟩ := Option.isSome_iff_exists.1 (hpresent _ List.mem_cons_self rfl)
    rw [build_required hn]
    exact exists_of_checkOf (hcheck _ List.mem_cons_self n hn)

instance (name : String) (d : Decoder α) : Sufficient (optional name d) where
  exists_build g hcheck _ := by
    cases hn : g.values.lookup name with
    | none => exact ⟨none, build_optional_of_none hn⟩
    | some n =>
      rw [build_optional_of_some hn]
      exact exists_of_checkOf (hcheck _ List.mem_cons_self n hn)

instance (name : String) (d : Decoder α) (a : α) : Sufficient (defaulted name d a) where
  exists_build g hcheck _ := by
    cases hn : g.values.lookup name with
    | none => exact ⟨a, build_defaulted_of_none hn⟩
    | some n =>
      rw [build_defaulted_of_some hn]
      exact exists_of_checkOf (hcheck _ List.mem_cons_self n hn)

instance (f : α → β) (x : Record α) [hx : Sufficient x] : Sufficient (f <$> x) where
  exists_build g hcheck hpresent := by
    obtain ⟨a, ha⟩ := hx.exists_build g hcheck hpresent
    rw [build_map, ha]
    exact ⟨f a, rfl⟩

instance (f : Record (α → β)) (x : Record α) [hf : Sufficient f] [hx : Sufficient x] :
    Sufficient (f <*> x) where
  exists_build g hcheck hpresent := by
    have hleft {e : Field} (he : e ∈ f.fields) : e ∈ (f <*> x).fields := List.mem_append_left _ he
    have hright {e : Field} (he : e ∈ x.fields) : e ∈ (f <*> x).fields :=
      List.mem_append_right _ he
    obtain ⟨h, hh⟩ := hf.exists_build g (fun e he ↦ hcheck e (hleft he))
      (fun e he ↦ hpresent e (hleft he))
    obtain ⟨a, ha⟩ := hx.exists_build g (fun e he ↦ hcheck e (hright he))
      (fun e he ↦ hpresent e (hright he))
    rw [build_seq, hh, ha]
    exact ⟨h a, rfl⟩

/-! ## Decoding objects -/

/-- Going through members that pass their checks and do not repeat hands them on. -/
theorem scan_ofList {fields : List Field} {others : Node → Decoded Unit} {room : Nat}
    {seen : List String} {values : List (String × Node)}
    (hnodup : (values.map Prod.fst).Nodup) (hseen : ∀ k ∈ values.map Prod.fst, k ∉ seen)
    (hknown : ∀ x ∈ values, ∀ f, fields.find? (fun f ↦ f.name = x.1) = some f →
      f.check room x.2 = .ok ())
    (hothers : ∀ x ∈ values, others x.2 = .ok ()) :
    scan fields others room seen (.ofList values) = .ok values := by
  induction values generalizing seen with
  | nil => rfl
  | cons x values ih =>
    obtain ⟨k, n⟩ := x
    rw [List.map_cons, List.nodup_cons] at hnodup
    rw [Members.ofList, scan]
    cases hfind : fields.find? (fun f ↦ f.name = k) with
    | some f =>
      have hk : k ∉ seen := hseen k (by simp)
      have hcheck : f.check room n = .ok () := hknown (k, n) (by simp) f hfind
      have hrest : scan fields others room (k :: seen) (.ofList values) = .ok values := ih hnodup.2
        (fun l hl ↦ by
          simp only [List.mem_cons, not_or]
          exact ⟨fun e ↦ hnodup.1 (e ▸ hl), hseen l (by simp [hl])⟩)
        (fun x hx ↦ hknown x (by simp [hx])) (fun x hx ↦ hothers x (by simp [hx]))
      simp [hk, hcheck, hrest]
    | none =>
      have hrest : scan fields others room seen (.ofList values) = .ok values := ih hnodup.2
        (fun l hl ↦ hseen l (by simp [hl])) (fun x hx ↦ hknown x (by simp [hx]))
        (fun x hx ↦ hothers x (by simp [hx]))
      simp [hothers (k, n) (by simp), hrest]

/-- Going through members whose checks fail in one way only fails in this way as soon as one of them
does. -/
theorem scan_eq_error {fields : List Field} {others : Node → Decoded Unit} {room : Nat}
    {seen : List String} {values : List (String × Node)} {e : DecodeError}
    (hnodup : (values.map Prod.fst).Nodup) (hseen : ∀ k ∈ values.map Prod.fst, k ∉ seen)
    (hknown : ∀ x ∈ values, ∀ f, fields.find? (fun f ↦ f.name = x.1) = some f →
      f.check room x.2 = .ok () ∨ f.check room x.2 = .error e)
    (hothers : ∀ x ∈ values, others x.2 = .ok ()) {x : String × Node} (hx : x ∈ values)
    {f : Field} (hf : fields.find? (fun f ↦ f.name = x.1) = some f)
    (hfails : f.check room x.2 = .error e) :
    scan fields others room seen (.ofList values) = .error e := by
  induction values generalizing seen with
  | nil => cases hx
  | cons y values ih =>
    obtain ⟨k, n⟩ := y
    rw [List.map_cons, List.nodup_cons] at hnodup
    obtain ⟨hk, hseen⟩ := List.forall_mem_cons.1 hseen
    obtain ⟨hcheck, hknown⟩ := List.forall_mem_cons.1 hknown
    obtain ⟨hother, hothers⟩ := List.forall_mem_cons.1 hothers
    rw [Members.ofList, scan]
    rcases List.mem_cons.1 hx with rfl | hx
    · simp only [hf, if_neg hk, hfails, error_bind]
    cases hfind : fields.find? (fun f ↦ f.name = k) with
    | some f' =>
      have hseen' : ∀ l ∈ values.map Prod.fst, l ∉ k :: seen := fun l hl ↦ by
        simp only [List.mem_cons, not_or]
        exact ⟨fun e ↦ hnodup.1 (e ▸ hl), hseen l hl⟩
      rcases hcheck f' hfind with hok | herror
      · simp only [if_neg hk, hok, ok_bind, ih hnodup.2 hseen' hknown hothers hx, error_bind]
      · simp only [if_neg hk, herror, error_bind]
    | none => simp only [hother, ok_bind, ih hnodup.2 hseen hknown hothers hx, error_bind]

/-- Members that a record was built of pass the checks of their fields. -/
theorem check_of_build {r : Record α} [hr : Lawful r] {room : Nat} {values : List (String × Node)}
    {a : α} (hnodup : (values.map Prod.fst).Nodup) (h : r.build ⟨room, values⟩ = .ok a)
    {x : String × Node} (hx : x ∈ values) {f : Field}
    (hf : r.fields.find? (fun f ↦ f.name = x.1) = some f) : f.check room x.2 = .ok () := by
  have hname : f.name = x.1 := by simpa using List.find?_some hf
  refine hr.checked h f (List.mem_of_find?_eq_some hf) x.2 ?_
  rw [hname]
  exact Keyed.lookup_of_mem hnodup hx

/-- What a record was built of has all members that are required. -/
theorem checkPresent_of_build {r : Record α} [hr : Lawful r] {room : Nat}
    {values : List (String × Node)} {a : α} (h : r.build ⟨room, values⟩ = .ok a) :
    checkPresent r.fields values = .ok () := by
  have hnone : r.fields.find? (fun f ↦ f.presence = .required &&
      (values.lookup f.name).isNone) = none := by
    rw [List.find?_eq_none]
    intro f hf
    by_cases hp : f.presence = .required
    · have := hr.present h f hf hp
      simp_all
    · simp [hp]
  rw [checkPresent, hnone]

/-- An object decodes to what its members build. -/
theorem decode_ofList {name : String} {r : Record α} [hr : Lawful r] {room : Nat}
    {values : List (String × Node)} {a : α} (hnodup : (values.map Prod.fst).Nodup)
    (hintact : ∀ x ∈ values, x.2.intact = true) (h : r.build ⟨room, values⟩ = .ok a) :
    r.decode name (room + 1) (.object (.ofList values)) = .ok a := by
  have hscan : scan r.fields passOver room [] (.ofList values) = .ok values := by
    refine scan_ofList hnodup (by simp) (fun x hx f ↦ check_of_build hnodup h hx) fun x hx ↦ ?_
    rw [passOver, if_pos (hintact x hx)]
  simp only [decode, hscan, checkPresent_of_build h, ok_bind, h]

/-- Members that do not repeat are checked once more without a fault if they pass their checks. -/
theorem rescan_eq_ok {fields : List Field} {room : Nat} {seen : List String}
    {values : List (String × Node)} (hnodup : (values.map Prod.fst).Nodup)
    (hseen : ∀ k ∈ values.map Prod.fst, k ∉ seen)
    (hknown : ∀ x ∈ values, ∀ f, fields.find? (fun f ↦ f.name = x.1) = some f →
      f.check room x.2 = .ok ()) : rescan fields room seen values = .ok () := by
  induction values generalizing seen with
  | nil => rfl
  | cons x values ih =>
    obtain ⟨k, n⟩ := x
    rw [List.map_cons, List.nodup_cons] at hnodup
    obtain ⟨hk, hseen⟩ := List.forall_mem_cons.1 hseen
    obtain ⟨hcheck, hknown⟩ := List.forall_mem_cons.1 hknown
    rw [rescan]
    cases hfind : fields.find? (fun f ↦ f.name = k) with
    | some f =>
      have hseen' : ∀ l ∈ values.map Prod.fst, l ∉ k :: seen := fun l hl ↦ by
        simp only [List.mem_cons, not_or]
        exact ⟨fun e ↦ hnodup.1 (e ▸ hl), hseen l hl⟩
      simp only [if_neg hk, hcheck f hfind, ok_bind]
      exact ih hnodup.2 hseen' hknown
    | none => exact ih hnodup.2 hseen hknown

/-- An object whose members make up two records decodes to what they build, if all of them can be
kept. -/
theorem decodeWithin_ofList {name : String} {r : Record (β → α)} {s : Record β} [Lawful r]
    [Lawful s] {room : Nat} {values : List (String × Node)} {f : β → α} {b : β}
    (hnodup : (values.map Prod.fst).Nodup)
    (hkept : ∀ x ∈ values, ∃ v, Decode.any room x.2 = .ok v)
    (hr : r.build ⟨room, values⟩ = .ok f) (hs : s.build ⟨room, values⟩ = .ok b) :
    decodeWithin name r s (room + 1) (.object (.ofList values)) = .ok (f b) := by
  have hscan : scan r.fields (fun n ↦ (fun _ ↦ ()) <$> Decode.any room n) room []
      (.ofList values) = .ok values := by
    refine scan_ofList hnodup (by simp) (fun x hx f ↦ check_of_build hnodup hr hx) fun x hx ↦ ?_
    obtain ⟨v, hv⟩ := hkept x hx
    rw [hv, map_ok]
  have hrescan : rescan s.fields room [] values = .ok () :=
    rescan_eq_ok hnodup (by simp) fun x hx f ↦ check_of_build hnodup hs hx
  simp only [decodeWithin, hscan, checkPresent_of_build hr, hrescan, ok_bind, hr, hs, pure_eq]

end Record

/-! ## Objects that were written -/

/-- The members of an object as they are found in its text. -/
def nodes (ms : List (String × Value)) : List (String × Node) := ms.map fun m ↦ (m.1, m.2.node)

theorem keys_nodes (ms : List (String × Value)) : (nodes ms).map Prod.fst = ms.map Prod.fst := by
  rw [nodes, List.map_map]
  rfl

theorem lookup_nodes (ms : List (String × Value)) (name : String) :
    (nodes ms).lookup name = (ms.lookup name).map Value.node := by
  induction ms with
  | nil => rfl
  | cons m ms ih =>
    obtain ⟨k, v⟩ := m
    rw [nodes, List.map_cons, List.lookup_cons, List.lookup_cons]
    cases name == k with
    | true => rfl
    | false => exact ih

namespace Value

theorem memberNodes_eq_ofList (ms : List (String × Value)) :
    memberNodes ms = .ofList (nodes ms) := by
  induction ms with
  | nil => rfl
  | cons m ms ih =>
    obtain ⟨k, v⟩ := m
    rw [memberNodes, ih]
    rfl

mutual

theorem intact_node (v : Value) (hv : v.Integral) : v.node.intact = true := by
  match v, hv with
  | .null, _ | .bool _, _ | .string _, _ | .number (.int _), _ => rfl
  | .array items, hv =>
    rw [node, Node.intact]
    exact intact_itemNodes items hv
  | .object ms, hv =>
    rw [node, Node.intact]
    exact intact_memberNodes ms hv

theorem intact_itemNodes (vs : List Value) (hvs : IntegralItems vs) :
    (itemNodes vs).intact = true := by
  match vs, hvs with
  | [], _ => rfl
  | v :: vs, hvs =>
    rw [itemNodes, Items.intact, intact_node v hvs.1, intact_itemNodes vs hvs.2]
    rfl

theorem intact_memberNodes (ms : List (String × Value)) (hms : IntegralMembers ms) :
    (memberNodes ms).intact = true := by
  match ms, hms with
  | [], _ => rfl
  | (_, v) :: ms, hms =>
    rw [memberNodes, Members.intact, intact_node v hms.1, intact_memberNodes ms hms.2]
    rfl

end

theorem integralMembers_iff {ms : List (String × Value)} :
    IntegralMembers ms ↔ ∀ m ∈ ms, m.2.Integral := by
  induction ms with
  | nil => simp [IntegralMembers]
  | cons m ms ih => simp [IntegralMembers, ih]

theorem integral_object {ms : List (String × Value)} (h : ∀ m ∈ ms, m.2.Integral) :
    (object ms).Integral := integralMembers_iff.2 h

theorem integralItems_iff {vs : List Value} : IntegralItems vs ↔ ∀ v ∈ vs, v.Integral := by
  induction vs with
  | nil => simp [IntegralItems]
  | cons v vs ih => simp [IntegralItems, ih]

end Value

/-- An array that was written item by item is decoded item by item. -/
theorem Decode.items_map {α : Type} {d : Decoder α} {write : α → Value} {room : Nat} {xs : List α}
    (h : ∀ x ∈ xs, d room (write x).node = .ok x) :
    items d room (Value.itemNodes (xs.map write)) = .ok xs := by
  induction xs with
  | nil => rfl
  | cons x xs ih =>
    obtain ⟨hx, hxs⟩ := List.forall_mem_cons.1 h
    rw [List.map_cons, Value.itemNodes, items, hx, ih hxs]
    rfl

/-- An object that was written decodes to what its members build, at any depth. -/
theorem Record.decode_node {α : Type} {name : String} {r : Record α} [Lawful r] {room : Nat}
    {ms : List (String × Value)} {a : α} (hms : ∀ m ∈ ms, m.2.Integral)
    (hnodup : (ms.map Prod.fst).Nodup) (h : r.build ⟨room, nodes ms⟩ = .ok a) :
    r.decode name (room + 1) (Value.object ms).node = .ok a := by
  rw [Value.node, Value.memberNodes_eq_ofList]
  refine decode_ofList (by rwa [keys_nodes]) (fun x hx ↦ ?_) h
  obtain ⟨m, hm, rfl⟩ := List.mem_map.1 hx
  exact Value.intact_node m.2 (hms m hm)

/-- The text of an object decodes to what its members build. -/
theorem Record.decode_text {α : Type} {name : String} {r : Record α} [Lawful r]
    {ms : List (String × Value)} {a : α} (hms : ∀ m ∈ ms, m.2.Integral)
    (hnodup : (ms.map Prod.fst).Nodup) (h : r.build ⟨maxDepth - 1, nodes ms⟩ = .ok a) :
    (r.decode name).runBytes (Text.utf8 (Value.object ms).text) = .ok a := by
  rw [Decoder.runBytes_text _ (Value.integral_object hms)]
  exact decode_node hms hnodup h

/-- The text of an object decodes if its members pass the checks of their fields and none is missing
that is required. -/
theorem Record.exists_decode_text {α : Type} {name : String} {r : Record α} [Lawful r]
    [hr : Sufficient r] {ms : List (String × Value)} (hms : ∀ m ∈ ms, m.2.Integral)
    (hnodup : (ms.map Prod.fst).Nodup)
    (hchecks : ∀ m ∈ ms, ∀ f ∈ r.fields, f.name = m.1 → f.check (maxDepth - 1) m.2.node = .ok ())
    (hpresent : ∀ f ∈ r.fields, f.presence = .required → (ms.lookup f.name).isSome) :
    ∃ a, (r.decode name).runBytes (Text.utf8 (Value.object ms).text) = .ok a := by
  have hbuild : ∃ a, r.build ⟨maxDepth - 1, nodes ms⟩ = .ok a := by
    refine hr.exists_build _ (fun f hf n hn ↦ ?_) fun f hf hrequired ↦ ?_
    · obtain ⟨v, hv, rfl⟩ := Option.map_eq_some_iff.1 ((lookup_nodes ms f.name).symm.trans hn)
      exact hchecks (f.name, v) (Keyed.mem_of_lookup hv) f hf rfl
    · show ((nodes ms).lookup f.name).isSome
      rw [lookup_nodes, Option.isSome_map]
      exact hpresent f hf hrequired
  obtain ⟨a, ha⟩ := hbuild
  exact ⟨a, decode_text hms hnodup ha⟩

/-- The text of an object fails to decode if the check of a field does, and checks fail in one way
only. -/
theorem Record.decode_text_eq_error {α : Type} {name : String} {r : Record α}
    {ms : List (String × Value)} {e : DecodeError} (hms : ∀ m ∈ ms, m.2.Integral)
    (hnodup : (ms.map Prod.fst).Nodup)
    (hchecks : ∀ m ∈ ms, ∀ f ∈ r.fields, f.name = m.1 →
      f.check (maxDepth - 1) m.2.node = .ok () ∨ f.check (maxDepth - 1) m.2.node = .error e)
    {m : String × Value} (hm : m ∈ ms) {f : Field}
    (hf : r.fields.find? (fun f ↦ f.name = m.1) = some f)
    (hfails : f.check (maxDepth - 1) m.2.node = .error e) :
    (r.decode name).runBytes (Text.utf8 (Value.object ms).text) = .error e := by
  rw [Decoder.runBytes_text _ (Value.integral_object hms), Value.node, Value.memberNodes_eq_ofList]
  have hscan : scan r.fields passOver (maxDepth - 1) [] (.ofList (nodes ms)) = .error e := by
    refine scan_eq_error (by rwa [keys_nodes]) (by simp) (fun x hx f hf ↦ ?_) (fun x hx ↦ ?_)
      (List.mem_map_of_mem hm) hf hfails
    · obtain ⟨m, hm, rfl⟩ := List.mem_map.1 hx
      exact hchecks m hm f (List.mem_of_find?_eq_some hf) (by simpa using List.find?_some hf)
    · obtain ⟨m, hm, rfl⟩ := List.mem_map.1 hx
      rw [passOver, if_pos (Value.intact_node m.2 (hms m hm))]
  show (scan r.fields passOver (maxDepth - 1) [] (.ofList (nodes ms)) >>= _) = _
  rw [hscan, error_bind]

end SignOn.Json

import SignOn.Proofs.Jose.Header
import SignOn.Proofs.Jose.KeyRing

/-!
# Documents of keys read back as they were written

A key is written without the members that it does not have. Its public members are read as they
come, the secret ones when all others have been read; it makes no difference to what comes back.
-/

namespace SignOn.Jose

open Json Outcome

/-! ## Keys -/

instance : Record.Lawful SecretMembers.record := by
  rw [SecretMembers.record]
  infer_instance

namespace Jwk

instance : Record.Lawful record := by
  rw [record]
  infer_instance

variable (k : Jwk)

/-- The members of a key in the order in which they are written. -/
def members : List (String × Value) :=
  [("kty", .string k.kty)] ++ present (k.publicFields ++ k.secret.fields)

theorem nodup_members : (k.members.map Prod.fst).Nodup :=
  nodup_written (by simp [publicFields, SecretMembers.fields])

theorem lookup_members (name : String) :
    (nodes k.members).lookup name =
      (([("kty", Value.string k.kty)].lookup name).map Value.node).or
        (((k.publicFields ++ k.secret.fields).lookup name).join.map fun s ↦ .string (.ok s)) :=
  lookup_written _ _ (by simp [publicFields, SecretMembers.fields]) name

theorem exists_string_of_mem_members {m : String × Value} (hm : m ∈ k.members) :
    ∃ s, m.2 = .string s := by
  rcases List.mem_append.1 hm with hm | hm
  · obtain rfl := List.mem_singleton.1 hm
    exact ⟨k.kty, rfl⟩
  · obtain ⟨f, -, hf⟩ := List.mem_filterMap.1 hm
    obtain ⟨s, -, rfl⟩ := Option.map_eq_some_iff.1 hf
    exact ⟨s, rfl⟩

theorem build_record (room : Nat) :
    record.build ⟨room, nodes k.members⟩ = .ok fun secret ↦ { k with secret } := by
  have hlookup := k.lookup_members
  simp only [record, Record.build_seq, Record.build_map]
  rw [Record.build_required (hlookup "kty"), Record.build_optional_string (hlookup "kid"),
    Record.build_optional_string (hlookup "use"), Record.build_optional_string (hlookup "alg"),
    Record.build_optional_string (hlookup "n"), Record.build_optional_string (hlookup "e"),
    Record.build_optional_string (hlookup "crv"), Record.build_optional_string (hlookup "x"),
    Record.build_optional_string (hlookup "y")]
  rfl

theorem build_secret (room : Nat) :
    SecretMembers.record.build ⟨room, nodes k.members⟩ = .ok k.secret := by
  have hlookup := k.lookup_members
  simp only [SecretMembers.record, Record.build_seq, Record.build_map]
  rw [Record.build_optional_string (hlookup "d"), Record.build_optional_string (hlookup "p"),
    Record.build_optional_string (hlookup "q"), Record.build_optional_string (hlookup "dp"),
    Record.build_optional_string (hlookup "dq"), Record.build_optional_string (hlookup "qi"),
    Record.build_optional_string (hlookup "k")]
  rfl

/-- A key is read back as it was written. -/
theorem decode_toJson (room : Nat) : decode (room + 1) k.toJson.node = .ok k := by
  have hnode : k.toJson.node = .object (.ofList (nodes k.members)) := by
    rw [← Value.memberNodes_eq_ofList]
    rfl
  rw [hnode]
  refine Record.decodeWithin_ofList ?_ (fun x hx ↦ ?_) (k.build_record room) (k.build_secret room)
  · rw [keys_nodes]
    exact k.nodup_members
  · obtain ⟨m, hm, rfl⟩ := List.mem_map.1 hx
    obtain ⟨s, hs⟩ := k.exists_string_of_mem_members hm
    exact ⟨.string s, by rw [hs, Value.node, Decode.any]⟩

theorem integral_toJson : k.toJson.Integral := by
  refine Value.integralMembers_iff.2 fun m hm ↦ ?_
  obtain ⟨s, hs⟩ := k.exists_string_of_mem_members hm
  rw [hs]
  exact trivial

end Jwk

/-! ## Sets of keys -/

/-- The members of a document of keys. -/
def keyMembers (ks : List Jwk) : List (String × Value) := [("keys", .array (ks.map Jwk.toJson))]

theorem integral_of_mem_keyMembers (ks : List Jwk) : ∀ m ∈ keyMembers ks, m.2.Integral := by
  intro m hm
  obtain rfl := List.mem_singleton.1 hm
  refine Value.integralItems_iff.2 fun v hv ↦ ?_
  obtain ⟨k, -, rfl⟩ := List.mem_map.1 hv
  exact k.integral_toJson

/-- Whatever is made of the keys of a document is made of those that were written. -/
theorem build_keyMembers {α : Type} (f : List Jwk → α) (ks : List Jwk) (room : Nat) :
    (f <$> Record.required "keys" (Decode.sequence Jwk.decode)).build
      ⟨room + 2, nodes (keyMembers ks)⟩ = .ok (f ks) := by
  have hkeys : Decode.sequence Jwk.decode (room + 2) (Value.array (ks.map Jwk.toJson)).node =
      .ok ks := Decode.items_map fun k _ ↦ k.decode_toJson room
  rw [Record.build_map, Record.build_required (n := (Value.array (ks.map Jwk.toJson)).node) rfl,
    hkeys]
  rfl

namespace KeySet

instance : Record.Lawful record := by
  rw [record]
  infer_instance

/-- A set of keys is read back as it was written. -/
theorem run_toJson (s : KeySet) : decode.run s.toJson.text = .ok s :=
  Record.decode_text (integral_of_mem_keyMembers s.keys) (List.nodup_singleton _)
    (build_keyMembers KeySet.mk s.keys 124)

end KeySet

/-! ## Rings of keys -/

namespace KeyRing

variable {r : KeyRing}

/-- The ids of keys that were read from a document are not empty. -/
theorem ne_empty_of_parse {document : String} (h : parse document = .ok r) : "" ∉ r.ids := by
  rw [parse] at h
  split at h
  · next s _ =>
    obtain ⟨pairs, hpairs, h⟩ := bind_eq_ok_iff.1 h
    obtain ⟨hids, rfl⟩ := withIds_eq_ok_iff.1 hpairs
    intro hmem
    rcases mem_ids_of_add h "" hmem with hmem | hmem
    · cases hmem
    · obtain ⟨x, hx, hid⟩ := List.mem_map.1 hmem
      obtain ⟨k, hk, rfl⟩ := List.mem_map.1 hx
      exact hids k hk hid
  · cases h

/-- Written out and read again, a ring whose ids are not empty comes back. -/
theorem parse_toJson (h : "" ∉ r.ids) :
    parse (KeySet.toJson ⟨r.entries.map Prod.snd⟩).text = .ok r := by
  have hpairs : (r.entries.map Prod.snd).map (fun k ↦ (k.id, k)) = r.entries := by
    rw [List.map_map]
    refine (List.map_congr_left fun x hx ↦ ?_).trans (List.map_id _)
    exact Prod.ext (id_of_mem hx) rfl
  have hids : ∀ k ∈ r.entries.map Prod.snd, k.id ≠ "" := by
    rintro _ hk hid
    obtain ⟨x, hx, rfl⟩ := List.mem_map.1 hk
    rw [id_of_mem hx] at hid
    exact h (hid ▸ List.mem_map_of_mem hx)
  have hread : withIds 0 (r.entries.map Prod.snd) = .ok _ := withIds_eq_ok_iff.2 ⟨hids, rfl⟩
  rw [parse, KeySet.run_toJson]
  show (withIds 0 (r.entries.map Prod.snd) >>= ofList) = .ok r
  rw [hread, ok_bind, hpairs, ofList_entries]

end KeyRing

end SignOn.Jose

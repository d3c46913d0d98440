import SignOn.Jose.Encryption
import SignOn.Jose.Signing
import SignOn.Jose.Verification
import SignOn.Proofs.Json.Record

/-!
# Headers read back as they were written

Members that are missing are not written at all, so a header has to be looked up member by member.
Key ids and content types may be any text.
-/

namespace SignOn.Jose

open Json Outcome

/-! ## Members that may be missing -/

namespace Jwk

variable {fields : List (String × Option String)}

theorem present_eq : present fields = fields.filterMap fun f ↦
    (f.2.map Value.string).map fun v ↦ (f.1, v) := by
  simp only [present, Option.map_map]
  rfl

/-- The members that are there keep their order, so their names are still different. -/
theorem keys_present_sublist : ((present fields).map Prod.fst).Sublist (fields.map Prod.fst) := by
  rw [present_eq]
  exact Keyed.keys_filterMap_sublist (fun o : Option String ↦ o.map Value.string) fields

theorem integral_of_mem_present : ∀ m ∈ present fields, m.2.Integral := by
  intro m hm
  obtain ⟨f, -, hf⟩ := List.mem_filterMap.1 hm
  obtain ⟨s, -, rfl⟩ := Option.map_eq_some_iff.1 hf
  exact trivial

/-- A member is looked up in the fields. -/
theorem lookup_present (hnodup : (fields.map Prod.fst).Nodup) (name : String) :
    (present fields).lookup name = (fields.lookup name).join.map .string := by
  have hlookup := Keyed.lookup_filterMap hnodup (fun o : Option String ↦ o.map Value.string) name
  rw [present_eq, hlookup]
  cases fields.lookup name <;> rfl

/-- Looking up a member in the text of an object that has fixed members and those fields. -/
theorem lookup_written (fixed : List (String × Value)) (fields : List (String × Option String))
    (hnodup : (fields.map Prod.fst).Nodup) (name : String) :
    (nodes (fixed ++ present fields)).lookup name =
      ((fixed.lookup name).map Value.node).or
        ((fields.lookup name).join.map fun s ↦ .string (.ok s)) := by
  rw [lookup_nodes, List.lookup_append, lookup_present hnodup, Option.map_or, Option.map_map]
  rfl

/-- The names of all members are different if those of the fixed ones and of the fields are. -/
theorem nodup_written {fixed : List (String × Value)}
    (hnodup : (fixed.map Prod.fst ++ fields.map Prod.fst).Nodup) :
    ((fixed ++ present fields).map Prod.fst).Nodup := by
  rw [List.map_append]
  exact hnodup.sublist ((List.Sublist.refl _).append keys_present_sublist)

end Jwk

/-! ## Names of algorithms -/

theorem KeyManagement.name_injective : Function.Injective KeyManagement.name := by
  intro a b h
  cases a <;> cases b <;> first | rfl | exact absurd h (by decide)

theorem ContentCipher.name_injective : Function.Injective ContentCipher.name := by
  intro a b h
  cases a <;> cases b <;> first | rfl | exact absurd h (by decide)

theorem HeaderAlgorithm.lookup_name (a : SignatureAlgorithm) :
    (all.map fun b ↦ (b.name, b)).lookup a.name = some (.supported a) := by
  cases a <;> rfl

theorem lookup_named {α : Type} {all : List α} {name : α → String} (hinj : Function.Injective name)
    {a : α} (ha : a ∈ all) : (EncryptionHeader.named all name).lookup (name a) = some a := by
  induction all with
  | nil => cases ha
  | cons b all ih =>
    rw [EncryptionHeader.named, List.map_cons, List.lookup_cons]
    by_cases hab : name a = name b
    · rw [hab, beq_self_eq_true, hinj hab]
    · rw [beq_false_of_ne hab]
      rcases List.mem_cons.1 ha with rfl | ha
      · exact absurd rfl hab
      · exact ih ha

/-! ## Headers -/

namespace EncryptionHeader

instance : Record.Lawful record := by
  rw [record]
  infer_instance

theorem decode_toJson (h : EncryptionHeader) :
    decode.runBytes (Text.utf8 h.toJson.text) = .ok h := by
  have hlookup := Jwk.lookup_written [("alg", .string h.alg.name), ("enc", .string h.enc.name)]
    [("kid", h.kid), ("cty", h.cty)] (by simp)
  refine Record.decode_text ?_ ?_ ?_
  · intro m hm
    rcases List.mem_append.1 hm with hm | hm
    · simp only [List.mem_cons, List.not_mem_nil, or_false] at hm
      rcases hm with rfl | rfl <;> exact trivial
    · exact Jwk.integral_of_mem_present m hm
  · exact Jwk.nodup_written (by simp)
  · rw [record, Record.build_seq, Record.build_seq, Record.build_seq, Record.build_map,
      Record.build_required (hlookup "alg"), Record.build_required (hlookup "enc"),
      Record.build_optional_string (hlookup "kid"), Record.build_optional_string (hlookup "cty")]
    simp only [Decode.oneOf, Value.node, Decode.named,
      lookup_named KeyManagement.name_injective (KeyManagement.mem_all h.alg),
      lookup_named ContentCipher.name_injective (ContentCipher.mem_all h.enc)]
    rfl

end EncryptionHeader

namespace SignatureHeader

instance : Record.Lawful record := by
  rw [record]
  infer_instance

/-- The header that a signer writes names its key and the algorithm. -/
theorem decode_header (kid : String) (a : SignatureAlgorithm) :
    decode.runBytes (Text.utf8 (Signer.header kid a).text) = .ok ⟨.supported a, some kid⟩ := by
  have hlookup := lookup_nodes [("typ", .string "JWT"), ("alg", .string a.name),
    ("kid", .string kid)]
  refine Record.decode_text ?_ ?_ ?_
  · intro m hm
    simp only [List.mem_cons, List.not_mem_nil, or_false] at hm
    rcases hm with rfl | rfl | rfl <;> exact trivial
  · simp
  · simp only [record, Record.build_seq, Record.build_map]
    rw [Record.build_optional_of_some (hlookup "typ"), Record.build_required (hlookup "alg"),
      Record.build_optional_of_none (hlookup "cty"), Record.build_optional_of_none (hlookup "jku"),
      Record.build_optional_of_none (hlookup "jwk"), Record.build_optional_of_some (hlookup "kid"),
      Record.build_optional_of_none (hlookup "x5u"), Record.build_optional_of_none (hlookup "x5c"),
      Record.build_optional_of_none (hlookup "x5t"),
      Record.build_optional_of_none (hlookup "x5t#S256")]
    simp only [Decode.oneOf, Value.node, Decode.named, HeaderAlgorithm.lookup_name]
    rfl

end SignatureHeader

end SignOn.Jose

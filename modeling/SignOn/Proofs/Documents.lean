import SignOn.Proofs.Claims
import SignOn.Proofs.Jose.KeyDocument
import SignOn.Publication

/-!
# Documents read back as they were written

Whatever is written comes back from its text, compact or laid out over lines. Some documents write
null for what is missing, others leave it out; null is also what a member that is missing stands
for, so neither loses anything.
-/

namespace SignOn

open Json Jose Outcome

/-! ## Members of documents -/

namespace Json.Value

theorem stringOrNull_eq (o : Option String) : stringOrNull o = o.elim .null .string := by
  cases o <;> rfl

theorem integral_elim {α : Type} {write : α → Value} (h : ∀ a, (write a).Integral)
    (o : Option α) : (o.elim .null write).Integral := by
  cases o with
  | none => exact trivial
  | some a => exact h a

theorem integral_stringOrNull (o : Option String) : (stringOrNull o).Integral := by
  have hstring : ∀ s : String, (string s).Integral := fun _ ↦ trivial
  rw [stringOrNull_eq]
  exact integral_elim hstring o

end Json.Value

namespace Json.Decode

variable {α : Type} (room : Nat)

/-- What is not written as null may be missing. -/
theorem nullable_elim {d : Decoder α} {write : α → Value} (hnull : ∀ a, (write a).node ≠ .null)
    (h : ∀ a, d room (write a).node = .ok a) (o : Option α) :
    nullable d room (o.elim Value.null write).node = .ok o := by
  cases o with
  | none => rfl
  | some a =>
    have hnode : nullable d room (write a).node = some <$> d room (write a).node := by
      unfold nullable
      split
      · next heq => exact absurd heq (hnull a)
      · rfl
    rw [Option.elim_some, hnode, h, map_ok]

theorem nullable_string (o : Option String) :
    nullable string room (Value.stringOrNull o).node = .ok o := by
  rw [Value.stringOrNull_eq]
  exact nullable_elim room (fun _ ↦ Node.noConfusion) (fun _ ↦ rfl) o

section

variable {all : List α} {name : α → String} (hinj : Function.Injective name)
  (hall : ∀ a, a ∈ all)

include hinj hall

theorem oneOf_name (a : α) :
    oneOf (EncryptionHeader.named all name) room (Value.string (name a)).node = .ok a := by
  simp only [Value.node, oneOf, named, lookup_named hinj (hall a)]

theorem nullable_name (o : Option α) :
    nullable (oneOf (EncryptionHeader.named all name)) room
      (Value.stringOrNull (o.map name)).node = .ok o := by
  have hvalue : Value.stringOrNull (o.map name) = o.elim .null fun a ↦ .string (name a) := by
    rw [Value.stringOrNull_eq]
    cases o <;> rfl
  rw [hvalue]
  exact nullable_elim room (fun _ ↦ Node.noConfusion) (oneOf_name room hinj hall) o

theorem sequence_name (as : List α) :
    sequence (oneOf (EncryptionHeader.named all name)) (room + 1)
      (Value.strings (as.map name)).node = .ok as := by
  rw [Value.strings, List.map_map]
  exact items_map fun a _ ↦ oneOf_name room hinj hall a

end

end Json.Decode

theorem Jose.SignatureAlgorithm.name_injective : Function.Injective SignatureAlgorithm.name := by
  intro a b h
  cases a <;> cases b <;> first | rfl | exact absurd h (by decide)

/-! ## Records -/

namespace TokenEncryption

variable (w : TokenEncryption)

instance : Record.Lawful record := by
  rw [record]
  infer_instance

theorem integral_toJson : w.toJson.Integral :=
  Value.integral_object (by simp [Value.integral_stringOrNull])

theorem decode_toJson (room : Nat) : decode (room + 1) w.toJson.node = .ok w := by
  refine Record.decode_node (Value.integralMembers_iff.1 w.integral_toJson) (by simp) ?_
  have halgorithm := Decode.nullable_name room KeyManagement.name_injective KeyManagement.mem_all
    w.algorithm
  have hmethod := Decode.nullable_name room ContentCipher.name_injective ContentCipher.mem_all
    w.method
  simp only [record, Record.build_seq, Record.build_map]
  rw [Record.build_defaulted_of_some rfl, Record.build_defaulted_of_some rfl,
    Record.build_defaulted_of_some rfl]
  simp only [Decode.nullable_string, algorithmNames, halgorithm, methodNames, hmethod]
  rfl

end TokenEncryption

namespace App

variable (a : App)

instance : Record.Lawful record := by
  rw [record]
  infer_instance

def members : List (String × Value) :=
  [("id", .string a.id), ("name", .string a.name), ("protocol", .string a.protocol),
    ("login_url", .stringOrNull a.loginUrl), ("redirect_uri", .stringOrNull a.redirectUri),
    ("lifetime_minutes", .int a.lifetimeMinutes),
    ("token_encryption", a.tokenEncryption.elim .null TokenEncryption.toJson)]

theorem toJson_eq : a.toJson = .object a.members := by
  rw [toJson, members]
  cases a.tokenEncryption <;> rfl

theorem integral_of_mem : ∀ m ∈ a.members, m.2.Integral := by
  simp [members, Value.integral_stringOrNull, Value.Integral, Value.int,
    Value.integral_elim TokenEncryption.integral_toJson]

theorem decode_toJson (room : Nat) : decode (room + 2) a.toJson.node = .ok a := by
  rw [toJson_eq]
  refine Record.decode_node a.integral_of_mem (by simp [members]) ?_
  have hobject (w : TokenEncryption) : w.toJson.node ≠ .null := Node.noConfusion
  have hencryption := Decode.nullable_elim (room + 1) hobject
    (fun w ↦ w.decode_toJson room) a.tokenEncryption
  simp only [record, Record.build_seq, Record.build_map]
  rw [Record.build_required rfl, Record.build_defaulted_of_some rfl, Record.build_required rfl,
    Record.build_defaulted_of_some rfl, Record.build_defaulted_of_some rfl,
    Record.build_required rfl, Record.build_defaulted_of_some rfl]
  simp only [Decode.nullable_string, Decode.integer_int, hencryption]
  rfl

end App

namespace Principal

variable (p : Principal)

instance : Record.Lawful record := by
  rw [record]
  infer_instance

theorem integral_toJson : p.toJson.Integral :=
  Value.integral_object (by simp [Value.integral_stringOrNull, Value.Integral])

theorem decode_toJson (room : Nat) : decode (room + 1) p.toJson.node = .ok p := by
  refine Record.decode_node (Value.integralMembers_iff.1 p.integral_toJson) (by simp) ?_
  simp only [record, Record.build_seq, Record.build_map]
  rw [Record.build_required rfl, Record.build_required rfl, Record.build_defaulted_of_some rfl,
    Record.build_defaulted_of_some rfl, Record.build_defaulted_of_some rfl,
    Record.build_defaulted_of_some rfl, Record.build_defaulted_of_some rfl]
  simp only [Decode.nullable_string]
  rfl

end Principal

namespace PublishedKeys

instance : Record.Lawful record := by
  rw [record]
  infer_instance

theorem decode_toJson (x : PublishedKeys) (room : Nat) :
    decode (room + 3) x.toJson.node = .ok x :=
  Record.decode_node (integral_of_mem_keyMembers x.keys) (List.nodup_singleton _)
    (build_keyMembers PublishedKeys.mk x.keys room)

end PublishedKeys

namespace ProviderMetadata

variable (m : ProviderMetadata)

instance : Record.Lawful record := by
  rw [record]
  infer_instance

theorem integral_toJson : m.toJson.Integral :=
  Value.integral_object (by simp [Claims.integral_strings, Value.Integral])

theorem decode_toJson (room : Nat) : decode (room + 2) m.toJson.node = .ok m := by
  refine Record.decode_node (Value.integralMembers_iff.1 m.integral_toJson) (by simp) ?_
  have hsigning := Decode.sequence_name room SignatureAlgorithm.name_injective
    SignatureAlgorithm.mem_all m.signingAlgorithms
  have hencryption := Decode.sequence_name room KeyManagement.name_injective
    KeyManagement.mem_all m.encryptionAlgorithms
  have hmethods := Decode.sequence_name room ContentCipher.name_injective ContentCipher.mem_all
    m.encryptionMethods
  simp only [record, list, Record.build_seq, Record.build_map]
  rw [Record.build_required rfl, Record.build_required rfl, Record.build_required rfl,
    Record.build_required rfl, Record.build_required rfl]
  simp only [hsigning, hencryption, hmethods]
  rfl

end ProviderMetadata

/-! ## Texts -/

/-- What is written comes back from its text, compact or laid out over lines. -/
def Json.ReadsBack {α : Type} (write : α → Value) (d : Decoder α) : Prop :=
  ∀ a, d.run (write a).text = .ok a ∧ d.run (write a).lines = .ok a

/-- Blanks make no difference, so the compact text is enough. -/
theorem Json.ReadsBack.of_text {α : Type} {write : α → Value} {d : Decoder α}
    (hwrite : ∀ a, (write a).Integral) (h : ∀ a, d.run (write a).text = .ok a) :
    ReadsBack write d :=
  fun a ↦ ⟨h a, (d.run_lines (hwrite a)).trans (h a)⟩

theorem Json.ReadsBack.of_node {α : Type} {write : α → Value} {d : Decoder α}
    (hwrite : ∀ a, (write a).Integral) (h : ∀ a, d maxDepth (write a).node = .ok a) :
    ReadsBack write d :=
  .of_text hwrite fun a ↦ (d.runBytes_text (hwrite a)).trans (h a)

/-- Keys, sets of keys, published keys, applications, the encryption of their tokens, users, claims
and what is published about a service: all of them come back as they were written. -/
theorem readsBack_documents :
    ReadsBack Jwk.toJson Jwk.decode ∧ ReadsBack KeySet.toJson KeySet.decode ∧
      ReadsBack PublishedKeys.toJson PublishedKeys.decode ∧ ReadsBack App.toJson App.decode ∧
      ReadsBack TokenEncryption.toJson TokenEncryption.decode ∧
      ReadsBack Principal.toJson Principal.decode ∧ ReadsBack Claims.toJson Claims.decode ∧
      ReadsBack ProviderMetadata.toJson ProviderMetadata.decode := by
  refine ⟨?_, ?_, ?_, ?_, ?_, ?_, ?_, ?_⟩
  · exact .of_node Jwk.integral_toJson fun k ↦ k.decode_toJson 126
  · exact .of_text (fun s ↦ Value.integral_object (integral_of_mem_keyMembers s.keys))
      KeySet.run_toJson
  · exact .of_node (fun x ↦ Value.integral_object (integral_of_mem_keyMembers x.keys))
      fun x ↦ x.decode_toJson 124
  · exact .of_node (fun a ↦ a.toJson_eq ▸ Value.integral_object a.integral_of_mem)
      fun a ↦ a.decode_toJson 125
  · exact .of_node TokenEncryption.integral_toJson fun w ↦ w.decode_toJson 126
  · exact .of_node Principal.integral_toJson fun p ↦ p.decode_toJson 126
  · exact .of_text (fun c ↦ Value.integral_object c.integral_of_mem) Claims.decode_toJson
  · exact .of_node ProviderMetadata.integral_toJson fun m ↦ m.decode_toJson 125

end SignOn

import SignOn.Jose.Verification
import SignOn.Proofs.Json.Record

/-!
# Which claims a verifier can read

A verifier reads the registered claims of a payload although it does nothing with them. What it
cannot read are arrays and objects: none may stand for the subject, and for a time only empty ones.
-/

namespace SignOn.Jose.RegisteredClaims

open Json Outcome

def isNested : Value → Bool
  | .array _ | .object _ => true
  | _ => false

/-- An array or an object that is not empty. -/
def isFilled : Value → Bool
  | .array (_ :: _) | .object (_ :: _) => true
  | _ => false

/-- A claim that cannot be read. -/
def isUnreadable (name : String) (v : Value) : Bool :=
  if name = "exp" ∨ name = "nbf" then isFilled v
  else if name = "sub" then isNested v
  else false

theorem isUnreadable_string (name s : String) : isUnreadable name (.string s) = false := by
  rw [isUnreadable]
  split
  · rfl
  · split <;> rfl

/-- All claims can be read. -/
def Readable (ms : List (String × Value)) : Prop := ∀ m ∈ ms, isUnreadable m.1 m.2 = false

instance (ms : List (String × Value)) : Decidable (Readable ms) :=
  inferInstanceAs (Decidable (∀ m ∈ ms, isUnreadable m.1 m.2 = false))

/-! ## Claims one by one -/

theorem fields_record : record.fields =
    [⟨"exp", .defaulted, Record.checkOf time⟩, ⟨"nbf", .defaulted, Record.checkOf time⟩,
      ⟨"sub", .optional, Record.checkOf (Decode.nullable subject)⟩,
      ⟨"iss", .optional, Record.checkOf (Decode.nullable anything)⟩,
      ⟨"aud", .optional, Record.checkOf (Decode.nullable anything)⟩] := rfl

section

variable (room : Nat) {v : Value} (hv : v.Integral)

include hv

theorem check_time :
    Record.checkOf time room v.node = if isFilled v then .error .malformed else .ok () := by
  cases v with
  | null | bool _ | string _ => rfl
  | number n =>
    cases n with
    | int _ => rfl
    | real _ => exact hv.elim
  | array items => cases items <;> rfl
  | object members => cases members <;> rfl

theorem check_subject : Record.checkOf (Decode.nullable subject) room v.node =
    if isNested v then .error .malformed else .ok () := by
  cases v with
  | null | bool _ | string _ | array _ | object _ => rfl
  | number n =>
    cases n with
    | int _ => rfl
    | real _ => exact hv.elim

theorem check_anything : Record.checkOf (Decode.nullable anything) room v.node = .ok () := by
  have hread : anything room v.node = .ok () := if_pos (Value.intact_node v hv)
  rw [Record.checkOf, Decode.nullable.eq_def]
  split
  · rfl
  · rw [hread]
    rfl

/-- The check of a claim fails exactly if the claim cannot be read. -/
theorem check_eq {f : Field} (hf : f ∈ record.fields) :
    f.check room v.node = if isUnreadable f.name v then .error .malformed else .ok () := by
  simp only [fields_record, List.mem_cons, List.not_mem_nil, or_false] at hf
  rcases hf with rfl | rfl | rfl | rfl | rfl
  · exact check_time room hv
  · exact check_time room hv
  · exact check_subject room hv
  · exact check_anything room hv
  · exact check_anything room hv

end

/-! ## All of them -/

instance : Record.Lawful record := by
  rw [record]
  infer_instance

instance : Record.Sufficient record := by
  rw [record]
  infer_instance

theorem exists_field {name : String} {v : Value} (h : isUnreadable name v = true) :
    ∃ f, record.fields.find? (fun f ↦ f.name = name) = some f := by
  rw [isUnreadable] at h
  split at h
  · next hname =>
    rcases hname with rfl | rfl
    · exact ⟨_, rfl⟩
    · exact ⟨_, rfl⟩
  · split at h
    · next hname =>
      subst hname
      exact ⟨_, rfl⟩
    · cases h

section

variable {ms : List (String × Value)} (hms : ∀ m ∈ ms, m.2.Integral)
  (hnodup : (ms.map Prod.fst).Nodup)

include hms hnodup

theorem decode_text (h : Readable ms) :
    decode.runBytes (Text.utf8 (Value.object ms).text) = .ok () := by
  have hchecks : ∀ m ∈ ms, ∀ f ∈ record.fields, f.name = m.1 →
      f.check (maxDepth - 1) m.2.node = .ok () := by
    intro m hm f hf hname
    rw [check_eq _ (hms m hm) hf, hname, h m hm]
    rfl
  have hpresent : ∀ f ∈ record.fields, f.presence = .required → (ms.lookup f.name).isSome := by
    intro f hf hrequired
    simp only [fields_record, List.mem_cons, List.not_mem_nil, or_false] at hf
    rcases hf with rfl | rfl | rfl | rfl | rfl <;> cases hrequired
  obtain ⟨⟨⟩, hdecode⟩ := Record.exists_decode_text hms hnodup hchecks hpresent
  exact hdecode

theorem decode_text_of_not_readable (h : ¬Readable ms) :
    decode.runBytes (Text.utf8 (Value.object ms).text) = .error .malformed := by
  obtain ⟨m, hm, hunreadable⟩ : ∃ m ∈ ms, isUnreadable m.1 m.2 = true := by
    simpa [Readable] using h
  obtain ⟨f, hf⟩ := exists_field hunreadable
  have hname : f.name = m.1 := by simpa using List.find?_some hf
  refine Record.decode_text_eq_error hms hnodup (fun m' hm' f' hf' _ ↦ ?_) hm hf ?_
  · rw [check_eq _ (hms m' hm') hf']
    split
    · exact .inr rfl
    · exact .inl rfl
  · rw [check_eq _ (hms m hm) (List.mem_of_find?_eq_some hf), hname, if_pos hunreadable]

end

end SignOn.Jose.RegisteredClaims

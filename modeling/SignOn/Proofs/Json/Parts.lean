import SignOn.Proofs.Json.Extent
import SignOn.Proofs.Json.Record

/-!
# Texts of objects and arrays

The text of an object is made up of the texts of its members, and that of an array of the texts of
its items, with commas and blanks between them. In turn, the text of every object comes apart into
the texts of its members.
-/

namespace SignOn.Json

open Reader Outcome

/-- Items in order, in an array that is closed. -/
def Items.ofList : List Node → Items
  | [] => .done
  | n :: ns => .next n (ofList ns)

/-- The bytes are a document of the value and of nothing else. -/
def ReadsAs (bs : Bytes) (n : Node) : Prop := read bs = ⟨n, true⟩

variable {bs : Bytes} {n : Node}

theorem ReadsAs.eq (h : ReadsAs bs n) {n' : Node} (h' : ReadsAs bs n') : n = n' :=
  congrArg Document.root (h.symm.trans h')

/-- A text is decoded if it is a document of a value that is. -/
theorem Decoder.run_eq_ok_iff {α : Type} {d : Decoder α} {s : String} {a : α} :
    d.run s = .ok a ↔ ∃ n, ReadsAs (Text.utf8 s) n ∧ d maxDepth n = .ok a := by
  rw [run, runBytes, runDocument]
  constructor
  · intro h
    obtain ⟨b, hb, h⟩ := bind_eq_ok_iff.1 h
    split at h
    · next hended =>
      obtain rfl := Except.ok.inj h
      exact ⟨_, congrArg (Document.mk _) hended, hb⟩
    · cases h
  · rintro ⟨n, hn, hd⟩
    rw [ReadsAs] at hn
    rw [hn]
    simp only [hd, ok_bind, if_true, pure_eq]

/-- A document is a value with blanks around it. -/
theorem readsAs_iff : ReadsAs bs n ↔
    ∃ taken blanks, bs = taken ++ blanks ∧ TakesValue taken n ∧ Blanks blanks := by
  constructor
  · intro h
    rw [ReadsAs, read] at h
    split at h
    · next root rest hread =>
      obtain ⟨rfl, hrest⟩ := Document.mk.inj h
      obtain ⟨taken, rfl, htakes⟩ := exists_takesValue _ hread
      refine ⟨taken, rest, rfl, htakes, fun b hb ↦ ?_⟩
      have hnil : skipBlanks rest = [] := List.isEmpty_iff.1 hrest
      exact List.dropWhile_eq_nil_iff.1 hnil b hb
    · cases h
  · rintro ⟨taken, blanks, rfl, htakes, hblanks⟩
    have hread : readValue (2 * (taken ++ blanks).length + 2) (taken ++ blanks) =
        (n, some blanks) := by
      have hafter : AfterValue (blanks ++ []) := hblanks.afterValue_append Heads.nil
      refine htakes _ _ (by rw [List.length_append]; omega) ?_
      rwa [List.append_nil] at hafter
    have hnil : skipBlanks blanks = [] := List.dropWhile_eq_nil_iff.2 hblanks
    rw [ReadsAs, read, hread]
    simp only [hnil, List.isEmpty_nil]

/-! ## Members -/

theorem readScalar_ne_string (bs : Bytes) (s : Except StringFault String) :
    (readScalar bs).1 ≠ .string s := by
  fun_cases readScalar bs <;> simp_all

theorem readScalar_ne_object (bs : Bytes) (members : Members) :
    (readScalar bs).1 ≠ .object members := by
  fun_cases readScalar bs <;> simp_all

theorem readsAs_string {ps : List Piece} (h : pieces bs = some (ps, [])) :
    ReadsAs (34 :: bs) (.string (pieceText ps)) := by
  have hblanks : skipBlanks (34 :: bs) = 34 :: bs := rfl
  have hread : readValue (2 * (34 :: bs).length + 2) (34 :: bs) =
      (.string (pieceText ps), some []) := by
    rw [readValue]
    simp only [hblanks, h]
  rw [ReadsAs, read, hread]
  rfl

/-- A string that was read is a name with its opening mark. -/
theorem exists_takesName {fuel : Nat} {rest : Bytes} {s : Except StringFault String}
    (h : readValue fuel bs = (.string s, some rest)) :
    ∃ before taken, bs = before ++ 34 :: (taken ++ rest) ∧ Blanks before ∧ TakesName taken s := by
  obtain ⟨before, hbefore, hbs⟩ := exists_skipBlanks bs
  cases fuel with
  | zero => cases h
  | succ fuel =>
    rw [readValue] at h
    split at h
    · next cs hmark =>
      split at h
      · next ps after hpieces =>
        cases h
        obtain ⟨taken, rfl, htaken⟩ := exists_pieces hpieces
        exact ⟨before, taken, by rw [hbs, hmark], hbefore, ps, htaken, rfl⟩
      · cases h
    · split at h <;> cases h
    · split at h <;> cases h
    · exact absurd (congrArg Prod.fst h) (readScalar_ne_string _ s)

/-- The text of a member: a document of its name and one of its value. -/
structure MemberText where
  nameText : Bytes
  valueText : Bytes
  name : String
  value : Node
  readsAs_name : ReadsAs nameText (.string (.ok name))
  readsAs_value : ReadsAs valueText value

namespace MemberText

variable (m : MemberText)

def text : Bytes := m.nameText ++ 58 :: m.valueText

/-- The member as it is read. -/
def member : String × Node := (m.name, m.value)

theorem exists_memberBytes : ∃ b : MemberBytes, b.text = m.text ∧ b.name = .ok m.name ∧
    b.value = m.value := by
  obtain ⟨nameTaken, between, hname, htakes, hbetween⟩ := readsAs_iff.1 m.readsAs_name
  obtain ⟨before, taken, hbefore, hblanks, htaken⟩ :=
    exists_takesName (htakes _ [] (Nat.le_refl _) Heads.nil)
  obtain ⟨value, after, hvalue, htakesValue, hafter⟩ := readsAs_iff.1 m.readsAs_value
  refine ⟨⟨before, taken, between, value, after, .ok m.name, m.value, hblanks, htaken, hbetween,
    htakesValue, hafter⟩, ?_, rfl, rfl⟩
  have hbytes : nameTaken = before ++ 34 :: taken := by simpa using hbefore
  rw [MemberBytes.text, text, hname, hvalue, hbytes]
  simp

end MemberText

theorem MemberBytes.exists_memberText (b : MemberBytes) {name : String} (h : b.name = .ok name) :
    ∃ m : MemberText, m.text = b.text ∧ m.member = (name, b.value) := by
  have hname : ReadsAs (b.before ++ 34 :: (b.nameBytes ++ b.between)) (.string (.ok name)) := by
    refine readsAs_iff.2 ⟨b.before ++ 34 :: b.nameBytes, b.between, by simp, ?_, b.blanks_between⟩
    rw [← h]
    exact b.takesName.takesValue.append_blanks b.blanks_before
  have hvalue : ReadsAs (b.valueBytes ++ b.after) b.value :=
    readsAs_iff.2 ⟨b.valueBytes, b.after, rfl, b.takesValue, b.blanks_after⟩
  exact ⟨⟨_, _, name, b.value, hname, hvalue⟩, by simp [MemberText.text, text], rfl⟩

/-- A member as it is written. -/
def MemberText.ofValue (name : String) (v : Value) (hv : v.Integral) : MemberText where
  nameText := Text.utf8 (Value.string name).text
  valueText := Text.utf8 v.text
  name := name
  value := v.node
  readsAs_name := read_text (v := .string name) trivial
  readsAs_value := read_text hv

/-! ## Objects and arrays -/

/-- Parts between two brackets, with commas between them and blanks around all of it. -/
def Encloses (first last : UInt8) (parts : List Bytes) (bs : Bytes) : Prop :=
  ∃ before inner after, Blanks before ∧ Blanks inner ∧ Blanks after ∧
    bs = before ++ first :: (inner ++ ([44].intercalate parts ++ last :: after))

/-- The text of an object with these members. -/
def IsObject (ms : List MemberText) : Bytes → Prop := Encloses 123 125 (ms.map MemberText.text)

/-- The text of an array with these items. -/
def IsArray (items : List Bytes) : Bytes → Prop := Encloses 91 93 items

theorem encloses_of_eq {first last : UInt8} {parts : List Bytes}
    (h : bs = first :: ([44].intercalate parts ++ [last])) : Encloses first last parts bs :=
  ⟨[], [], [], List.forall_mem_nil _, List.forall_mem_nil _, List.forall_mem_nil _, h⟩

theorem Encloses.readsAs {first last : UInt8} {parts : List Bytes}
    (h : Encloses first last parts bs)
    (htakes : ∀ inner, Blanks inner →
      TakesValue (first :: (inner ++ ([44].intercalate parts ++ [last]))) n) : ReadsAs bs n := by
  obtain ⟨before, inner, after, hbefore, hinner, hafter, rfl⟩ := h
  refine readsAs_iff.2 ⟨_, after, ?_, (htakes inner hinner).append_blanks hbefore, hafter⟩
  simp

theorem takesMembers_texts (m : MemberText) (ms : List MemberText) :
    TakesMembers ([44].intercalate ((m :: ms).map MemberText.text) ++ [125])
      (.ofList ((m :: ms).map MemberText.member)) := by
  induction ms generalizing m with
  | nil =>
    obtain ⟨b, htext, hname, hvalue⟩ := m.exists_memberBytes
    have hlast := b.takesMembers_last
    rw [htext, hname, hvalue] at hlast
    rw [List.map_singleton, List.map_singleton, List.intercalate_singleton]
    exact hlast
  | cons m' ms ih =>
    obtain ⟨b, htext, hname, hvalue⟩ := m.exists_memberBytes
    have hmore := b.takesMembers_more (ih m')
    rw [htext, hname, hvalue] at hmore
    rw [List.map_cons, List.map_cons, List.intercalate_cons_cons, List.append_assoc,
      List.append_assoc]
    exact hmore

theorem IsObject.readsAs {ms : List MemberText} (h : IsObject ms bs) :
    ReadsAs bs (.object (.ofList (ms.map MemberText.member))) := by
  refine Encloses.readsAs h fun inner hinner ↦ ?_
  cases ms with
  | nil => exact takesValue_emptyObject hinner
  | cons m ms => exact takesValue_object ((takesMembers_texts m ms).append_blanks hinner)

theorem takesItems_texts {item : Bytes} {items : List Bytes} {n : Node} {ns : List Node}
    (h : List.Forall₂ ReadsAs (item :: items) (n :: ns)) :
    TakesItems ([44].intercalate (item :: items) ++ [93]) (.ofList (n :: ns)) := by
  induction items generalizing item n ns with
  | nil =>
    obtain ⟨hitem, hnil⟩ := List.forall₂_cons.1 h
    obtain rfl := List.forall₂_nil_left_iff.1 hnil
    obtain ⟨taken, after, rfl, htakes, hafter⟩ := readsAs_iff.1 hitem
    rw [List.intercalate_singleton, List.append_assoc]
    exact takesItems_last htakes hafter
  | cons item' items ih =>
    obtain ⟨hitem, hitems⟩ := List.forall₂_cons.1 h
    obtain ⟨n', ns, hn', hns, rfl⟩ := List.forall₂_cons_left_iff.1 hitems
    obtain ⟨taken, after, rfl, htakes, hafter⟩ := readsAs_iff.1 hitem
    rw [List.intercalate_cons_cons, List.append_assoc, List.append_assoc, List.append_assoc]
    exact takesItems_more htakes hafter (ih hitems)

theorem IsArray.readsAs {items : List Bytes} {ns : List Node} (h : IsArray items bs)
    (hitems : List.Forall₂ ReadsAs items ns) : ReadsAs bs (.array (.ofList ns)) := by
  refine Encloses.readsAs h fun inner hinner ↦ ?_
  cases hitems with
  | nil => exact takesValue_emptyArray hinner
  | cons hitem hitems =>
    exact takesValue_array ((takesItems_texts (.cons hitem hitems)).append_blanks hinner)

/-! ## Taking objects apart -/

theorem Members.ofList_eq_next {values : List (String × Node)}
    {k : Except StringFault String} {more : Members} (h : ofList values = .next k n more) :
    ∃ name others, k = .ok name ∧ more = ofList others ∧ values = (name, n) :: others := by
  match values with
  | [] => cases h
  | (name, n') :: others =>
    cases h
    exact ⟨name, others, rfl, rfl, rfl⟩

theorem Members.ofList_eq_done {values : List (String × Node)} (h : ofList values = .done) :
    values = [] := by
  match values with
  | [] => rfl
  | _ :: _ => cases h

theorem Members.ofList_injective : Function.Injective ofList := by
  intro values values' h
  induction values generalizing values' with
  | nil => exact (ofList_eq_done h.symm).symm
  | cons x values ih =>
    obtain ⟨name, others, hname, hothers, rfl⟩ := ofList_eq_next h.symm
    obtain rfl := Except.ok.inj hname
    rw [ih hothers]

theorem exists_texts {fuel : Nat} {values : List (String × Node)} {rest : Bytes}
    (h : readMembers fuel bs = (.ofList values, some rest)) :
    ∃ m ms, (m :: ms).map MemberText.member = values ∧
      bs = [44].intercalate ((m :: ms).map MemberText.text) ++ 125 :: rest := by
  induction fuel generalizing bs values with
  | zero => cases (Prod.mk.inj h).2
  | succ fuel ih =>
    obtain ⟨b, ⟨rfl, hnext⟩ | ⟨others, more, rfl, hmore, hnext⟩⟩ :=
      exists_memberBytes (exists_takesValue fuel) h
    · obtain ⟨name, others, hname, hdone, rfl⟩ := Members.ofList_eq_next hnext
      obtain rfl := Members.ofList_eq_done hdone.symm
      obtain ⟨m, htext, hmember⟩ := b.exists_memberText hname
      refine ⟨m, [], congrArg ([·]) hmember, ?_⟩
      rw [List.map_singleton, List.intercalate_singleton, htext]
    · obtain ⟨name, values, hname, rfl, rfl⟩ := Members.ofList_eq_next hnext
      obtain ⟨m, htext, hmember⟩ := b.exists_memberText hname
      obtain ⟨m', ms, rfl, rfl⟩ := ih hmore
      refine ⟨m, m' :: ms, congrArg (· :: (m' :: ms).map MemberText.member) hmember, ?_⟩
      simp [htext]

/-- An object that was read is closed at once or has members. -/
theorem exists_of_readObject {fuel : Nat} {members : Members} {rest : Bytes}
    (h : readValue fuel bs = (.object members, some rest)) :
    ∃ before inner, bs = before ++ 123 :: inner ∧ Blanks before ∧
      ((members = .done ∧ ∃ blanks, Blanks blanks ∧ inner = blanks ++ 125 :: rest) ∨
        ∃ fuel, readMembers fuel inner = (members, some rest)) := by
  obtain ⟨before, hbefore, hbs⟩ := exists_skipBlanks bs
  cases fuel with
  | zero => cases h
  | succ fuel =>
    rw [readValue] at h
    split at h
    · split at h <;> cases h
    · split at h <;> cases h
    · next inner hbrace =>
      refine ⟨before, inner, by rw [hbs, hbrace], hbefore, ?_⟩
      obtain ⟨blanks, hblanks, hinner⟩ := exists_skipBlanks inner
      split at h
      · next after hend =>
        cases h
        exact .inl ⟨rfl, blanks, hblanks, by rw [hinner, hend]⟩
      · rw [Value.readMembers_skipBlanks] at h
        obtain ⟨hmembers, hrest⟩ := Prod.mk.inj h
        exact .inr ⟨fuel, Prod.ext (Node.object.inj hmembers) hrest⟩
    · exact absurd (congrArg Prod.fst h) (readScalar_ne_object _ members)

theorem readsAs_object_iff {values : List (String × Node)} :
    ReadsAs bs (.object (.ofList values)) ↔
      ∃ ms, ms.map MemberText.member = values ∧ IsObject ms bs := by
  constructor
  · intro h
    obtain ⟨taken, after, rfl, htakes, hafter⟩ := readsAs_iff.1 h
    obtain ⟨before, inner, htaken, hbefore, hinner⟩ :=
      exists_of_readObject (htakes _ [] (Nat.le_refl _) Heads.nil)
    rw [List.append_nil] at htaken
    rcases hinner with ⟨hdone, blanks, hblanks, rfl⟩ | ⟨fuel, hread⟩
    · obtain rfl := Members.ofList_eq_done hdone
      refine ⟨[], rfl, before, blanks, after, hbefore, hblanks, hafter, ?_⟩
      rw [htaken]
      simp
    · obtain ⟨m, ms, rfl, rfl⟩ := exists_texts hread
      refine ⟨m :: ms, rfl, before, [], after, hbefore, by simp [Blanks], hafter, ?_⟩
      rw [htaken]
      simp
  · rintro ⟨ms, rfl, h⟩
    exact h.readsAs

end SignOn.Json

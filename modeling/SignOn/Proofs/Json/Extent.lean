import SignOn.Proofs.Json.Tokens

/-!
# How far a value reaches

A value that was read has taken up bytes of its own, too, and is read wherever these bytes stand in
a document. The induction is that of the readers; behind it any fuel will do that is twice the
number of the bytes.
-/

namespace SignOn.Json

open Reader

variable {bs rest : Bytes}

/-! ## Blanks -/

theorem exists_skipBlanks (bs : Bytes) : ∃ blanks, Blanks blanks ∧ bs = blanks ++ skipBlanks bs :=
  ⟨bs.takeWhile isBlank, fun _ hb ↦ List.mem_takeWhile_imp hb, List.takeWhile_append_dropWhile.symm⟩

theorem isBlank_of_skipBlanks {b : UInt8} {cs : Bytes} (h : skipBlanks bs = b :: cs) :
    isBlank b = false := by
  have hhead := List.head?_dropWhile_not isBlank bs
  rw [skipBlanks] at h
  rw [h] at hhead
  simpa using hhead

theorem Blanks.skipBlanks_append {blanks : Bytes} (h : Blanks blanks) (bs : Bytes) :
    skipBlanks (blanks ++ bs) = skipBlanks bs := List.dropWhile_append_of_pos h

theorem Blanks.skipBlanks_cons {blanks : Bytes} (h : Blanks blanks) {b : UInt8}
    (hb : isBlank b = false) (bs : Bytes) : skipBlanks (blanks ++ b :: bs) = b :: bs := by
  rw [h.skipBlanks_append, Value.skipBlanks_cons hb]

/-! ## Values -/

/-- A value takes up exactly these bytes, wherever they stand. -/
def TakesValue (taken : Bytes) (n : Node) : Prop :=
  ∀ fuel tail, 2 * taken.length ≤ fuel → AfterValue tail →
    readValue fuel (taken ++ tail) = (n, some tail)

def TakesItems (taken : Bytes) (items : Items) : Prop :=
  ∀ fuel tail, 2 * taken.length ≤ fuel → readItems fuel (taken ++ tail) = (items, some tail)

def TakesMembers (taken : Bytes) (members : Members) : Prop :=
  ∀ fuel tail, 2 * taken.length ≤ fuel → readMembers fuel (taken ++ tail) = (members, some tail)

section

variable {taken blanks : Bytes} (hblanks : Blanks blanks)

include hblanks

theorem TakesValue.append_blanks {n : Node} (h : TakesValue taken n) :
    TakesValue (blanks ++ taken) n := by
  intro fuel tail hfuel htail
  rw [List.length_append] at hfuel
  rw [← Value.readValue_skipBlanks, List.append_assoc, hblanks.skipBlanks_append,
    Value.readValue_skipBlanks]
  exact h fuel tail (by omega) htail

theorem TakesItems.append_blanks {items : Items} (h : TakesItems taken items) :
    TakesItems (blanks ++ taken) items := by
  intro fuel tail hfuel
  rw [List.length_append] at hfuel
  rw [← Value.readItems_skipBlanks, List.append_assoc, hblanks.skipBlanks_append,
    Value.readItems_skipBlanks]
  exact h fuel tail (by omega)

theorem TakesMembers.append_blanks {members : Members} (h : TakesMembers taken members) :
    TakesMembers (blanks ++ taken) members := by
  intro fuel tail hfuel
  rw [List.length_append] at hfuel
  rw [← Value.readMembers_skipBlanks, List.append_assoc, hblanks.skipBlanks_append,
    Value.readMembers_skipBlanks]
  exact h fuel tail (by omega)

end

section

variable {taken blanks : Bytes}

/-- A name takes up exactly these bytes behind its opening mark. -/
def TakesName (taken : Bytes) (name : Except StringFault String) : Prop :=
  ∃ ps, (∀ tail, pieces (taken ++ tail) = some (ps, tail)) ∧ name = pieceText ps

theorem TakesName.takesValue {s : Except StringFault String} (h : TakesName taken s) :
    TakesValue (34 :: taken) (.string s) := by
  obtain ⟨ps, hps, rfl⟩ := h
  intro fuel tail hfuel htail
  rw [List.length_cons] at hfuel
  obtain ⟨fuel, rfl⟩ : ∃ f, fuel = f + 1 := ⟨fuel - 1, by omega⟩
  rw [List.cons_append, readValue, Value.skipBlanks_cons rfl]
  simp only [hps tail]

theorem takesValue_scalar {b : UInt8} {n : Node} (hblank : isBlank b = false)
    (hstart : b ≠ 34 ∧ b ≠ 91 ∧ b ≠ 123)
    (h : ∀ tail, AfterNumeral tail → readScalar (b :: taken ++ tail) = (n, some tail)) :
    TakesValue (b :: taken) n := by
  intro fuel tail hfuel htail
  rw [List.length_cons] at hfuel
  obtain ⟨fuel, rfl⟩ : ∃ f, fuel = f + 1 := ⟨fuel - 1, by omega⟩
  rw [← h tail htail.afterNumeral, List.cons_append, readValue, Value.skipBlanks_cons hblank]
  split
  · next heq => exact absurd (List.cons.inj heq).1 hstart.1
  · next heq => exact absurd (List.cons.inj heq).1 hstart.2.1
  · next heq => exact absurd (List.cons.inj heq).1 hstart.2.2
  · rfl

theorem takesValue_emptyArray (hblanks : Blanks blanks) :
    TakesValue (91 :: (blanks ++ [93])) (.array .done) := by
  intro fuel tail hfuel htail
  rw [List.length_cons] at hfuel
  obtain ⟨fuel, rfl⟩ : ∃ f, fuel = f + 1 := ⟨fuel - 1, by omega⟩
  rw [List.cons_append, readValue, Value.skipBlanks_cons rfl]
  simp only [List.append_assoc, List.singleton_append, hblanks.skipBlanks_cons (b := 93) rfl]

theorem takesValue_emptyObject (hblanks : Blanks blanks) :
    TakesValue (123 :: (blanks ++ [125])) (.object .done) := by
  intro fuel tail hfuel htail
  rw [List.length_cons] at hfuel
  obtain ⟨fuel, rfl⟩ : ∃ f, fuel = f + 1 := ⟨fuel - 1, by omega⟩
  rw [List.cons_append, readValue, Value.skipBlanks_cons rfl]
  simp only [List.append_assoc, List.singleton_append, hblanks.skipBlanks_cons (b := 125) rfl]

/-- Items do not start by closing their array. -/
theorem head?_of_readItems {fuel : Nat} {items : Items}
    (h : readItems fuel bs = (items, some rest)) : (skipBlanks bs).head? ≠ some 93 := by
  intro hhead
  obtain ⟨cs, hcs⟩ := List.head?_eq_some_iff.1 hhead
  match fuel with
  | 0 | 1 => cases h
  | fuel + 2 =>
    rw [readItems, readValue, hcs] at h
    simp only at h
    cases h

theorem takesValue_array {items : Items} (h : TakesItems taken items) :
    TakesValue (91 :: taken) (.array items) := by
  intro fuel tail hfuel htail
  rw [List.length_cons] at hfuel
  obtain ⟨fuel, rfl⟩ : ∃ f, fuel = f + 1 := ⟨fuel - 1, by omega⟩
  have hread := h fuel tail (by omega)
  rw [List.cons_append, Value.readValue_array (head?_of_readItems hread), hread]

/-- Members start with the mark of a name. -/
theorem head?_of_readMembers {fuel : Nat} {members : Members}
    (h : readMembers fuel bs = (members, some rest)) : (skipBlanks bs).head? = some 34 := by
  cases fuel with
  | zero => cases h
  | succ fuel =>
    rw [readMembers] at h
    split at h
    · next cs hmark => rw [hmark, List.head?_cons]
    · cases h

theorem takesValue_object {members : Members} (h : TakesMembers taken members) :
    TakesValue (123 :: taken) (.object members) := by
  intro fuel tail hfuel htail
  rw [List.length_cons] at hfuel
  obtain ⟨fuel, rfl⟩ : ∃ f, fuel = f + 1 := ⟨fuel - 1, by omega⟩
  have hread := h fuel tail (by omega)
  have hhead : (skipBlanks (taken ++ tail)).head? ≠ some 125 := by
    rw [head?_of_readMembers hread]
    decide
  rw [List.cons_append, Value.readValue_object hhead, hread]

/-! ## Items and members -/

theorem takesItems_last {n : Node} (h : TakesValue taken n) (hblanks : Blanks blanks) :
    TakesItems (taken ++ (blanks ++ [93])) (.next n .done) := by
  intro fuel tail hfuel
  simp only [List.length_append, List.length_singleton] at hfuel
  obtain ⟨fuel, rfl⟩ : ∃ f, fuel = f + 1 := ⟨fuel - 1, by omega⟩
  simp only [List.append_assoc, List.singleton_append]
  have hread := h fuel _ (by omega) (hblanks.afterValue_cons (.inr (.inl rfl)) tail)
  exact Value.readItems_last hread (hblanks.skipBlanks_cons rfl _)

theorem takesItems_more {n : Node} {others : Bytes} {items : Items} (h : TakesValue taken n)
    (hblanks : Blanks blanks) (hitems : TakesItems others items) :
    TakesItems (taken ++ (blanks ++ 44 :: others)) (.next n items) := by
  intro fuel tail hfuel
  simp only [List.length_append, List.length_cons] at hfuel
  obtain ⟨fuel, rfl⟩ : ∃ f, fuel = f + 1 := ⟨fuel - 1, by omega⟩
  simp only [List.append_assoc, List.cons_append]
  have hread := h fuel _ (by omega) (hblanks.afterValue_cons (.inl rfl) (others ++ tail))
  rw [Value.readItems_more hread (hblanks.skipBlanks_cons rfl _), hitems fuel tail (by omega)]

end

/-- The bytes of a member: its name behind the opening mark, its value, and the blanks around
them. -/
structure MemberBytes where
  before : Bytes
  nameBytes : Bytes
  between : Bytes
  valueBytes : Bytes
  after : Bytes
  name : Except StringFault String
  value : Node
  blanks_before : Blanks before
  takesName : TakesName nameBytes name
  blanks_between : Blanks between
  takesValue : TakesValue valueBytes value
  blanks_after : Blanks after

namespace MemberBytes

def text (m : MemberBytes) : Bytes :=
  m.before ++ 34 :: (m.nameBytes ++ (m.between ++ 58 :: (m.valueBytes ++ m.after)))

variable (m : MemberBytes)

theorem takesMembers_last : TakesMembers (m.text ++ [125]) (.next m.name m.value .done) := by
  obtain ⟨ps, hps, hname⟩ := m.takesName
  intro fuel tail hfuel
  simp only [text, List.length_append, List.length_cons] at hfuel
  obtain ⟨fuel, rfl⟩ : ∃ f, fuel = f + 1 := ⟨fuel - 1, by omega⟩
  have hread := m.takesValue fuel _ (by omega)
    (m.blanks_after.afterValue_cons (.inr (.inr rfl)) tail)
  simp only [text, List.append_assoc, List.cons_append, List.nil_append]
  rw [readMembers, m.blanks_before.skipBlanks_cons rfl]
  simp only [hps, hname, m.blanks_between.skipBlanks_cons (b := 58) rfl, hread,
    m.blanks_after.skipBlanks_cons (b := 125) rfl]

theorem takesMembers_more {others : Bytes} {members : Members} (h : TakesMembers others members) :
    TakesMembers (m.text ++ 44 :: others) (.next m.name m.value members) := by
  obtain ⟨ps, hps, hname⟩ := m.takesName
  intro fuel tail hfuel
  simp only [text, List.length_append, List.length_cons] at hfuel
  obtain ⟨fuel, rfl⟩ : ∃ f, fuel = f + 1 := ⟨fuel - 1, by omega⟩
  have hread := m.takesValue fuel _ (by omega)
    (m.blanks_after.afterValue_cons (.inl rfl) (others ++ tail))
  simp only [text, List.append_assoc, List.cons_append]
  rw [readMembers, m.blanks_before.skipBlanks_cons rfl]
  simp only [hps, hname, m.blanks_between.skipBlanks_cons (b := 58) rfl, hread,
    m.blanks_after.skipBlanks_cons (b := 44) rfl, h fuel tail (by omega)]

end MemberBytes

/-! ## What was read -/

/-- Members that were read are one member, and the end of the object or further members. -/
theorem exists_memberBytes {fuel : Nat}
    (hvalue : ∀ {bs rest : Bytes} {n : Node}, readValue fuel bs = (n, some rest) →
      ∃ taken, bs = taken ++ rest ∧ TakesValue taken n)
    {members : Members} (h : readMembers (fuel + 1) bs = (members, some rest)) :
    ∃ m : MemberBytes,
      (bs = m.text ++ 125 :: rest ∧ members = .next m.name m.value .done) ∨
      ∃ others more, bs = m.text ++ 44 :: others ∧ readMembers fuel others = (more, some rest) ∧
        members = .next m.name m.value more := by
  obtain ⟨before, hbefore, hbs⟩ := exists_skipBlanks bs
  rw [readMembers] at h
  split at h
  · next cs hmark =>
    split at h
    · cases h
    · next ps ds hpieces =>
      obtain ⟨name, rfl, hname⟩ := exists_pieces hpieces
      obtain ⟨between, hbetween, hds⟩ := exists_skipBlanks ds
      split at h
      · next es hcolon =>
        split at h
        · cases h
        · next value fs hread =>
          obtain ⟨taken, rfl, htakes⟩ := hvalue hread
          obtain ⟨after, hafter, hfs⟩ := exists_skipBlanks fs
          refine ⟨⟨before, name, between, taken, after, pieceText ps, value, hbefore,
            ⟨ps, hname, rfl⟩, hbetween, htakes, hafter⟩, ?_⟩
          split at h
          · next gs hend =>
            cases h
            refine .inl ⟨?_, rfl⟩
            rw [hbs, hmark, hds, hcolon, hfs, hend]
            simp [MemberBytes.text]
          · next gs hend =>
            obtain ⟨rfl, hrest⟩ := Prod.mk.inj h
            refine .inr ⟨gs, _, ?_, Prod.ext rfl hrest, rfl⟩
            rw [hbs, hmark, hds, hcolon, hfs, hend]
            simp [MemberBytes.text]
          · cases h
      · cases h
  · cases h

mutual

/-- A value that was read has taken up bytes of its own. -/
theorem exists_takesValue (fuel : Nat) {bs rest : Bytes} {n : Node}
    (h : readValue fuel bs = (n, some rest)) :
    ∃ taken, bs = taken ++ rest ∧ TakesValue taken n := by
  match fuel with
  | 0 => cases h
  | fuel + 1 =>
    obtain ⟨blanks, hblanks, hbs⟩ := exists_skipBlanks bs
    suffices ∃ taken, skipBlanks bs = taken ++ rest ∧ TakesValue taken n by
      obtain ⟨taken, htaken, hvalue⟩ := this
      refine ⟨blanks ++ taken, ?_, hvalue.append_blanks hblanks⟩
      rw [List.append_assoc, ← htaken]
      exact hbs
    rw [readValue] at h
    split at h
    · next cs heq =>
      rw [heq]
      split at h
      · next ps after hpieces =>
        cases h
        obtain ⟨taken, rfl, htaken⟩ := exists_pieces hpieces
        exact ⟨34 :: taken, rfl, TakesName.takesValue ⟨ps, htaken, rfl⟩⟩
      · cases h
    · next cs heq =>
      rw [heq]
      obtain ⟨inner, hinner, hcs⟩ := exists_skipBlanks cs
      split at h
      · next after hend =>
        cases h
        refine ⟨91 :: (inner ++ [93]), ?_, takesValue_emptyArray hinner⟩
        rw [hcs, hend]
        simp
      · obtain ⟨rfl, hrest⟩ := Prod.mk.inj h
        rw [Value.readItems_skipBlanks] at hrest ⊢
        obtain ⟨taken, rfl, htakes⟩ := exists_takesItems fuel (Prod.ext rfl hrest)
        exact ⟨91 :: taken, rfl, takesValue_array htakes⟩
    · next cs heq =>
      rw [heq]
      obtain ⟨inner, hinner, hcs⟩ := exists_skipBlanks cs
      split at h
      · next after hend =>
        cases h
        refine ⟨123 :: (inner ++ [125]), ?_, takesValue_emptyObject hinner⟩
        rw [hcs, hend]
        simp
      · obtain ⟨rfl, hrest⟩ := Prod.mk.inj h
        rw [Value.readMembers_skipBlanks] at hrest ⊢
        obtain ⟨taken, rfl, htakes⟩ := exists_takesMembers fuel (Prod.ext rfl hrest)
        exact ⟨123 :: taken, rfl, takesValue_object htakes⟩
    · next h34 h91 h123 =>
      obtain ⟨taken, htaken, hne, hreads⟩ := exists_readScalar h
      obtain ⟨b, taken, rfl⟩ := List.exists_cons_of_ne_nil hne
      refine ⟨b :: taken, htaken, takesValue_scalar (isBlank_of_skipBlanks htaken) ?_ hreads⟩
      refine ⟨?_, ?_, ?_⟩
      · rintro rfl
        exact h34 _ htaken
      · rintro rfl
        exact h91 _ htaken
      · rintro rfl
        exact h123 _ htaken
termination_by fuel

theorem exists_takesItems (fuel : Nat) {bs rest : Bytes} {items : Items}
    (h : readItems fuel bs = (items, some rest)) :
    ∃ taken, bs = taken ++ rest ∧ TakesItems taken items := by
  match fuel with
  | 0 => cases h
  | fuel + 1 =>
    rw [readItems] at h
    split at h
    · cases h
    · next item cs hitem =>
      obtain ⟨taken, rfl, hvalue⟩ := exists_takesValue fuel hitem
      obtain ⟨blanks, hblanks, hcs⟩ := exists_skipBlanks cs
      split at h
      · next after hend =>
        cases h
        refine ⟨taken ++ (blanks ++ [93]), ?_, takesItems_last hvalue hblanks⟩
        rw [hcs, hend]
        simp
      · next after hend =>
        obtain ⟨rfl, hrest⟩ := Prod.mk.inj h
        obtain ⟨others, rfl, hothers⟩ := exists_takesItems fuel (Prod.ext rfl hrest)
        refine ⟨taken ++ (blanks ++ 44 :: others), ?_, takesItems_more hvalue hblanks hothers⟩
        rw [hcs, hend]
        simp
      · cases h
termination_by fuel

theorem exists_takesMembers (fuel : Nat) {bs rest : Bytes} {members : Members}
    (h : readMembers fuel bs = (members, some rest)) :
    ∃ taken, bs = taken ++ rest ∧ TakesMembers taken members := by
  match fuel with
  | 0 => cases h
  | fuel + 1 =>
    obtain ⟨m, ⟨rfl, rfl⟩ | ⟨others, more, rfl, hmore, rfl⟩⟩ :=
      exists_memberBytes (exists_takesValue fuel) h
    · exact ⟨m.text ++ [125], by simp, m.takesMembers_last⟩
    · obtain ⟨taken, rfl, htakes⟩ := exists_takesMembers fuel hmore
      exact ⟨m.text ++ 44 :: taken, by simp, m.takesMembers_more htakes⟩
termination_by fuel

end

end SignOn.Json

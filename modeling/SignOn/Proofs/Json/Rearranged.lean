import SignOn.Proofs.Json.Parts

/-!
# Objects whose members are rearranged

A record is made of the members that its fields name, each of which comes once. So it makes no
difference in what order they come, nor which unknown members stand between them, as long as these
pass the check that there is for them. That goes for records of both kinds: those that read an
object as it comes, and those that keep a part of its members and read them when it has ended.
-/

namespace SignOn.Json

open Outcome

namespace Record

variable {α β : Type}

/-- The names of the fields. -/
def names (fields : List Field) : List String := fields.map Field.name

theorem find?_eq_none_iff {fields : List Field} {key : String} :
    fields.find? (fun f ↦ f.name = key) = none ↔ key ∉ names fields := by
  simp [names]

/-! ## What a record depends on -/

/-- What a record builds depends on the members that its fields name. -/
class Local (r : Record α) : Prop where
  build_congr {room : Nat} {values values' : List (String × Node)} :
    (∀ k ∈ names r.fields, values.lookup k = values'.lookup k) →
      r.build ⟨room, values⟩ = r.build ⟨room, values'⟩

instance (name : String) (d : Decoder α) : Local (required name d) where
  build_congr h := by
    simp only [required, h name (List.mem_singleton_self name)]

instance (name : String) (d : Decoder α) : Local (optional name d) where
  build_congr h := by
    simp only [optional, h name (List.mem_singleton_self name)]

instance (name : String) (d : Decoder α) (a : α) : Local (defaulted name d a) where
  build_congr h := by
    simp only [defaulted, h name (List.mem_singleton_self name)]

instance (f : α → β) (x : Record α) [hx : Local x] : Local (f <$> x) where
  build_congr h := by
    rw [build_map, build_map, hx.build_congr h]

instance (f : Record (α → β)) (x : Record α) [hf : Local f] [hx : Local x] : Local (f <*> x) where
  build_congr {room values values'} h := by
    have hnames : names (f <*> x).fields = names f.fields ++ names x.fields := List.map_append
    rw [hnames] at h
    have hleft : f.build ⟨room, values⟩ = f.build ⟨room, values'⟩ :=
      hf.build_congr fun k hk ↦ h k (List.mem_append_left _ hk)
    have hright : x.build ⟨room, values⟩ = x.build ⟨room, values'⟩ :=
      hx.build_congr fun k hk ↦ h k (List.mem_append_right _ hk)
    rw [build_seq, build_seq, hleft, hright]

/-! ## Members that pass -/

/-- The members with known names do not repeat, none of them was seen before, and they pass the
checks of their fields. The others pass the check that there is for them. -/
structure Passes (fields : List Field) (others : Node → Decoded Unit) (room : Nat)
    (seen : List String) (values : List (String × Node)) : Prop where
  nodup : ((values.map Prod.fst).filter (· ∈ names fields)).Nodup
  unseen : ∀ x ∈ values, x.1 ∈ names fields → x.1 ∉ seen
  known : ∀ x ∈ values, ∀ f, fields.find? (fun f ↦ f.name = x.1) = some f →
    f.check room x.2 = .ok ()
  unknown : ∀ x ∈ values, x.1 ∉ names fields → others x.2 = .ok ()

section

variable {fields : List Field} {others : Node → Decoded Unit} {room : Nat} {seen : List String}
  {values : List (String × Node)} {key : String} {n : Node}

theorem passes_nil : Passes fields others room seen [] := by
  constructor <;> simp

theorem passes_cons_known {f : Field} (hf : fields.find? (fun f ↦ f.name = key) = some f) :
    Passes fields others room seen ((key, n) :: values) ↔
      key ∉ seen ∧ f.check room n = .ok () ∧ Passes fields others room (key :: seen) values := by
  have hkey : key ∈ names fields := by
    by_contra hkey
    rw [find?_eq_none_iff.2 hkey] at hf
    cases hf
  have hfilter : (((key, n) :: values).map Prod.fst).filter (· ∈ names fields) =
      key :: (values.map Prod.fst).filter (· ∈ names fields) :=
    List.filter_cons_of_pos (by simpa using hkey)
  constructor
  · rintro ⟨hnodup, hunseen, hknown, hunknown⟩
    rw [hfilter, List.nodup_cons] at hnodup
    obtain ⟨hfirst, hunseen⟩ := List.forall_mem_cons.1 hunseen
    obtain ⟨hcheck, hknown⟩ := List.forall_mem_cons.1 hknown
    refine ⟨hfirst hkey, hcheck f hf, hnodup.2, fun x hx hx' ↦ ?_, hknown,
      (List.forall_mem_cons.1 hunknown).2⟩
    rw [List.mem_cons, not_or]
    refine ⟨?_, hunseen x hx hx'⟩
    rintro rfl
    exact hnodup.1 (List.mem_filter.2 ⟨List.mem_map_of_mem hx, by simpa using hx'⟩)
  · rintro ⟨hfirst, hcheck, hnodup, hunseen, hknown, hunknown⟩
    refine ⟨?_, List.forall_mem_cons.2 ⟨fun _ ↦ hfirst, fun x hx hx' hx'' ↦
      hunseen x hx hx' (List.mem_cons_of_mem _ hx'')⟩, List.forall_mem_cons.2 ⟨fun f' hf' ↦ ?_,
      hknown⟩, List.forall_mem_cons.2 ⟨fun hnot ↦ absurd hkey hnot, hunknown⟩⟩
    · rw [hfilter, List.nodup_cons]
      refine ⟨fun hmem ↦ ?_, hnodup⟩
      obtain ⟨x, hx, rfl⟩ := List.mem_map.1 (List.mem_filter.1 hmem).1
      exact hunseen x hx hkey List.mem_cons_self
    · obtain rfl := Option.some.inj (hf.symm.trans hf')
      exact hcheck

theorem passes_cons_unknown (hkey : key ∉ names fields) :
    Passes fields others room seen ((key, n) :: values) ↔
      others n = .ok () ∧ Passes fields others room seen values := by
  have hfilter : (((key, n) :: values).map Prod.fst).filter (· ∈ names fields) =
      (values.map Prod.fst).filter (· ∈ names fields) :=
    List.filter_cons_of_neg (by simpa using hkey)
  constructor
  · rintro ⟨hnodup, hunseen, hknown, hunknown⟩
    rw [hfilter] at hnodup
    obtain ⟨hother, hunknown⟩ := List.forall_mem_cons.1 hunknown
    exact ⟨hother hkey, hnodup, (List.forall_mem_cons.1 hunseen).2,
      (List.forall_mem_cons.1 hknown).2, hunknown⟩
  · rintro ⟨hother, hnodup, hunseen, hknown, hunknown⟩
    refine ⟨by rwa [hfilter], List.forall_mem_cons.2 ⟨fun hx ↦ absurd hx hkey, hunseen⟩,
      List.forall_mem_cons.2 ⟨fun f hf ↦ ?_, hknown⟩,
      List.forall_mem_cons.2 ⟨fun _ ↦ hother, hunknown⟩⟩
    rw [find?_eq_none_iff.2 hkey] at hf
    cases hf

theorem scan_ofList_of_passes (h : Passes fields others room seen values) :
    scan fields others room seen (.ofList values) = .ok values := by
  induction values generalizing seen with
  | nil => rfl
  | cons x values ih =>
    obtain ⟨key, n⟩ := x
    rw [Members.ofList, scan]
    cases hfind : fields.find? (fun f ↦ f.name = key) with
    | some f =>
      obtain ⟨hseen, hcheck, hrest⟩ := (passes_cons_known hfind).1 h
      simp only [if_neg hseen, hcheck, ok_bind, ih hrest, pure_eq]
    | none =>
      obtain ⟨hother, hrest⟩ := (passes_cons_unknown (find?_eq_none_iff.1 hfind)).1 h
      simp only [hother, ok_bind, ih hrest, pure_eq]

theorem passes_of_scan {seen : List String} {ms : Members} {values : List (String × Node)}
    (h : scan fields others room seen ms = .ok values) :
    ms = .ofList values ∧ Passes fields others room seen values := by
  match ms with
  | .done =>
    cases h
    exact ⟨rfl, passes_nil⟩
  | .cut | .next (.error _) _ _ => cases h
  | .next (.ok key) n rest =>
    rw [scan] at h
    cases hfind : fields.find? (fun f ↦ f.name = key) with
    | some f =>
      simp only [hfind] at h
      split at h
      · cases h
      · next hseen =>
        obtain ⟨⟨⟩, hcheck, h⟩ := bind_eq_ok_iff.1 h
        obtain ⟨found, hfound, hlast⟩ := bind_eq_ok_iff.1 h
        obtain ⟨rfl, hrest⟩ := passes_of_scan hfound
        obtain rfl := Except.ok.inj hlast
        exact ⟨rfl, (passes_cons_known hfind).2 ⟨hseen, hcheck, hrest⟩⟩
    | none =>
      simp only [hfind] at h
      obtain ⟨⟨⟩, hother, h⟩ := bind_eq_ok_iff.1 h
      obtain ⟨found, hfound, hlast⟩ := bind_eq_ok_iff.1 h
      obtain ⟨rfl, hrest⟩ := passes_of_scan hfound
      obtain rfl := Except.ok.inj hlast
      exact ⟨rfl, (passes_cons_unknown (find?_eq_none_iff.1 hfind)).2 ⟨hother, hrest⟩⟩

/-- Going through an object hands its members on exactly if they pass. -/
theorem scan_eq_ok_iff {ms : Members} : scan fields others room seen ms = .ok values ↔
    ms = .ofList values ∧ Passes fields others room seen values := by
  constructor
  · exact passes_of_scan
  · rintro ⟨rfl, h⟩
    exact scan_ofList_of_passes h

/-- Going through members again accepts them exactly if they pass. -/
theorem rescan_eq_ok_iff : rescan fields room seen values = .ok () ↔
    Passes fields (fun _ ↦ .ok ()) room seen values := by
  induction values generalizing seen with
  | nil => exact ⟨fun _ ↦ passes_nil, fun _ ↦ rfl⟩
  | cons x values ih =>
    obtain ⟨key, n⟩ := x
    rw [rescan]
    cases hfind : fields.find? (fun f ↦ f.name = key) with
    | some f =>
      rw [passes_cons_known hfind, ← ih]
      simp only [ite_error_eq_ok_iff, bind_eq_ok_iff]
      constructor
      · rintro ⟨hseen, ⟨⟩, hcheck, h⟩
        exact ⟨hseen, hcheck, h⟩
      · rintro ⟨hseen, hcheck, h⟩
        exact ⟨hseen, (), hcheck, h⟩
    | none =>
      rw [passes_cons_unknown (find?_eq_none_iff.1 hfind), ← ih]
      simp only [true_and]

end

/-! ## What is decoded -/

section

variable {name : String} {room : Nat} {n : Node}

theorem decode_object_eq_ok_iff {r : Record α} [Lawful r] {ms : Members} {a : α} :
    r.decode name (room + 1) (.object ms) = .ok a ↔ ∃ values, ms = .ofList values ∧
      Passes r.fields passOver room [] values ∧ r.build ⟨room, values⟩ = .ok a := by
  simp only [decode, bind_eq_ok_iff]
  constructor
  · rintro ⟨values, hscan, ⟨⟩, -, hbuild⟩
    obtain ⟨hms, hpasses⟩ := scan_eq_ok_iff.1 hscan
    exact ⟨values, hms, hpasses, hbuild⟩
  · rintro ⟨values, hms, hpasses, hbuild⟩
    exact ⟨values, scan_eq_ok_iff.2 ⟨hms, hpasses⟩, (), checkPresent_of_build hbuild, hbuild⟩

/-- A value can be kept until the object has ended. -/
def keep (room : Nat) (n : Node) : Decoded Unit := (fun _ ↦ ()) <$> Decode.any room n

theorem keep_eq_ok_iff : keep room n = .ok () ↔ ∃ v, Decode.any room n = .ok v := by
  rw [keep, map_eq_ok_iff]
  simp

theorem decodeWithin_eq_ok_iff {r : Record (β → α)} {s : Record β} [Lawful r] {a : α} :
    decodeWithin name r s (room + 1) n = .ok a ↔ ∃ values f b, n = .object (.ofList values) ∧
      Passes r.fields (keep room) room [] values ∧
      Passes s.fields (fun _ ↦ .ok ()) room [] values ∧
      r.build ⟨room, values⟩ = .ok f ∧ s.build ⟨room, values⟩ = .ok b ∧ f b = a := by
  cases n with
  | object ms =>
    simp only [decodeWithin, bind_eq_ok_iff]
    constructor
    · rintro ⟨values, hscan, ⟨⟩, -, ⟨⟩, hrescan, f, hf, b, hb, h⟩
      obtain ⟨rfl, hpasses⟩ := scan_eq_ok_iff.1 hscan
      exact ⟨values, f, b, rfl, hpasses, rescan_eq_ok_iff.1 hrescan, hf, hb, Except.ok.inj h⟩
    · rintro ⟨values, f, b, hms, hpasses, hpasses', hf, hb, rfl⟩
      exact ⟨values, scan_eq_ok_iff.2 ⟨Node.object.inj hms, hpasses⟩, (),
        checkPresent_of_build hf, (), rescan_eq_ok_iff.2 hpasses', f, hf, b, hb, rfl⟩
  | _ => simp [decodeWithin]

end

/-! ## Rearranging members -/

/-- The members with known names are the same in some order. Every other one is among those that
were there before, or there is a reason for it. -/
structure Rearranges (known : List String) (reason : Node → Prop)
    (values values' : List (String × Node)) : Prop where
  perm : (values.filter (·.1 ∈ known)).Perm (values'.filter (·.1 ∈ known))
  others : ∀ x ∈ values', x.1 ∉ known → x ∈ values ∨ reason x.2

namespace Rearranges

variable {known : List String} {reason : Node → Prop} {values values' : List (String × Node)}

/-- Members are put into another order together with further ones. -/
theorem of_perm {extra : List (String × Node)} (h : values'.Perm (values ++ extra))
    (hextra : ∀ x ∈ extra, x.1 ∉ known ∧ reason x.2) : Rearranges known reason values values' where
  perm := by
    have hnone : extra.filter (·.1 ∈ known) = [] := by
      rw [List.filter_eq_nil_iff]
      intro x hx
      simpa using (hextra x hx).1
    have hfilter := h.filter (·.1 ∈ known)
    rw [List.filter_append, hnone, List.append_nil] at hfilter
    exact hfilter.symm
  others x hx _ := by
    rcases List.mem_append.1 (h.mem_iff.1 hx) with hx | hx
    · exact .inl hx
    · exact .inr (hextra x hx).2

/-- Members are put into another order. -/
theorem of_reordered (h : values'.Perm values) : Rearranges known reason values values' := by
  have happend : values'.Perm (values ++ []) := by rwa [List.append_nil]
  exact .of_perm happend (List.forall_mem_nil _)

variable (h : Rearranges known reason values values')

include h

theorem mem_of_known {x : String × Node} (hx : x ∈ values') (hknown : x.1 ∈ known) :
    x ∈ values := by
  have hfilter : x ∈ values'.filter (·.1 ∈ known) := List.mem_filter.2 ⟨hx, by simpa using hknown⟩
  exact (List.mem_filter.1 (h.perm.mem_iff.2 hfilter)).1

theorem perm_of_subset {names : List String} (hsub : names ⊆ known) :
    (values.filter (·.1 ∈ names)).Perm (values'.filter (·.1 ∈ names)) := by
  have hfilter (xs : List (String × Node)) :
      xs.filter (·.1 ∈ names) = (xs.filter (·.1 ∈ known)).filter (·.1 ∈ names) := by
    rw [List.filter_filter]
    refine List.filter_congr fun x _ ↦ ?_
    by_cases hx : x.1 ∈ names
    · simp [hx, hsub hx]
    · simp [hx]
  rw [hfilter values, hfilter values']
  exact h.perm.filter _

variable {fields : List Field} {others : Node → Decoded Unit} {room : Nat}
  (hsub : names fields ⊆ known) (hpasses : Passes fields others room [] values)

include hsub hpasses

theorem lookup_eq {k : String} (hk : k ∈ names fields) : values.lookup k = values'.lookup k := by
  have hnodup : ((values.filter (·.1 ∈ names fields)).map Prod.fst).Nodup := by
    have hmap := hpasses.nodup
    rw [List.filter_map] at hmap
    exact hmap
  have hlookup (xs : List (String × Node)) :=
    Keyed.lookup_filter (p := (· ∈ names fields)) (by simpa using hk) xs
  rw [← hlookup values, ← hlookup values']
  exact Keyed.lookup_of_perm (h.perm_of_subset hsub) hnodup k

theorem passes (hreason : ∀ n, reason n → others n = .ok ()) :
    Passes fields others room [] values' where
  nodup := by
    have hperm := (h.perm_of_subset hsub).map Prod.fst
    have hnodup := hpasses.nodup
    rw [List.filter_map] at hnodup ⊢
    exact hperm.nodup_iff.1 hnodup
  unseen _ _ _ := List.not_mem_nil
  known x hx f hf := by
    have hname : x.1 ∈ names fields := by
      by_contra hname
      rw [find?_eq_none_iff.2 hname] at hf
      cases hf
    exact hpasses.known x (h.mem_of_known hx (hsub hname)) f hf
  unknown x hx hname := by
    by_cases hknown : x.1 ∈ known
    · exact hpasses.unknown x (h.mem_of_known hx hknown) hname
    · rcases h.others x hx hknown with hx | hx
      · exact hpasses.unknown x hx hname
      · exact hreason x.2 hx

end Rearranges

/-- An object decodes to the same if its members come in another order. -/
theorem decode_of_perm {name : String} {room : Nat} {r : Record α} [Lawful r] [Local r]
    {values values' : List (String × Node)} {a : α}
    (h : r.decode name (room + 1) (.object (.ofList values)) = .ok a)
    (hperm : values'.Perm values) :
    r.decode name (room + 1) (.object (.ofList values')) = .ok a := by
  obtain ⟨values, hms, hpasses, hbuild⟩ := decode_object_eq_ok_iff.1 h
  obtain rfl := Members.ofList_injective hms
  have hvalues : Rearranges (names r.fields) (fun _ ↦ False) values values' :=
    .of_reordered hperm
  have hsub : names r.fields ⊆ names r.fields := List.Subset.refl _
  refine decode_object_eq_ok_iff.2 ⟨values', rfl, hvalues.passes hsub hpasses (by simp), ?_⟩
  rw [← hbuild]
  exact (Local.build_congr fun k ↦ hvalues.lookup_eq hsub hpasses).symm

/-- An object that makes up two records decodes to the same if its members are rearranged and those
that come in can be kept. -/
theorem decodeWithin_of_rearranges {name : String} {room : Nat} {r : Record (β → α)} {s : Record β}
    [Lawful r] [Local r] [Local s] {reason : Node → Prop} {values values' : List (String × Node)}
    {a : α} (h : decodeWithin name r s (room + 1) (.object (.ofList values)) = .ok a)
    (hvalues : Rearranges (names (r.fields ++ s.fields)) reason values values')
    (hreason : ∀ n, reason n → ∃ v, Decode.any room n = .ok v) :
    decodeWithin name r s (room + 1) (.object (.ofList values')) = .ok a := by
  obtain ⟨values, f, b, hms, hpasses, hpasses', hf, hb, rfl⟩ := decodeWithin_eq_ok_iff.1 h
  obtain rfl := Members.ofList_injective (Node.object.inj hms)
  have hnames : names (r.fields ++ s.fields) = names r.fields ++ names s.fields := List.map_append
  rw [hnames] at hvalues
  have hleft : names r.fields ⊆ names r.fields ++ names s.fields := List.subset_append_left _ _
  have hright : names s.fields ⊆ names r.fields ++ names s.fields := List.subset_append_right _ _
  refine decodeWithin_eq_ok_iff.2 ⟨values', f, b, rfl,
    hvalues.passes hleft hpasses fun n hn ↦ keep_eq_ok_iff.2 (hreason n hn),
    hvalues.passes hright hpasses' fun _ _ ↦ rfl, ?_, ?_, rfl⟩
  · rw [← hf]
    exact (Local.build_congr fun k ↦ hvalues.lookup_eq hleft hpasses).symm
  · rw [← hb]
    exact (Local.build_congr fun k ↦ hvalues.lookup_eq hright hpasses').symm

/-! ## Records of one member -/

section

variable {name key : String} {room : Nat} {d : Decoder β} {f : β → α} {a : α}
  {values values' others : List (String × Node)} {n n' : Node}

theorem decode_single_eq_ok_iff :
    (f <$> required key d).decode name (room + 1) (.object (.ofList ((key, n) :: others))) =
        .ok a ↔
      (∃ b, d room n = .ok b ∧ f b = a) ∧
        Passes (required key d).fields passOver room [key] others := by
  have hfind : (required key d).fields.find? (fun f ↦ f.name = key) =
      some ⟨key, .required, checkOf d⟩ := by simp [required]
  have hbuild : (f <$> required key d).build ⟨room, (key, n) :: others⟩ = f <$> d room n := by
    rw [build_map, build_required List.lookup_cons_self]
  rw [decode_object_eq_ok_iff]
  constructor
  · rintro ⟨values, hms, hpasses, h⟩
    obtain rfl := Members.ofList_injective hms
    rw [hbuild, map_eq_ok_iff] at h
    exact ⟨h, ((passes_cons_known hfind).1 hpasses).2.2⟩
  · rintro ⟨⟨b, hb, rfl⟩, hpasses⟩
    refine ⟨_, rfl, (passes_cons_known hfind).2 ⟨List.not_mem_nil, checkOf_eq_ok hb, hpasses⟩, ?_⟩
    rw [hbuild, hb, map_ok]

/-- The member that makes up a record may be replaced by one that is decoded to the same, and the
other members may come in any order. -/
theorem decode_single_of_replaced (h : (f <$> required key d).decode name (room + 1)
      (.object (.ofList values)) = .ok a)
    (hvalues : values.Perm ((key, n) :: others)) (hvalues' : values'.Perm ((key, n') :: others))
    (hn : ∀ b, d room n = .ok b → d room n' = .ok b) :
    (f <$> required key d).decode name (room + 1) (.object (.ofList values')) = .ok a := by
  refine decode_of_perm ?_ hvalues'
  obtain ⟨⟨b, hb, hf⟩, hothers⟩ := decode_single_eq_ok_iff.1 (decode_of_perm h hvalues.symm)
  exact decode_single_eq_ok_iff.2 ⟨⟨b, hn b hb, hf⟩, hothers⟩

/-- The record may also be an array of what makes it up. -/
theorem decode_single_array_eq_ok_iff :
    (f <$> required key d).decode name (room + 1) (.array (.ofList [n])) = .ok a ↔
      ∃ b, d room n = .ok b ∧ f b = a := by
  have hbuild : (f <$> required key d).build ⟨room, [(key, n)]⟩ = f <$> d room n := by
    rw [build_map, build_required List.lookup_cons_self]
  have hfields : (f <$> required key d).fields = [⟨key, .required, checkOf d⟩] := rfl
  rw [Items.ofList, Items.ofList, decode, hfields]
  simp only [place, bind_eq_ok_iff, pure_eq]
  constructor
  · rintro ⟨_, ⟨⟨⟩, -, _, ⟨⟩, ⟨⟩⟩, h⟩
    rwa [hbuild, map_eq_ok_iff] at h
  · rintro ⟨b, hb, rfl⟩
    refine ⟨_, ⟨(), checkOf_eq_ok hb, _, rfl, rfl⟩, ?_⟩
    rw [hbuild, hb, map_ok]

end

end Record

/-- Items may be replaced by others that are decoded to the same. -/
theorem Decode.sequence_of_forall₂ {α : Type} {d : Decoder α} {room : Nat} {ns ns' : List Node}
    {as : List α} (h : sequence d (room + 1) (.array (.ofList ns)) = .ok as)
    (hns : List.Forall₂ (fun n n' ↦ ∀ a, d room n = .ok a → d room n' = .ok a) ns ns') :
    sequence d (room + 1) (.array (.ofList ns')) = .ok as := by
  rw [sequence] at h ⊢
  induction hns generalizing as with
  | nil => exact h
  | cons hn _ ih =>
    rw [Items.ofList, items] at h
    obtain ⟨a, ha, h⟩ := bind_eq_ok_iff.1 h
    obtain ⟨as, has, h⟩ := bind_eq_ok_iff.1 h
    rw [Items.ofList, items, hn a ha, ok_bind, ih has, ok_bind]
    exact h

end SignOn.Json

import SignOn.Proofs.Jose.KeyDocument
import SignOn.Proofs.Json.Kept
import SignOn.Proofs.Json.Rearranged

/-!
# Keys whose members are rearranged

The public members of a key are read as they come, the secret ones when its object has ended. It
makes no difference in which order they stand, nor which other members stand between them, if those
can be kept until then. So documents of keys that differ in this way make up the same ring.
-/

namespace SignOn.Jose

open Json Text

instance : Record.Local SecretMembers.record := by
  rw [SecretMembers.record]
  infer_instance

namespace Jwk

instance : Record.Local record := by
  rw [record]
  infer_instance

/-- The names of the members that make up a key. -/
def memberNames : List String := Record.names (record.fields ++ SecretMembers.record.fields)

example : memberNames = ["kty", "kid", "use", "alg", "n", "e", "crv", "x", "y", "d", "p", "q", "dp",
    "dq", "qi", "k"] := rfl

/-- A value that may stand under any other name: the numbers in it are integers of 64 bits, the
strings in it are texts, and no more than 100 arrays and objects are nested in each other. -/
structure Insertable (n : Node) : Prop where
  consists : n.Consists Numeral.IsInteger64 IsText
  depth_le : n.depth ≤ 100

theorem Insertable.exists_any {n : Node} (h : Insertable n) {room : Nat} (hroom : 100 ≤ room) :
    ∃ v, Decode.any room n = .ok v :=
  (Decode.exists_any_iff room n).2
    ⟨h.consists.mono fun _ hx ↦ hx.isSome_number?, h.depth_le.trans hroom⟩

theorem decode_of_rearranges {room : Nat} (hroom : 100 ≤ room)
    {values values' : List (String × Node)} {k : Jwk}
    (h : decode (room + 1) (.object (.ofList values)) = .ok k)
    (hvalues : Record.Rearranges memberNames Insertable values values') :
    decode (room + 1) (.object (.ofList values')) = .ok k :=
  Record.decodeWithin_of_rearranges h hvalues fun _ hn ↦ hn.exists_any hroom

/-- The text of a key is that of an object. -/
theorem exists_isObject {s : String} {k : Jwk} (h : decode.run s = .ok k) :
    ∃ ms, IsObject ms (utf8 s) := by
  obtain ⟨n, hn, hk⟩ := Decoder.run_eq_ok_iff.1 h
  obtain ⟨values, -, -, rfl, -⟩ := Record.decodeWithin_eq_ok_iff.1 hk
  obtain ⟨ms, -, hms⟩ := readsAs_object_iff.1 hn
  exact ⟨ms, hms⟩

theorem run_of_rearranges {s s' : String} {k : Jwk} (h : decode.run s = .ok k)
    {ms ms' : List MemberText} (hms : IsObject ms (utf8 s)) (hms' : IsObject ms' (utf8 s'))
    (hmembers : Record.Rearranges memberNames Insertable (ms.map MemberText.member)
      (ms'.map MemberText.member)) : decode.run s' = .ok k := by
  obtain ⟨n, hn, hk⟩ := Decoder.run_eq_ok_iff.1 h
  obtain rfl := hn.eq hms.readsAs
  exact Decoder.run_eq_ok_iff.2 ⟨_, hms'.readsAs, decode_of_rearranges (by decide) hk hmembers⟩

/-- The texts of two keys that differ in the order of their members and in unknown members. -/
def Rearranged (t t' : Bytes) : Prop :=
  ∃ ms ms', IsObject ms t ∧ IsObject ms' t' ∧
    Record.Rearranges memberNames Insertable (ms.map MemberText.member)
      (ms'.map MemberText.member)

theorem Rearranged.exists_nodes {t t' : Bytes} (h : Rearranged t t') {room : Nat}
    (hroom : 100 ≤ room) : ∃ n n', ReadsAs t n ∧ ReadsAs t' n' ∧
      ∀ k, decode (room + 1) n = .ok k → decode (room + 1) n' = .ok k := by
  obtain ⟨ms, ms', hms, hms', hmembers⟩ := h
  exact ⟨_, _, hms.readsAs, hms'.readsAs, fun k hk ↦ decode_of_rearranges hroom hk hmembers⟩

/-- The texts of two lists of keys, each of which is rearranged. -/
def ListRearranged (l l' : Bytes) : Prop :=
  ∃ items items', IsArray items l ∧ IsArray items' l' ∧ List.Forall₂ Rearranged items items'

theorem exists_nodes_of_forall₂ {items items' : List Bytes}
    (h : List.Forall₂ Rearranged items items') {room : Nat} (hroom : 100 ≤ room) :
    ∃ ns ns', List.Forall₂ ReadsAs items ns ∧ List.Forall₂ ReadsAs items' ns' ∧
      List.Forall₂ (fun n n' ↦ ∀ k, decode (room + 1) n = .ok k → decode (room + 1) n' = .ok k)
        ns ns' := by
  induction h with
  | nil => exact ⟨[], [], .nil, .nil, .nil⟩
  | cons hitem _ ih =>
    obtain ⟨n, n', hn, hn', hdecode⟩ := hitem.exists_nodes hroom
    obtain ⟨ns, ns', hns, hns', hrest⟩ := ih
    exact ⟨n :: ns, n' :: ns', .cons hn hns, .cons hn' hns', .cons hdecode hrest⟩

theorem ListRearranged.exists_nodes {l l' : Bytes} (h : ListRearranged l l') {room : Nat}
    (hroom : 100 ≤ room) : ∃ n n', ReadsAs l n ∧ ReadsAs l' n' ∧
      ∀ ks, Decode.sequence decode (room + 2) n = .ok ks →
        Decode.sequence decode (room + 2) n' = .ok ks := by
  obtain ⟨items, items', hl, hl', hitems⟩ := h
  obtain ⟨ns, ns', hns, hns', hdecode⟩ := exists_nodes_of_forall₂ hitems hroom
  exact ⟨_, _, hl.readsAs hns, hl'.readsAs hns',
    fun ks hks ↦ Decode.sequence_of_forall₂ hks hdecode⟩

end Jwk

/-! ## Sets and rings of keys -/

namespace KeySet

/-- Two documents of keys that differ in the order of members and in unknown members of their keys.
The list of the keys is a member of an object or the only item of an array. -/
inductive Rearranged (d d' : Bytes) : Prop where
  | object {ms ms' : List MemberText} {m m' : MemberText} {others : List (String × Node)} :
      IsObject ms d → IsObject ms' d' → m.name = "keys" → m'.name = "keys" →
      (ms.map MemberText.member).Perm (m.member :: others) →
      (ms'.map MemberText.member).Perm (m'.member :: others) →
      Jwk.ListRearranged m.valueText m'.valueText → Rearranged d d'
  | array {l l' : Bytes} :
      IsArray [l] d → IsArray [l'] d' → Jwk.ListRearranged l l' → Rearranged d d'

theorem run_of_rearranged {d d' : String} {set : KeySet} (h : decode.run d = .ok set)
    (hd : Rearranged (utf8 d) (utf8 d')) : decode.run d' = .ok set := by
  obtain ⟨n, hn, hset⟩ := Decoder.run_eq_ok_iff.1 h
  cases hd with
  | @object ms ms' m m' others hms hms' hm hm' hvalues hvalues' hlist =>
    obtain rfl := hn.eq hms.readsAs
    -- The document, the list and a key take three of the 127 levels.
    obtain ⟨l, l', hl, hl', hkeys⟩ := hlist.exists_nodes (show 100 ≤ 124 by decide)
    obtain rfl := hl.eq m.readsAs_value
    obtain rfl := hl'.eq m'.readsAs_value
    rw [MemberText.member, hm] at hvalues
    rw [MemberText.member, hm'] at hvalues'
    exact Decoder.run_eq_ok_iff.2
      ⟨_, hms'.readsAs, Record.decode_single_of_replaced hset hvalues hvalues' hkeys⟩
  | array hlist hlist' h =>
    obtain ⟨l, l', hl, hl', hkeys⟩ := h.exists_nodes (show 100 ≤ 124 by decide)
    obtain rfl := hn.eq (hlist.readsAs (.cons hl .nil))
    obtain ⟨ks, hks, hset⟩ := Record.decode_single_array_eq_ok_iff.1 hset
    exact Decoder.run_eq_ok_iff.2 ⟨_, hlist'.readsAs (.cons hl' .nil),
      Record.decode_single_array_eq_ok_iff.2 ⟨ks, hkeys ks hks, hset⟩⟩

end KeySet

namespace KeyRing

/-- A key is read as the same if its members are put into another order and further ones come in
under other names. So is a set of keys, which then makes up the same ring. -/
theorem reads_rearranged :
    (∀ s k, Jwk.decode.run s = .ok k → (∃ ms, IsObject ms (utf8 s)) ∧
      ∀ ms extra ms' s', IsObject ms (utf8 s) → IsObject ms' (utf8 s') →
        (∀ m ∈ extra, m.name ∉ Jwk.memberNames ∧ Jwk.Insertable m.value) →
        (ms'.map MemberText.member).Perm ((ms ++ extra).map MemberText.member) →
        Jwk.decode.run s' = .ok k) ∧
    ∀ d d' set, KeySet.decode.run d = .ok set → KeySet.Rearranged (utf8 d) (utf8 d') →
      KeySet.decode.run d' = .ok set ∧ parse d' = parse d := by
  refine ⟨fun s k h ↦ ⟨Jwk.exists_isObject h, fun ms extra ms' s' hms hms' hextra hperm ↦ ?_⟩,
    fun d d' set h hd ↦ ?_⟩
  · rw [List.map_append] at hperm
    exact Jwk.run_of_rearranges h hms hms' (.of_perm hperm (List.forall_mem_map.2 hextra))
  · have h' := KeySet.run_of_rearranged h hd
    refine ⟨h', ?_⟩
    rw [parse, parse, h, h']

def typeMember : MemberText := .ofValue "kty" (.string "oct") trivial

def secretMember : MemberText := .ofValue "k" (.string "AA") trivial

def noteMember : MemberText :=
  .ofValue "t" (.array [.number (.int 7), .object [("a", .null)]])
    (by simp [Value.Integral, Value.IntegralItems, Value.IntegralMembers])

def keysMember (members : List (String × String)) : MemberText :=
  .ofValue "keys" (.array [.object (members.map fun m ↦ (m.1, .string m.2))]) (by
    refine ⟨Value.integralMembers_iff.2 fun m hm ↦ ?_, trivial⟩
    obtain ⟨m, -, rfl⟩ := List.mem_map.1 hm
    exact trivial)

/-- The key of the two members. -/
def shortKey : Jwk where
  kty := "oct"
  kid := none
  use := none
  alg := none
  n := none
  e := none
  crv := none
  x := none
  y := none
  secret := { SecretMembers.none with k := some "AA" }

theorem reads_rearranged_sample :
    Jwk.decode.run "\x7b\"t\":[7,\x7b\"a\":null\x7d],\"k\":\"AA\",\"kty\":\"oct\"\x7d" =
        .ok shortKey ∧
      parse "\x7b\"keys\":[\x7b\"k\":\"AA\",\"kty\":\"oct\"\x7d]\x7d" =
        parse "\x7b\"keys\":[\x7b\"kty\":\"oct\",\"k\":\"AA\"\x7d]\x7d" := by
  have hkey : IsObject [typeMember, secretMember]
      (utf8 "\x7b\"kty\":\"oct\",\"k\":\"AA\"\x7d") := encloses_of_eq (by decide +kernel)
  have hturned : IsObject [secretMember, typeMember]
      (utf8 "\x7b\"k\":\"AA\",\"kty\":\"oct\"\x7d") := encloses_of_eq (by decide +kernel)
  have hseven : (Numeral.ofInt 7).IsInteger64 := by decide +kernel
  have hnote : noteMember.name ∉ Jwk.memberNames ∧ Jwk.Insertable noteMember.value :=
    ⟨by decide, ⟨hseven, ⟨⟨_, rfl⟩, trivial, trivial⟩, trivial⟩, by decide⟩
  constructor
  · obtain ⟨-, hkeys⟩ := reads_rearranged.1 "\x7b\"kty\":\"oct\",\"k\":\"AA\"\x7d" shortKey
      (by decide +kernel)
    exact hkeys _ [noteMember] [noteMember, secretMember, typeMember] _ hkey
      (encloses_of_eq (by decide +kernel)) (List.forall_mem_singleton.2 hnote)
      ((List.reverse_perm [typeMember, secretMember, noteMember]).map _)
  · have hdocument : IsObject [keysMember [("kty", "oct"), ("k", "AA")]]
        (utf8 "\x7b\"keys\":[\x7b\"kty\":\"oct\",\"k\":\"AA\"\x7d]\x7d") :=
      encloses_of_eq (by decide +kernel)
    have hdocument' : IsObject [keysMember [("k", "AA"), ("kty", "oct")]]
        (utf8 "\x7b\"keys\":[\x7b\"k\":\"AA\",\"kty\":\"oct\"\x7d]\x7d") :=
      encloses_of_eq (by decide +kernel)
    have hlist : Jwk.ListRearranged (keysMember [("kty", "oct"), ("k", "AA")]).valueText
        (keysMember [("k", "AA"), ("kty", "oct")]).valueText :=
      ⟨[_], [_], encloses_of_eq (by decide +kernel), encloses_of_eq (by decide +kernel),
        .cons ⟨_, _, hkey, hturned, .of_reordered (.swap _ _ _)⟩ .nil⟩
    exact (reads_rearranged.2 _ _ ⟨[shortKey]⟩ (by decide +kernel)
      (.object hdocument hdocument' rfl rfl (.refl _) (.refl _) hlist)).2

theorem readsAs_surrogate : ReadsAs (utf8 "\"\\ud800\"") (.string (.error .openPair)) := by
  have hpieces : Reader.pieces (utf8 "\\ud800\"") = some ([.unit 0xD800], []) := by decide +kernel
  exact readsAs_string hpieces

/-- A member whose value is half of a pair of surrogates. -/
def surrogateMember : MemberText :=
  ⟨utf8 "\"t\"", utf8 "\"\\ud800\"", "t", _, rfl, readsAs_surrogate⟩

/-- Half of a pair of surrogates makes a string that is no text. It cannot be kept, so a key is not
read if such a string comes in, even under a name that is not known. -/
theorem not_reads_surrogates :
    ¬∀ s k, Jwk.decode.run s = .ok k →
      ∀ ms extra ms' s', IsObject ms (utf8 s) → IsObject ms' (utf8 s') →
        (ms.map MemberText.name).Nodup →
        (∀ m ∈ extra, m.name ∉ Jwk.memberNames ∧
          m.value.Consists Numeral.IsInteger64 (fun _ ↦ True) ∧ m.value.depth ≤ 100) →
        (ms'.map MemberText.member).Perm ((ms ++ extra).map MemberText.member) →
        Jwk.decode.run s' = .ok k := by
  intro h
  have hread := h "\x7b\"kty\":\"oct\",\"k\":\"AA\"\x7d" shortKey (by decide +kernel)
    [typeMember, secretMember] [surrogateMember]
    [typeMember, secretMember, surrogateMember]
    "\x7b\"kty\":\"oct\",\"k\":\"AA\",\"t\":\"\\ud800\"\x7d" (encloses_of_eq (by decide +kernel))
    (encloses_of_eq (by decide +kernel)) (by decide)
    (List.forall_mem_singleton.2 ⟨by decide, trivial, Nat.zero_le _⟩) (.refl _)
  revert hread
  decide +kernel

end KeyRing

end SignOn.Jose

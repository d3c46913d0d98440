import SignOn.Proofs.Json.Record

/-!
# Values that come back from their text

A value whose integers fit 64 bits and whose objects are in order is decoded from its text as it
was, if it is not nested too deeply. The induction mirrors that on what is written; the nesting
that is left goes down by one with every array and object that is entered.
-/

namespace SignOn.Json

open Outcome

namespace Value

mutual

/-- All numbers within the value are integers of 64 bits, with a sign or without, and the members of
all objects are in order. -/
def Canonical : Value → Prop
  | .null | .bool _ | .string _ => True
  | .number (.int n) => -Nat.pow 2 63 ≤ n ∧ n < Nat.pow 2 64
  | .number (.real _) => False
  | .array items => CanonicalItems items
  | .object members => Keyed.Ascending members ∧ CanonicalMembers members

def CanonicalItems : List Value → Prop
  | [] => True
  | v :: vs => Canonical v ∧ CanonicalItems vs

def CanonicalMembers : List (String × Value) → Prop
  | [] => True
  | (_, v) :: ms => Canonical v ∧ CanonicalMembers ms

end

mutual

/-- The number of arrays and objects that are nested in each other. -/
def depth : Value → Nat
  | .array items => itemsDepth items + 1
  | .object members => membersDepth members + 1
  | _ => 0

def itemsDepth : List Value → Nat
  | [] => 0
  | v :: vs => max (depth v) (itemsDepth vs)

def membersDepth : List (String × Value) → Nat
  | [] => 0
  | (_, v) :: ms => max (depth v) (membersDepth ms)

end

mutual

theorem integral_of_canonical (v : Value) (hv : v.Canonical) : v.Integral := by
  match v, hv with
  | .null, _ | .bool _, _ | .string _, _ | .number (.int _), _ => exact trivial
  | .array items, hv => exact integralItems_of_canonical items hv
  | .object ms, hv => exact integralMembers_of_canonical ms hv.2

theorem integralItems_of_canonical (vs : List Value) (hvs : CanonicalItems vs) :
    IntegralItems vs := by
  match vs, hvs with
  | [], _ => exact trivial
  | v :: vs, hvs =>
    exact ⟨integral_of_canonical v hvs.1, integralItems_of_canonical vs hvs.2⟩

theorem integralMembers_of_canonical (ms : List (String × Value)) (hms : CanonicalMembers ms) :
    IntegralMembers ms := by
  match ms, hms with
  | [], _ => exact trivial
  | (_, v) :: ms, hms =>
    exact ⟨integral_of_canonical v hms.1, integralMembers_of_canonical ms hms.2⟩

end

end Value

namespace Decode

mutual

theorem any_node (v : Value) (hv : v.Canonical) (room : Nat) (hroom : v.depth ≤ room) :
    any room v.node = .ok v := by
  match v, hv with
  | .null, _ | .bool _, _ | .string _, _ => rw [Value.node, any]
  | .number (.int n), hv => simp only [Value.node, any, number?_ofInt hv.1 hv.2]
  | .array items, hv =>
    rw [Value.depth] at hroom
    obtain ⟨room, rfl⟩ := Nat.exists_eq_add_one_of_ne_zero (Nat.ne_zero_of_lt hroom)
    rw [Value.node, any]
    simp only [anyItems_itemNodes items hv room (by omega), map_ok]
  | .object ms, hv =>
    rw [Value.depth] at hroom
    obtain ⟨room, rfl⟩ := Nat.exists_eq_add_one_of_ne_zero (Nat.ne_zero_of_lt hroom)
    rw [Value.node, any]
    simp only [anyMembers_memberNodes ms hv.2 room (by omega), map_ok,
      Keyed.ofList_of_ascending hv.1]

theorem anyItems_itemNodes (vs : List Value) (hvs : Value.CanonicalItems vs) (room : Nat)
    (hroom : Value.itemsDepth vs ≤ room) : anyItems room (Value.itemNodes vs) = .ok vs := by
  match vs, hvs with
  | [], _ => rw [Value.itemNodes, anyItems]
  | v :: vs, hvs =>
    rw [Value.itemsDepth, Nat.max_le] at hroom
    rw [Value.itemNodes, anyItems, any_node v hvs.1 room hroom.1, ok_bind,
      anyItems_itemNodes vs hvs.2 room hroom.2, ok_bind, pure_eq]

theorem anyMembers_memberNodes (ms : List (String × Value)) (hms : Value.CanonicalMembers ms)
    (room : Nat) (hroom : Value.membersDepth ms ≤ room) :
    anyMembers room (Value.memberNodes ms) = .ok ms := by
  match ms, hms with
  | [], _ => rw [Value.memberNodes, anyMembers]
  | (k, v) :: ms, hms =>
    rw [Value.membersDepth, Nat.max_le] at hroom
    rw [Value.memberNodes, anyMembers, any_node v hms.1 room hroom.1, ok_bind,
      anyMembers_memberNodes ms hms.2 room hroom.2, ok_bind, pure_eq]

end

/-- A canonical value is what its text decodes to. -/
theorem any_text {v : Value} (hv : v.Canonical) (hdepth : v.depth ≤ maxDepth) :
    Decoder.runBytes any (Text.utf8 v.text) = .ok v := by
  rw [Decoder.runBytes_text any (Value.integral_of_canonical v hv)]
  exact any_node v hv maxDepth hdepth

end Decode

end SignOn.Json

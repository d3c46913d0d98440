import Mathlib.Data.List.DropRight
import SignOn.Json.Decode
import SignOn.Proofs.Json.Layout
import SignOn.Proofs.Json.Spelling

/-!
# Values read back as they were written

Reading the text of a value gives the node that mirrors it, whatever blanks the text is laid out
with. Numbers are covered as far as they are integers. The induction is on the value and quantifies
over what follows it in the document and over the fuel, of which two units for every written
character suffice.
-/

namespace SignOn.Json

open Text Reader

namespace Value

mutual

/-- All numbers within the value are integers. -/
def Integral : Value → Prop
  | .null | .bool _ | .string _ | .number (.int _) => True
  | .number (.real _) => False
  | .array items => IntegralItems items
  | .object members => IntegralMembers members

def IntegralItems : List Value → Prop
  | [] => True
  | v :: vs => Integral v ∧ IntegralItems vs

def IntegralMembers : List (String × Value) → Prop
  | [] => True
  | (_, v) :: ms => Integral v ∧ IntegralMembers ms

end

mutual

/-- The document node that mirrors a value. -/
def node : Value → Node
  | .null => .null
  | .bool b => .bool b
  | .number (.int n) => .number (.ofInt n)
  | .number (.real _) => .broken
  | .string s => .string (.ok s)
  | .array items => .array (itemNodes items)
  | .object members => .object (memberNodes members)

def itemNodes : List Value → Items
  | [] => .done
  | v :: vs => .next v.node (itemNodes vs)

def memberNodes : List (String × Value) → Members
  | [] => .done
  | (k, v) :: ms => .next (.ok k) v.node (memberNodes ms)

end

/-- A written integer starts with a sign or a digit. -/
theorem charBytes_int_eq_cons (n : Int) :
    ∃ b bs, charBytes (toString n).toList = b :: bs ∧ (b = 45 ∨ ∃ d, digit? b = some d) := by
  obtain ⟨b, bs, hbs, hdigit⟩ := charBytes_digitChars_eq_cons n.natAbs
  rw [toList_toString_int, charBytes_append, hbs]
  split
  · exact ⟨45, b :: bs, rfl, .inl rfl⟩
  · exact ⟨b, bs, rfl, .inr hdigit⟩

variable (l : Layout)

/-- The first byte of a written value is neither blank nor a closing bracket. -/
theorem charBytes_laidOut_eq_cons {v : Value} (hv : v.Integral) (depth : Nat) :
    ∃ b bs, charBytes (laidOut l depth v) = b :: bs ∧ Reader.isBlank b = false ∧ b ≠ 93 := by
  match v, hv with
  | .null, _ => exact ⟨110, _, rfl, rfl, by decide⟩
  | .bool true, _ => exact ⟨116, _, rfl, rfl, by decide⟩
  | .bool false, _ => exact ⟨102, _, rfl, rfl, by decide⟩
  | .string s, _ => exact ⟨34, _, rfl, rfl, by decide⟩
  | .array [], _ => exact ⟨91, _, rfl, rfl, by decide⟩
  | .array (_ :: _), _ => exact ⟨91, _, rfl, rfl, by decide⟩
  | .object [], _ => exact ⟨123, _, rfl, rfl, by decide⟩
  | .object (_ :: _), _ => exact ⟨123, _, rfl, rfl, by decide⟩
  | .number (.int n), _ =>
    obtain ⟨b, bs, hbs, hb⟩ := charBytes_int_eq_cons n
    refine ⟨b, bs, hbs, ?_, ?_⟩
    · rw [← Bool.not_eq_true]
      intro hblank
      simp only [Reader.isBlank, Bool.or_eq_true, decide_eq_true_eq] at hblank
      rcases hblank with ((rfl | rfl) | rfl) | rfl <;> simp [digit?] at hb
    · rintro rfl
      simp [digit?] at hb

theorem length_laidOut_pos {v : Value} (hv : v.Integral) (depth : Nat) :
    0 < (laidOut l depth v).length := by
  obtain ⟨b, bs, hbs, -⟩ := charBytes_laidOut_eq_cons l hv depth
  rcases h : laidOut l depth v with _ | ⟨c, cs⟩
  · rw [h] at hbs
    cases hbs
  · simp

/-! ## Blanks -/

theorem skipBlanks_cons {b : UInt8} (h : Reader.isBlank b = false) (bs : Bytes) :
    skipBlanks (b :: bs) = b :: bs := by
  rw [skipBlanks, List.dropWhile_cons, h]
  rfl

theorem skipBlanks_append {cs : List Char} (h : ∀ c ∈ cs, c = ' ' ∨ c = '\n') (bs : Bytes) :
    skipBlanks (charBytes cs ++ bs) = skipBlanks bs := by
  induction cs with
  | nil => rfl
  | cons c cs ih =>
    obtain ⟨hc, hcs⟩ := List.forall_mem_cons.1 h
    rcases hc with rfl | rfl
    · exact ih hcs
    · exact ih hcs

theorem skipBlanks_skipBlanks (bs : Bytes) : skipBlanks (skipBlanks bs) = skipBlanks bs :=
  List.dropWhile_idempotent _ bs

/-! Readers skip blanks first, so it makes no difference if they have been skipped before. -/

theorem readValue_skipBlanks (fuel : Nat) (bs : Bytes) :
    readValue fuel (skipBlanks bs) = readValue fuel bs := by
  cases fuel with
  | zero => rfl
  | succ fuel => rw [readValue, readValue, skipBlanks_skipBlanks]

theorem readItems_skipBlanks (fuel : Nat) (bs : Bytes) :
    readItems fuel (skipBlanks bs) = readItems fuel bs := by
  cases fuel with
  | zero => rfl
  | succ fuel => rw [readItems, readItems, readValue_skipBlanks]

theorem readMembers_skipBlanks (fuel : Nat) (bs : Bytes) :
    readMembers fuel (skipBlanks bs) = readMembers fuel bs := by
  cases fuel with
  | zero => rfl
  | succ fuel => rw [readMembers, readMembers, skipBlanks_skipBlanks]

section

variable {cs : List Char} (h : ∀ c ∈ cs, c = ' ' ∨ c = '\n')

include h

theorem readValue_append (fuel : Nat) (bs : Bytes) :
    readValue fuel (charBytes cs ++ bs) = readValue fuel bs := by
  rw [← readValue_skipBlanks, skipBlanks_append h, readValue_skipBlanks]

theorem readMembers_append (fuel : Nat) (bs : Bytes) :
    readMembers fuel (charBytes cs ++ bs) = readMembers fuel bs := by
  rw [← readMembers_skipBlanks, skipBlanks_append h, readMembers_skipBlanks]

/-- A number ends in front of blanks, too. -/
theorem ends_append {rest : Bytes} (hrest : Ends rest) : Ends (charBytes cs ++ rest) := by
  cases cs with
  | nil => exact hrest
  | cons c cs =>
    rcases h c List.mem_cons_self with rfl | rfl
    · simp [Ends, charBytes_cons_of_lt]
    · simp [Ends, charBytes_cons_of_lt]

end

theorem ends_comma (rest : Bytes) : Ends (44 :: rest) := by simp [Ends]

theorem ends_bracket (rest : Bytes) : Ends (93 :: rest) := by simp [Ends]

theorem ends_brace (rest : Bytes) : Ends (125 :: rest) := by simp [Ends]

theorem ends_nil : Ends [] := by simp [Ends]

/-! ## One step of reading -/

theorem readValue_int (n : Int) {rest : Bytes} (hrest : Ends rest) (fuel : Nat) :
    readValue (fuel + 1) (charBytes (toString n).toList ++ rest) =
      (.number (.ofInt n), some rest) := by
  have hnumeral := numeral?_int n hrest
  obtain ⟨b, bs, hbs, hblank, -⟩ :=
    charBytes_laidOut_eq_cons .compact (v := .number (.int n)) trivial 0
  obtain ⟨c, cs, hcs, hc⟩ := charBytes_int_eq_cons n
  obtain ⟨rfl, rfl⟩ : b = c ∧ bs = cs := List.cons.inj (hbs.symm.trans hcs)
  have hne : ∀ d, digit? d = none → d ≠ 45 → b ≠ d := by
    rintro d hd hminus rfl
    rcases hc with rfl | ⟨_, h⟩
    · exact hminus rfl
    · rw [hd] at h
      cases h
  have h34 : b ≠ 34 := hne 34 rfl (by decide)
  have h91 : b ≠ 91 := hne 91 rfl (by decide)
  have h123 : b ≠ 123 := hne 123 rfl (by decide)
  have h110 : b ≠ 110 := hne 110 rfl (by decide)
  have h116 : b ≠ 116 := hne 116 rfl (by decide)
  have h102 : b ≠ 102 := hne 102 rfl (by decide)
  have hscalar : readScalar (b :: (bs ++ rest)) = (.number (.ofInt n), some rest) := by
    rw [hcs, List.cons_append] at hnumeral
    rw [readScalar, hnumeral] <;> simp_all
  rw [hcs, List.cons_append, readValue, skipBlanks_cons hblank]
  split <;> simp_all

theorem charBytes_writeString (s : String) (rest : Bytes) :
    charBytes (writeString s) ++ rest =
      34 :: (charBytes (s.toList.flatMap writeChar) ++ 34 :: rest) := by
  have hmark : charBytes ['"'] = [34] := rfl
  rw [writeString, charBytes_append, List.append_assoc, hmark]
  rfl

theorem readValue_string (s : String) (rest : Bytes) (fuel : Nat) :
    readValue (fuel + 1) (charBytes (writeString s) ++ rest) = (.string (.ok s), some rest) := by
  obtain ⟨ps, hps, htext⟩ := pieces_writeString s rest
  rw [charBytes_writeString, readValue, skipBlanks_cons rfl]
  simp only [hps, htext]

/-- An array that is not empty is read item by item. -/
theorem readValue_array {bs : Bytes} (h : (skipBlanks bs).head? ≠ some 93) (fuel : Nat) :
    readValue (fuel + 1) (91 :: bs) =
      (.array (readItems fuel bs).1, (readItems fuel bs).2) := by
  rw [readValue]
  simp only [skipBlanks_cons (b := 91) rfl]
  split
  · next heq =>
    rw [heq] at h
    exact absurd rfl h
  · rw [readItems_skipBlanks]

theorem readValue_object {bs : Bytes} (h : (skipBlanks bs).head? ≠ some 125) (fuel : Nat) :
    readValue (fuel + 1) (123 :: bs) =
      (.object (readMembers fuel bs).1, (readMembers fuel bs).2) := by
  rw [readValue]
  simp only [skipBlanks_cons (b := 123) rfl]
  split
  · next heq =>
    rw [heq] at h
    exact absurd rfl h
  · rw [readMembers_skipBlanks]

section

variable {bs after rest : Bytes} {n : Node} {fuel : Nat}
  (h : readValue fuel bs = (n, some after))

include h

/-- The last item of an array. -/
theorem readItems_last (hend : skipBlanks after = 93 :: rest) :
    readItems (fuel + 1) bs = (.next n .done, some rest) := by
  rw [readItems, h]
  simp only [hend]

theorem readItems_more (hend : skipBlanks after = 44 :: rest) :
    readItems (fuel + 1) bs = (.next n (readItems fuel rest).1, (readItems fuel rest).2) := by
  rw [readItems, h]
  simp only [hend]

/-- The last member of an object. -/
theorem readMembers_last (k : String) (hend : skipBlanks after = 125 :: rest) :
    readMembers (fuel + 1) (charBytes (writeString k) ++ 58 :: bs) =
      (.next (.ok k) n .done, some rest) := by
  obtain ⟨ps, hps, htext⟩ := pieces_writeString k (58 :: bs)
  rw [charBytes_writeString, readMembers, skipBlanks_cons rfl]
  simp only [hps, htext, skipBlanks_cons (b := 58) rfl, h, hend]

theorem readMembers_more (k : String) (hend : skipBlanks after = 44 :: rest) :
    readMembers (fuel + 1) (charBytes (writeString k) ++ 58 :: bs) =
      (.next (.ok k) n (readMembers fuel rest).1, (readMembers fuel rest).2) := by
  obtain ⟨ps, hps, htext⟩ := pieces_writeString k (58 :: bs)
  rw [charBytes_writeString, readMembers, skipBlanks_cons rfl]
  simp only [hps, htext, skipBlanks_cons (b := 58) rfl, h, hend]

end

/-! ## Whole values -/

/-- The items of an array do not start by closing it. -/
theorem head?_laidOutItems {v : Value} (hv : v.Integral) (vs : List Value) (depth : Nat)
    (rest : Bytes) :
    (skipBlanks (charBytes (laidOutItems l depth (v :: vs)) ++ rest)).head? ≠ some 93 := by
  obtain ⟨b, bs, hbs, hblank, hb⟩ := charBytes_laidOut_eq_cons l hv depth
  cases vs <;>
    simp [laidOutItems, hbs, List.append_assoc, skipBlanks_append (l.blank_of_mem_gap depth),
      skipBlanks_cons hblank, hb]

theorem head?_laidOutMembers (k : String) (v : Value) (ms : List (String × Value)) (depth : Nat)
    (rest : Bytes) :
    (skipBlanks (charBytes (laidOutMembers l depth ((k, v) :: ms)) ++ rest)).head? ≠ some 125 := by
  cases ms <;>
    simp [laidOutMembers, List.append_assoc, skipBlanks_append (l.blank_of_mem_gap depth),
      charBytes_writeString, skipBlanks_cons (b := 34) rfl]

mutual

theorem readValue_laidOut (v : Value) (hv : v.Integral) (depth fuel : Nat)
    (hfuel : 2 * (laidOut l depth v).length ≤ fuel) (rest : Bytes) (hrest : Ends rest) :
    readValue fuel (charBytes (laidOut l depth v) ++ rest) = (v.node, some rest) := by
  have hpos := length_laidOut_pos l hv depth
  obtain ⟨fuel, rfl⟩ : ∃ n, fuel = n + 1 := ⟨fuel - 1, by omega⟩
  match v with
  | .null | .bool true | .bool false => rfl
  | .number (.int n) => exact readValue_int n hrest fuel
  | .string s => exact readValue_string s rest fuel
  | .array [] => rfl
  | .array (v :: vs) =>
    have hlength : (laidOut l depth (.array (v :: vs))).length =
        (laidOutItems l (depth + 1) (v :: vs)).length + 1 := rfl
    have hbytes : charBytes (laidOut l depth (.array (v :: vs))) ++ rest =
        91 :: (charBytes (laidOutItems l (depth + 1) (v :: vs)) ++ rest) := rfl
    rw [hbytes, readValue_array (head?_laidOutItems l hv.1 vs (depth + 1) rest),
      readItems_laidOut v vs hv (depth + 1) fuel (by omega) rest]
    rfl
  | .object [] => rfl
  | .object ((k, v) :: ms) =>
    have hlength : (laidOut l depth (.object ((k, v) :: ms))).length =
        (laidOutMembers l (depth + 1) ((k, v) :: ms)).length + 1 := rfl
    have hbytes : charBytes (laidOut l depth (.object ((k, v) :: ms))) ++ rest =
        123 :: (charBytes (laidOutMembers l (depth + 1) ((k, v) :: ms)) ++ rest) := rfl
    rw [hbytes, readValue_object (head?_laidOutMembers l k v ms (depth + 1) rest),
      readMembers_laidOut k v ms hv (depth + 1) fuel (by omega) rest]
    rfl
termination_by fuel

theorem readItems_laidOut (v : Value) (vs : List Value) (hv : IntegralItems (v :: vs))
    (depth fuel : Nat) (hfuel : 2 * (laidOutItems l depth (v :: vs)).length ≤ fuel)
    (rest : Bytes) :
    readItems fuel (charBytes (laidOutItems l depth (v :: vs)) ++ rest) =
      (itemNodes (v :: vs), some rest) := by
  have hpos := length_laidOut_pos l hv.1 depth
  have hgap := l.blank_of_mem_gap depth
  have hback := l.blank_of_mem_gap (depth - 1)
  match vs with
  | [] =>
    simp only [laidOutItems, List.length_append, List.length_singleton] at hfuel
    obtain ⟨fuel, rfl⟩ : ∃ n, fuel = n + 1 := ⟨fuel - 1, by omega⟩
    have hbytes : charBytes (laidOutItems l depth [v]) ++ rest =
        charBytes (l.gap depth) ++ (charBytes (laidOut l depth v) ++
          (charBytes (l.gap (depth - 1)) ++ 93 :: rest)) := by
      have hbracket : charBytes [']'] = [93] := rfl
      simp [laidOutItems, hbracket]
    have hvalue := readValue_laidOut v hv.1 depth fuel (by omega) _
      (ends_append hback (ends_bracket rest))
    rw [hbytes]
    refine readItems_last ((readValue_append hgap _ _).trans hvalue) ?_
    rw [skipBlanks_append hback, skipBlanks_cons rfl]
  | w :: vs =>
    simp only [laidOutItems, List.length_append, List.length_cons] at hfuel
    obtain ⟨fuel, rfl⟩ : ∃ n, fuel = n + 1 := ⟨fuel - 1, by omega⟩
    have hbytes : charBytes (laidOutItems l depth (v :: w :: vs)) ++ rest =
        charBytes (l.gap depth) ++ (charBytes (laidOut l depth v) ++
          44 :: (charBytes (laidOutItems l depth (w :: vs)) ++ rest)) := by
      simp [laidOutItems, charBytes_cons_of_lt (c := ',') (by decide)]
    have hvalue := readValue_laidOut v hv.1 depth fuel (by omega) _
      (ends_comma (charBytes (laidOutItems l depth (w :: vs)) ++ rest))
    rw [hbytes, readItems_more ((readValue_append hgap _ _).trans hvalue) (skipBlanks_cons rfl _),
      readItems_laidOut w vs hv.2 depth fuel (by omega) rest]
    rfl
termination_by fuel

theorem readMembers_laidOut (k : String) (v : Value) (ms : List (String × Value))
    (hv : IntegralMembers ((k, v) :: ms)) (depth fuel : Nat)
    (hfuel : 2 * (laidOutMembers l depth ((k, v) :: ms)).length ≤ fuel) (rest : Bytes) :
    readMembers fuel (charBytes (laidOutMembers l depth ((k, v) :: ms)) ++ rest) =
      (memberNodes ((k, v) :: ms), some rest) := by
  have hpos := length_laidOut_pos l hv.1 depth
  have hgap := l.blank_of_mem_gap depth
  have hback := l.blank_of_mem_gap (depth - 1)
  have hcolon := charBytes_cons_of_lt (c := ':') (by decide)
  match ms with
  | [] =>
    simp only [laidOutMembers, List.length_append, List.length_cons, List.length_nil] at hfuel
    obtain ⟨fuel, rfl⟩ : ∃ n, fuel = n + 1 := ⟨fuel - 1, by omega⟩
    have hbytes : charBytes (laidOutMembers l depth [(k, v)]) ++ rest =
        charBytes (l.gap depth) ++ (charBytes (writeString k) ++
          58 :: (charBytes l.space ++ (charBytes (laidOut l depth v) ++
            (charBytes (l.gap (depth - 1)) ++ 125 :: rest)))) := by
      have hbrace : charBytes ['\x7d'] = [125] := rfl
      simp [laidOutMembers, hcolon, hbrace]
    have hvalue := readValue_laidOut v hv.1 depth fuel (by omega) _
      (ends_append hback (ends_brace rest))
    rw [hbytes, readMembers_append hgap]
    refine readMembers_last ((readValue_append l.blank_of_mem_space _ _).trans hvalue) k ?_
    rw [skipBlanks_append hback, skipBlanks_cons rfl]
  | (k', w) :: ms =>
    simp only [laidOutMembers, List.length_append, List.length_cons] at hfuel
    obtain ⟨fuel, rfl⟩ : ∃ n, fuel = n + 1 := ⟨fuel - 1, by omega⟩
    have hbytes : charBytes (laidOutMembers l depth ((k, v) :: (k', w) :: ms)) ++ rest =
        charBytes (l.gap depth) ++ (charBytes (writeString k) ++
          58 :: (charBytes l.space ++ (charBytes (laidOut l depth v) ++
            44 :: (charBytes (laidOutMembers l depth ((k', w) :: ms)) ++ rest)))) := by
      simp [laidOutMembers, hcolon, charBytes_cons_of_lt (c := ',') (by decide)]
    have hvalue := readValue_laidOut v hv.1 depth fuel (by omega) _
      (ends_comma (charBytes (laidOutMembers l depth ((k', w) :: ms)) ++ rest))
    rw [hbytes, readMembers_append hgap, readMembers_more
        ((readValue_append l.blank_of_mem_space _ _).trans hvalue) k (skipBlanks_cons rfl _),
      readMembers_laidOut k' w ms hv.2 depth fuel (by omega) rest]
    rfl
termination_by fuel

end

end Value

theorem length_le_charBytes (cs : List Char) : cs.length ≤ (charBytes cs).length := by
  induction cs with
  | nil => simp
  | cons c cs ih =>
    have hpos := c.utf8Size_pos
    rw [charBytes_cons, List.length_cons, List.length_append, String.length_utf8EncodeChar]
    omega

/-- However a value is laid out, its text is a document of this value and nothing else. -/
theorem read_laidOut (l : Layout) {v : Value} (hv : v.Integral) :
    read (charBytes (v.laidOut l 0)) = ⟨v.node, true⟩ := by
  have hlength := length_le_charBytes (v.laidOut l 0)
  have hread := Value.readValue_laidOut l v hv 0 (2 * (charBytes (v.laidOut l 0)).length + 2)
    (by omega) [] Value.ends_nil
  rw [List.append_nil] at hread
  rw [read, hread]
  rfl

theorem read_text {v : Value} (hv : v.Integral) : read (utf8 v.text) = ⟨v.node, true⟩ := by
  rw [utf8_text, ← Value.laidOut_compact 0, read_laidOut .compact hv]

theorem read_lines {v : Value} (hv : v.Integral) : read (utf8 v.lines) = ⟨v.node, true⟩ := by
  have hbytes : utf8 v.lines = charBytes (v.laidOut .lines 0) := by
    rw [Value.lines, utf8_ofList, Value.laidOut_lines]
    rfl
  rw [hbytes, read_laidOut .lines hv]

namespace Decoder

variable {α : Type}

/-- Decoding the text of a value is decoding the node that mirrors it. -/
theorem runBytes_text (d : Decoder α) {v : Value} (hv : v.Integral) :
    d.runBytes (utf8 v.text) = d maxDepth v.node := by
  rw [runBytes, read_text hv, runDocument]
  cases d maxDepth v.node <;> rfl

/-- It makes no difference whether the text was laid out over lines. -/
theorem run_lines (d : Decoder α) {v : Value} (hv : v.Integral) : d.run v.lines = d.run v.text := by
  rw [run, run, runBytes, runBytes, read_lines hv, read_text hv]

end Decoder

end SignOn.Json

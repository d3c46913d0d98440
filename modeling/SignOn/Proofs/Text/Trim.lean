import Mathlib.Data.List.TakeWhile
import SignOn.Text.Blank

/-!
# Texts without the blanks at either end

What is left of a text when it is trimmed is the one part of it with only blanks around it and no
blank at its start or its end.
-/

namespace SignOn.Text

/-- `t` is the text `s` without the blanks at either end. -/
structure Trims (s t : String) : Prop where
  around : ∃ before after, Blank before ∧ Blank after ∧ s = before ++ t ++ after
  start : ∀ c, t.toList.head? = some c → isBlank c = false
  finish : ∀ c, t.toList.getLast? = some c → isBlank c = false

variable {s t : String}

theorem head?_dropWhile {p : Char → Bool} {cs : List Char} {c : Char}
    (h : (cs.dropWhile p).head? = some c) : p c = false := by
  have hnot := List.head?_dropWhile_not p cs
  rw [h] at hnot
  exact hnot

theorem dropWhile_of_head? {p : Char → Bool} {cs : List Char}
    (h : ∀ c, cs.head? = some c → p c = false) : cs.dropWhile p = cs := by
  cases cs with
  | nil => rfl
  | cons c cs => exact List.dropWhile_cons_of_neg (by simp [h c rfl])

/-- What is left when the blanks in front are dropped ends with the blanks behind. -/
theorem exists_dropWhile_eq (cs : List Char) :
    ∃ after, (∀ c ∈ after, isBlank c = true) ∧ cs.dropWhile isBlank = trimChars cs ++ after := by
  let behind := (cs.dropWhile isBlank).reverse.takeWhile isBlank
  refine ⟨behind.reverse, fun c hc ↦ List.mem_takeWhile_imp (List.mem_reverse.1 hc), ?_⟩
  rw [trimChars, ← List.reverse_append, List.takeWhile_append_dropWhile, List.reverse_reverse]

theorem trims_trim (s : String) : Trims s (trim s) := by
  obtain ⟨after, hafter, hrest⟩ := exists_dropWhile_eq s.toList
  refine ⟨⟨.ofList (s.toList.takeWhile isBlank), .ofList after, ?_, ?_, ?_⟩, ?_, ?_⟩
  · intro c hc
    rw [String.toList_ofList] at hc
    exact List.mem_takeWhile_imp hc
  · rwa [Blank, String.toList_ofList]
  · rw [← String.toList_inj, String.toList_append, String.toList_append, toList_trim,
      String.toList_ofList, String.toList_ofList, List.append_assoc, ← hrest,
      List.takeWhile_append_dropWhile]
  · intro c hc
    have hhead : (s.toList.dropWhile isBlank).head? = some c := by
      rw [hrest, List.head?_append, ← toList_trim, hc, Option.some_or]
    exact head?_dropWhile hhead
  · intro c hc
    rw [toList_trim, trimChars, List.getLast?_reverse] at hc
    exact head?_dropWhile hc

/-- No other text is left. -/
theorem Trims.eq_trim (h : Trims s t) : t = trim s := by
  obtain ⟨⟨before, after, hbefore, hafter, rfl⟩, hstart, hfinish⟩ := h
  have hfront : (before ++ t ++ after).toList.dropWhile isBlank =
      (t.toList ++ after.toList).dropWhile isBlank := by
    rw [String.toList_append, String.toList_append, List.append_assoc,
      List.dropWhile_append_of_pos hbefore]
  rw [← String.toList_inj, toList_trim, trimChars, hfront]
  cases ht : t.toList with
  | nil => rw [List.nil_append, List.dropWhile_eq_nil_iff.2 hafter]; rfl
  | cons c cs =>
    -- a text that does not start with a blank hides those behind it from the first pass
    have hfirst : (t.toList ++ after.toList).dropWhile isBlank = t.toList ++ after.toList := by
      refine dropWhile_of_head? fun d hd ↦ hstart d ?_
      rw [ht] at hd ⊢
      exact hd
    rw [← ht, hfirst, List.reverse_append,
      List.dropWhile_append_of_pos fun d hd ↦ hafter d (List.mem_reverse.1 hd),
      dropWhile_of_head? fun d hd ↦ hfinish d (List.head?_reverse ▸ hd), List.reverse_reverse]

end SignOn.Text

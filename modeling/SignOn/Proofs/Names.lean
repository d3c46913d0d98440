import SignOn.Logging
import SignOn.Proofs.Jose.SignatureLists
import SignOn.Proofs.Text.Case

/-!
# Names of algorithms and log formats

A name is read in any case of its ASCII letters and with any blanks around it, and no other text is
read as this name. It makes no difference that log formats are lower-cased in full: none of their
names has the one letter that a character outside ASCII becomes.
-/

namespace SignOn

open Jose Outcome Text

/-- `s` is the text `t`, up to blanks around it and the case of its ASCII letters. -/
def Spells (s t : String) : Prop := ∃ u, Trims s u ∧ Recased u t

theorem spells_iff {s t : String} : Spells s t ↔ EqFold (trim s) t := by
  constructor
  · rintro ⟨u, hu, hfold⟩
    rw [← hu.eq_trim]
    exact eqFold_iff.2 hfold
  · exact fun h ↦ ⟨trim s, trims_trim s, eqFold_iff.1 h⟩

/-- A reader of names accepts the spellings of the words for a value, and nothing else. -/
structure ReadsSpellings {ε α : Type} (parse : String → Except ε α) (name : α → String)
    (words : α → List String) (refusal : String → ε) : Prop where
  ok_iff (s : String) (a : α) : parse s = .ok a ↔ ∃ t ∈ words a, Spells s t
  error_of_not (s : String) (h : ∀ a, ∀ t ∈ words a, ¬Spells s t) : parse s = .error (refusal s)
  /-- A value is read from its own name. -/
  parse_name (a : α) : parse (name a) = .ok a
  /-- No character outside ASCII stands for one of a word. -/
  ascii (s u : String) (a : α) (h : parse s = .ok a) (hu : Trims s u) :
    ∀ c ∈ u.toList, c.toNat < 128
  /-- Blanks around a text change nothing. -/
  around (before s after : String) (hbefore : Blank before) (hafter : Blank after) :
    (parse (before ++ s ++ after)).toOption = (parse s).toOption
  /-- The case of ASCII letters changes nothing. -/
  recased (s t : String) (h : Recased s t) : (parse s).toOption = (parse t).toOption

namespace ReadsSpellings

variable {ε α : Type} {parse : String → Except ε α} {name : α → String} {words : α → List String}
  {refusal : String → ε}

theorem of_eqFold (hok : ∀ s a, parse s = .ok a ↔ ∃ t ∈ words a, EqFold (trim s) t)
    (herror : ∀ s e, parse s = .error e → e = refusal s)
    (hname : ∀ a, parse (name a) = .ok a)
    (hascii : ∀ a, ∀ t ∈ words a, ∀ c ∈ t.toList, c.toNat < 128) :
    ReadsSpellings parse name words refusal := by
  have hcongr {s t : String} (h : ∀ u, EqFold (trim s) u ↔ EqFold (trim t) u) :
      (parse s).toOption = (parse t).toOption := by
    ext a
    rw [toOption_eq_some_iff, toOption_eq_some_iff, hok, hok]
    simp only [h]
  refine ⟨fun s a ↦ ?_, fun s hnot ↦ ?_, hname, fun s u a ha hu ↦ ?_,
    fun before s after hbefore hafter ↦ ?_, fun s t h ↦ ?_⟩
  · simp only [spells_iff, hok]
  · cases hs : parse s with
    | ok a =>
      obtain ⟨t, ht, hfold⟩ := (hok s a).1 hs
      exact absurd (spells_iff.2 hfold) (hnot a t ht)
    | error e => rw [herror s e hs]
  · obtain ⟨t, ht, hfold⟩ := (hok s a).1 ha
    rw [← hu.eq_trim] at hfold
    exact (eqFold_iff.1 hfold).ascii (hascii a t ht)
  · exact hcongr fun u ↦ by rw [trim_append hbefore hafter]
  · have hfold := (eqFold_iff.2 h).trim
    exact hcongr fun u ↦ ⟨hfold.symm.trans, hfold.trans⟩

/-- A name in ASCII with no blanks around it. -/
def PlainName (t : String) : Prop := trim t = t ∧ ∀ c ∈ t.toList, c.toNat < 128

instance (t : String) : Decidable (PlainName t) :=
  have : Decidable (∀ c ∈ t.toList, c.toNat < 128) := List.decidableBAll _ _
  inferInstanceAs (Decidable (_ ∧ _))

/-- Names that stay apart when case is ignored are read so. -/
theorem of_parseName {parse : String → Except Jose.Error α} {all : List α}
    (hparse : ∀ s, parse s = parseName all name s) (hall : ∀ a, a ∈ all)
    (hname : ∀ a b, EqFold (name a) (name b) → a = b) (hplain : ∀ a, PlainName (name a)) :
    ReadsSpellings parse name (fun a ↦ [name a]) (.unsupportedAlgorithm · none) := by
  have hok (s : String) (a : α) : parse s = .ok a ↔ EqFold (trim s) (name a) := by
    rw [hparse]
    exact parseName_eq_ok_iff hall hname
  refine .of_eqFold (fun s a ↦ ?_) (fun s e he ↦ ?_) (fun a ↦ ?_) fun a t ht ↦ ?_
  · simp only [hok, List.mem_singleton, exists_eq_left]
  · rw [hparse, parseName] at he
    split at he
    · cases he
    · exact (Except.error.inj he).symm
  · rw [hok, (hplain a).1]
    exact EqFold.refl _
  · rw [List.mem_singleton.1 ht]
    exact (hplain a).2

end ReadsSpellings

namespace Jose

theorem KeyManagement.eq_of_eqFold (a b : KeyManagement) (h : EqFold a.name b.name) : a = b := by
  cases a <;> cases b <;> first | rfl | exact absurd h (by decide)

theorem ContentCipher.eq_of_eqFold (a b : ContentCipher) (h : EqFold a.name b.name) : a = b := by
  cases a <;> cases b <;> first | rfl | exact absurd h (by decide)

theorem KeyManagement.readsSpellings :
    ReadsSpellings parse name (fun a ↦ [a.name]) (Error.unsupportedAlgorithm · none) := by
  refine .of_parseName (fun _ ↦ rfl) mem_all eq_of_eqFold fun a ↦ ?_
  cases a <;> decide

theorem ContentCipher.readsSpellings :
    ReadsSpellings parse name (fun m ↦ [m.name]) (Error.unsupportedAlgorithm · none) := by
  refine .of_parseName (fun _ ↦ rfl) mem_all eq_of_eqFold fun m ↦ ?_
  cases m <;> decide

theorem SignatureAlgorithm.readsSpellings :
    ReadsSpellings parse name (fun a ↦ [a.name]) (Error.unsupportedAlgorithm · none) := by
  refine .of_parseName (fun _ ↦ rfl) mem_all eq_of_eqFold fun a ↦ ?_
  cases a <;> decide

end Jose

namespace LogFormat

/-- The words for a format. -/
def words : LogFormat → List String
  | .json => ["json"]
  | .text => ["text", "pretty", "plain"]

theorem plainWord_of_mem_words {f : LogFormat} {t : String} (h : t ∈ f.words) : PlainWord t := by
  revert t
  cases f <;> decide

theorem mem_spellings_iff {f : LogFormat} {t : String} : (t, f) ∈ spellings ↔ t ∈ f.words := by
  cases f <;> simp [spellings, words]

theorem lookup_spellings_eq_some_iff {f : LogFormat} {t : String} :
    spellings.lookup t = some f ↔ t ∈ f.words := by
  rw [← mem_spellings_iff]
  exact ⟨Keyed.mem_of_lookup, Keyed.lookup_of_mem (by decide)⟩

theorem parse_eq_ok_iff {s : String} {f : LogFormat} :
    parse s = .ok f ↔ ∃ t ∈ f.words, EqFold (trim s) t := by
  have hlookup : parse s = .ok f ↔ spellings.lookup (lower (trim s)) = some f := by
    rw [parse]
    cases spellings.lookup (lower (trim s)) <;> simp
  rw [hlookup, lookup_spellings_eq_some_iff]
  constructor
  · intro h
    exact ⟨_, h, (lower_eq_iff (plainWord_of_mem_words h)).1 rfl⟩
  · rintro ⟨t, ht, hfold⟩
    rwa [(lower_eq_iff (plainWord_of_mem_words ht)).2 hfold]

theorem readsSpellings : ReadsSpellings parse name words fun s ↦ lower (trim s) := by
  refine .of_eqFold (fun _ _ ↦ parse_eq_ok_iff) (fun s e he ↦ ?_) (fun f ↦ ?_)
    fun f t ht ↦ (plainWord_of_mem_words ht).ascii
  · rw [parse] at he
    split at he
    · cases he
    · exact (Except.error.inj he).symm
  · cases f <;> decide

end LogFormat

/-- Algorithms are read from the spellings of their names, and any other text is refused as it
stands; log formats are read from the spellings of their words, and any other text is refused in
lower case. -/
theorem reads_spellings :
    ReadsSpellings KeyManagement.parse KeyManagement.name (fun a ↦ [a.name])
        (Jose.Error.unsupportedAlgorithm · none) ∧
      ReadsSpellings ContentCipher.parse ContentCipher.name (fun m ↦ [m.name])
        (Jose.Error.unsupportedAlgorithm · none) ∧
      ReadsSpellings SignatureAlgorithm.parse SignatureAlgorithm.name (fun a ↦ [a.name])
        (Jose.Error.unsupportedAlgorithm · none) ∧
      ReadsSpellings LogFormat.parse LogFormat.name LogFormat.words fun s ↦ lower (trim s) :=
  ⟨KeyManagement.readsSpellings, ContentCipher.readsSpellings, SignatureAlgorithm.readsSpellings,
    LogFormat.readsSpellings⟩

end SignOn

import SignOn.Proofs.Names
import SignOn.Settings

/-!
# What settings are made of

Every variable decides about one field. A text that is not parsed is the field as it stands; four
texts are parsed, and the first of them that has no meaning is the one reported. A variable that
holds nothing but blanks counts as one that is not set.
-/

namespace SignOn

open Jose Outcome Text

namespace Settings

variable {α : Type} {lookup lookup' : String → Option String} {name : String}
  {read : String → Except String α}

/-! ## One variable -/

/-- A field is made of one variable: it is what the text of the variable reads as, and the standard
if there is no text. -/
structure Takes (lookup : String → Option String) (name : String) (read : String → Except String α)
    (standard field : Option α) : Prop where
  of_set : ∀ text, lookup name = some text → ¬Blank text → ∃ a, read text = .ok a ∧ field = some a
  of_unset : (∀ text, lookup name = some text → Blank text) → field = standard

theorem takes_of_value? {standard field : Option α}
    (hset : ∀ text, value? lookup name = some text → ∃ a, read text = .ok a ∧ field = some a)
    (hunset : value? lookup name = none → field = standard) :
    Takes lookup name read standard field where
  of_set text h hblank := hset text (nonBlank?_eq_some_iff.2 ⟨h, hblank⟩)
  of_unset h := hunset (nonBlank?_eq_none_iff.2 h)

/-- A text that is not parsed is taken over as it stands. -/
theorem takes_value? : Takes lookup name .ok none (value? lookup name) :=
  takes_of_value? (fun text h ↦ ⟨text, rfl, h⟩) id

theorem takes_getD (standard : String) :
    Takes lookup name .ok (some standard) (some ((value? lookup name).getD standard)) :=
  takes_of_value? (fun text h ↦ ⟨text, rfl, by rw [h]; rfl⟩) fun h ↦ by rw [h]; rfl

/-- A reader does not care about blanks around a text. -/
def Trimming (read : String → Except String α) : Prop :=
  ∀ text, (read (trim text)).toOption = (read text).toOption

theorem Trimming.ok_iff (h : Trimming read) {text : String} {a : α} :
    read (trim text) = .ok a ↔ read text = .ok a := by
  rw [← toOption_eq_some_iff, h text, toOption_eq_some_iff]

theorem takes_of_parsed (hread : Trimming read) {field : Option α}
    (h : parsed lookup name read = .ok field) : Takes lookup name read none field := by
  rw [parsed] at h
  refine takes_of_value? (fun text htext ↦ ?_) fun hnone ↦ ?_
  · simp only [htext] at h
    split at h
    · next a ha => exact ⟨a, hread.ok_iff.1 ha, (Except.ok.inj h).symm⟩
    · cases h
  · simp only [hnone] at h
    exact (Except.ok.inj h).symm

/-- The field has a value of its own if there is no text. -/
theorem Takes.getD {field : Option α} (h : Takes lookup name read none field) (a : α) :
    Takes lookup name read (some a) (some (field.getD a)) where
  of_set text htext hblank := by
    obtain ⟨b, hb, rfl⟩ := h.of_set text htext hblank
    exact ⟨b, hb, rfl⟩
  of_unset hunset := by
    rw [h.of_unset hunset]
    rfl

/-! ## Texts that are refused -/

/-- A variable, and the texts of it that have a meaning. -/
structure Check where
  name : String
  Accepts : String → Prop

namespace Check

def of (name : String) (read : String → Except String α) : Check :=
  ⟨name, fun text ↦ ∃ a, read text = .ok a⟩

/-- The variable is set to a text that is not blank and has no meaning. -/
def Refuses (c : Check) (lookup : String → Option String) : Prop :=
  ∃ text, lookup c.name = some text ∧ ¬Blank text ∧ ¬c.Accepts text

/-- The first of several variables that is set to a text without a meaning has this name. -/
def FirstRefused (checks : List Check) (lookup : String → Option String) (name : String) : Prop :=
  ∃ before c after, checks = before ++ c :: after ∧ (∀ b ∈ before, ¬b.Refuses lookup) ∧
    c.Refuses lookup ∧ name = c.name

theorem not_refuses_of_parsed (hread : Trimming read) {field : Option α}
    (h : parsed lookup name read = .ok field) : ¬(of name read).Refuses lookup := by
  rintro ⟨text, htext, hblank, hnot⟩
  obtain ⟨a, ha, -⟩ := (takes_of_parsed hread h).of_set text htext hblank
  exact hnot ⟨a, ha⟩

theorem refuses_of_parsed (hread : Trimming read) {e : ConfigError}
    (h : parsed lookup name read = .error e) : (of name read).Refuses lookup ∧ e.name = name := by
  rw [parsed] at h
  split at h
  · cases h
  · next text htext =>
    obtain ⟨hset, hblank⟩ := nonBlank?_eq_some_iff.1 htext
    split at h
    · cases h
    · next reason hreason =>
      obtain rfl := Except.error.inj h
      refine ⟨⟨text, hset, hblank, ?_⟩, rfl⟩
      rintro ⟨a, ha⟩
      rw [hread.ok_iff.2 ha] at hreason
      cases hreason

end Check

/-! ## All variables -/

/-- The readers of the four texts that are parsed, each with the text of its error. -/
def readSignature : String → Except String SignatureAlgorithm :=
  withMessage Jose.Error.message SignatureAlgorithm.parse

def readManagement : String → Except String KeyManagement :=
  withMessage Jose.Error.message KeyManagement.parse

def readCipher : String → Except String ContentCipher :=
  withMessage Jose.Error.message ContentCipher.parse

def readFormat : String → Except String LogFormat :=
  withMessage LogFormat.errorMessage LogFormat.parse

/-- The variables whose texts are parsed, in the order in which they are looked at. -/
def checks : List Check :=
  [.of "JOSE_DEFAULT_SIGNING_ALGORITHM" readSignature,
    .of "JOSE_DEFAULT_ENCRYPTION_ALGORITHM" readManagement,
    .of "JOSE_DEFAULT_ENCRYPTION_METHOD" readCipher, .of "LOG_FORMAT" readFormat]

/-- Every field is made of the variable of its name. -/
structure Carries (lookup : String → Option String) (s : Settings) : Prop where
  serviceName : Takes lookup "SSO_SERVICE_NAME" .ok (some "sso-authz") (some s.serviceName)
  issuer : Takes lookup "SSO_ISSUER" .ok (some "https://sso.example.com") (some s.issuer)
  keyStorePath :
    Takes lookup "SSO_KEYSTORE_PATH" .ok (some "keystore.jwks.json") (some s.keyStorePath)
  encryptionKeyId : Takes lookup "JOSE_DEFAULT_ENCRYPTION_KEY_ID" .ok none s.encryptionKeyId
  decryptionKeyId : Takes lookup "JOSE_DEFAULT_DECRYPTION_KEY_ID" .ok none s.decryptionKeyId
  signingKeyId : Takes lookup "JOSE_DEFAULT_SIGNING_KEY_ID" .ok none s.signingKeyId
  signingAlgorithm :
    Takes lookup "JOSE_DEFAULT_SIGNING_ALGORITHM" readSignature none s.signingAlgorithm
  encryptionAlgorithm :
    Takes lookup "JOSE_DEFAULT_ENCRYPTION_ALGORITHM" readManagement none s.encryptionAlgorithm
  encryptionMethod :
    Takes lookup "JOSE_DEFAULT_ENCRYPTION_METHOD" readCipher none s.encryptionMethod
  logLevel : Takes lookup "LOG_LEVEL" .ok (some "info") (some s.logLevel)
  logFormat : Takes lookup "LOG_FORMAT" readFormat (some .json) (some s.logFormat)

/-- The defaults of a service are made of the variables of their names. -/
structure Supplies (lookup : String → Option String) (d : Defaults) : Prop where
  encryptionKeyId : Takes lookup "JOSE_DEFAULT_ENCRYPTION_KEY_ID" .ok none d.encryptionKeyId
  decryptionKeyId : Takes lookup "JOSE_DEFAULT_DECRYPTION_KEY_ID" .ok none d.decryptionKeyId
  signingKeyId : Takes lookup "JOSE_DEFAULT_SIGNING_KEY_ID" .ok none d.signingKeyId
  signingAlgorithm :
    Takes lookup "JOSE_DEFAULT_SIGNING_ALGORITHM" readSignature none d.signingAlgorithm
  encryptionAlgorithm :
    Takes lookup "JOSE_DEFAULT_ENCRYPTION_ALGORITHM" readManagement none d.encryptionAlgorithm
  encryptionMethod :
    Takes lookup "JOSE_DEFAULT_ENCRYPTION_METHOD" readCipher none d.encryptionMethod

theorem trimming_withMessage {ε : Type} {message : ε → String} {parse : String → Except ε α}
    {name : α → String} {words : α → List String} {refusal : String → ε}
    (h : ReadsSpellings parse name words refusal) : Trimming (withMessage message parse) := by
  intro text
  obtain ⟨before, after, hbefore, hafter, htext⟩ := (trims_trim text).around
  have haround := h.around before (trim text) after hbefore hafter
  rw [← htext] at haround
  have hmessage (s : String) : (withMessage message parse s).toOption = (parse s).toOption := by
    rw [withMessage]
    cases parse s <;> rfl
  rw [hmessage, hmessage, haround]

/-- Variables that have the same texts apart from blank ones make the same settings. -/
theorem ofLookup_congr (h : ∀ name ∈ names, value? lookup name = value? lookup' name) :
    ofLookup lookup = ofLookup lookup' := by
  simp only [names, List.forall_mem_cons] at h
  obtain ⟨h1, h2, h3, h4, h5, h6, h7, h8, h9, h10, h11, -⟩ := h
  simp only [ofLookup, parsed, h1, h2, h3, h4, h5, h6, h7, h8, h9, h10, h11]

theorem trimming_readSignature : Trimming readSignature :=
  trimming_withMessage SignatureAlgorithm.readsSpellings

theorem trimming_readManagement : Trimming readManagement :=
  trimming_withMessage KeyManagement.readsSpellings

theorem trimming_readCipher : Trimming readCipher :=
  trimming_withMessage ContentCipher.readsSpellings

theorem trimming_readFormat : Trimming readFormat := trimming_withMessage LogFormat.readsSpellings

/-- The four texts are parsed one behind the other. -/
theorem ofLookup_eq_ok {s : Settings} (h : ofLookup lookup = .ok s) :
    Carries lookup s ∧ ∀ c ∈ checks, ¬c.Refuses lookup := by
  obtain ⟨signature, hsignature, h⟩ := bind_eq_ok_iff.1 h
  obtain ⟨management, hmanagement, h⟩ := bind_eq_ok_iff.1 h
  obtain ⟨cipher, hcipher, h⟩ := bind_eq_ok_iff.1 h
  obtain ⟨format, hformat, h⟩ := bind_eq_ok_iff.1 h
  obtain rfl := Except.ok.inj h
  constructor
  · exact {
      serviceName := takes_getD _
      issuer := takes_getD _
      keyStorePath := takes_getD _
      encryptionKeyId := takes_value?
      decryptionKeyId := takes_value?
      signingKeyId := takes_value?
      signingAlgorithm := takes_of_parsed trimming_readSignature hsignature
      encryptionAlgorithm := takes_of_parsed trimming_readManagement hmanagement
      encryptionMethod := takes_of_parsed trimming_readCipher hcipher
      logLevel := takes_getD _
      logFormat := (takes_of_parsed trimming_readFormat hformat).getD .json }
  · simp only [checks, List.forall_mem_cons]
    exact ⟨Check.not_refuses_of_parsed trimming_readSignature hsignature,
      Check.not_refuses_of_parsed trimming_readManagement hmanagement,
      Check.not_refuses_of_parsed trimming_readCipher hcipher,
      Check.not_refuses_of_parsed trimming_readFormat hformat, by simp⟩

/-- The first text that is refused ends the reading. -/
theorem ofLookup_eq_error {e : ConfigError} (h : ofLookup lookup = .error e) :
    Check.FirstRefused checks lookup e.name := by
  rcases bind_eq_error_iff.1 h with h | ⟨signature, hsignature, h⟩
  · obtain ⟨hrefuses, hname⟩ := Check.refuses_of_parsed trimming_readSignature h
    exact ⟨[], _, _, rfl, by simp, hrefuses, hname⟩
  have hfirst := Check.not_refuses_of_parsed trimming_readSignature hsignature
  rcases bind_eq_error_iff.1 h with h | ⟨management, hmanagement, h⟩
  · obtain ⟨hrefuses, hname⟩ := Check.refuses_of_parsed trimming_readManagement h
    exact ⟨[_], _, _, rfl, by simpa using hfirst, hrefuses, hname⟩
  have hsecond := Check.not_refuses_of_parsed trimming_readManagement hmanagement
  rcases bind_eq_error_iff.1 h with h | ⟨cipher, hcipher, h⟩
  · obtain ⟨hrefuses, hname⟩ := Check.refuses_of_parsed trimming_readCipher h
    exact ⟨[_, _], _, _, rfl, by simpa using ⟨hfirst, hsecond⟩, hrefuses, hname⟩
  have hthird := Check.not_refuses_of_parsed trimming_readCipher hcipher
  rcases bind_eq_error_iff.1 h with h | ⟨format, hformat, h⟩
  · obtain ⟨hrefuses, hname⟩ := Check.refuses_of_parsed trimming_readFormat h
    exact ⟨[_, _, _], _, _, rfl, by simpa using ⟨hfirst, hsecond, hthird⟩, hrefuses, hname⟩
  · cases h

/-- The settings of a service supply its defaults. -/
theorem Carries.supplies {s : Settings} (h : Carries lookup s) : Supplies lookup s.defaults where
  encryptionKeyId := h.encryptionKeyId
  decryptionKeyId := h.decryptionKeyId
  signingKeyId := h.signingKeyId
  signingAlgorithm := h.signingAlgorithm
  encryptionAlgorithm := h.encryptionAlgorithm
  encryptionMethod := h.encryptionMethod

/-- Only variables that are not blank matter. Settings fail to be read exactly if a text that is
parsed is refused, and the error names the first variable with such a text; else every variable
makes up its own field, and six of them the defaults of the service. -/
theorem ofLookup_ends :
    (∀ lookup lookup', (∀ name ∈ names, nonBlank? (lookup name) = nonBlank? (lookup' name)) →
      ofLookup lookup = ofLookup lookup') ∧
    ∀ lookup, ((∃ e, ofLookup lookup = .error e) ↔ ∃ c ∈ checks, c.Refuses lookup) ∧
      (∀ e, ofLookup lookup = .error e → Check.FirstRefused checks lookup e.name) ∧
      ∀ s, ofLookup lookup = .ok s → Carries lookup s ∧ Supplies lookup s.defaults := by
  refine ⟨fun lookup lookup' h ↦ ofLookup_congr h, fun lookup ↦ ⟨⟨?_, ?_⟩, ?_, ?_⟩⟩
  · rintro ⟨e, he⟩
    obtain ⟨before, c, after, hchecks, -, hrefuses, -⟩ := ofLookup_eq_error he
    exact ⟨c, by simp [hchecks], hrefuses⟩
  · rintro ⟨c, hc, hrefuses⟩
    exact exists_eq_error_iff.2 fun s hs ↦ (ofLookup_eq_ok hs).2 c hc hrefuses
  · exact fun e ↦ ofLookup_eq_error
  · exact fun s hs ↦ ⟨(ofLookup_eq_ok hs).1, (ofLookup_eq_ok hs).1.supplies⟩

/-- It is so of a signing algorithm with blanks around it beside an issuer of blanks only, and of
two texts without a meaning. -/
theorem ofLookup_ends_sample :
    let spaced (name : String) :=
      [("JOSE_DEFAULT_SIGNING_ALGORITHM", "\u3000ps384 "), ("SSO_ISSUER", " \t")].lookup name
    let bare (name : String) :=
      [("JOSE_DEFAULT_SIGNING_ALGORITHM", "\u3000ps384 ")].lookup name
    let faulty (name : String) :=
      [("LOG_FORMAT", "xml"), ("JOSE_DEFAULT_ENCRYPTION_METHOD", "A192CBC")].lookup name
    (∀ name ∈ names, nonBlank? (spaced name) = nonBlank? (bare name)) ∧
      ofLookup spaced = ofLookup bare ∧
      (∃ s, ofLookup bare = .ok s ∧ Carries bare s ∧ Supplies bare s.defaults ∧
        s.defaults.signingAlgorithm = some .ps384) ∧
      ∃ e, ofLookup faulty = .error e ∧ Check.FirstRefused checks faulty e.name ∧
        e.name = "JOSE_DEFAULT_ENCRYPTION_METHOD" := by
  intro spaced bare faulty
  have hnames : ∀ name ∈ names, nonBlank? (spaced name) = nonBlank? (bare name) := by decide
  have hbare : ∃ s, ofLookup bare = .ok s ∧ s.defaults.signingAlgorithm = some .ps384 := by
    exact ⟨_, rfl, rfl⟩
  have hfaulty : ∃ e, ofLookup faulty = .error e ∧ e.name = "JOSE_DEFAULT_ENCRYPTION_METHOD" :=
    ⟨_, rfl, rfl⟩
  obtain ⟨s, hs, hsigning⟩ := hbare
  obtain ⟨e, he, hname⟩ := hfaulty
  obtain ⟨hcarries, hsupplies⟩ := (ofLookup_ends.2 bare).2.2 s hs
  exact ⟨hnames, ofLookup_ends.1 spaced bare hnames, ⟨s, hs, hcarries, hsupplies, hsigning⟩,
    e, he, (ofLookup_ends.2 faulty).2.1 e he, hname⟩

end Settings

end SignOn

import Mathlib.Data.List.DropRight
import SignOn.Proofs.Issuance
import SignOn.Publication

/-!
# The issuer that is published and the issuer of tokens

Both are made from one text. What is published is the text without the slashes at its end, while
tokens carry the text as it stands. So whoever compares the two finds them equal exactly if the text
does not end with a slash.
-/

namespace SignOn

open Jose

/-! ## Slashes at the end -/

namespace ProviderMetadata

/-- So many slashes. -/
def slashes (n : Nat) : String := .ofList (.replicate n '/')

variable (s : String)

theorem toList_trimSlashes : (trimSlashes s).toList = s.toList.rdropWhile (· = '/') :=
  String.toList_ofList

/-- Nothing but slashes is taken off. -/
theorem exists_trimSlashes_append : ∃ n, s = trimSlashes s ++ slashes n := by
  have htaken : ∀ c ∈ s.toList.rtakeWhile (· = '/'), c = '/' := fun c hc ↦ by
    simpa using List.mem_rtakeWhile_imp hc
  refine ⟨(s.toList.rtakeWhile (· = '/')).length, ?_⟩
  rw [← String.toList_inj, String.toList_append, toList_trimSlashes, slashes,
    String.toList_ofList, ← List.eq_replicate_of_mem htaken, List.rdropWhile_append_rtakeWhile]

/-- No slash is left. -/
theorem getLast?_trimSlashes : (trimSlashes s).toList.getLast? ≠ some '/' := by
  intro hlast
  rw [toList_trimSlashes] at hlast
  obtain ⟨hne, hslash⟩ := List.mem_getLast?_eq_getLast hlast
  exact List.rdropWhile_last_not _ _ hne (decide_eq_true hslash.symm)

theorem trimSlashes_eq_self_iff : trimSlashes s = s ↔ s.toList.getLast? ≠ some '/' := by
  constructor
  · intro h
    rw [← h]
    exact getLast?_trimSlashes s
  · intro hlast
    rw [← String.toList_inj, toList_trimSlashes, List.rdropWhile_eq_self_iff]
    intro hne hslash
    exact hlast (by rw [List.getLast?_eq_getLast_of_ne_nil hne, of_decide_eq_true hslash])

end ProviderMetadata

/-! ## Tokens and what is published -/

namespace TokenIssuer

/-- What is published about the service of an issuer, under the text that its tokens are made
from. -/
def metadata (x : TokenIssuer) : ProviderMetadata := .ofService x.issuer x.service

theorem iss_of_issue {x : TokenIssuer} {p : Principal} {a : App} {s s' : Context} {i : IssuedToken}
    (h : (x.issue p a).run s = (.ok i, s')) : i.claims.iss = x.issuer := by
  have hissued : x.issued p a = .ok i := by rw [← run_issue x p a s, h]
  obtain ⟨hclaims, -⟩ := issued_eq_ok hissued
  exact (reflects_of_build hclaims).1.iss

/-- The keys are found below the published issuer, which does not end with a slash. Every token
carries the published issuer with some slashes added, none exactly if the text that both are made
from does not end with a slash. -/
theorem issuer_of_issue (x : TokenIssuer) (p : Principal) (a : App) :
    x.metadata.jwksUri = x.metadata.issuer ++ "/.well-known/jwks.json" ∧
    x.metadata.issuer.toList.getLast? ≠ some '/' ∧
    ∀ s i s', (x.issue p a).run s = (.ok i, s') →
      (∃ n, i.claims.iss = x.metadata.issuer ++ ProviderMetadata.slashes n) ∧
      (x.metadata.issuer = i.claims.iss ↔ x.issuer.toList.getLast? ≠ some '/') := by
  refine ⟨rfl, ProviderMetadata.getLast?_trimSlashes x.issuer, fun s i s' h ↦ ?_⟩
  rw [iss_of_issue h]
  exact ⟨ProviderMetadata.exists_trimSlashes_append x.issuer,
    ProviderMetadata.trimSlashes_eq_self_iff x.issuer⟩

/-- An issuer whose text does not end with a slash issues a token with the issuer that is
published. -/
theorem issuer_of_issue_sample :
    ∃ (x : TokenIssuer) (i : IssuedToken) (s' : Context),
      x.issuer = "issuer" ∧ (x.issue .sample (.sample none)).run .idle = (.ok i, s') ∧
      x.metadata.issuer = i.claims.iss := by
  have hkey := Crypto.Rsa.PrivateKey.strong_sample
  generalize Crypto.Rsa.PrivateKey.sample = key at hkey ⊢
  obtain ⟨i, s', h⟩ := exists_run_issue_sample hkey (w := none) (fun _ hv ↦ by cases hv)
  obtain ⟨-, -, hissuer⟩ := issuer_of_issue (ofPrivateKey "issuer" "a" key ⟨.zeros, 0⟩) .sample
    (.sample none)
  have hslash : "issuer".toList.getLast? ≠ some '/' := by decide
  exact ⟨_, i, s', rfl, h, (hissuer _ i s' h).2.2 hslash⟩

/-- With a slash at the end of the text the two differ. -/
theorem issuer_ne_of_issue :
    ∃ (x : TokenIssuer) (i : IssuedToken) (s' : Context),
      x.issuer = "https://sso.example.com/" ∧
      (x.issue .sample (.sample none)).run .idle = (.ok i, s') ∧
      x.metadata.issuer ≠ i.claims.iss := by
  have hkey := Crypto.Rsa.PrivateKey.strong_sample
  generalize Crypto.Rsa.PrivateKey.sample = key at hkey ⊢
  have hshort : (Text.utf8 (Signer.signingInput "a" .rs256 (Claims.toJson
      { Claims.sample with iss := "https://sso.example.com/" }))).length ≤ 1000 := by
    decide +kernel
  obtain ⟨i, s', h⟩ := exists_run_issue_as hshort hkey (w := none) (fun _ hv ↦ by cases hv)
  refine ⟨_, i, s', rfl, h, fun heq ↦ ?_⟩
  rw [iss_of_issue h] at heq
  exact (ProviderMetadata.trimSlashes_eq_self_iff "https://sso.example.com/").1 heq (by decide)

end TokenIssuer

end SignOn

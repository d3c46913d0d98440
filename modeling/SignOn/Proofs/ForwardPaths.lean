import SignOn.Proofs.Dispatch

/-!
# Which applications share a path

A request is forwarded to the start of an endpoint's paths, a slash and the id of the application.
The id is not looked into, so it may have slashes and dots in it and look like a part of another
endpoint's paths. Still a path leads back to its endpoint and to the id, because none of the starts,
each with its slash, begins with another one.
-/

namespace SignOn

open Outcome Text

namespace Text

/-- No word of the list begins with another one. -/
def PrefixFree (words : List String) : Prop :=
  ∀ v ∈ words, ∀ w ∈ words, v.toList <+: w.toList → v = w

instance (words : List String) : Decidable (PrefixFree words) :=
  inferInstanceAs (Decidable (∀ v ∈ words, ∀ w ∈ words, v.toList <+: w.toList → v = w))

/-- Whatever stands behind such a word, it is known where the word ends. -/
theorem PrefixFree.append_inj {words : List String} (h : PrefixFree words) {v w s t : String}
    (hv : v ∈ words) (hw : w ∈ words) (heq : v ++ s = w ++ t) : v = w ∧ s = t := by
  have hchars : v.toList ++ s.toList = w.toList ++ t.toList := by
    rw [← String.toList_append, heq, String.toList_append]
  have hword : v = w := by
    have hprefix : w.toList <+: v.toList ++ s.toList := hchars ▸ List.prefix_append _ _
    rcases List.prefix_or_prefix_of_prefix (List.prefix_append _ _) hprefix with hle | hle
    · exact h v hv w hw hle
    · exact (h w hw v hv hle).symm
  subst hword
  exact ⟨rfl, String.toList_inj.1 (List.append_cancel_left hchars)⟩

end Text

/-! ## Endpoints -/

namespace Protocol

variable {p q : Protocol} {start start' : String}

/-- What the paths of the endpoints begin with, the slash before the id included. -/
def pathStarts : List String := (all.filterMap endpoint?).map (· ++ "/")

theorem prefixFree_pathStarts : PrefixFree pathStarts := by decide +kernel

theorem isSupported_of_endpoint? (h : p.endpoint? = some start) : p.isSupported = true := by
  cases p with
  | unsupported text => cases h
  | _ => rfl

theorem mem_pathStarts (h : p.endpoint? = some start) : start ++ "/" ∈ pathStarts := by
  have hp : p ∈ all := mem_all_iff.2 (isSupported_of_endpoint? h)
  exact List.mem_map_of_mem (List.mem_filterMap.2 ⟨p, hp, h⟩)

/-- The protocols are the same, or they are OAuth 2.0 and OpenID Connect. -/
def SharesEndpoint (p q : Protocol) : Prop :=
  p = q ∨ p = .oauth20 ∧ q = .openIdConnect10 ∨ p = .openIdConnect10 ∧ q = .oauth20

instance (p q : Protocol) : Decidable (p.SharesEndpoint q) := inferInstanceAs (Decidable (_ ∨ _))

/-- Only these protocols are served by one endpoint. -/
theorem sharesEndpoint_iff (hp : p.endpoint? = some start) (hq : q.endpoint? = some start') :
    p.SharesEndpoint q ↔ start = start' := by
  have hall : ∀ p ∈ all, ∀ q ∈ all, p.endpoint?.isSome →
      (p.SharesEndpoint q ↔ p.endpoint? = q.endpoint?) := by decide
  have hshares := hall p (mem_all_iff.2 (isSupported_of_endpoint? hp)) q
    (mem_all_iff.2 (isSupported_of_endpoint? hq)) (by rw [hp, Option.isSome_some])
  rw [hshares, hp, hq, Option.some.injEq]

end Protocol

/-! ## Paths -/

theorem Decision.ofApp_eq_forward_iff {a : App} {p : Protocol} {path : String} :
    ofApp a p = .ok (.forward path) ↔
      ∃ start, p.endpoint? = some start ∧ path = start ++ "/" ++ a.id := by
  cases he : p.endpoint? with
  | some start => simp [ofApp_of_endpoint? he, eq_comm]
  | none =>
    have hnone : ofApp a p ≠ .ok (.forward path) := by
      rw [ofApp, he]
      dsimp only
      split
      · split <;> simp
      · simp
    simp [hnone]

namespace Dispatch

/-- The record that is found decides, wherever it was looked up. -/
theorem run_dispatch_of_found {apps : AppLookup} {appId : String} {a : App}
    (ha : apps appId = .ok (some a)) (c : Context) :
    ((dispatch apps appId).run c).1 = Decision.ofApp a (.parse a.protocol) := by
  rw [run_dispatch, routed, ha]
  dsimp only
  cases Decision.ofApp a (.parse a.protocol) <;> rfl

/-- The requests for two applications are forwarded to one path exactly if both have the same id and
protocols that share an endpoint, whatever the ids and the spellings of the protocols are. -/
theorem forward_path_eq_iff {apps apps' : AppLookup} {appId appId' : String} {a b : App}
    (ha : apps appId = .ok (some a)) (hb : apps' appId' = .ok (some b)) {c c' : Context}
    {path path' : String} (hpath : ((dispatch apps appId).run c).1 = .ok (.forward path))
    (hpath' : ((dispatch apps' appId').run c').1 = .ok (.forward path')) :
    (path = path' ↔
      a.id = b.id ∧ (Protocol.parse a.protocol).SharesEndpoint (.parse b.protocol)) ∧
    (path = path' →
      (Protocol.parse a.protocol).endpoint? = (Protocol.parse b.protocol).endpoint?) := by
  rw [run_dispatch_of_found ha, Decision.ofApp_eq_forward_iff] at hpath
  rw [run_dispatch_of_found hb, Decision.ofApp_eq_forward_iff] at hpath'
  obtain ⟨start, hstart, rfl⟩ := hpath
  obtain ⟨start', hstart', rfl⟩ := hpath'
  have hsplit (heq : start ++ "/" ++ a.id = start' ++ "/" ++ b.id) :
      start = start' ∧ a.id = b.id := by
    obtain ⟨hslash, hid⟩ := Protocol.prefixFree_pathStarts.append_inj
      (Protocol.mem_pathStarts hstart) (Protocol.mem_pathStarts hstart') heq
    exact ⟨String.append_left_inj _ |>.1 hslash, hid⟩
  rw [Protocol.sharesEndpoint_iff hstart hstart', hstart, hstart']
  refine ⟨⟨fun heq ↦ (hsplit heq).symm, ?_⟩, fun heq ↦ by rw [(hsplit heq).1]⟩
  rintro ⟨hid, rfl⟩
  rw [hid]

/-- Two records with an id that looks like a path, one for OAuth 2.0 and one for OpenID Connect. -/
theorem forward_path_eq_iff_sample :
    let oauth : App := ⟨"../../cas/a", "", "oauth20", none, none, 1, none⟩
    let openId : App := ⟨"../../cas/a", "", " OIDC10", none, none, 1, none⟩
    let path := "/authz/oauth/v20/../../cas/a"
    ((dispatch (fun _ ↦ .ok (some oauth)) "a").run .idle).1 = .ok (.forward path) ∧
      ((dispatch (fun _ ↦ .ok (some openId)) "b").run .idle).1 = .ok (.forward path) ∧
      (Protocol.parse oauth.protocol).SharesEndpoint (.parse openId.protocol) := by
  intro oauth openId path
  have hoauth : ((dispatch (fun _ ↦ .ok (some oauth)) "a").run .idle).1 = .ok (.forward path) := by
    decide +kernel
  have hopenId : ((dispatch (fun _ ↦ .ok (some openId)) "b").run .idle).1 =
      .ok (.forward path) := by decide +kernel
  have ha : (fun _ ↦ .ok (some oauth) : AppLookup) "a" = .ok (some oauth) := rfl
  have hb : (fun _ ↦ .ok (some openId) : AppLookup) "b" = .ok (some openId) := rfl
  obtain ⟨hiff, -⟩ := forward_path_eq_iff ha hb hoauth hopenId
  exact ⟨hoauth, hopenId, (hiff.1 rfl).2⟩

end Dispatch

end SignOn

import Mathlib.Data.List.Basic
import Mathlib.Tactic.SplitIfs
import SignOn.Crypto.Gcm

/-!
# Authenticated encryption gives back what was encrypted

The key stream covers the text because every step of the block cipher keeps the length of a block.
Combining a text with the key stream twice gives the text back, and the tag of a ciphertext does
not depend on how the ciphertext came about.
-/

namespace SignOn.Crypto

/-! ## Pieces of a list -/

section Chunks

variable {α : Type} {n : Nat}

theorem chunks_nil (n : Nat) : chunks n ([] : List α) = [] := by
  rw [chunks, if_pos (.inl rfl)]

theorem chunks_of_ne_nil (hn : 0 < n) {xs : List α} (h : xs ≠ []) :
    chunks n xs = xs.take n :: chunks n (xs.drop n) := by
  rw [chunks, if_neg]
  rintro (h' | h')
  · exact h h'
  · omega

theorem flatten_chunks (hn : 0 < n) (xs : List α) : (chunks n xs).flatten = xs := by
  by_cases h : xs = []
  · rw [h, chunks_nil]
    rfl
  · have hpos : 0 < xs.length := List.length_pos_of_ne_nil h
    rw [chunks_of_ne_nil hn h, List.flatten_cons, flatten_chunks hn (xs.drop n),
      List.take_append_drop]
termination_by xs.length
decreasing_by
  rw [List.length_drop]
  omega

/-- A list whose length is a multiple of `n` falls into pieces of length `n` without a rest. -/
theorem length_of_mem_chunks (hn : 0 < n) {xs : List α} (hxs : n ∣ xs.length) :
    ∀ c ∈ chunks n xs, c.length = n := by
  by_cases h : xs = []
  · rw [h, chunks_nil]
    exact fun c hc ↦ by cases hc
  · have hpos : 0 < xs.length := List.length_pos_of_ne_nil h
    have hle : n ≤ xs.length := Nat.le_of_dvd hpos hxs
    rw [chunks_of_ne_nil hn h]
    intro c hc
    rcases List.mem_cons.1 hc with rfl | hc
    · rw [List.length_take, Nat.min_eq_left hle]
    · refine length_of_mem_chunks hn ?_ c hc
      rw [List.length_drop]
      exact Nat.dvd_sub hxs (Nat.dvd_refl n)
termination_by xs.length
decreasing_by
  rw [List.length_drop]
  omega

theorem length_chunks (hn : 0 < n) {xs : List α} (hxs : n ∣ xs.length) :
    n * (chunks n xs).length = xs.length := by
  have hpieces := length_of_mem_chunks hn hxs
  have hsum : ((chunks n xs).map List.length).sum = (chunks n xs).length * n := by
    rw [List.map_congr_left hpieces, List.map_const', List.sum_replicate_nat]
  rw [Nat.mul_comm, ← hsum, ← List.length_flatten, flatten_chunks hn]

end Chunks

/-! ## The length of a block -/

namespace Aes

/-- Every one of them has four bytes. -/
def Words (ws : List Bytes) : Prop := ∀ w ∈ ws, w.length = 4

theorem length_nextWord {recent : List Bytes} (h : Words recent) (hne : recent ≠ [])
    (words index : Nat) (constant : UInt8) :
    (nextWord words index constant recent).length = 4 := by
  obtain ⟨first, rest, rfl⟩ := List.exists_cons_of_ne_nil hne
  have hfirst : first.length = 4 := h first (by simp)
  have hlast : ((first :: rest).getLastD []).length = 4 := by
    rw [List.getLastD_eq_getLast?, List.getLast?_eq_some_getLast hne]
    exact h _ (List.getLast_mem hne)
  have hturn (w : Bytes) (hw : w.length = 4) : (w.drop 1 ++ w.take 1).length = 4 := by
    rw [List.length_append, List.length_drop, List.length_take]
    omega
  rw [nextWord, length_xor, List.headD_cons, hfirst]
  split_ifs
  · rw [length_xor, List.length_map, hturn _ hlast]
    rfl
  · rw [List.length_map, hlast]
    rfl
  · rw [hlast]
    rfl

theorem words_schedule (words : Nat) :
    ∀ (more index : Nat) (constant : UInt8) {recent : List Bytes}, Words recent → recent ≠ [] →
      Words (schedule words more index constant recent)
  | 0, _, _, _, _, _ => by
    intro w hw
    cases hw
  | more + 1, index, constant, recent, h, hne => by
    have hword := length_nextWord h hne words index constant
    have hrecent : Words (recent.drop 1 ++ [nextWord words index constant recent]) := by
      intro w hw
      rcases List.mem_append.1 hw with hw | hw
      · exact h w (List.mem_of_mem_drop hw)
      · rw [List.mem_singleton.1 hw]
        exact hword
    intro w hw
    rw [schedule] at hw
    rcases List.mem_cons.1 hw with rfl | hw
    · exact hword
    · exact words_schedule words more (index + 1) _ hrecent (by simp) w hw

theorem length_schedule (words : Nat) :
    ∀ (more index : Nat) (constant : UInt8) (recent : List Bytes),
      (schedule words more index constant recent).length = more
  | 0, _, _, _ => rfl
  | more + 1, index, constant, recent => by
    rw [schedule, List.length_cons, length_schedule words more]

/-- The round keys of a key that is made of whole words have sixteen bytes each. -/
theorem length_of_mem_roundKeys {key : Bytes} (hkey : 4 ∣ key.length) (hne : key ≠ []) :
    ∀ k ∈ roundKeys key, k.length = 16 := by
  have hpos : 0 < key.length := List.length_pos_of_ne_nil hne
  have hstart : Words (chunks 4 key) := length_of_mem_chunks (by decide) hkey
  have hlength : 4 * (chunks 4 key).length = key.length := length_chunks (by decide) hkey
  have hstart' : chunks 4 key ≠ [] := by
    intro h
    rw [h, List.length_nil] at hlength
    omega
  intro k hk
  obtain ⟨c, hc, rfl⟩ := List.mem_map.1 hk
  generalize hall : chunks 4 key ++ schedule (chunks 4 key).length
    (4 * ((chunks 4 key).length + 7) - (chunks 4 key).length) (chunks 4 key).length 1
    (chunks 4 key) = all at hc
  have hwords : Words all := by
    rw [← hall]
    intro w hw
    rcases List.mem_append.1 hw with hw | hw
    · exact hstart w hw
    · exact words_schedule _ _ _ _ hstart hstart' w hw
  have hsize : 4 ∣ all.length := by
    rw [← hall, List.length_append, length_schedule]
    omega
  have hc4 : c.length = 4 := length_of_mem_chunks (by decide) hsize c hc
  have hcw : ∀ w ∈ c, w.length = 4 := fun w hw ↦ by
    refine hwords w ?_
    rw [← flatten_chunks (by decide : 0 < 4) all]
    exact List.mem_flatten_of_mem hc hw
  rw [List.length_flatten, List.map_congr_left hcw, List.map_const', List.sum_replicate_nat, hc4]

@[simp] theorem length_shiftRows (s : Bytes) : (shiftRows s).length = 16 := rfl

theorem length_mixColumn (c : Bytes) : (mixColumn c).length = c.length := by
  fun_cases mixColumn c <;> rfl

@[simp] theorem length_mixColumns (s : Bytes) : (mixColumns s).length = s.length := by
  rw [mixColumns, List.length_flatMap, List.map_congr_left fun c _ ↦ length_mixColumn c,
    ← List.length_flatten, flatten_chunks (by decide)]

theorem length_rounds :
    ∀ {keys : List Bytes} {s : Bytes}, (∀ k ∈ keys, k.length = 16) → s.length = 16 →
      (rounds s keys).length = 16
  | [], _, _, hs => hs
  | [key], s, hkeys, _ => by
    rw [rounds, length_xor, length_shiftRows, hkeys key (by simp)]
    rfl
  | key :: next :: keys, s, hkeys, _ => by
    rw [rounds]
    · refine length_rounds (fun k hk ↦ hkeys k (List.mem_cons_of_mem _ hk)) ?_
      rw [length_xor, length_mixColumns, length_shiftRows, hkeys key (by simp)]
      rfl
    · simp

theorem length_encryptBlock {keys : List Bytes} (hkeys : ∀ k ∈ keys, k.length = 16) {block : Bytes}
    (hblock : block.length = 16) : (encryptBlock keys block).length = 16 := by
  cases keys with
  | nil => exact hblock
  | cons key keys =>
    refine length_rounds (fun k hk ↦ hkeys k (List.mem_cons_of_mem _ hk)) ?_
    rw [length_xor, hblock, hkeys key (by simp)]
    rfl

end Aes

/-! ## Counter mode and its tag -/

namespace Gcm

section

variable {keys : List Bytes} (hkeys : ∀ k ∈ keys, k.length = 16) {iv : Bytes}
  (hiv : iv.length = 12)

include hiv in
theorem length_counterBlock (n : Nat) : (counterBlock iv n).length = 16 := by
  rw [counterBlock, List.length_append, hiv, length_ofNat]

include hkeys hiv

theorem length_keyStream (n k : Nat) : (keyStream keys iv n k).length = 16 * k := by
  induction k generalizing n with
  | zero => rfl
  | succ k ih =>
    rw [keyStream, List.length_append, ih,
      Aes.length_encryptBlock hkeys (length_counterBlock hiv n)]
    omega

theorem length_crypt (text : Bytes) : (crypt keys iv text).length = text.length := by
  rw [crypt, length_xor, length_keyStream hkeys hiv]
  omega

theorem crypt_crypt (text : Bytes) : crypt keys iv (crypt keys iv text) = text := by
  have hlength := length_crypt hkeys hiv text
  rw [crypt, hlength, crypt, xor_xor]
  rw [length_keyStream hkeys hiv]
  omega

theorem length_tag (associated ciphertext : Bytes) :
    (tag keys iv associated ciphertext).length = 16 := by
  rw [tag, length_xor, Aes.length_encryptBlock hkeys (length_counterBlock hiv 1), Block.bytes,
    length_ofNat]
  rfl

end

section

variable {key : Bytes} (hkey : 4 ∣ key.length) (hne : key ≠ []) {iv : Bytes}
  (hiv : iv.length = 12) (associated text : Bytes)

include hkey hne hiv

theorem length_ciphertext_encrypt :
    (encrypt key iv associated text).ciphertext.length = text.length := by
  dsimp only [encrypt]
  exact length_crypt (Aes.length_of_mem_roundKeys hkey hne) hiv text

theorem length_tag_encrypt : (encrypt key iv associated text).tag.length = 16 := by
  dsimp only [encrypt]
  exact length_tag (Aes.length_of_mem_roundKeys hkey hne) hiv associated _

/-- What was sealed opens under the same key, nonce and associated data. -/
theorem decrypt?_encrypt :
    decrypt? key iv associated (encrypt key iv associated text) = some text := by
  have hcrypt := crypt_crypt (Aes.length_of_mem_roundKeys hkey hne) hiv text
  dsimp only [decrypt?, encrypt]
  rw [if_pos rfl, hcrypt]

/-- What opens is what was sealed: there is one ciphertext and one tag for every text. -/
theorem decrypt?_eq_some_iff {s : Sealed} :
    decrypt? key iv associated s = some text ↔ encrypt key iv associated text = s := by
  constructor
  · intro h
    dsimp only [decrypt?] at h
    split at h
    · next htag =>
      obtain rfl := Option.some.inj h
      have hcrypt := crypt_crypt (Aes.length_of_mem_roundKeys hkey hne) hiv s.ciphertext
      dsimp only [encrypt]
      rw [hcrypt, htag]
    · cases h
  · rintro rfl
    exact decrypt?_encrypt hkey hne hiv associated text

end

end Gcm

end SignOn.Crypto

import BindingIndex.Proofs.Results
import BindingIndex.Proofs.Text.Utf8

/-!
# What decodes

Decoding accepts the bytes of texts and nothing else: bytes that decode are, character by character,
the bytes of what they decode to (`decode_eq_ok_iff`). The second byte rules out what could be
written shorter and what is no scalar value, so that the code point that a lead byte and its tails
add up to is one that is encoded in just that many bytes (`encodeChar_two`, `encodeChar_three`,
`encodeChar_four`).
-/

namespace BindingIndex.Text.Utf8

theorem toNat_ofNat_of_scalar {n : Nat} (h : n < 0xD800 ∨ 0xDFFF < n ∧ n < 0x110000) :
    (Char.ofNat n).toNat = n := by
  have hvalid : n.isValidChar := h
  unfold Char.ofNat
  rw [dif_pos hvalid]
  rfl

theorem isTail_iff {b : UInt8} : isTail b = true ↔ 0x80 ≤ b.toNat ∧ b.toNat < 0xC0 := by
  simp [isTail]

theorem isSecond_iff {b c : UInt8} :
    isSecond b c = true ↔ (0x80 ≤ c.toNat ∧ c.toNat < 0xC0) ∧ (b.toNat = 0xE0 → 0xA0 ≤ c.toNat) ∧
      (b.toNat = 0xED → c.toNat < 0xA0) ∧ (b.toNat = 0xF0 → 0x90 ≤ c.toNat) ∧
      (b.toNat = 0xF4 → c.toNat < 0x90) := by
  rw [isSecond, Bool.and_eq_true, isTail_iff]
  refine and_congr_right fun _ => ?_
  split
  · simp; omega
  split
  · simp; omega
  split
  · simp; omega
  split
  · simp; omega
  · simp; omega

/-! ## One character -/

section
variable {a b c d : UInt8}

theorem encodeChar_one (ha : a.toNat < 0x80) : encodeChar (Char.ofNat a.toNat) = [a] := by
  have hn := toNat_ofNat_of_scalar (n := a.toNat) (by omega)
  unfold encodeChar
  dsimp only
  rw [hn, if_pos ha, UInt8.ofNat_toNat]

theorem encodeChar_two (ha : 0xC2 ≤ a.toNat) (ha' : a.toNat < 0xE0) (hb : isSecond a b = true) :
    encodeChar (Char.ofNat ((a.toNat - 0xC0) * 0x40 + (b.toNat - 0x80))) = [a, b] := by
  obtain ⟨hb, -⟩ := isSecond_iff.1 hb
  generalize hn : (a.toNat - 0xC0) * 0x40 + (b.toNat - 0x80) = n
  have hchar := toNat_ofNat_of_scalar (n := n) (by omega)
  have ha₁ : 0xC0 + n / 0x40 = a.toNat := by omega
  have hb₁ : 0x80 + n % 0x40 = b.toNat := by omega
  unfold encodeChar
  dsimp only
  rw [hchar, if_neg (by omega), if_pos (by omega), ha₁, hb₁, UInt8.ofNat_toNat, UInt8.ofNat_toNat]

theorem encodeChar_three (ha : 0xE0 ≤ a.toNat) (ha' : a.toNat < 0xF0) (hb : isSecond a b = true)
    (hc : isTail c = true) :
    encodeChar (Char.ofNat ((a.toNat - 0xE0) * 0x1000 + (b.toNat - 0x80) * 0x40 +
      (c.toNat - 0x80))) = [a, b, c] := by
  obtain ⟨hb, hE0, hED, -⟩ := isSecond_iff.1 hb
  have hc := isTail_iff.1 hc
  generalize hn : (a.toNat - 0xE0) * 0x1000 + (b.toNat - 0x80) * 0x40 + (c.toNat - 0x80) = n
  have hchar := toNat_ofNat_of_scalar (n := n) (by omega)
  have ha₁ : 0xE0 + n / 0x1000 = a.toNat := by omega
  have hb₁ : 0x80 + n / 0x40 % 0x40 = b.toNat := by omega
  have hc₁ : 0x80 + n % 0x40 = c.toNat := by omega
  unfold encodeChar
  dsimp only
  rw [hchar, if_neg (by omega), if_neg (by omega), if_pos (by omega), ha₁, hb₁, hc₁,
    UInt8.ofNat_toNat, UInt8.ofNat_toNat, UInt8.ofNat_toNat]

theorem encodeChar_four (ha : 0xF0 ≤ a.toNat) (ha' : a.toNat < 0xF5) (hb : isSecond a b = true)
    (hc : isTail c = true) (hd : isTail d = true) :
    encodeChar (Char.ofNat ((a.toNat - 0xF0) * 0x40000 + (b.toNat - 0x80) * 0x1000 +
      (c.toNat - 0x80) * 0x40 + (d.toNat - 0x80))) = [a, b, c, d] := by
  obtain ⟨hb, -, -, hF0, hF4⟩ := isSecond_iff.1 hb
  have hc := isTail_iff.1 hc
  have hd := isTail_iff.1 hd
  generalize hn : (a.toNat - 0xF0) * 0x40000 + (b.toNat - 0x80) * 0x1000 +
    (c.toNat - 0x80) * 0x40 + (d.toNat - 0x80) = n
  have hchar := toNat_ofNat_of_scalar (n := n) (by omega)
  have ha₁ : 0xF0 + n / 0x40000 = a.toNat := by omega
  have hb₁ : 0x80 + n / 0x1000 % 0x40 = b.toNat := by omega
  have hc₁ : 0x80 + n / 0x40 % 0x40 = c.toNat := by omega
  have hd₁ : 0x80 + n % 0x40 = d.toNat := by omega
  unfold encodeChar
  dsimp only
  rw [hchar, if_neg (by omega), if_neg (by omega), if_neg (by omega), ha₁, hb₁, hc₁, hd₁,
    UInt8.ofNat_toNat, UInt8.ofNat_toNat, UInt8.ofNat_toNat, UInt8.ofNat_toNat]

end

/-! ## Whole texts -/

/-- Bytes that decode are none, or those of a character before bytes that decode. -/
theorem decodeFrom_ok_cases {pos : Nat} {bytes : List UInt8} {s : List Char}
    (h : decodeFrom pos bytes = .ok s) :
    (bytes = [] ∧ s = []) ∨ ∃ c more rest pos', s = c :: more ∧ bytes = encodeChar c ++ rest ∧
      decodeFrom pos' rest = .ok more := by
  rw [decodeFrom.eq_def] at h
  split at h
  · exact .inl ⟨rfl, (Except.ok.inj h).symm⟩
  rename_i a rest
  right
  dsimp only at h
  -- one case for each length; the bounds that were passed on the way are those of its encoding
  split at h
  · rename_i ha
    obtain ⟨more, hrest, rfl⟩ := map_eq_ok_iff.1 h
    exact ⟨_, more, rest, _, rfl, by rw [encodeChar_one ha]; rfl, hrest⟩
  split at h
  · cases h
  rename_i hstart
  split at h
  · cases h
  rename_i b rest
  split at h
  · cases h
  rename_i hb
  simp only [Bool.not_eq_true', Bool.not_eq_false] at hb
  split at h
  · obtain ⟨more, hrest, rfl⟩ := map_eq_ok_iff.1 h
    exact ⟨_, more, rest, _, rfl, by rw [encodeChar_two (by omega) ‹_› hb]; rfl, hrest⟩
  split at h
  · cases h
  rename_i c rest
  split at h
  · cases h
  rename_i hc
  simp only [Bool.not_eq_true', Bool.not_eq_false] at hc
  split at h
  · obtain ⟨more, hrest, rfl⟩ := map_eq_ok_iff.1 h
    exact ⟨_, more, rest, _, rfl, by rw [encodeChar_three (by omega) ‹_› hb hc]; rfl, hrest⟩
  split at h
  · cases h
  rename_i d rest
  split at h
  · cases h
  rename_i hd
  simp only [Bool.not_eq_true', Bool.not_eq_false] at hd
  obtain ⟨more, hrest, rfl⟩ := map_eq_ok_iff.1 h
  exact ⟨_, more, rest, _, rfl, by rw [encodeChar_four (by omega) (by omega) hb hc hd]; rfl, hrest⟩

theorem eq_encodeChars_of_decodeFrom {pos : Nat} {bytes : List UInt8} {s : List Char}
    (h : decodeFrom pos bytes = .ok s) : bytes = encodeChars s := by
  induction s generalizing pos bytes with
  | nil =>
    rcases decodeFrom_ok_cases h with ⟨rfl, -⟩ | ⟨c, more, rest, pos', hs, -⟩
    · rfl
    · cases hs
  | cons c s ih =>
    rcases decodeFrom_ok_cases h with ⟨-, hs⟩ | ⟨c, more, rest, pos', hs, rfl, hrest⟩
    · cases hs
    · cases hs
      rw [encodeChars, List.flatMap_cons, ← encodeChars, ← ih hrest]

/-- **Bytes decode to a text** exactly if they are its bytes. -/
theorem decode_eq_ok_iff {bytes : List UInt8} {s : List Char} :
    decode bytes = .ok s ↔ bytes = encodeChars s := by
  constructor
  · exact eq_encodeChars_of_decodeFrom
  · rintro rfl
    exact decode_encodeChars s

end BindingIndex.Text.Utf8

import BindingIndex.Text.Utf8

/-!
# Encoding and decoding

The bytes of a text decode to it (`decode_encodeChars`), so that texts with the same bytes are equal
(`encode_injective`). One character is decoded from its bytes whatever follows them
(`decodeFrom_encodeChar`): the lead byte tells how many bytes it has, and its value and those of the
tails add up to the code point (`decodeFrom_two`, `decodeFrom_three`, `decodeFrom_four`).
-/

namespace BindingIndex.Text.Utf8

theorem toNat_ofNat_of_lt {n : Nat} (h : n < 256) : (UInt8.ofNat n).toNat = n := by
  rw [UInt8.toNat_ofNat']
  exact Nat.mod_eq_of_lt h

theorem isTail_ofNat {n : Nat} (h : n < 0x40) : isTail (UInt8.ofNat (0x80 + n)) = true := by
  rw [isTail, toNat_ofNat_of_lt (by omega)]
  simp only [Bool.and_eq_true, decide_eq_true_eq]
  omega

theorem isSecond_of_isTail {b c : UInt8} (ht : isTail c = true)
    (hE0 : b.toNat = 0xE0 → 0xA0 ≤ c.toNat) (hED : b.toNat = 0xED → c.toNat < 0xA0)
    (hF0 : b.toNat = 0xF0 → 0x90 ≤ c.toNat) (hF4 : b.toNat = 0xF4 → c.toNat < 0x90) :
    isSecond b c = true := by
  rw [isSecond, ht, Bool.true_and]
  split
  · exact decide_eq_true (hE0 ‹_›)
  split
  · exact decide_eq_true (hED ‹_›)
  split
  · exact decide_eq_true (hF0 ‹_›)
  split
  · exact decide_eq_true (hF4 ‹_›)
  · rfl

/-! ## One character -/

section
variable (pos : Nat) {n : Nat} (rest : List UInt8)

/-- The lead byte and the tail of a code point below U+0800. -/
theorem decodeFrom_two (h : 0x80 ≤ n) (h' : n < 0x800) :
    decodeFrom pos (UInt8.ofNat (0xC0 + n / 0x40) :: UInt8.ofNat (0x80 + n % 0x40) :: rest) =
      (decodeFrom (pos + 2) rest).map (Char.ofNat n :: ·) := by
  have ha := toNat_ofNat_of_lt (show 0xC0 + n / 0x40 < 256 by omega)
  have hb := toNat_ofNat_of_lt (show 0x80 + n % 0x40 < 256 by omega)
  have hsec := isSecond_of_isTail (b := UInt8.ofNat (0xC0 + n / 0x40))
    (isTail_ofNat (show n % 0x40 < 0x40 by omega)) (by omega) (by omega) (by omega) (by omega)
  have hn : (0xC0 + n / 0x40 - 0xC0) * 0x40 + (0x80 + n % 0x40 - 0x80) = n := by omega
  rw [decodeFrom.eq_def]
  simp only [ha, hb, hsec, hn]
  rw [if_neg (by omega), if_neg (by omega), if_neg (by decide), if_pos (by omega)]

/-- The lead byte and the tails of a code point below U+10000 that is no surrogate. -/
theorem decodeFrom_three (h : 0x800 ≤ n) (h' : n < 0x10000) (hs : n < 0xD800 ∨ 0xDFFF < n) :
    decodeFrom pos (UInt8.ofNat (0xE0 + n / 0x1000) :: UInt8.ofNat (0x80 + n / 0x40 % 0x40) ::
        UInt8.ofNat (0x80 + n % 0x40) :: rest) =
      (decodeFrom (pos + 3) rest).map (Char.ofNat n :: ·) := by
  have ha := toNat_ofNat_of_lt (show 0xE0 + n / 0x1000 < 256 by omega)
  have hb := toNat_ofNat_of_lt (show 0x80 + n / 0x40 % 0x40 < 256 by omega)
  have hd := toNat_ofNat_of_lt (show 0x80 + n % 0x40 < 256 by omega)
  have hsec := isSecond_of_isTail (b := UInt8.ofNat (0xE0 + n / 0x1000))
    (isTail_ofNat (show n / 0x40 % 0x40 < 0x40 by omega))
    (by omega) (by omega) (by omega) (by omega)
  have htail := isTail_ofNat (show n % 0x40 < 0x40 by omega)
  have hn : (0xE0 + n / 0x1000 - 0xE0) * 0x1000 + (0x80 + n / 0x40 % 0x40 - 0x80) * 0x40 +
      (0x80 + n % 0x40 - 0x80) = n := by omega
  rw [decodeFrom.eq_def]
  simp only [ha, hb, hd, hsec, htail, hn]
  rw [if_neg (by omega), if_neg (by omega), if_neg (by decide), if_neg (by omega),
    if_neg (by decide), if_pos (by omega)]

/-- The lead byte and the tails of a code point from U+10000 on. -/
theorem decodeFrom_four (h : 0x10000 ≤ n) (h' : n < 0x110000) :
    decodeFrom pos (UInt8.ofNat (0xF0 + n / 0x40000) :: UInt8.ofNat (0x80 + n / 0x1000 % 0x40) ::
        UInt8.ofNat (0x80 + n / 0x40 % 0x40) :: UInt8.ofNat (0x80 + n % 0x40) :: rest) =
      (decodeFrom (pos + 4) rest).map (Char.ofNat n :: ·) := by
  have ha := toNat_ofNat_of_lt (show 0xF0 + n / 0x40000 < 256 by omega)
  have hb := toNat_ofNat_of_lt (show 0x80 + n / 0x1000 % 0x40 < 256 by omega)
  have hd := toNat_ofNat_of_lt (show 0x80 + n / 0x40 % 0x40 < 256 by omega)
  have he := toNat_ofNat_of_lt (show 0x80 + n % 0x40 < 256 by omega)
  have hsec := isSecond_of_isTail (b := UInt8.ofNat (0xF0 + n / 0x40000))
    (isTail_ofNat (show n / 0x1000 % 0x40 < 0x40 by omega))
    (by omega) (by omega) (by omega) (by omega)
  have htail := isTail_ofNat (show n / 0x40 % 0x40 < 0x40 by omega)
  have htail' := isTail_ofNat (show n % 0x40 < 0x40 by omega)
  have hn : (0xF0 + n / 0x40000 - 0xF0) * 0x40000 + (0x80 + n / 0x1000 % 0x40 - 0x80) * 0x1000 +
      (0x80 + n / 0x40 % 0x40 - 0x80) * 0x40 + (0x80 + n % 0x40 - 0x80) = n := by omega
  rw [decodeFrom.eq_def]
  simp only [ha, hb, hd, he, hsec, htail, htail', hn]
  rw [if_neg (by omega), if_neg (by omega), if_neg (by decide), if_neg (by omega),
    if_neg (by decide), if_neg (by omega), if_neg (by decide)]

end

theorem decodeFrom_encodeChar (pos : Nat) (c : Char) (rest : List UInt8) :
    decodeFrom pos (encodeChar c ++ rest) =
      (decodeFrom (pos + (encodeChar c).length) rest).map (c :: ·) := by
  have hc : c.toNat < 0xD800 ∨ 0xDFFF < c.toNat ∧ c.toNat < 0x110000 := c.valid
  have hchar : Char.ofNat c.toNat = c := Char.ofNat_toNat c
  unfold encodeChar
  dsimp only
  split
  · rename_i h1
    rw [List.singleton_append, decodeFrom.eq_def]
    simp only [toNat_ofNat_of_lt (show c.toNat < 256 by omega), h1, if_true, hchar,
      List.length_singleton]
  split
  · rename_i h1 h2
    exact (decodeFrom_two pos rest (by omega) h2).trans (by rw [hchar]; rfl)
  split
  · rename_i h1 h2 h3
    exact (decodeFrom_three pos rest (by omega) h3 (by omega)).trans (by rw [hchar]; rfl)
  · rename_i h1 h2 h3
    exact (decodeFrom_four pos rest (by omega) (by omega)).trans (by rw [hchar]; rfl)

/-! ## Whole texts -/

theorem decodeFrom_encodeChars (pos : Nat) (s : List Char) :
    decodeFrom pos (encodeChars s) = .ok s := by
  induction s generalizing pos with
  | nil => rfl
  | cons c s ih =>
    rw [encodeChars, List.flatMap_cons, decodeFrom_encodeChar, ← encodeChars, ih]
    rfl

theorem decode_encodeChars (s : List Char) : decode (encodeChars s) = .ok s :=
  decodeFrom_encodeChars 0 s

theorem encode_injective : Function.Injective encode := by
  intro s t h
  have hd := congrArg decode h
  rw [encode, encode, decode_encodeChars, decode_encodeChars, Except.ok.injEq] at hd
  exact String.toList_injective hd

@[simp] theorem encode_inj {s t : String} : encode s = encode t ↔ s = t := encode_injective.eq_iff

/-- **The texts with bytes** are the strings. -/
theorem encodeText_eq_ok_iff {t : Text} {bytes : List UInt8} :
    encodeText t = .ok bytes ↔ ∃ s : String, t = s ∧ encode s = bytes := by
  constructor
  · intro h
    cases hs : t.chars with
    | error f =>
      rw [encodeText, hs] at h
      cases h
    | ok s =>
      rw [encodeText, hs] at h
      refine ⟨.ofList s, ?_, ?_⟩
      · rw [Text.ofString_ofList, Text.chars_eq_ok_iff.1 hs]
      · rw [encode, String.toList_ofList]
        exact Except.ok.inj h
  · rintro ⟨s, rfl, rfl⟩
    exact encodeText_ofString s

theorem isUnicode_of_encodeText {t : Text} {bytes : List UInt8} (h : encodeText t = .ok bytes) :
    t.IsUnicode := by
  obtain ⟨s, rfl, -⟩ := encodeText_eq_ok_iff.1 h
  exact Text.isUnicode_ofString s

theorem encodeText_injective {t t' : Text} {bytes : List UInt8} (h : encodeText t = .ok bytes)
    (h' : encodeText t' = .ok bytes) : t = t' := by
  obtain ⟨s, rfl, hs⟩ := encodeText_eq_ok_iff.1 h
  obtain ⟨s', rfl, hs'⟩ := encodeText_eq_ok_iff.1 h'
  rw [encode_injective (hs.trans hs'.symm)]

/-! ## File names -/

theorem fileName_inj {s t : Text} (hs : s.IsUnicode) (ht : t.IsUnicode)
    (h : fileName s = fileName t) : s = t := by
  obtain ⟨s, rfl⟩ := Text.isUnicode_iff_exists.1 hs
  obtain ⟨t, rfl⟩ := Text.isUnicode_iff_exists.1 ht
  rw [fileName_ofString, fileName_ofString] at h
  rw [encode_injective h]

theorem map_fileName_inj {ss ts : List Text} (hs : ∀ s ∈ ss, s.IsUnicode)
    (ht : ∀ t ∈ ts, t.IsUnicode) (h : ss.map fileName = ts.map fileName) : ss = ts := by
  induction ss generalizing ts with
  | nil => exact (List.map_eq_nil_iff.1 h.symm).symm
  | cons s ss ih =>
    obtain ⟨t, ts, rfl, hname, hrest⟩ := List.map_eq_cons_iff.1 h.symm
    rw [fileName_inj (hs s (.head _)) (ht t (.head _)) hname.symm,
      ih (fun n hn => hs n (.tail _ hn)) (fun n hn => ht n (.tail _ hn)) hrest.symm]

@[simp] theorem fileName_append (s t : Text) : fileName (s ++ t) = fileName s ++ fileName t :=
  List.flatMap_append

@[simp] theorem size_append (s t : Text) : size (s ++ t) = size s + size t := by
  simp [size]

end BindingIndex.Text.Utf8

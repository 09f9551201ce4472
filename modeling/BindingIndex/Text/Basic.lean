/-!
# Texts

A text is a sequence of code points. Beside characters it may hold surrogates that stand alone: an
escape in a document may write one, and an argument that is no UTF-8 has them in place of its stray
bytes. Such a text has no form in UTF-8.

* `CodePoint`, `Text`: the types; every `String` is a text.
* `Text.chars`: the characters of a text, or the first surrogates that are in the way.
* `Text.Fault.message`: the text of that fault.
* `Text.IsUnicode`: the texts without surrogates, which are the strings.
-/

namespace BindingIndex

/-- A code point: a character, or a surrogate, counted from U+D800. -/
inductive CodePoint where
  | char (c : Char)
  | surrogate (n : Fin 0x800)
  deriving DecidableEq, Repr

namespace CodePoint

instance : Coe Char CodePoint := ⟨char⟩

def toNat : CodePoint → Nat
  | char c => c.toNat
  | surrogate n => 0xD800 + n

def ofNat (n : Nat) : CodePoint :=
  if h : 0xD800 ≤ n ∧ n < 0xE000 then surrogate ⟨n - 0xD800, by omega⟩ else char (.ofNat n)

def isSurrogate : CodePoint → Bool
  | char _ => false
  | surrogate _ => true

def char? : CodePoint → Option Char
  | char c => some c
  | surrogate _ => none

/-- The character to show; the replacement character stands for a surrogate. -/
def shown (p : CodePoint) : Char := p.char?.getD '\ufffd'

@[simp] theorem isSurrogate_char (c : Char) : isSurrogate c = false := rfl

@[simp] theorem char?_char (c : Char) : char? c = some c := rfl

@[simp] theorem shown_char (c : Char) : shown c = c := rfl

end CodePoint

abbrev Text := List CodePoint

namespace Text

def ofChars (s : List Char) : Text := s.map .char

def ofString (s : String) : Text := ofChars s.toList

instance : Coe String Text := ⟨ofString⟩

/-- The text as it is shown, with a replacement character for every surrogate. -/
def shown (t : Text) : List Char := t.map CodePoint.shown

/-! ## Surrogates -/

def IsUnicode (t : Text) : Prop := ∀ p ∈ t, p.isSurrogate = false

instance (t : Text) : Decidable (IsUnicode t) := inferInstanceAs (Decidable (∀ p ∈ t, _))

/-- Surrogates that stand side by side: the first one, its position and how many they are. -/
structure Fault where
  first : Fin 0x800
  position : Nat
  count : Nat
  deriving DecidableEq, Repr

/-- The surrogates at the start of a text. -/
def leading : Text → Nat
  | .surrogate _ :: rest => leading rest + 1
  | _ => 0

/-- The first surrogate that is not spared, with those behind it, where the text starts at a
position. -/
def faultFrom (spared : Fin 0x800 → Bool) (position : Nat) : Text → Option Fault
  | [] => none
  | .char _ :: rest => faultFrom spared (position + 1) rest
  | .surrogate n :: rest =>
    if spared n then faultFrom spared (position + 1) rest
    else some ⟨n, position, leading rest + 1⟩

def fault? (t : Text) : Option Fault := faultFrom (fun _ => false) 0 t

/-- The characters of a text that holds no surrogate. -/
def chars (t : Text) : Except Fault (List Char) :=
  match fault? t with
  | some f => .error f
  | none => .ok (t.filterMap CodePoint.char?)

/-- The text as a string, if it holds no surrogate. -/
def toString? (t : Text) : Option String := t.chars.toOption.map String.ofList

/-! ## Strings are texts -/

@[simp] theorem ofChars_nil : ofChars [] = [] := rfl

@[simp] theorem ofChars_append (s t : List Char) : ofChars (s ++ t) = ofChars s ++ ofChars t :=
  List.map_append

@[simp] theorem ofChars_inj {s t : List Char} : ofChars s = ofChars t ↔ s = t :=
  List.map_inj_right fun _ _ h => CodePoint.char.inj h

@[simp] theorem ofString_empty : ofString "" = [] := rfl

@[simp] theorem ofString_append (s t : String) : ofString (s ++ t) = ofString s ++ ofString t := by
  simp [ofString]

@[simp] theorem ofString_inj {s t : String} : ofString s = ofString t ↔ s = t := by
  simp [ofString, String.toList_inj]

@[simp] theorem ofString_eq_nil {s : String} : ofString s = [] ↔ s = "" :=
  ofString_inj (t := "")

@[simp] theorem char_mem_ofChars {c : Char} {s : List Char} :
    CodePoint.char c ∈ ofChars s ↔ c ∈ s := by
  simp [ofChars]

@[simp] theorem char_mem_ofString {c : Char} {s : String} :
    CodePoint.char c ∈ ofString s ↔ c ∈ s.toList := char_mem_ofChars

@[simp] theorem ofString_ofList (s : List Char) : ofString (.ofList s) = ofChars s := by
  simp [ofString]

@[simp] theorem shown_ofChars (s : List Char) : shown (ofChars s) = s := by
  simp [shown, ofChars, Function.comp_def]

@[simp] theorem isUnicode_ofChars (s : List Char) : IsUnicode (ofChars s) := by
  simp [IsUnicode, ofChars]

@[simp] theorem isUnicode_ofString (s : String) : IsUnicode s := isUnicode_ofChars s.toList

@[simp] theorem isUnicode_append {s t : Text} :
    IsUnicode (s ++ t) ↔ IsUnicode s ∧ IsUnicode t := List.forall_mem_append

theorem IsUnicode.exists_chars {t : Text} (h : IsUnicode t) : ∃ s, t = ofChars s := by
  induction t with
  | nil => exact ⟨[], rfl⟩
  | cons p t ih =>
    obtain ⟨s, rfl⟩ := ih fun q hq => h q (.tail _ hq)
    cases p with
    | char c => exact ⟨c :: s, rfl⟩
    | surrogate n => cases h _ (.head _)

theorem isUnicode_iff_exists {t : Text} : IsUnicode t ↔ ∃ s : String, t = s := by
  constructor
  · intro h
    obtain ⟨s, rfl⟩ := h.exists_chars
    exact ⟨.ofList s, (ofString_ofList s).symm⟩
  · rintro ⟨s, rfl⟩
    exact isUnicode_ofString s

theorem faultFrom_ofChars (spared : Fin 0x800 → Bool) (position : Nat) (s : List Char) :
    faultFrom spared position (ofChars s) = none := by
  induction s generalizing position with
  | nil => rfl
  | cons c s ih => exact ih (position + 1)

theorem isUnicode_of_faultFrom {position : Nat} {t : Text}
    (h : faultFrom (fun _ => false) position t = none) : IsUnicode t := by
  induction t generalizing position with
  | nil => simp [IsUnicode]
  | cons p t ih =>
    cases p with
    | char c => exact List.forall_mem_cons.2 ⟨rfl, ih h⟩
    | surrogate n => simp [faultFrom] at h

theorem fault?_eq_none_iff {t : Text} : fault? t = none ↔ IsUnicode t := by
  refine ⟨isUnicode_of_faultFrom, fun h => ?_⟩
  obtain ⟨s, rfl⟩ := h.exists_chars
  exact faultFrom_ofChars _ 0 s

@[simp] theorem chars_ofChars (s : List Char) : chars (ofChars s) = .ok s := by
  rw [chars, fault?, faultFrom_ofChars]
  simp [ofChars, List.filterMap_map, Function.comp_def]

@[simp] theorem chars_ofString (s : String) : chars s = .ok s.toList := chars_ofChars s.toList

theorem chars_eq_ok_iff {t : Text} {s : List Char} : chars t = .ok s ↔ t = ofChars s := by
  constructor
  · intro h
    have ht : IsUnicode t := by
      rw [chars] at h
      split at h
      · cases h
      · exact fault?_eq_none_iff.1 ‹_›
    obtain ⟨u, rfl⟩ := ht.exists_chars
    rw [chars_ofChars] at h
    cases h
    rfl
  · rintro rfl
    exact chars_ofChars s

@[simp] theorem toString?_ofString (s : String) : toString? s = some s := by
  simp [toString?, Except.toOption]

/-! ## The text of a fault -/

def hexDigit (n : Nat) : Char := Char.ofNat (if n < 10 then 48 + n else 87 + n)

/-- A number as `width` hexadecimal digits. -/
def hex : Nat → Nat → List Char
  | 0, _ => []
  | width + 1, n => hex width (n / 16) ++ [hexDigit (n % 16)]

/-- A surrogate as an escape. -/
def escaped (n : Fin 0x800) : String := "\\u" ++ String.ofList (hex 4 (0xD800 + n))

def Fault.message (f : Fault) : String :=
  "'utf-8' codec can't encode character" ++
    (if f.count ≤ 1 then " '" ++ escaped f.first ++ "' in position " ++ toString f.position
    else "s in position " ++ toString f.position ++ "-" ++ toString (f.position + f.count - 1))
    ++ ": surrogates not allowed"

/-- A text in which every surrogate is an escape. -/
def withEscapes (t : Text) : String :=
  String.ofList (t.flatMap fun
    | .char c => [c]
    | .surrogate n => (escaped n).toList)

end Text

end BindingIndex

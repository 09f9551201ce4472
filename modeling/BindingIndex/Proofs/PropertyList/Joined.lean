import BindingIndex.Proofs.PropertyList.RoundTrip

/-!
# Joined property lists

A property list is read line by line, and nothing passes from one line to the next: texts that are
joined by a line terminator are read as the names of the one and then those of the other, whatever
stands beside the seam. An empty text holds no name, so the terminators between two lines can be any
and as many as one likes (`names_append_break`), and texts with the same lines have the same names
(`names_of_sameLines`). `read_joined` says both of files.
-/

namespace BindingIndex.PropertyList

open Text

def terminators : List (List Char) :=
  [['\n'], ['\r'], ['\r', '\n'], ['\x0b'], ['\x0c'], ['\x1c'], ['\x1d'], ['\x1e'], ['\u0085'],
    ['\u2028'], ['\u2029']]

theorem isTerminator_of_mem {s : List Char} (h : s ∈ terminators) : IsTerminator s := by
  have hall : ∀ s ∈ terminators, s = ['\r', '\n'] ∨ s.length = 1 ∧ s.all isLineBoundary = true := by
    decide
  rcases hall s h with hcrlf | ⟨hone, hboundary⟩
  · exact .inl hcrlf
  · obtain ⟨c, rfl⟩ := List.length_eq_one_iff.1 hone
    exact .inr ⟨c, by simpa using hboundary, rfl⟩

/-- One or more terminators in a row. -/
inductive IsBreak : List Char → Prop
  | one {s : List Char} : s ∈ terminators → IsBreak s
  | more {s rest : List Char} : s ∈ terminators → IsBreak rest → IsBreak (s ++ rest)

theorem names_append_break {s : List Char} (hs : IsBreak s) (a b : List Char) :
    names (a ++ s ++ b) = names a ++ names b := by
  induction hs generalizing a with
  | one h => exact names_append_terminator (isTerminator_of_mem h) a b
  | @more s rest h _ ih =>
    have hempty : names [] = [] := rfl
    have hrest := ih []
    rw [List.nil_append, hempty, List.nil_append] at hrest
    rw [List.append_assoc, List.append_assoc, ← List.append_assoc,
      names_append_terminator (isTerminator_of_mem h), hrest]

/-- The texts have the same lines, but for what separates them: terminators are replaced by others,
doubled or left out of a row of several. -/
inductive SameLines : List Char → List Char → Prop
  | last (text : List Char) : SameLines text text
  | line {text s s' rest rest' : List Char} : IsBreak s → IsBreak s' → SameLines rest rest' →
      SameLines (text ++ s ++ rest) (text ++ s' ++ rest')

theorem names_of_sameLines {text text' : List Char} (h : SameLines text text') :
    names text = names text' := by
  induction h with
  | last _ => rfl
  | line hs hs' _ ih => rw [names_append_break hs, names_append_break hs', ih]

/-! ## Files -/

def Holds (t : FileTree) (path : Path) (text : List Char) : Prop :=
  t.read path = .ok (Utf8.encodeChars text)

theorem read_of_holds {t : FileTree} {path : Path} {text : List Char} (h : Holds t path text) :
    read t path = .ok (names text) := read_of_writes h (writes_names text)

/-- **Property lists concatenate.** A file that holds a text, a line terminator and another text is
read as the names of the first and then those of the second; and files whose texts differ only in
what separates their lines are read alike. -/
theorem read_joined :
    (∀ (a b s : List Char), s ∈ terminators →
      ∀ (t t₁ t₂ : FileTree) (path path₁ path₂ : Path), Holds t path (a ++ s ++ b) →
        Holds t₁ path₁ a → Holds t₂ path₂ b →
        ∃ ns ms, read t₁ path₁ = .ok ns ∧ read t₂ path₂ = .ok ms ∧ read t path = .ok (ns ++ ms)) ∧
    ∀ (text text' : List Char), SameLines text text' →
      ∀ (t t' : FileTree) (path path' : Path), Holds t path text → Holds t' path' text' →
        ∃ ns, read t path = .ok ns ∧ read t' path' = .ok ns := by
  constructor
  · intro a b s hs t t₁ t₂ path path₁ path₂ h ha hb
    refine ⟨names a, names b, read_of_holds ha, read_of_holds hb, ?_⟩
    rw [read_of_holds h, names_append_terminator (isTerminator_of_mem hs)]
  · intro text text' hlines t t' path path' h h'
    refine ⟨names text, read_of_holds h, ?_⟩
    rw [read_of_holds h', names_of_sameLines hlines]

/-- A carriage return stands before the line feed that joins, and another line feed after it. -/
theorem read_joined_seam :
    ['\n'] ∈ terminators ∧
    SameLines ['a', '\r', '\n', 'b'] ['a', '\u2028', '\n', 'b'] ∧
    (∃ ns ms,
      read (shelved (Utf8.encodeChars ['a', '\r'])) ⟨.relative, ["list"]⟩ = .ok ns ∧
      read (shelved (Utf8.encodeChars ['\n', ' ', '#', '\r', 'b'])) ⟨.relative, ["list"]⟩ = .ok ms ∧
      read (shelved (Utf8.encodeChars (['a', '\r'] ++ ['\n'] ++ ['\n', ' ', '#', '\r', 'b'])))
        ⟨.relative, ["list"]⟩ = .ok (ns ++ ms)) ∧
    ∃ ns,
      read (shelved (Utf8.encodeChars ['a', '\r', '\n', 'b'])) ⟨.relative, ["list"]⟩ = .ok ns ∧
      read (shelved (Utf8.encodeChars ['a', '\u2028', '\n', 'b'])) ⟨.relative, ["list"]⟩ =
        .ok ns := by
  have hlf : ['\n'] ∈ terminators := by decide
  have hcrlf : IsBreak ['\r', '\n'] := .one (by decide)
  have htwo : IsBreak (['\u2028'] ++ ['\n']) := .more (by decide) (.one hlf)
  have hlines : SameLines (['a'] ++ ['\r', '\n'] ++ ['b'])
      (['a'] ++ (['\u2028'] ++ ['\n']) ++ ['b']) := .line hcrlf htwo (.last ['b'])
  have hlist : ∀ text, Holds (shelved (Utf8.encodeChars text)) ⟨.relative, ["list"]⟩ text :=
    fun _ => read_shelved _
  exact ⟨hlf, hlines, read_joined.1 _ _ _ hlf _ _ _ _ _ _ (hlist _) (hlist _) (hlist _),
    read_joined.2 _ _ hlines _ _ _ _ (hlist _) (hlist _)⟩

end BindingIndex.PropertyList

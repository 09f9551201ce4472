import BindingIndex.Proofs.FileTree.Walk
import BindingIndex.Proofs.Text.Splitting
import BindingIndex.PropertyList

/-!
# Property lists as they are written

`Writes text ns`: the text writes the names `ns` in order, each on a line of its own with any white
space around it, between lines that are blank or hold a comment, whatever ends the lines.

* The two stages of reading are one: since both halves of CR LF end a line and an empty line holds
  no name, uniting newlines first changes nothing (`names_eq_filterMap_pieces`).
* So names of texts that are joined by a line terminator are joined (`names_append_terminator`).
* `names_of_writes`: a text that writes names is read back to them, and so are the bytes of a file
  that holds it (`read_of_writes`).
-/

namespace BindingIndex

namespace Text

/-- What ends a line: one boundary character, or CR LF. -/
def IsTerminator (s : List Char) : Prop := s = ['\r', '\n'] ∨ ∃ c, isLineBoundary c = true ∧ s = [c]

/-! ## Trimming -/

theorem trimLeft_append {ws s : List Char} (h : ∀ c ∈ ws, isBlank c = true) :
    trimLeft (ws ++ s) = trimLeft s :=
  List.dropWhile_append_of_pos h

theorem trimLeft_of_head {s : List Char} (h : ∀ c, s.head? = some c → isBlank c = false) :
    trimLeft s = s := by
  cases s with
  | nil => rfl
  | cons c s => exact List.dropWhile_cons_of_neg (by simp [h c rfl])

theorem trimRight_append {ws s : List Char} (h : ∀ c ∈ ws, isBlank c = true) :
    trimRight (s ++ ws) = trimRight s := by
  rw [trimRight, List.reverse_append, trimLeft_append fun c hc => h c (List.mem_reverse.1 hc)]
  rfl

theorem trimRight_of_getLast {s : List Char} (h : ∀ c, s.getLast? = some c → isBlank c = false) :
    trimRight s = s := by
  rw [trimRight, trimLeft_of_head, List.reverse_reverse]
  rwa [List.head?_reverse]

theorem trim_surrounded {before s after : List Char} (hb : ∀ c ∈ before, isBlank c = true)
    (ha : ∀ c ∈ after, isBlank c = true) (hne : s ≠ [])
    (hfirst : ∀ c, s.head? = some c → isBlank c = false)
    (hlast : ∀ c, s.getLast? = some c → isBlank c = false) :
    trim (before ++ s ++ after) = s := by
  rw [trim, List.append_assoc, trimLeft_append hb, trimLeft_of_head, trimRight_append ha,
    trimRight_of_getLast hlast]
  intro c hc
  obtain ⟨d, s', rfl⟩ := List.exists_cons_of_ne_nil hne
  exact hfirst c hc

theorem trimRight_cons {c : Char} (hc : isBlank c = false) (s : List Char) :
    ∃ s', trimRight (c :: s) = c :: s' := by
  have hsingle : [c].dropWhile isBlank = [c] := List.dropWhile_cons_of_neg (by simp [hc])
  rw [trimRight, trimLeft, List.reverse_cons, List.dropWhile_append, hsingle]
  split
  · exact ⟨[], rfl⟩
  · exact ⟨(s.reverse.dropWhile isBlank).reverse, by rw [List.reverse_append]; rfl⟩

theorem trim_blank {s : List Char} (h : ∀ c ∈ s, isBlank c = true) : trim s = [] := by
  have hl : trimLeft s = [] := by
    have := trimLeft_append (s := []) h
    rwa [List.append_nil] at this
  rw [trim, hl]
  rfl

end Text

namespace PropertyList

open Text

/-! ## One line after another -/

theorem name?_nil : name? [] = none := rfl

theorem pieces_cons_of_true {c : Char} (hc : isLineBoundary c = true) (s : List Char) :
    pieces (c :: s) = [] :: pieces s := by
  rw [pieces, List.splitOnP_cons_eq_if_modifyHead, if_pos hc, pieces]

theorem pieces_cons_of_false {c : Char} (hc : isLineBoundary c = false) {s piece : List Char}
    {more : List (List Char)} (h : pieces s = piece :: more) :
    pieces (c :: s) = (c :: piece) :: more := by
  rw [pieces] at h
  rw [pieces, List.splitOnP_cons_eq_if_modifyHead, if_neg (Bool.eq_false_iff.1 hc), h,
    List.modifyHead_cons]

/-- Uniting newlines keeps the first piece and only leaves out empty ones. -/
theorem pieces_unifyNewlines (s : List Char) :
    ∃ piece more more', pieces (unifyNewlines s) = piece :: more ∧ pieces s = piece :: more' ∧
      more.filterMap name? = more'.filterMap name? := by
  have hcr : isLineBoundary '\r' = true := by decide
  have hlf : isLineBoundary '\n' = true := by decide
  fun_induction unifyNewlines s with
  | case1 => exact ⟨[], [], [], rfl, rfl, rfl⟩
  | case2 rest ih =>
    obtain ⟨piece, more, more', h, h', hm⟩ := ih
    refine ⟨[], piece :: more, [] :: piece :: more', ?_, ?_, ?_⟩
    · rw [pieces_cons_of_true hlf, h]
    · rw [pieces_cons_of_true hcr, pieces_cons_of_true hlf, h']
    · simp only [List.filterMap_cons, name?_nil, hm]
  | case3 c rest _ ih =>
    obtain ⟨piece, more, more', h, h', hm⟩ := ih
    cases hc : isLineBoundary c with
    | true =>
      refine ⟨[], piece :: more, piece :: more', ?_, ?_, ?_⟩
      · have hb : isLineBoundary (if c = '\r' then '\n' else c) = true := by
          split
          · exact hlf
          · exact hc
        rw [pieces_cons_of_true hb, h]
      · rw [pieces_cons_of_true hc, h']
      · simp only [List.filterMap_cons, hm]
    | false =>
      have hne : c ≠ '\r' := by
        rintro rfl
        rw [hcr] at hc
        cases hc
      rw [if_neg hne]
      exact ⟨c :: piece, more, more', pieces_cons_of_false hc h, pieces_cons_of_false hc h', hm⟩

/-- **One stage of reading** is enough. -/
theorem names_eq_filterMap_pieces (s : List Char) : names s = (pieces s).filterMap name? := by
  obtain ⟨piece, more, more', h, h', hm⟩ := pieces_unifyNewlines s
  rw [names, h, h', List.filterMap_cons, List.filterMap_cons, hm]

theorem names_append_boundary {c : Char} (hc : isLineBoundary c = true) (a b : List Char) :
    names (a ++ c :: b) = names a ++ names b := by
  simp only [names_eq_filterMap_pieces, pieces, List.splitOnP_append_cons _ _ hc,
    List.filterMap_append]

/-- **Texts joined by a line terminator** have the names of the one and then those of the other. -/
theorem names_append_terminator {s : List Char} (hs : IsTerminator s) (a b : List Char) :
    names (a ++ s ++ b) = names a ++ names b := by
  rcases hs with rfl | ⟨c, hc, rfl⟩
  · have hempty : names ([] ++ '\n' :: b) = names [] ++ names b :=
      names_append_boundary (by decide) [] b
    rw [List.append_assoc, List.cons_append, names_append_boundary (by decide)]
    exact congrArg _ hempty
  · rw [List.append_assoc, List.singleton_append, names_append_boundary hc]

theorem names_line {line : List Char} (h : ∀ c ∈ line, isLineBoundary c = false) :
    names line = (name? line).toList := by
  rw [names_eq_filterMap_pieces, pieces, List.splitOnP_eq_singleton h]
  cases hn : name? line <;> simp [hn]

/-! ## Written lists -/

/-- What a property list can hold as a name. -/
structure IsName (name : String) : Prop where
  ne_empty : name ≠ ""
  no_boundary : ∀ c ∈ name.toList, isLineBoundary c = false
  first : ∀ c, name.toList.head? = some c → isBlank c = false ∧ c ≠ '#'
  last : ∀ c, name.toList.getLast? = some c → isBlank c = false

/-- Is the character one that a name may hold anywhere? -/
def isSolid (c : Char) : Bool := !isBlank c && !isLineBoundary c && c ≠ '#'

theorem isName_of_solid {name : String} (hne : name ≠ "") (h : name.toList.all isSolid = true) :
    IsName name := by
  have hall : ∀ c ∈ name.toList, (isBlank c = false ∧ isLineBoundary c = false) ∧ c ≠ '#' := by
    intro c hc
    simpa [isSolid] using List.all_eq_true.1 h c hc
  exact ⟨hne, fun c hc => (hall c hc).1.2,
    fun c hc => ⟨(hall c (List.mem_of_mem_head? hc)).1.1, (hall c (List.mem_of_mem_head? hc)).2⟩,
    fun c hc => (hall c (List.mem_of_getLast? hc)).1.1⟩

/-- White space within a line. -/
def IsMargin (s : List Char) : Prop := ∀ c ∈ s, isBlank c = true ∧ isLineBoundary c = false

instance (s : List Char) : Decidable (IsMargin s) := List.decidableBAll _ s

/-- A line that writes a name or none. -/
inductive WritesLine : List Char → List String → Prop
  | name {before after : List Char} {n : String} : IsMargin before → IsMargin after → IsName n →
      WritesLine (before ++ n.toList ++ after) [n]
  | blank {margin : List Char} : IsMargin margin → WritesLine margin []
  | comment {margin text : List Char} : IsMargin margin →
      (∀ c ∈ text, isLineBoundary c = false) → WritesLine (margin ++ '#' :: text) []

/-- A text that writes names, line by line; the last line may lack its terminator. -/
inductive Writes : List Char → List String → Prop
  | last {line : List Char} {ns : List String} : WritesLine line ns → Writes line ns
  | line {line terminator rest : List Char} {ns more : List String} : WritesLine line ns →
      IsTerminator terminator → Writes rest more → Writes (line ++ terminator ++ rest) (ns ++ more)

theorem no_boundary_of_writesLine {line : List Char} {ns : List String} (h : WritesLine line ns) :
    ∀ c ∈ line, isLineBoundary c = false := by
  intro c hc
  cases h with
  | name hb ha hn =>
    rcases List.mem_append.1 hc with hc | hc
    · rcases List.mem_append.1 hc with hc | hc
      · exact (hb c hc).2
      · exact hn.no_boundary c hc
    · exact (ha c hc).2
  | blank hm => exact (hm c hc).2
  | comment hm ht =>
    rcases List.mem_append.1 hc with hc | hc
    · exact (hm c hc).2
    · rcases List.mem_cons.1 hc with rfl | hc
      · decide
      · exact ht c hc

theorem name?_of_writesLine {line : List Char} {ns : List String} (h : WritesLine line ns) :
    (name? line).toList = ns := by
  cases h with
  | @name before after n hb ha hn =>
    have hne : n.toList ≠ [] := fun h => hn.ne_empty (String.toList_eq_nil_iff.1 h)
    obtain ⟨c, cs, hcs⟩ := List.exists_cons_of_ne_nil hne
    have hhash : c ≠ '#' := (hn.first c (by rw [hcs]; rfl)).2
    rw [name?, trim_surrounded (fun c hc => (hb c hc).1) (fun c hc => (ha c hc).1) hne
      (fun c hc => (hn.first c hc).1) hn.last, hcs]
    split
    · simp_all
    · simp_all
    · rw [← hcs, String.ofList_toList]
      rfl
  | blank hm =>
    rw [name?, trim_blank fun c hc => (hm c hc).1]
    rfl
  | @comment margin text hm ht =>
    have hhash : isBlank '#' = false := by decide
    obtain ⟨s', hs'⟩ := trimRight_cons hhash text
    have htrim : trim (margin ++ '#' :: text) = '#' :: s' := by
      rw [trim, trimLeft_append fun c hc => (hm c hc).1, trimLeft_of_head, hs']
      intro c hc
      cases hc
      exact hhash
    rw [name?, htrim]
    rfl

/-- **Written names are read.** -/
theorem names_of_writes {text : List Char} {ns : List String} (h : Writes text ns) :
    names text = ns := by
  induction h with
  | last hl => rw [names_line (no_boundary_of_writesLine hl), name?_of_writesLine hl]
  | line hl ht _ ih =>
    rw [names_append_terminator ht, names_line (no_boundary_of_writesLine hl),
      name?_of_writesLine hl, ih]

theorem read_of_writes {t : FileTree} {path : Path} {text : List Char} {ns : List String}
    (hread : t.read path = .ok (Utf8.encodeChars text)) (h : Writes text ns) :
    read t path = .ok ns := by
  rw [read, FileTree.exists?_of_read hread]
  dsimp only
  rw [hread]
  dsimp only
  rw [Utf8.decode_encodeChars]
  dsimp only
  rw [names_of_writes h]

end PropertyList

end BindingIndex

import BindingIndex.Proofs.PropertyList.Written
import BindingIndex.Proofs.Text.Decoding

/-!
# What property lists can hold

Every text writes exactly the names that are read from it (`writes_names`): a line without a
boundary is white space, what trimming leaves, and white space (`exists_trim`), and what is left is
nothing, a comment or a name (`writesLine_name?`). So reading accepts a file if and only if it is
the bytes of a text, and gives a list if and only if that text writes it (`read_eq_ok_iff`); and the
lists that can be read are those of names (`read_round_trip`).
-/

namespace BindingIndex

namespace Text

/-! ## What trimming leaves out -/

theorem exists_trimLeft (s : List Char) :
    ∃ before, (∀ c ∈ before, isBlank c = true) ∧ s = before ++ trimLeft s :=
  ⟨s.takeWhile isBlank, fun c hc => List.all_eq_true.1 List.all_takeWhile c hc,
    List.takeWhile_append_dropWhile.symm⟩

theorem isBlank_head_trimLeft {s : List Char} {c : Char} (h : (trimLeft s).head? = some c) :
    isBlank c = false := by
  have hhead := List.head?_dropWhile_not isBlank s
  rw [trimLeft] at h
  rw [h] at hhead
  exact hhead

theorem exists_trimRight (s : List Char) :
    ∃ after, (∀ c ∈ after, isBlank c = true) ∧ s = trimRight s ++ after := by
  obtain ⟨before, hblank, hs⟩ := exists_trimLeft s.reverse
  refine ⟨before.reverse, fun c hc => hblank c (List.mem_reverse.1 hc), ?_⟩
  have hrev := congrArg List.reverse hs
  rwa [List.reverse_reverse, List.reverse_append] at hrev

theorem isBlank_getLast_trimRight {s : List Char} {c : Char}
    (h : (trimRight s).getLast? = some c) : isBlank c = false := by
  rw [trimRight, List.getLast?_reverse] at h
  exact isBlank_head_trimLeft h

theorem exists_trim (s : List Char) :
    ∃ before after, (∀ c ∈ before, isBlank c = true) ∧ (∀ c ∈ after, isBlank c = true) ∧
      s = before ++ trim s ++ after ∧ (∀ c, (trim s).head? = some c → isBlank c = false) ∧
      ∀ c, (trim s).getLast? = some c → isBlank c = false := by
  obtain ⟨before, hbefore, hs⟩ := exists_trimLeft s
  obtain ⟨after, hafter, ht⟩ := exists_trimRight (trimLeft s)
  refine ⟨before, after, hbefore, hafter, ?_, fun c hc => ?_, fun c hc => ?_⟩
  · rw [List.append_assoc, trim, ← ht]
    exact hs
  · -- stripping on the right keeps the first character, if it leaves any
    refine isBlank_head_trimLeft (s := s) ?_
    rw [trim] at hc
    rw [ht, List.head?_append, hc]
    rfl
  · exact isBlank_getLast_trimRight hc

end Text

namespace PropertyList

open Text

/-! ## Every text writes its names -/

theorem writesLine_name? {line : List Char} (h : ∀ c ∈ line, isLineBoundary c = false) :
    WritesLine line (name? line).toList := by
  obtain ⟨before, after, hbefore, hafter, hline, hfirst, hlast⟩ := exists_trim line
  have hmem : ∀ c, c ∈ line ↔ (c ∈ before ∨ c ∈ trim line) ∨ c ∈ after := by
    intro c
    have hc : c ∈ line ↔ c ∈ before ++ trim line ++ after := by rw [← hline]
    rw [hc, List.mem_append, List.mem_append]
  have hb : IsMargin before := fun c hc => ⟨hbefore c hc, h c ((hmem c).2 (.inl (.inl hc)))⟩
  have ha : IsMargin after := fun c hc => ⟨hafter c hc, h c ((hmem c).2 (.inr hc))⟩
  have ht : ∀ c ∈ trim line, isLineBoundary c = false := fun c hc =>
    h c ((hmem c).2 (.inl (.inr hc)))
  rw [name?]
  split
  · rename_i hempty
    rw [hempty, List.append_nil] at hline
    rw [hline]
    refine .blank fun c hc => ?_
    rcases List.mem_append.1 hc with hc | hc
    · exact hb c hc
    · exact ha c hc
  · rename_i more hcomment
    rw [hcomment, List.append_assoc, List.cons_append] at hline
    rw [hline]
    refine .comment hb fun c hc => ?_
    rcases List.mem_append.1 hc with hc | hc
    · exact ht c (hcomment ▸ List.mem_cons_of_mem _ hc)
    · exact (ha c hc).2
  · rename_i hempty hcomment
    have hname : IsName (String.ofList (trim line)) := by
      refine ⟨fun he => ?_, ?_, ?_, ?_⟩
      · exact hempty (String.ofList_eq_empty_iff.1 he)
      · rwa [String.toList_ofList]
      · rw [String.toList_ofList]
        intro c hc
        refine ⟨hfirst c hc, ?_⟩
        rintro rfl
        obtain ⟨more, hmore⟩ := List.head?_eq_some_iff.1 hc
        exact hcomment more hmore
      · rwa [String.toList_ofList]
    have hw := WritesLine.name hb ha hname
    rw [String.toList_ofList, ← hline] at hw
    exact hw

/-- A text is one line, or a line and what follows the boundary at its end. -/
theorem line_or_split (s : List Char) :
    (∀ c ∈ s, isLineBoundary c = false) ∨ ∃ line c rest, s = line ++ c :: rest ∧
      (∀ d ∈ line, isLineBoundary d = false) ∧ isLineBoundary c = true := by
  induction s with
  | nil => exact .inl fun c hc => by cases hc
  | cons a s ih =>
    cases ha : isLineBoundary a with
    | true => exact .inr ⟨[], a, s, rfl, fun d hd => (by cases hd), ha⟩
    | false =>
      rcases ih with hline | ⟨line, c, rest, rfl, hline, hc⟩
      · exact .inl (List.forall_mem_cons.2 ⟨ha, hline⟩)
      · exact .inr ⟨a :: line, c, rest, rfl, List.forall_mem_cons.2 ⟨ha, hline⟩, hc⟩

/-- **Every text writes its names.** -/
theorem writes_names (s : List Char) : Writes s (names s) := by
  rcases line_or_split s with hline | ⟨line, c, rest, hs, hline, hc⟩
  · rw [names_line hline]
    exact .last (writesLine_name? hline)
  · -- what follows the first boundary is shorter and writes its names
    have hrest := writes_names rest
    have hlines := Writes.line (writesLine_name? hline) (.inr ⟨c, hc, rfl⟩) hrest
    rw [hs, names_append_boundary hc, names_line hline]
    rwa [List.append_assoc, List.singleton_append] at hlines
termination_by s.length
decreasing_by
  rw [hs, List.length_append, List.length_cons]
  omega

theorem names_eq_iff {s : List Char} {ns : List String} : names s = ns ↔ Writes s ns :=
  ⟨fun h => h ▸ writes_names s, names_of_writes⟩

/-! ## Names and nothing else -/

theorem isName_of_writesLine {line : List Char} {ns : List String} (h : WritesLine line ns) :
    ∀ n ∈ ns, IsName n := by
  cases h with
  | name _ _ hn => exact fun n hmem => List.mem_singleton.1 hmem ▸ hn
  | blank _ => exact fun n hmem => by cases hmem
  | comment _ _ => exact fun n hmem => by cases hmem

theorem isName_of_writes {s : List Char} {ns : List String} (h : Writes s ns) :
    ∀ n ∈ ns, IsName n := by
  induction h with
  | last hl => exact isName_of_writesLine hl
  | line hl _ _ ih =>
    intro n hn
    rcases List.mem_append.1 hn with hn | hn
    · exact isName_of_writesLine hl n hn
    · exact ih n hn

/-- A list one name per line. -/
def lines (ns : List String) : List Char := ns.flatMap fun n => n.toList ++ ['\n']

theorem writes_lines {ns : List String} (h : ∀ n ∈ ns, IsName n) : Writes (lines ns) ns := by
  have hnone : IsMargin [] := fun c hc => by cases hc
  have hlf : IsTerminator ['\n'] := .inr ⟨'\n', by decide, rfl⟩
  induction ns with
  | nil => exact .last (.blank hnone)
  | cons n ns ih =>
    have hrest := ih fun m hm => h m (.tail _ hm)
    have hn := Writes.line (.name hnone hnone (h n (.head _))) hlf hrest
    rwa [List.nil_append, List.append_nil] at hn

/-! ## Files -/

/-- **A file is read** as a list of names exactly if it is the bytes of a text that writes them. -/
theorem read_eq_ok_iff {t : FileTree} {path : Path} {ns : List String} :
    read t path = .ok ns ↔
      ∃ text, t.read path = .ok (Utf8.encodeChars text) ∧ Writes text ns := by
  constructor
  · intro h
    rw [read] at h
    split at h
    · cases h
    · cases h
    split at h
    · cases h
    rename_i bytes hread
    split at h
    · cases h
    rename_i text hdecode
    refine ⟨text, ?_, names_eq_iff.1 (Except.ok.inj h)⟩
    rw [hread, Utf8.decode_eq_ok_iff.1 hdecode]
  · rintro ⟨text, hread, hw⟩
    exact read_of_writes hread hw

def shelved (bytes : List UInt8) : FileTree := ⟨[], [(["list"], .file bytes)]⟩

theorem read_shelved (bytes : List UInt8) :
    (shelved bytes).read ⟨.relative, ["list"]⟩ = .ok bytes := by
  rw [FileTree.read_ok_iff, FileTree.lookup_ok_iff]
  refine ⟨by decide, ["list"], ?_, rfl⟩
  rw [FileTree.locate_ok_iff]
  exact ⟨by decide, rfl⟩

/-- **The format of property lists is exact.** The lists that can be read from a file are the lists
of names: not empty, without a line boundary, without white space around them and without a `#` in
front. And a file is read as such a list exactly if its bytes are those of a text that writes the
names in order, each on a line of its own, whatever ends the lines, with any white space around the
names and any lines between them that are blank or hold a comment. -/
theorem read_round_trip :
    (∀ ns : List String, (∃ (t : FileTree) (path : Path), read t path = .ok ns) ↔
      ∀ n ∈ ns, IsName n) ∧
    ∀ (t : FileTree) (path : Path) (ns : List String), read t path = .ok ns ↔
      ∃ text, t.read path = .ok (Utf8.encodeChars text) ∧ Writes text ns := by
  refine ⟨fun ns => ⟨?_, fun h => ?_⟩, fun t path ns => read_eq_ok_iff⟩
  · rintro ⟨t, path, h⟩
    obtain ⟨text, -, hw⟩ := read_eq_ok_iff.1 h
    exact isName_of_writes hw
  · exact ⟨shelved _, _, read_of_writes (read_shelved _) (writes_lines h)⟩

end PropertyList

end BindingIndex

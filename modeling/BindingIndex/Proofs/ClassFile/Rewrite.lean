import BindingIndex.ClassFile
import BindingIndex.Proofs.ClassText.Rendered
import BindingIndex.Proofs.FileTree.Walk

/-!
# Writing a class file again

A write that succeeds leaves the bytes of its source at the target (`read_of_write_ok`), and a write
to a target that can be read succeeds, and changes something if and only if other bytes are there
(`write_of_read`). Since names determine a table, a table and its settings a source (`of_render_eq`,
`render_congr`) and a source its bytes, a second write leaves the file alone exactly if it is asked
for the same class: `write_again_unchanged_iff`.
-/

namespace BindingIndex

namespace ClassText

variable {names names' : List Text} {g g' : Generation} {source source' : Text}

theorem readSource_render (h : ∀ n ∈ names, Declarable n) (hs : render names g = .ok source) :
    readSource source = ((IndexTable.ofNames names : List (Entry Text Index)), g) := by
  obtain ⟨-, rfl⟩ := of_render_eq_ok hs
  exact readSource_sourceText g fun e he => (h _ (mem_declared_iff.1 ⟨e, he, rfl⟩)).1

theorem isUnicode_of_render (hs : render names g = .ok source) (hu : source.IsUnicode) :
    ∀ n ∈ names, n.IsUnicode := by
  obtain ⟨-, rfl⟩ := of_render_eq_ok hs
  intro n hn
  obtain ⟨e, he, rfl⟩ := mem_declared_iff.2 hn
  exact (isUnicode_sourceText_iff.1 hu).2 e he

theorem isUnicode_render (hp : g.packageName.IsUnicode) (hn : ∀ n ∈ names, n.IsUnicode)
    (hs : render names g = .ok source) : source.IsUnicode := by
  obtain ⟨-, rfl⟩ := of_render_eq_ok hs
  exact isUnicode_sourceText_iff.2 ⟨hp, fun e he => hn _ (mem_declared_iff.1 ⟨e, he, rfl⟩)⟩

theorem exists_render_eq_ok (g : Generation) (h : ∀ n ∈ names, Declarable n)
    (hl : names.length < Text.firstTooLong) : ∃ source, render names g = .ok source :=
  ⟨_, render_eq_sourceText (Nat.lt_of_le_of_lt (length_ofNames_le names) hl) g
    fun hr => (h _ hr).2 rfl⟩

theorem render_congr (hs : render names g = .ok source) (hu : source.IsUnicode)
    (hn : ∀ n, n ∈ names ↔ n ∈ names') : render names' g = .ok source := by
  have hk := IndexTable.keysApart_of_isUnicode (isUnicode_of_render hs hu)
  have htab : IndexTable.ofNames names = IndexTable.ofNames names' :=
    (IndexTable.assign_eq_iff hk).2 hn
  rw [render, ← htab, ← render, hs]

/-- **Sources are equal** for equal sets of names and equal settings only. -/
theorem of_render_eq (h : ∀ n ∈ names, Declarable n) (h' : ∀ n ∈ names', Declarable n)
    (hs : render names g = .ok source) (hs' : render names' g' = .ok source) :
    (∀ n, n ∈ names ↔ n ∈ names') ∧ g = g' := by
  have hread := (readSource_render h hs).symm.trans (readSource_render h' hs')
  obtain ⟨htab, hg⟩ := Prod.mk.inj hread
  refine ⟨fun n => ?_, hg⟩
  rw [← mem_declared_iff, ← mem_declared_iff, htab]

end ClassText

namespace ClassFile

variable {t t' : FileTree} {outputDir : Path} {packageName source : Text} {bytes : List UInt8}

theorem target_names (outputDir : Path) (packageName : Text) :
    ∃ (init : List Text) (name : Text),
      (target outputDir packageName).names = init ++ [name] ∧ name ≠ ".." :=
  ⟨_, _, rfl, by decide⟩

theorem isCurrent_of_read {path : Path} {old : List UInt8} (h : t.read path = .ok old)
    (hs : Text.Utf8.encodeText source = .ok bytes) :
    isCurrent t path source = .ok (old = bytes) := by
  rw [isCurrent, FileTree.exists?_of_read h]
  dsimp only
  rw [h]
  dsimp only
  rw [hs]

theorem isCurrent_eq_true_iff {path : Path} :
    isCurrent t path source = .ok true ↔
      ∃ bytes, Text.Utf8.encodeText source = .ok bytes ∧ t.read path = .ok bytes := by
  constructor
  · intro h
    rw [isCurrent] at h
    split at h
    · cases h
    · cases h
    split at h
    · cases h
    rename_i old hread
    split at h
    · cases h
    rename_i bytes hs
    exact ⟨bytes, hs, by rw [hread, of_decide_eq_true (Except.ok.inj h)]⟩
  · rintro ⟨bytes, hs, hread⟩
    rw [isCurrent_of_read hread hs, decide_eq_true rfl]

theorem writeText_ok_iff {p : Path} :
    t.writeText p source = (t', .ok ()) ↔
      ∃ bytes, Text.Utf8.encodeText source = .ok bytes ∧ t.write p bytes = .ok t' := by
  rw [FileTree.writeText]
  cases Text.Utf8.encodeText source with
  | error f => cases t.write p [] <;> simp
  | ok bytes => cases hw : t.write p bytes <;> simp [hw]

theorem read_of_write_ok {w : Written}
    (h : write t outputDir packageName source = (t', .ok w)) :
    w.path = target outputDir packageName ∧
      ∃ bytes, Text.Utf8.encodeText source = .ok bytes ∧
        t'.read (target outputDir packageName) = .ok bytes := by
  rw [write] at h
  split at h
  · simp at h
  · -- the file was current
    rename_i hcur
    obtain ⟨rfl, hw⟩ := Prod.mk.inj h
    cases hw
    exact ⟨rfl, isCurrent_eq_true_iff.1 hcur⟩
  · split at h
    · simp at h
    · split at h
      · simp at h
      · rename_i hwrite
        obtain ⟨rfl, hw⟩ := Prod.mk.inj h
        cases hw
        obtain ⟨bytes, hs, hput⟩ := writeText_ok_iff.1 hwrite
        exact ⟨rfl, bytes, hs, FileTree.read_of_write hput⟩

theorem write_of_read {old : List UInt8}
    (h : t.read (target outputDir packageName) = .ok old)
    (hs : Text.Utf8.encodeText source = .ok bytes) :
    (old = bytes →
      write t outputDir packageName source = (t, .ok ⟨target outputDir packageName, false⟩)) ∧
    (old ≠ bytes → ∃ t',
      write t outputDir packageName source = (t', .ok ⟨target outputDir packageName, true⟩)) := by
  have hcur : isCurrent t (target outputDir packageName) source = .ok (old = bytes) :=
    isCurrent_of_read h hs
  constructor
  · intro he
    rw [decide_eq_true he] at hcur
    rw [write, hcur]
  · intro hne
    rw [decide_eq_false hne] at hcur
    obtain ⟨hp, hlook⟩ := FileTree.read_ok_iff.1 h
    obtain ⟨loc, hloc, -⟩ := FileTree.lookup_ok_iff.1 hlook
    have hparent := FileTree.lookup_parent hloc (List.append_ne_nil_of_right_ne_nil _ (by simp))
    obtain ⟨t', hwrite⟩ := FileTree.write_of_read bytes h (target_names outputDir packageName)
    refine ⟨t', ?_⟩
    rw [write, hcur]
    dsimp only
    rw [FileTree.makeDirs_of_dir hp.parent hparent]
    dsimp only
    rw [writeText_ok_iff.2 ⟨bytes, hs, hwrite⟩]

theorem exists_write_of_read {old : List UInt8}
    (h : t.read (target outputDir packageName) = .ok old)
    (hs : Text.Utf8.encodeText source = .ok bytes) :
    ∃ t' w, write t outputDir packageName source = (t', .ok w) := by
  obtain ⟨hkept, hother⟩ := write_of_read h hs
  by_cases he : old = bytes
  · exact ⟨t, _, hkept he⟩
  · obtain ⟨t', ht'⟩ := hother he
    exact ⟨t', _, ht'⟩

theorem of_write_unchanged {old : List UInt8} {w : Written}
    (h : t.read (target outputDir packageName) = .ok old)
    (hw : write t outputDir packageName source = (t', .ok w)) (hf : w.changed = false) :
    Text.Utf8.encodeText source = .ok old ∧ t' = t := by
  obtain ⟨-, bytes, hs, -⟩ := read_of_write_ok hw
  obtain ⟨hkept, hother⟩ := write_of_read h hs
  by_cases he : old = bytes
  · rw [hkept he] at hw
    exact ⟨he ▸ hs, (Prod.mk.inj hw).1.symm⟩
  · obtain ⟨t₂, ht₂⟩ := hother he
    rw [ht₂] at hw
    cases hw
    cases hf

/-! ## Names to file -/

/-- The names are rendered, and the file of their class is brought up to date. -/
def Renders (t : FileTree) (outputDir : Path) (names : List Text) (g : Generation)
    (t' : FileTree) (w : Written) : Prop :=
  ∃ source, ClassText.render names g = .ok source ∧
    write t outputDir g.packageName source = (t', .ok w)

/-- **A second write** changes the file exactly if it is asked for another class. For two packages
with one target, two sets of names that can be declared and two finalities: once the first class is
written, the second one is written, and found current, if and only if the packages, the sets and
the finalities are the same. The tree is then left as it was. Names have a source unless they are so
many that an index has too many digits, and the second class is written if it has one and no
surrogate is in it. -/
theorem write_again_unchanged_iff {outputDir : Path} {package₁ package₂ : Text}
    {names₁ names₂ : List Text} (final₁ final₂ : Bool)
    (htarget : target outputDir package₁ = target outputDir package₂)
    (h₁ : ∀ n ∈ names₁, ClassText.Declarable n) (h₂ : ∀ n ∈ names₂, ClassText.Declarable n) :
    (names₁.length < Text.firstTooLong →
      ∃ source₁, ClassText.render names₁ ⟨package₁, final₁⟩ = .ok source₁) ∧
    (names₂.length < Text.firstTooLong →
      ∃ source₂, ClassText.render names₂ ⟨package₂, final₂⟩ = .ok source₂) ∧
    ∀ (t t₁ : FileTree) (w₁ : Written),
      Renders t outputDir names₁ ⟨package₁, final₁⟩ t₁ w₁ →
      ((∃ t₂ w₂, Renders t₁ outputDir names₂ ⟨package₂, final₂⟩ t₂ w₂ ∧ w₂.changed = false) ↔
        package₁ = package₂ ∧ (∀ n, n ∈ names₁ ↔ n ∈ names₂) ∧ final₁ = final₂) ∧
      (∀ t₂ w₂, Renders t₁ outputDir names₂ ⟨package₂, final₂⟩ t₂ w₂ → w₂.changed = false →
        t₂ = t₁) ∧
      (names₂.length < Text.firstTooLong → package₂.IsUnicode → (∀ n ∈ names₂, n.IsUnicode) →
        ∃ t₂ w₂, Renders t₁ outputDir names₂ ⟨package₂, final₂⟩ t₂ w₂) := by
  refine ⟨ClassText.exists_render_eq_ok _ h₁, ClassText.exists_render_eq_ok _ h₂,
    fun t t₁ w₁ ⟨source₁, hs₁, hw₁⟩ => ?_⟩
  obtain ⟨-, bytes, hb, hread⟩ := read_of_write_ok hw₁
  rw [htarget] at hread
  refine ⟨⟨?_, ?_⟩, ?_, fun hl₂ hp hn => ?_⟩
  · rintro ⟨t₂, w₂, ⟨source₂, hs₂, hw₂⟩, hf⟩
    have hb₂ := (of_write_unchanged hread hw₂ hf).1
    obtain rfl := Text.Utf8.encodeText_injective hb hb₂
    obtain ⟨hnames, hg⟩ := ClassText.of_render_eq h₁ h₂ hs₁ hs₂
    exact ⟨congrArg Generation.packageName hg, hnames, congrArg Generation.useFinal hg⟩
  · rintro ⟨rfl, hnames, rfl⟩
    have hs₂ := ClassText.render_congr hs₁ (Text.Utf8.isUnicode_of_encodeText hb) hnames
    exact ⟨t₁, _, ⟨source₁, hs₂, (write_of_read hread hb).1 rfl⟩, rfl⟩
  · rintro t₂ w₂ ⟨source₂, hs₂, hw₂⟩ hf
    exact (of_write_unchanged hread hw₂ hf).2
  · obtain ⟨source₂, hs₂⟩ := ClassText.exists_render_eq_ok ⟨package₂, final₂⟩ h₂ hl₂
    obtain ⟨s, rfl⟩ := Text.isUnicode_iff_exists.1 (ClassText.isUnicode_render hp hn hs₂)
    obtain ⟨t₂, w₂, hw₂⟩ := exists_write_of_read hread (Text.Utf8.encodeText_ofString s)
    exact ⟨t₂, w₂, s, hs₂, hw₂⟩

/-- Two packages of one target: the second write is for another package, though the file has the
same constants. -/
theorem write_again_unchanged_iff_empty_segment :
    (target ⟨.relative, ["out"]⟩ "a.b" = target ⟨.relative, ["out"]⟩ "a..b") ∧
    (∀ n ∈ (["y", "x"] : List Text), ClassText.Declarable n) ∧
    (∀ n ∈ (["x", "y", "x"] : List Text), ClassText.Declarable n) ∧ 3 < Text.firstTooLong ∧
    (∃ source₁, ClassText.render ["y", "x"] ⟨"a.b", true⟩ = .ok source₁) ∧
    ∀ (t t₁ : FileTree) (w₁ : Written),
      Renders t ⟨.relative, ["out"]⟩ ["y", "x"] ⟨"a.b", true⟩ t₁ w₁ →
      ((∃ t₂ w₂, Renders t₁ ⟨.relative, ["out"]⟩ ["x", "y", "x"] ⟨"a..b", true⟩ t₂ w₂ ∧
          w₂.changed = false) ↔
        ("a.b" : Text) = "a..b" ∧
          (∀ n, n ∈ (["y", "x"] : List Text) ↔ n ∈ (["x", "y", "x"] : List Text)) ∧
          true = true) ∧
      ∃ t₂ w₂, Renders t₁ ⟨.relative, ["out"]⟩ ["x", "y", "x"] ⟨"a..b", true⟩ t₂ w₂ := by
  have htarget : target ⟨.relative, ["out"]⟩ "a.b" = target ⟨.relative, ["out"]⟩ "a..b" := by decide
  have h₁ : ∀ n ∈ (["y", "x"] : List Text), ClassText.Declarable n := by decide
  have h₂ : ∀ n ∈ (["x", "y", "x"] : List Text), ClassText.Declarable n := by decide
  have hl : 3 < Text.firstTooLong := by decide +kernel
  obtain ⟨hs₁, -, hagain⟩ := write_again_unchanged_iff true true htarget h₁ h₂
  refine ⟨htarget, h₁, h₂, hl, hs₁ (Nat.lt_of_succ_lt hl), fun t t₁ w₁ hw => ?_⟩
  obtain ⟨hiff, -, hrenders⟩ := hagain t t₁ w₁ hw
  exact ⟨hiff, hrenders hl (by decide) (by decide)⟩

end ClassFile

end BindingIndex

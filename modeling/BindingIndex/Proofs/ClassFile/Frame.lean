import BindingIndex.Proofs.ClassFile.Rewrite
import BindingIndex.Proofs.FileTree.Growth

/-!
# What a write leaves alone

A write ends in one of three ways (`write_cases`): the target holds the source already and nothing
is done; it fails, perhaps after some directories were made, and even after the file was opened if
the source has no bytes (`Leaves`); or directories are made and the file is put. `write_frame` says
for a source that is a string what is in the tree afterwards, at the target and anywhere else.
-/

namespace BindingIndex.ClassFile

open FileTree (AddsDirs PutsFile)

theorem exists?_of_isCurrent {t : FileTree} {path : Path} {source : Text} {f : Text.Fault}
    {current : Bool} (hs : Text.Utf8.encodeText source = .error f)
    (h : isCurrent t path source = .ok current) : t.exists? path = .ok false := by
  rw [isCurrent] at h
  split at h
  · cases h
  · assumption
  split at h
  · cases h
  · rw [hs] at h
    cases h

theorem parent_onTheWay (p : Path) : p.parent.OnTheWay p := ⟨rfl, List.dropLast_prefix _⟩

variable {t t' : FileTree} {outputDir : Path} {packageName source : Text}

/-- What a failed write leaves: directories on the way, or the target without its text, which has no
bytes. -/
def Leaves (outputDir : Path) (packageName source : Text) (t t' : FileTree) (e : FileError) :
    Prop :=
  AddsDirs (target outputDir packageName).parent t t' ∨
    ∃ f t₁, Text.Utf8.encodeText source = .error f ∧ e = .unencodable f ∧
      t.exists? (target outputDir packageName) = .ok false ∧
      AddsDirs (target outputDir packageName).parent t t₁ ∧
      t₁.write (target outputDir packageName) [] = .ok t'

theorem Leaves.addsDirs {e : FileError} {bytes : List UInt8}
    (h : Leaves outputDir packageName source t t' e)
    (hs : Text.Utf8.encodeText source = .ok bytes) :
    AddsDirs (target outputDir packageName).parent t t' := by
  rcases h with hdirs | ⟨f, t₁, hf, -⟩
  · exact hdirs
  · rw [hs] at hf
    cases hf

theorem write_cases (t : FileTree) (outputDir : Path) (packageName source : Text) :
    (∃ bytes, Text.Utf8.encodeText source = .ok bytes ∧
      t.read (target outputDir packageName) = .ok bytes ∧
      write t outputDir packageName source = (t, .ok ⟨target outputDir packageName, false⟩)) ∨
    (∃ t' e, Leaves outputDir packageName source t t' e ∧
      write t outputDir packageName source = (t', .error e)) ∨
    (∃ bytes t₁ t₂, Text.Utf8.encodeText source = .ok bytes ∧
      t.read (target outputDir packageName) ≠ .ok bytes ∧
      AddsDirs (target outputDir packageName).parent t t₁ ∧
      t₁.write (target outputDir packageName) bytes = .ok t₂ ∧
      write t outputDir packageName source = (t₂, .ok ⟨target outputDir packageName, true⟩)) := by
  have hdirs := FileTree.addsDirs_makeDirs t (target outputDir packageName).parent
  rw [write]
  generalize hmade : t.makeDirs (target outputDir packageName).parent = made at hdirs ⊢
  obtain ⟨t₁, r⟩ := made
  cases hcur : isCurrent t (target outputDir packageName) source with
  | error e => exact .inr (.inl ⟨t, e, .inl (.refl _ t), rfl⟩)
  | ok current =>
    cases current with
    | true =>
      obtain ⟨bytes, hs, hread⟩ := isCurrent_eq_true_iff.1 hcur
      exact .inl ⟨bytes, hs, hread, rfl⟩
    | false =>
      cases r with
      | error e => exact .inr (.inl ⟨t₁, e, .inl hdirs, rfl⟩)
      | ok =>
        cases hs : Text.Utf8.encodeText source with
        | error f =>
          have hnew := exists?_of_isCurrent hs hcur
          cases hw : t₁.write (target outputDir packageName) [] with
          | error e =>
            exact .inr (.inl ⟨t₁, e, .inl hdirs, by simp only [FileTree.writeText, hs, hw]⟩)
          | ok t₂ =>
            exact .inr (.inl ⟨t₂, .unencodable f, .inr ⟨f, t₁, hs, rfl, hnew, hdirs, hw⟩,
              by simp only [FileTree.writeText, hs, hw]⟩)
        | ok bytes =>
          have hread : t.read (target outputDir packageName) ≠ .ok bytes := by
            intro h
            rw [isCurrent_eq_true_iff.2 ⟨bytes, hs, h⟩] at hcur
            cases hcur
          cases hw : t₁.write (target outputDir packageName) bytes with
          | error e =>
            exact .inr (.inl ⟨t₁, e, .inl hdirs, by simp only [FileTree.writeText, hs, hw]⟩)
          | ok t₂ =>
            exact .inr (.inr ⟨bytes, t₁, t₂, rfl, hread, hdirs, hw,
              by simp only [FileTree.writeText, hs, hw]⟩)

/-- However a write ends, it adds directories on the way, or it also puts a file at the target. -/
theorem effect_of_write (t : FileTree) (outputDir : Path) (packageName source : Text) :
    AddsDirs (target outputDir packageName).parent t (write t outputDir packageName source).1 ∨
      ∃ bytes loc, PutsFile (target outputDir packageName) bytes t
        (write t outputDir packageName source).1 loc := by
  have hput : ∀ {bytes t₁ t₂}, AddsDirs (target outputDir packageName).parent t t₁ →
      t₁.write (target outputDir packageName) bytes = .ok t₂ →
      ∃ loc, PutsFile (target outputDir packageName) bytes t t₂ loc :=
    fun hdirs => (hdirs.of_onTheWay (parent_onTheWay _)).putsFile
  rcases write_cases t outputDir packageName source with
    ⟨bytes, hs, hread, hwrite⟩ | ⟨t', e, hdirs | ⟨f, t₁, -, -, -, hdirs, hw⟩, hwrite⟩ |
      ⟨bytes, t₁, t₂, hs, -, hdirs, hw, hwrite⟩ <;> rw [hwrite]
  · exact .inl (.refl _ t)
  · exact .inl hdirs
  · exact .inr ⟨[], hput hdirs hw⟩
  · exact .inr ⟨bytes, hput hdirs hw⟩

theorem putsFile_of_write {w : Written}
    (h : write t outputDir packageName source = (t', .ok w)) :
    ∃ bytes loc, Text.Utf8.encodeText source = .ok bytes ∧
      PutsFile (target outputDir packageName) bytes t t' loc := by
  rcases write_cases t outputDir packageName source with
    ⟨bytes, hs, hread, hwrite⟩ | ⟨t₁, e, -, hwrite⟩ | ⟨bytes, t₁, t₂, hs, -, hdirs, hput, hwrite⟩
  · rw [h] at hwrite
    cases hwrite
    obtain ⟨loc, hfile⟩ := FileTree.putsFile_of_read hread
    exact ⟨bytes, loc, hs, hfile⟩
  · rw [h] at hwrite
    cases hwrite
  · rw [h] at hwrite
    cases hwrite
    obtain ⟨loc, hfile⟩ := (hdirs.of_onTheWay (parent_onTheWay _)).putsFile hput
    exact ⟨bytes, loc, hs, hfile⟩

/-- **The frame of a write.** A write that returns names the target. The file there holds the bytes
of the source; it was unchanged exactly if looking it up found these bytes before, and then the tree
is the same; nothing else was altered or removed, and what else is new are directories on the way of
the target. The same write once more changes nothing. A write that fails has only made directories
on the way to the target's own directory. -/
theorem write_frame (t : FileTree) (outputDir : Path) (packageName : Text) (source : String) :
    (∃ t' w loc, write t outputDir packageName source = (t', .ok w) ∧
      w.path = target outputDir packageName ∧
      PutsFile (target outputDir packageName) (Text.Utf8.encode source) t t' loc ∧
      (w.changed = false ↔
        t.lookup (target outputDir packageName) = .ok (.file (Text.Utf8.encode source))) ∧
      (w.changed = false → t' = t) ∧
      write t' outputDir packageName source =
        (t', .ok ⟨target outputDir packageName, false⟩)) ∨
    (∃ t' e, write t outputDir packageName source = (t', .error e) ∧
      AddsDirs (target outputDir packageName).parent t t') := by
  have henc := Text.Utf8.encodeText_ofString source
  rcases write_cases t outputDir packageName source with
    ⟨bytes, hs, hread, hwrite⟩ | ⟨t₁, e, hleaves, hwrite⟩ |
      ⟨bytes, t₁, t₂, hs, hread, hdirs, hput, hwrite⟩
  · rw [henc] at hs
    cases hs
    obtain ⟨loc, hfile⟩ := FileTree.putsFile_of_read hread
    exact .inl ⟨t, _, loc, hwrite, rfl, hfile,
      iff_of_true rfl (FileTree.read_ok_iff.1 hread).2, fun _ => rfl, hwrite⟩
  · exact .inr ⟨t₁, e, hwrite, hleaves.addsDirs henc⟩
  · rw [henc] at hs
    cases hs
    obtain ⟨loc, hfile⟩ := (hdirs.of_onTheWay (parent_onTheWay _)).putsFile hput
    have hp : (target outputDir packageName).Passable := (FileTree.write_ok_iff.1 hput).1
    have hother :
        t.lookup (target outputDir packageName) ≠ .ok (.file (Text.Utf8.encode source)) :=
      fun h => hread (FileTree.read_ok_iff.2 ⟨hp, h⟩)
    exact .inl ⟨t₂, _, loc, hwrite, rfl, hfile, iff_of_false (by simp) hother,
      fun h => absurd h (by simp), (write_of_read (FileTree.read_of_write hput) henc).1 rfl⟩

end BindingIndex.ClassFile

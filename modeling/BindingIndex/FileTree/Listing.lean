import BindingIndex.FileTree.Basic
import BindingIndex.IndexTable

/-!
# Listings

* `FileTree.below`: what is below the current directory, each directory with a trailing slash, in
  code point order.
-/

namespace BindingIndex.FileTree

/-- The line of one item, relative to the current directory. -/
def line (t : FileTree) : Location × Item → Option Text
  | (loc, item) =>
    if t.current.isPrefixOf loc && loc ≠ t.current then
      let name := (Text.ofString "/").intercalate
        ((loc.drop t.current.length).map Text.Utf8.nameText)
      some (match item with
        | .dir => name ++ "/"
        | .file _ => name)
    else none

/-- Three bytes for every code point, the high one first. -/
def lineKey (line : Text) : List UInt8 :=
  line.flatMap fun p =>
    [UInt8.ofNat (p.toNat / 0x10000), UInt8.ofNat (p.toNat / 0x100), UInt8.ofNat p.toNat]

def below (t : FileTree) : List Text := IndexTable.ordered lineKey (t.items.filterMap t.line)

end BindingIndex.FileTree

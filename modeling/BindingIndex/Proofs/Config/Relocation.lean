import BindingIndex.Proofs.Config.Valid
import BindingIndex.Proofs.FileTree.Subtree

/-!
# Configurations that are moved

The names that a configuration file lists come from its own bytes and from the bytes of its property
list, which is found from the directory of the file. So a directory with both of them can be moved:
where another directory holds the same, the same names are collected (`collected_moved`), and
nothing outside of the directory has a say in it.

`Portable t d d' c` says which files this holds of: the file `c` below the directory `d` names no
property list, or one by a path that goes down, and no path gets too long by the move.
-/

namespace BindingIndex

open FileTree (SameSubtree)

/-! ## Paths below a directory -/

namespace Path

variable {c q : Path}

theorem Descends.parent (h : c.Descends) : c.parent.Descends :=
  ⟨h.relative, fun hup => h.noUp (List.dropLast_subset _ hup)⟩

theorem Descends.join_descends (hc : c.Descends) (hq : q.Descends) : (c.join q).Descends := by
  rw [hq.join]
  refine ⟨hc.relative, fun hup => ?_⟩
  rcases List.mem_append.1 hup with hup | hup
  · exact hc.noUp hup
  · exact hq.noUp hup

theorem Descends.join_join (hc : c.Descends) (hq : q.Descends) (d : Path) :
    (d.join c).join q = d.join (c.join q) := by
  rw [(hc.join_descends hq).join, hq.join, hq.join, hc.join, List.append_assoc]

theorem Descends.parent_join (hc : c.Descends) (hne : c.names ≠ []) (d : Path) :
    (d.join c).parent = d.join c.parent := by
  rw [hc.join, hc.parent.join, Path.parent, List.dropLast_append_of_ne_nil hne]
  rfl

end Path

/-! ## What names come from -/

namespace Config

variable {t t' : FileTree} {d d' c : Path} {names : List Text}

theorem ofBytes_ok_of_path {path : Path} {bytes : List UInt8} {own : Config}
    (h : ofBytes path bytes = .ok own) (path' : Path) : ofBytes path' bytes = .ok own := by
  rw [ofBytes] at h ⊢
  split at h
  · exact h
  · cases h
  · cases h
  · cases h

theorem propertyNames_ok_iff {own : Config} :
    propertyNames t own = .ok names ↔
      (own.propertiesFile = none ∧ own.properties = names) ∨
      ∃ path listed, own.propertiesFile = some path ∧ PropertyList.read t path = .ok listed ∧
        own.properties ++ listed.map Text.ofString = names := by
  rw [propertyNames]
  cases own.propertiesFile with
  | none => simp
  | some path =>
    cases hlist : PropertyList.read t path with
    | error f => simp [hlist]
    | ok listed => simp [hlist]

theorem collected_ok_iff {path : Path} :
    (load t path >>= propertyNames t) = .ok names ↔
      ∃ bytes own, t.read path = .ok bytes ∧ ofBytes path bytes = .ok own ∧
        propertyNames t (seenFrom path.parent own) = .ok names := by
  rw [bind_eq_ok_iff]
  constructor
  · rintro ⟨seen, hload, hnames⟩
    obtain ⟨bytes, own, hread, hown, rfl⟩ := load_ok_iff.1 hload
    exact ⟨bytes, own, hread, hown, hnames⟩
  · rintro ⟨bytes, own, hread, hown, hnames⟩
    exact ⟨_, load_ok_iff.2 ⟨bytes, own, hread, hown, rfl⟩, hnames⟩

/-! ## Moving -/

/-- The configuration file `c` below the directory `d` can be moved below `d'`. -/
structure Portable (t : FileTree) (d d' c : Path) : Prop where
  descends : c.Descends
  named : c.names ≠ []
  short : Text.Utf8.size (d.join c).toText < FileTree.maxPath
  short' : Text.Utf8.size (d'.join c).toText < FileTree.maxPath
  list : ∀ bytes own q, t.read (d.join c) = .ok bytes → ofBytes (d.join c) bytes = .ok own →
    own.propertiesFile = some q → q.Descends ∧
      Text.Utf8.size ((d.join c).parent.join q).toText < FileTree.maxPath ∧
      Text.Utf8.size ((d'.join c).parent.join q).toText < FileTree.maxPath

theorem Portable.symm (h : Portable t d d' c) (hsame : SameSubtree t d t' d') :
    Portable t' d' d c := by
  refine ⟨h.descends, h.named, h.short', h.short, fun bytes own q hread hown hq => ?_⟩
  have hread := (hsame.read_iff h.descends h.short h.short').1 hread
  obtain ⟨hdescends, hsize, hsize'⟩ := h.list bytes own q hread (ofBytes_ok_of_path hown _) hq
  exact ⟨hdescends, hsize', hsize⟩

theorem collected_of_same (h : Portable t d d' c) (hsame : SameSubtree t d t' d')
    (hok : (load t (d.join c) >>= propertyNames t) = .ok names) :
    (load t' (d'.join c) >>= propertyNames t') = .ok names := by
  obtain ⟨bytes, own, hread, hown, hnames⟩ := collected_ok_iff.1 hok
  refine collected_ok_iff.2 ⟨bytes, own, (hsame.read_iff h.descends h.short h.short').2 hread,
    ofBytes_ok_of_path hown _, propertyNames_ok_iff.2 ?_⟩
  obtain ⟨hnone, hproperties⟩ | ⟨path, listed, hfile, hlist, hall⟩ := propertyNames_ok_iff.1 hnames
  · refine .inl ⟨?_, hproperties⟩
    rw [seenFrom, Option.map_eq_none_iff] at hnone ⊢
    exact hnone
  · obtain ⟨q, hq, rfl⟩ := Option.map_eq_some_iff.1 hfile
    obtain ⟨hdescends, hsize, hsize'⟩ := h.list bytes own q hread hown hq
    -- from either file the list is the same path down from the directory
    have hjoin : ∀ d : Path, (d.join c).parent.join q = d.join (c.parent.join q) := fun d => by
      rw [h.descends.parent_join h.named, h.descends.parent.join_join hdescends]
    rw [hjoin] at hsize hsize' hlist
    have hdown := h.descends.parent.join_descends hdescends
    refine .inr ⟨(d'.join c).parent.join q, listed, ?_, ?_, hall⟩
    · rw [seenFrom, hq]
      rfl
    · rw [hjoin]
      exact (hsame.readList_iff hdown hsize hsize').2 hlist

theorem Portable.stay (h : Portable t d d' c) : Portable t d d c := by
  refine ⟨h.descends, h.named, h.short, h.short, fun bytes own q hread hown hq => ?_⟩
  obtain ⟨hdescends, hsize, -⟩ := h.list bytes own q hread hown hq
  exact ⟨hdescends, hsize, hsize⟩

/-- **A configuration can be moved with its property list.** Let two directories, in one tree or in
two, hold the same, and let a configuration file below the first one name no property list, or one
by a path that goes down from the directory of the file. Then the same names are collected from this
file and from the one in its place below the second directory, or from neither of them. No file that
is put outside of the directory, be it new or changed, makes a difference. -/
theorem collected_moved (h : Portable t d d' c) (hsame : SameSubtree t d t' d') :
    (∀ names, (load t' (d'.join c) >>= propertyNames t') = .ok names ↔
      (load t (d.join c) >>= propertyNames t) = .ok names) ∧
    ∀ loc bytes, t.get? loc ≠ some .dir → (∀ l, t.locate d = .ok l → ¬ l <+: loc) →
      ∀ names, (load (t.put loc (.file bytes)) (d.join c) >>=
          propertyNames (t.put loc (.file bytes))) = .ok names ↔
        (load t (d.join c) >>= propertyNames t) = .ok names := by
  have hmoved : ∀ {t' d'}, Portable t d d' c → SameSubtree t d t' d' → ∀ names,
      (load t' (d'.join c) >>= propertyNames t') = .ok names ↔
        (load t (d.join c) >>= propertyNames t) = .ok names := fun h hsame names =>
    ⟨collected_of_same (h.symm hsame) hsame.symm, collected_of_same h hsame⟩
  refine ⟨hmoved h hsame, fun loc bytes hfile houtside => ?_⟩
  exact hmoved h.stay (hsame.put hfile houtside)

def hallText : String :=
  "generation:\n  package_name: app\nproperties: [p]\nproperties_file: ./lists//names.txt\n"

/-- A tree with this file and its list in two directories, and with another list for the current
directory. -/
def hall : FileTree where
  current := ["work"]
  items := [
    (["work", "a"], .dir), (["work", "a", "brgen.yaml"], .file (Text.Utf8.encode hallText)),
    (["work", "a", "lists"], .dir),
    (["work", "a", "lists", "names.txt"], .file (Text.Utf8.encode "x\n")),
    (["work", "b"], .dir), (["work", "b", "c"], .dir),
    (["work", "b", "c", "lists"], .dir),
    (["work", "b", "c", "lists", "names.txt"], .file (Text.Utf8.encode "x\n")),
    (["work", "b", "c", "brgen.yaml"], .file (Text.Utf8.encode hallText)),
    (["work", "lists"], .dir),
    (["work", "lists", "names.txt"], .file (Text.Utf8.encode "y\n"))]

def hallConfig : Config where
  generation := ⟨"app", true⟩
  outputDir := defaultOutputDir
  properties := ["p"]
  propertiesFile := some ⟨.relative, ["lists", "names.txt"]⟩

theorem ofBytes_hallText (path : Path) :
    ofBytes path (Text.Utf8.encode hallText) = .ok hallConfig :=
  have hhere : ofBytes ⟨.relative, []⟩ (Text.Utf8.encode hallText) = .ok hallConfig :=
    ok_of_toOption (by decide +kernel)
  ofBytes_ok_of_path hhere path

theorem read_hall : hall.read ((Path.ofText "a").join (.ofText "brgen.yaml")) =
    .ok (Text.Utf8.encode hallText) := by
  rfl

theorem sameSubtree_hall :
    SameSubtree hall (.ofText "a") hall (.ofText "/work/b/./c") := by
  refine ⟨by decide, ["work", "a"], ["work", "b", "c"], ok_of_toOption (by decide),
    ok_of_toOption (by decide), by decide, fun rest => ?_⟩
  by_cases hfile : (["brgen.yaml"] : Location) = rest
  · subst hfile
    rfl
  · simp [FileTree.get?, FileTree.find, hall, hfile]

theorem portable_hall :
    Portable hall (.ofText "a") (.ofText "/work/b/./c") (.ofText "brgen.yaml") := by
  refine ⟨⟨by decide, by decide⟩, by decide, by decide, by decide, fun bytes own q hb hown hq => ?_⟩
  rw [read_hall] at hb
  obtain rfl := Except.ok.inj hb
  rw [ofBytes_hallText] at hown
  cases hown
  cases hq
  exact ⟨⟨by decide, by decide⟩, by decide, by decide⟩

/-- The names in the list of the current directory are not collected. -/
theorem collected_moved_hall :
    Portable hall (.ofText "a") (.ofText "/work/b/./c") (.ofText "brgen.yaml") ∧
    SameSubtree hall (.ofText "a") hall (.ofText "/work/b/./c") ∧
    (load hall ((Path.ofText "a").join (.ofText "brgen.yaml")) >>= propertyNames hall) =
      .ok ["p", "x"] ∧
    (load hall ((Path.ofText "/work/b/./c").join (.ofText "brgen.yaml")) >>=
      propertyNames hall) = .ok ["p", "x"] :=
  have hcollected : (load hall ((Path.ofText "a").join (.ofText "brgen.yaml")) >>=
      propertyNames hall) = .ok ["p", "x"] :=
    collected_ok_iff.2 ⟨_, hallConfig, read_hall, ofBytes_hallText _, ok_of_toOption (by decide)⟩
  ⟨portable_hall, sameSubtree_hall, hcollected,
    ((collected_moved portable_hall sameSubtree_hall).1 _).2 hcollected⟩

end Config

end BindingIndex

import BindingIndex.Proofs.Config.Valid

/-!
# What validation finds

A `Finding` says where a check failed and which one it was. What a value has wrong on its own is a
list of findings with places as seen from the value (`own` for a single value, `inItems` for those
of a list, `inEntries` for the fields that a section declares); in a whole the step to the value
comes before each place.

`Tells check find` says that the check finds in a value, wherever it stands, what `find` tells of
the value on its own, and that it accepts the value if that is nothing. There is one lemma for each
way in which checks are put together (`Comes.both`, `Tells.required`, `Tells.optional`,
`comes_textsFrom`) and one for each check, up to that of a whole configuration (`comes_whole`).
-/

namespace BindingIndex

namespace Value

def entries? : Value → Option (List (Value × Value))
  | .dict _ entries => some entries
  | _ => none

def items? : Value → Option (List Value)
  | .list _ items => some items
  | .tuple items => some items
  | .set items => some items
  | _ => none

end Value

namespace Config

/-! ## Findings -/

/-- Where a check failed, and which one it was. -/
structure Finding where
  place : List Step
  kind : FaultKind
  deriving DecidableEq, Repr

namespace Finding

/-- What was found in a part, as seen from the whole. -/
def below (place : List Step) (f : Finding) : Finding := ⟨place ++ f.place, f.kind⟩

/-- Was it found at the place, or in a part of what stands there? -/
def isBelow (place : List Step) (f : Finding) : Bool := place.isPrefixOf f.place

theorem below_nil : below [] = id := rfl

theorem below_append (p q : List Step) : below (p ++ q) = below p ∘ below q := by
  funext f
  simp [below]

theorem isBelow_cons_below (s : Step) (place : List Step) (f : Finding) :
    isBelow (s :: place) (below [s] f) = isBelow place f := by
  simp [isBelow, below]

theorem isBelow_cons_below_of_ne {s s' : Step} (h : s ≠ s') (place : List Step) (f : Finding) :
    isBelow (s :: place) (below [s'] f) = false := by
  simp [isBelow, below, List.isPrefixOf_cons_cons, h]

theorem filter_map_below (s : Step) (place : List Step) (fs : List Finding) :
    (fs.map (below [s])).filter (isBelow (s :: place)) =
      (fs.filter (isBelow place)).map (below [s]) := by
  rw [List.filter_map]
  congr 2
  funext f
  exact isBelow_cons_below s place f

theorem filter_map_below_of_ne {s s' : Step} (h : s ≠ s') (place : List Step)
    (fs : List Finding) : (fs.map (below [s'])).filter (isBelow (s :: place)) = [] := by
  rw [List.filter_eq_nil_iff]
  intro f hf
  obtain ⟨g, -, rfl⟩ := List.mem_map.1 hf
  simp [isBelow_cons_below_of_ne h]

end Finding

open Finding (below isBelow)

/-- What a fault tells, apart from the data it was found in. -/
def Fault.finding (f : Fault) : Finding := ⟨f.place, f.kind⟩

/-- What a validation reports, in order. -/
def findings {α : Type} : Except Report α → List Finding
  | .ok _ => []
  | .error r => r.faults.map Fault.finding

/-! ## What values have wrong on their own -/

section
variable {α : Type}

/-- What a check finds in a value on its own. -/
def own (check : List Step → Value → Checked α) (v : Value) : List Finding :=
  (Check.faults (check [] v)).map Fault.finding

end

/-- A field that a section declares, with what tells the findings in its value. -/
structure Declared where
  name : String
  required : Bool
  find : Value → List Finding

/-- What is wrong with the value of a field, or with there being none. -/
def Declared.ofValue (d : Declared) : Option Value → List Finding
  | some v => d.find v
  | none => if d.required then [⟨[], .missing⟩] else []

def Declared.findings (d : Declared) (entries : List (Value × Value)) : List Finding :=
  (d.ofValue (Value.lookup d.name entries)).map (below [.field d.name])

/-- What is wrong with the fields of a mapping, field by field as they are declared. -/
def inEntries (fields : List Declared) (entries : List (Value × Value)) : List Finding :=
  fields.flatMap fun d => d.findings entries

/-- What is wrong with a section: that it is no mapping, or what its fields have wrong. -/
def inSection (s : Subject) (fields : List Declared) (v : Value) : List Finding :=
  match v.entries? with
  | some entries => inEntries fields entries
  | none => [⟨[], .notSection s⟩]

/-- What is wrong with items, one after another, numbered from `i` on. -/
def inItems (find : Value → List Finding) (i : Nat) (items : List Value) : List Finding :=
  (items.zipIdx i).flatMap fun (v, j) => (find v).map (below [.item j])

/-- What is wrong with a list: that it is none, or what its items have wrong. -/
def inList (find : Value → List Finding) (v : Value) : List Finding :=
  match v.items? with
  | some items => inItems find 0 items
  | none => [⟨[], .notList⟩]

def generationDeclared : List Declared :=
  [⟨"package_name", true, own Check.packageName⟩, ⟨"use_final", false, own Check.bool⟩]

def outputDeclared : List Declared := [⟨"output_dir", false, own Check.path⟩]

def wholeDeclared : List Declared :=
  [⟨"generation", true, inSection .generation generationDeclared⟩,
    ⟨"output", false, inSection .output outputDeclared⟩,
    ⟨"properties", false, inList (own Check.text)⟩,
    ⟨"properties_file", false, own Check.optionalPath⟩]

/-! ## Checks against what values have wrong -/

section
variable {α β : Type} {x : Checked α} {y : Checked β} {fs gs : List Finding}
  {check : List Step → Value → Checked α} {find : Value → List Finding}

/-- The check comes to these findings, and to a value if there are none. -/
structure Comes (x : Checked α) (fs : List Finding) : Prop where
  found : (Check.faults x).map Fault.finding = fs
  accepts : fs = [] → ∃ a, x = .ok a

theorem comes_ok (a : α) : Comes (.ok a : Checked α) [] := ⟨rfl, fun _ => ⟨a, rfl⟩⟩

theorem comes_fail (place : List Step) (kind : FaultKind) (v : Value) :
    Comes (Check.fail place kind v : Checked α) [⟨place, kind⟩] :=
  ⟨rfl, fun h => by cases h⟩

theorem comes_refused (place : List Step) (kind : FaultKind) (v : Value) :
    Comes (Check.fail place kind v : Checked α) ([⟨[], kind⟩].map (below place)) := by
  simpa [below] using comes_fail place kind v

theorem Comes.map (h : Comes x fs) (f : α → β) : Comes (x.map f) fs := by
  obtain ⟨hfound, haccepts⟩ := h
  cases x with
  | error faults => exact ⟨hfound, fun hnil => by obtain ⟨a, ha⟩ := haccepts hnil; cases ha⟩
  | ok a => exact ⟨hfound, fun _ => ⟨f a, rfl⟩⟩

/-- Neither of two checks hides what the other one finds. -/
theorem Comes.both (hx : Comes x fs) (hy : Comes y gs) : Comes (Check.both x y) (fs ++ gs) := by
  obtain ⟨rfl, hx⟩ := hx
  obtain ⟨rfl, hy⟩ := hy
  constructor
  · cases x <;> cases y <;> simp [Check.both, Check.faults]
  · intro hnil
    obtain ⟨hnilx, hnily⟩ := List.append_eq_nil_iff.1 hnil
    obtain ⟨a, rfl⟩ := hx hnilx
    obtain ⟨b, rfl⟩ := hy hnily
    exact ⟨(a, b), rfl⟩

/-- The check finds in a value, wherever it stands, what `find` tells of the value on its own. -/
def Tells (check : List Step → Value → Checked α) (find : Value → List Finding) : Prop :=
  ∀ place v, Comes (check place v) ((find v).map (below place))

/-- The check of a single value: it is accepted everywhere, or refused everywhere for one reason. -/
def Single (check : List Step → Value → Checked α) : Prop :=
  ∀ v, (∃ a, ∀ place, check place v = .ok a) ∨
    ∃ kind, ∀ place, check place v = Check.fail place kind v

theorem Single.place_eq_nil (h : Single check) {v : Value} {f : Finding} (hf : f ∈ own check v) :
    f.place = [] := by
  rw [own] at hf
  obtain ⟨a, ha⟩ | ⟨kind, hkind⟩ := h v
  · rw [ha] at hf
    simp [Check.faults] at hf
  · rw [hkind] at hf
    simp only [Check.fail, Check.faults, List.map_cons, List.map_nil, List.mem_singleton] at hf
    rw [hf]
    rfl

theorem Single.tells (h : Single check) : Tells check (own check) := by
  intro place v
  obtain ⟨a, ha⟩ | ⟨kind, hkind⟩ := h v
  · rw [own, ha, ha]
    exact comes_ok a
  · rw [own, hkind, hkind]
    exact comes_refused place kind v

theorem Tells.required (h : Tells check find) (place : List Step) (entries : List (Value × Value))
    (label : Option Nat) (name : String) :
    Comes (Check.required place entries label name check)
      (((⟨name, true, find⟩ : Declared).findings entries).map (below place)) := by
  rw [Check.required, Declared.findings, List.map_map, ← Finding.below_append]
  cases Value.lookup name entries with
  | none => exact comes_refused _ _ _
  | some v => exact h _ v

theorem Tells.optional (h : Tells check find) (place : List Step) (entries : List (Value × Value))
    (name : String) (default : α) :
    Comes (Check.optional place entries name default check)
      (((⟨name, false, find⟩ : Declared).findings entries).map (below place)) := by
  rw [Check.optional, Declared.findings, List.map_map, ← Finding.below_append]
  cases Value.lookup name entries with
  | none => exact comes_ok default
  | some v => exact h _ v

/-! ## Each check -/

theorem single_text : Single Check.text := by
  intro v
  cases v with
  | bytes b =>
    simp only [Check.text]
    cases Text.Utf8.decode b with
    | ok s => exact .inl ⟨_, fun _ => rfl⟩
    | error f => exact .inr ⟨_, fun _ => rfl⟩
  | text s => exact .inl ⟨s, fun _ => rfl⟩
  | codes t => exact .inl ⟨t, fun _ => rfl⟩
  | _ => exact .inr ⟨_, fun _ => rfl⟩

theorem single_packageName : Single Check.packageName := by
  intro v
  unfold Check.packageName
  split
  · exact .inr ⟨_, fun _ => rfl⟩
  obtain ⟨s, hs⟩ | ⟨kind, hkind⟩ := single_text v
  · simp only [hs]
    split
    · exact .inr ⟨_, fun _ => rfl⟩
    · exact .inl ⟨s, fun _ => rfl⟩
  · simp only [hkind]
    exact .inr ⟨kind, fun _ => rfl⟩

theorem single_boolText (v : Value) (s : List Char) :
    (∃ b, ∀ place, Check.boolText place v s = .ok b) ∨
      ∃ kind, ∀ place, Check.boolText place v s = Check.fail place kind v := by
  simp only [Check.boolText]
  cases Check.boolWord? s with
  | none => exact .inr ⟨_, fun _ => rfl⟩
  | some b => exact .inl ⟨b, fun _ => rfl⟩

theorem single_bool : Single Check.bool := by
  intro v
  cases v with
  | bool b => exact .inl ⟨b, fun _ => rfl⟩
  | text s => exact single_boolText _ _
  | bytes b =>
    simp only [Check.bool]
    cases Text.Utf8.decode b with
    | ok s => exact single_boolText _ _
    | error f => exact .inr ⟨_, fun _ => rfl⟩
  | int n =>
    simp only [Check.bool]
    split
    · exact .inl ⟨_, fun _ => rfl⟩
    · split
      · exact .inl ⟨_, fun _ => rfl⟩
      · split <;> exact .inr ⟨_, fun _ => rfl⟩
  | float x =>
    simp only [Check.bool]
    split
    · exact .inr ⟨_, fun _ => rfl⟩
    · split
      · exact .inl ⟨_, fun _ => rfl⟩
      · split
        · exact .inl ⟨_, fun _ => rfl⟩
        · split <;> exact .inr ⟨_, fun _ => rfl⟩
  | _ => exact .inr ⟨_, fun _ => rfl⟩

theorem single_path : Single Check.path := by
  intro v
  cases v with
  | text s => exact .inl ⟨_, fun _ => rfl⟩
  | codes t => exact .inl ⟨_, fun _ => rfl⟩
  | _ => exact .inr ⟨_, fun _ => rfl⟩

theorem single_optionalPath : Single Check.optionalPath := by
  intro v
  cases v with
  | null => exact .inl ⟨none, fun _ => rfl⟩
  | text s => exact .inl ⟨_, fun _ => rfl⟩
  | codes t => exact .inl ⟨_, fun _ => rfl⟩
  | _ => exact .inr ⟨_, fun _ => rfl⟩

theorem comes_textsFrom (place : List Step) (i : Nat) (items : List Value) :
    Comes (Check.textsFrom place i items)
      ((inItems (own Check.text) i items).map (below place)) := by
  induction items generalizing i with
  | nil => exact comes_ok []
  | cons v rest ih =>
    have hhead := single_text.tells (place ++ [.item i]) v
    rw [Finding.below_append, ← List.map_map] at hhead
    rw [Check.textsFrom, inItems, List.zipIdx_cons, List.flatMap_cons, List.map_append]
    exact (hhead.both (ih (i + 1))).map _

theorem tells_texts : Tells Check.texts (inList (own Check.text)) := by
  intro place v
  cases v with
  | list label items => exact comes_textsFrom place 0 items
  | tuple items => exact comes_textsFrom place 0 items
  | set items => exact comes_textsFrom place 0 items
  | _ => exact comes_refused place .notList _

theorem comes_generationFields (place : List Step) (label : Option Nat)
    (entries : List (Value × Value)) :
    Comes (Check.generationFields place label entries)
      ((inEntries generationDeclared entries).map (below place)) := by
  have hname := single_packageName.tells.required place entries label "package_name"
  have hfinal := single_bool.tells.optional place entries "use_final" true
  simpa [inEntries, generationDeclared, Check.generationFields] using (hname.both hfinal).map _

theorem tells_generation :
    Tells Check.generation (inSection .generation generationDeclared) := by
  intro place v
  cases v with
  | dict label entries => exact comes_generationFields place label entries
  | _ => exact comes_refused place (.notSection .generation) _

theorem comes_outputFields (place : List Step) (entries : List (Value × Value)) :
    Comes (Check.outputFields place entries)
      ((inEntries outputDeclared entries).map (below place)) := by
  have hdir := single_path.tells.optional place entries "output_dir" defaultOutputDir
  simpa [inEntries, outputDeclared, Check.outputFields] using hdir

theorem tells_output : Tells Check.output (inSection .output outputDeclared) := by
  intro place v
  cases v with
  | dict label entries => exact comes_outputFields place entries
  | _ => exact comes_refused place (.notSection .output) _

theorem comes_whole (entries : List (Value × Value)) :
    Comes (Check.whole entries) (inEntries wholeDeclared entries) := by
  have hgeneration := tells_generation.required [] entries none "generation"
  have houtput := tells_output.optional [] entries "output" defaultOutputDir
  have hproperties := tells_texts.optional [] entries "properties" []
  have hfile := single_optionalPath.tells.optional [] entries "properties_file" none
  have hall := hgeneration.both (houtput.both (hproperties.both hfile))
  simpa [inEntries, wholeDeclared, Check.whole, Finding.below_nil] using hall.map _

end

theorem Comes.findings_report {α : Type} {x : Checked α} {fs : List Finding} (h : Comes x fs)
    (subject : Subject) : findings (report subject x) = fs := by
  rw [← h.found]
  cases x <;> rfl

end Config

end BindingIndex

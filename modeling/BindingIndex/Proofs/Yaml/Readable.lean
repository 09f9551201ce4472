import BindingIndex.Yaml.Document

/-!
# Nodes that can be read

A text need not fit the kind of its scalar. A node is readable unless it is a scalar of a kind that
its text does not fit (`Node.Readable`), and a graph of readable nodes either has contents or is no
document of the format, unless a mapping in it stands for its own text: `ofGraph_error`.

The proof goes along the steps that make the contents. `Make.Makes P step` says that among readable
nodes `step` fails for one of these reasons at most, that its result has the property `P`, and that
it leaves nothing but readable nodes behind. There are few kinds of steps, each with its own lemma,
and every function that is made of them gets one from these.
-/

namespace BindingIndex.Yaml

/-- The text can be read as a scalar of the kind. -/
def Tag.Fits : Tag → Text → Prop
  | .bool, s => ∃ b, readBool s = .ok b
  | .int, s => ∃ n, readInt s = .ok n
  | .float, s => ∃ x, readFloat s = .ok x
  | .timestamp, s => ∃ v, readTimestamp s = .ok v
  | _, _ => True

/-- The kinds that not every text fits. -/
def Tag.strict : List Tag := [.bool, .int, .float, .timestamp]

/-- The node can be read as what its kind says: a scalar as long as its text fits, a mapping unless
it stands for the text of a kind that not every text fits. -/
def Node.Readable : Node → Prop
  | .scalar tag text => tag.Fits text
  | .sequence _ _ => True
  | .mapping tag _ => tag ∉ Tag.strict

namespace Make

def Sound (m : Making) : Prop := ∀ n ∈ m.graph, n.Readable

/-- From here the step fails over the format or an endless text at most; else its result has the
property, and all nodes are readable after it. -/
def MakesFrom {α : Type} (m : Making) (P : α → Prop) (step : Make α) : Prop :=
  match step.run m with
  | .error f => f = .malformed ∨ f = .endless
  | .ok (a, m') => P a ∧ Sound m'

/-- The same wherever all nodes are readable. -/
def Makes {α : Type} (P : α → Prop) (step : Make α) : Prop := ∀ m, Sound m → MakesFrom m P step

/-- The same for any result. -/
abbrev Keeps {α : Type} (step : Make α) : Prop := Makes (fun _ => True) step

variable {α β : Type} {P : α → Prop} {Q : β → Prop} {m : Making}

/-! ## Steps -/

theorem keeps_pure (a : α) : Keeps (pure a : Make α) := fun _ hm => ⟨trivial, hm⟩

theorem keeps_reject : Keeps (reject : Make α) := fun _ _ => .inl rfl

theorem makes_get : Makes Sound (get : Make Making) := fun _ hm => ⟨hm, hm⟩

theorem keeps_set (h : Sound m) : Keeps (set m : Make Unit) := fun _ _ => ⟨trivial, h⟩

theorem keeps_modify {f : Making → Making} (h : ∀ m, Sound m → Sound (f m)) :
    Keeps (modify f : Make Unit) := fun m hm => ⟨trivial, h m hm⟩

theorem makesFrom_bind_of_run {step : Make α} {next : α → Make β} {a : α} {m' : Making}
    (h : step.run m = .ok (a, m')) (hnext : MakesFrom m' Q (next a)) :
    MakesFrom m Q (step >>= next) := by
  rw [MakesFrom, StateT.run_bind, h]
  exact hnext

theorem Makes.bind {step : Make α} {next : α → Make β} (h : Makes P step)
    (hnext : ∀ a, P a → Makes Q (next a)) : Makes Q (step >>= next) := by
  intro m hm
  have hstep := h m hm
  rw [MakesFrom] at hstep
  cases hrun : step.run m with
  | error f =>
    rw [hrun] at hstep
    rw [MakesFrom, StateT.run_bind, hrun]
    exact hstep
  | ok r =>
    rw [hrun] at hstep
    exact makesFrom_bind_of_run hrun (hnext r.1 hstep.1 r.2 hstep.2)

theorem Keeps.then {step : Make α} {next : α → Make β} (h : Keeps step)
    (hnext : ∀ a, Makes Q (next a)) : Makes Q (step >>= next) := h.bind fun a _ => hnext a

theorem Keeps.discard {step : Make α} (h : Keeps step) : Keeps (discard step) := by
  rw [Functor.discard, LawfulFunctor.map_const, Function.comp, map_eq_pure_bind]
  exact h.bind fun _ _ => keeps_pure _

theorem keeps_mapM {xs : List α} {f : α → Make β} (h : ∀ x, Keeps (f x)) : Keeps (xs.mapM f) := by
  induction xs with
  | nil => exact keeps_pure _
  | cons x xs ih =>
    rw [List.mapM_cons]
    exact (h x).then fun _ => ih.then fun _ => keeps_pure _

theorem keeps_forIn {xs : List α} {f : α → β → Make (ForInStep β)}
    (h : ∀ x b, Keeps (f x b)) (b : β) : Keeps (forIn xs b f) := by
  induction xs generalizing b with
  | nil => exact keeps_pure _
  | cons x xs ih =>
    rw [List.forIn_cons]
    refine (h x b).then fun r => ?_
    cases r with
    | done b => exact keeps_pure _
    | yield b => exact ih b

/-! ## Nodes -/

theorem Sound.getD (h : Sound m) (i : Nat) : ((m.graph[i]?).getD (.scalar .null [])).Readable := by
  cases hi : m.graph[i]? with
  | none => exact trivial
  | some n => exact h n (Array.mem_of_getElem? hi)

theorem Sound.setIfInBounds (h : Sound m) (i : Nat) {n : Node} (hn : n.Readable) :
    Sound { m with graph := m.graph.setIfInBounds i n } := by
  intro n' hn'
  rcases Array.mem_or_eq_of_mem_setIfInBounds hn' with hn' | rfl
  · exact h n' hn'
  · exact hn

theorem makes_node (i : Nat) : Makes Node.Readable (node i) := fun _ hm => ⟨hm.getD i, hm⟩

theorem readable_retag_text (n : Node) : (retag .text n).Readable := by
  cases n with
  | scalar => exact trivial
  | sequence => exact trivial
  | mapping =>
    have htext : Tag.text ∉ Tag.strict := by decide
    exact htext

theorem keeps_scalarText (fuel i : Nat) : Keeps (scalarText fuel i) := by
  induction fuel generalizing i with
  | zero => exact fun _ _ => .inr rfl
  | succ fuel ih =>
    rw [scalarText]
    refine (makes_node i).bind fun n _ => ?_
    cases n with
    | scalar _ text => exact keeps_pure _
    | sequence _ _ => exact keeps_reject
    | mapping _ entries =>
      -- the loop looks for the default-value key, and ends with its text
      refine Keeps.then (keeps_forIn (fun x b => ?_) _) fun r => ?_
      · refine (makes_node x.1).bind fun n _ => ?_
        split
        · exact (ih x.2).then fun _ => keeps_pure _
        · exact keeps_pure _
      · dsimp only
        split
        · exact keeps_pure _
        · exact keeps_reject

/-! ## Items -/

theorem keeps_container (i : Nat) : Keeps (container i) := by
  refine (keeps_modify fun m hm => ?_).then fun _ => keeps_pure _
  split <;> exact hm

theorem keeps_readBinary (text : Text) :
    Keeps (liftM (readBinary text) : Make (List UInt8)) := by
  intro m hm
  rw [readBinary]
  split
  · exact .inl rfl
  · split
    · exact ⟨trivial, hm⟩
    · exact .inl rfl

theorem makesFrom_strict {i fuel : Nat} (hm : Sound m) {tag : Tag} (hstrict : tag ∈ Tag.strict)
    (htag : tagOf ((m.graph[i]?).getD (.scalar .null [])) = tag) (read : Text → Make α)
    (hread : ∀ s, (m.graph[i]?).getD (.scalar .null []) = .scalar tag s → tag.Fits s →
      ∃ a, (read s).run m = .ok (a, m)) (make : α → Ref) :
    MakesFrom m (fun _ => True) (do
      let s ← scalarText (fuel + 1) i
      let a ← read s
      return make a) := by
  have hn := hm.getD i
  have hnode : (node i).run m = .ok ((m.graph[i]?).getD (.scalar .null []), m) := rfl
  rw [scalarText, bind_assoc]
  refine makesFrom_bind_of_run hnode ?_
  generalize (m.graph[i]?).getD (.scalar .null []) = n at hn htag hread
  cases n with
  | scalar tag' s =>
    obtain rfl : tag' = tag := htag
    obtain ⟨a, ha⟩ := hread s rfl hn
    have hs : (pure s : Make Text).run m = .ok (s, m) := rfl
    exact makesFrom_bind_of_run hs (makesFrom_bind_of_run ha ⟨trivial, hm⟩)
  | sequence => exact .inl rfl
  | mapping tag' =>
    obtain rfl : tag' = tag := htag
    exact absurd hstrict hn

theorem keeps_ref (i : Nat) : Keeps (ref i) := by
  intro m hm
  have hnode : (node i).run m = .ok ((m.graph[i]?).getD (.scalar .null []), m) := rfl
  have hget : (get : Make Making).run m = .ok (m, m) := rfl
  rw [ref]
  refine makesFrom_bind_of_run hnode (makesFrom_bind_of_run hget ?_)
  have htext : Keeps (scalarText (m.graph.size + 1) i) := keeps_scalarText _ i
  -- the text is looked up where the node was, so a text of a strict kind is known to fit
  dsimp only
  split
  · exact htext.discard.then (fun _ => keeps_pure _) m hm
  · rename_i htag
    refine makesFrom_strict hm (by decide) htag (fun s => liftM (readBool s))
      (fun s _ hfits => ?_) fun b => .scalar (.bool b)
    obtain ⟨b, hb⟩ := hfits
    exact ⟨b, by rw [hb]; rfl⟩
  · rename_i htag
    refine makesFrom_strict hm (by decide) htag (fun s => liftM (readInt s))
      (fun s _ hfits => ?_) fun n => .scalar (.int n)
    obtain ⟨n, hn⟩ := hfits
    exact ⟨n, by rw [hn]; rfl⟩
  · rename_i htag
    refine makesFrom_strict hm (by decide) htag (fun s => liftM (readFloat s))
      (fun s _ hfits => ?_) fun x => .scalar (.float x)
    obtain ⟨x, hx⟩ := hfits
    exact ⟨x, by rw [hx]; rfl⟩
  · exact htext.then (fun _ => keeps_pure _) m hm
  · exact htext.then (fun s => (keeps_readBinary s).then fun _ => keeps_pure _) m hm
  · rename_i htag
    refine makesFrom_strict hm (by decide) htag
      (timestamp ((m.graph[i]?).getD (.scalar .null []))) (fun s hscalar hfits => ?_) .scalar
    obtain ⟨v, hv⟩ := hfits
    exact ⟨v, by rw [hscalar, timestamp, hv]; rfl⟩
  all_goals first
    | exact keeps_container i m hm
    | exact keeps_reject m hm

/-! ## Merge keys -/

theorem keeps_plainKey (i : Nat) : Keeps (plainKey i) := by
  rw [plainKey]
  refine (makes_node i).bind fun n _ => ?_
  split
  · exact keeps_modify fun m hm => hm.setIfInBounds i (readable_retag_text n)
  · exact keeps_pure _

theorem keeps_firstMerge (es : List (Nat × Nat)) : Keeps (firstMerge es) := by
  induction es with
  | nil => exact keeps_pure _
  | cons e rest ih =>
    obtain ⟨k, v⟩ := e
    rw [firstMerge]
    refine (makes_node k).bind fun n _ => ?_
    split
    · exact keeps_pure _
    · refine (keeps_plainKey k).then fun _ => ih.then fun found => ?_
      cases found <;> exact keeps_pure _

theorem keeps_setEntries (i : Nat) (es : List (Nat × Nat)) : Keeps (setEntries i es) := by
  rw [setEntries]
  refine (makes_node i).bind fun n hn => ?_
  cases n with
  | scalar => exact keeps_pure _
  | sequence => exact keeps_pure _
  | mapping tag old => exact keeps_modify fun m hm => hm.setIfInBounds i hn

theorem keeps_entriesOf (i : Nat) : Keeps (entriesOf i) := by
  rw [entriesOf]
  refine (makes_node i).bind fun n _ => ?_
  cases n with
  | scalar => exact keeps_reject
  | sequence => exact keeps_reject
  | mapping => exact keeps_pure _

theorem keeps_merge (fuel : Nat) : (∀ i, Keeps (flatten fuel i)) ∧
    (∀ i merged, Keeps (mergeAll fuel i merged)) ∧ ∀ vs, Keeps (mergeEach fuel vs) := by
  -- the three call each other with less fuel
  induction fuel with
  | zero => exact ⟨fun _ => keeps_reject, fun _ _ => keeps_reject, fun _ => keeps_reject⟩
  | succ fuel ih =>
    obtain ⟨hflatten, hall, heach⟩ := ih
    refine ⟨fun i => ?_, fun i merged => ?_, fun vs => ?_⟩
    · rw [flatten]
      refine (hall i []).then fun merged => ?_
      split
      · exact (keeps_entriesOf i).then fun es => keeps_setEntries i _
      · exact keeps_pure _
    · rw [mergeAll]
      refine (keeps_entriesOf i).then fun es => (keeps_firstMerge es).then fun found => ?_
      split
      · exact keeps_pure _
      · rename_i v rest
        refine (keeps_setEntries i rest).then fun _ => (makes_node v).bind fun n _ => ?_
        cases n with
        | scalar => exact keeps_reject.then fun _ => hall i _
        | sequence _ items => exact (heach items).then fun more => hall i _
        | mapping => exact (hflatten v).then fun _ => (keeps_entriesOf v).then fun more => hall i _
    · cases vs with
      | nil => exact keeps_pure _
      | cons v rest =>
        rw [mergeEach]
        refine (makes_node v).bind fun n _ => ?_
        cases n with
        | scalar => exact keeps_reject
        | sequence => exact keeps_reject
        | mapping =>
          exact (hflatten v).then fun _ => (keeps_entriesOf v).then fun own =>
            (heach rest).then fun more => keeps_pure _

/-! ## Filling -/

theorem keeps_key (i : Nat) : Keeps (key i) := by
  rw [key]
  refine (keeps_ref i).then fun r => ?_
  cases r with
  | node => exact keeps_reject
  | scalar v =>
    exact makes_get.bind fun m _ => (keeps_scalarText _ i).then fun text => keeps_pure _

theorem keeps_entries (es : List (Nat × Nat)) (made : List (Key × Ref)) :
    Keeps (entries es made) := by
  induction es generalizing made with
  | nil => exact keeps_pure _
  | cons e rest ih =>
    obtain ⟨k, v⟩ := e
    rw [entries]
    exact (keeps_key k).then fun k => (keeps_ref v).then fun r => ih _

theorem keeps_mappingEntries (i : Nat) : Keeps (mappingEntries i) := by
  rw [mappingEntries]
  refine (makes_node i).bind fun n _ => ?_
  cases n with
  | scalar => exact keeps_reject
  | sequence => exact keeps_reject
  | mapping =>
    exact makes_get.bind fun m _ => ((keeps_merge _).1 i).then fun _ =>
      (keeps_entriesOf i).then fun es => (keeps_entries es []).then fun made => keeps_pure _

theorem keeps_pairItems (items : List Nat) : Keeps (pairItems items) := by
  induction items with
  | nil => exact keeps_pure _
  | cons i rest ih =>
    rw [pairItems]
    refine (makes_node i).bind fun n _ => ?_
    split
    · exact (keeps_ref _).then fun k => (keeps_ref _).then fun v => ih.then fun more =>
        keeps_pure _
    · exact keeps_reject

theorem keeps_content (i : Nat) : Keeps (content i) := by
  rw [content]
  refine (makes_node i).bind fun n _ => ?_
  split
  · exact (keeps_mapM keeps_ref).then fun items => keeps_pure _
  · exact (keeps_mappingEntries i).then fun es => keeps_pure _
  · exact (keeps_mappingEntries i).then fun es => keeps_pure _
  · exact (keeps_pairItems _).then fun items => keeps_pure _
  · exact (keeps_pairItems _).then fun items => keeps_pure _
  · exact keeps_reject

theorem keeps_nextWaiting : Keeps nextWaiting := by
  rw [nextWaiting]
  refine makes_get.bind fun m hm => ?_
  split
  · refine (keeps_set ?_).then fun _ => keeps_pure _
    exact hm
  · split
    · refine (keeps_set ?_).then fun _ => keeps_pure _
      exact hm
    · exact keeps_pure _

theorem keeps_fillAll (fuel : Nat) : Keeps (fillAll fuel) := by
  induction fuel with
  | zero => exact keeps_pure _
  | succ fuel ih =>
    rw [fillAll]
    refine keeps_nextWaiting.then fun next => ?_
    split
    · exact keeps_pure _
    · refine (keeps_content _).then fun c => (keeps_modify ?_).then fun _ => ih
      exact fun m hm => hm

end Make

/-- **A graph of readable nodes** has contents, or it is no document of the format, or a mapping in
it stands for its own text. -/
theorem ofGraph_error {g : Graph} (hg : ∀ n ∈ g, n.Readable) {root : Nat} {f : Fault}
    (h : Contents.ofGraph g root = .error f) : f = .malformed ∨ f = .endless := by
  have hmake : Make.Keeps (do
      let r ← Make.ref root
      Make.fillAll (g.size + 1)
      return r) :=
    (Make.keeps_ref root).then fun r => (Make.keeps_fillAll _).then fun _ => Make.keeps_pure _
  have hrun := hmake ⟨g, .replicate g.size none, .replicate g.size false, [], []⟩ hg
  rw [Make.MakesFrom] at hrun
  rw [Contents.ofGraph] at h
  split at hrun
  · rename_i f' hf'
    rw [hf'] at h
    cases h
    exact hrun
  · rename_i r m' hok
    rw [hok] at h
    cases h

/-! ## Documents -/

/-- What is wrong with a document itself: its format, or the bytes of its text. -/
def Fault.OfDocument (f : Fault) : Prop := f = .malformed ∨ ∃ g, f = .unreadable g

theorem Input.ofStream_error {s : Text.Stream} {f : Fault} (h : Input.ofStream s = .error f) :
    f.OfDocument := by
  have hreach : ∀ whole, ofStream.reach whole = .error f → f.OfDocument := by
    intro whole hwhole
    rw [ofStream.reach] at hwhole
    split at hwhole
    · cases hwhole
    · split at hwhole
      · cases hwhole
        exact .inl rfl
      · cases hwhole
  rw [ofStream] at h
  cases hfault : s.fault with
  | none =>
    rw [hfault] at h
    exact hreach _ h
  | some g =>
    rw [hfault] at h
    dsimp only at h
    split at h
    · cases h
      exact .inr ⟨g, rfl⟩
    · exact hreach _ h

/-- **Why a document has no value.** Either it is no document, or a mapping in it stands for its own
text, or its tokens or nodes cannot be read for another reason: the tokens themselves, or a node
whose text does not fit its kind. -/
theorem read_error_cases {s : Text.Stream} {f : Fault} (h : read s = .error f) :
    f.OfDocument ∨ f = .endless ∨ ∃ input, Input.ofStream s = .ok input ∧
      (Graph.ofTokens (.ofText input.text input.fault) = .error f ∨
        ∃ g root, Graph.ofTokens (.ofText input.text input.fault) = .ok (g, some root) ∧
          ∃ n ∈ g, ¬ n.Readable) := by
  rw [read] at h
  cases hinput : Input.ofStream s with
  | error f' =>
    rw [hinput] at h
    cases h
    exact .inl (Input.ofStream_error hinput)
  | ok input =>
    rw [hinput] at h
    cases htokens : Graph.ofTokens (.ofText input.text input.fault) with
    | error f' =>
      simp only [htokens, bind, Except.bind] at h
      cases h
      exact .inr (.inr ⟨input, rfl, .inl htokens⟩)
    | ok r =>
      obtain ⟨g, root⟩ := r
      simp only [htokens, bind, Except.bind] at h
      cases root with
      | none => cases h
      | some root =>
        cases hcontents : Contents.ofGraph g root with
        | ok r =>
          simp only [hcontents] at h
          cases h
        | error f' =>
          simp only [hcontents] at h
          cases h
          by_cases hg : ∀ n ∈ g, n.Readable
          · rcases ofGraph_error hg hcontents with rfl | rfl
            · exact .inl (.inl rfl)
            · exact .inr (.inl rfl)
          · obtain ⟨n, hn⟩ := Classical.not_forall.1 hg
            obtain ⟨hmem, hbad⟩ := Classical.not_imp.1 hn
            exact .inr (.inr ⟨input, rfl, .inr ⟨g, root, htokens, n, hmem, hbad⟩⟩)

end BindingIndex.Yaml

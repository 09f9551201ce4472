import BindingIndex.Generator
import BindingIndex.Proofs.ClassText.Layout
import BindingIndex.Proofs.Config.Resolved

/-!
# The first success of a generator

A generator renders until it succeeds once. Up to then every request meets the table in force and
fails exactly if that table has a fault, for the first one; a failure leaves nothing behind
(`run_refused`). The first success is kept, and later requests are answered from it whatever is
assigned (`run_kept`). Since a run has either no success or a first one (`refused_or_first`), these
two phases are all there is: `run_new`.
-/

namespace BindingIndex

namespace Generator

open ClassText

variable {g : Generator} {s : Step} {steps : List Step}

/-- The operations that ask for the class body. -/
def Step.renders : Step → Bool
  | .write _ => true
  | .body => true
  | .setFinal _ => false
  | .setTable _ => false

/-- What an operation gives if the class body is `r`. -/
def Step.reply (r : Except Fault Text) : Step → Option (Except Fault Text)
  | .write packageName => some (r.map (packageHeader packageName ++ ·))
  | .body => some r
  | .setFinal _ => none
  | .setTable _ => none

/-- The generator with what an operation assigns. -/
def assign (g : Generator) : Step → Generator
  | .write _ => g
  | .body => g
  | .setFinal final => { g with useFinal := final }
  | .setTable table => { g with table := table }

/-- The generator with what operations assign, one after another. -/
def assigned (g : Generator) (steps : List Step) : Generator := steps.foldl assign g

/-- What operations give while nothing is kept: a request is answered by the class of the table and
the finality in force. -/
def unkept (g : Generator) : List Step → List (Option (Except Fault Text))
  | [] => []
  | s :: rest => s.reply (classText g.table g.useFinal) :: unkept (g.assign s) rest

/-- Every request finds a fault in the table that is in force when it is made. -/
def Refused (g : Generator) (steps : List Step) : Prop :=
  ∀ before s after, steps = before ++ s :: after → s.renders = true →
    ¬ Sound (g.assigned before).table

@[simp] theorem kept_assign (g : Generator) (s : Step) : (g.assign s).kept = g.kept := by
  cases s <;> rfl

@[simp] theorem kept_assigned (g : Generator) (steps : List Step) :
    (g.assigned steps).kept = g.kept := by
  induction steps generalizing g with
  | nil => rfl
  | cons s steps ih => exact (ih (g.assign s)).trans (kept_assign g s)

theorem assigned_append (g : Generator) (xs ys : List Step) :
    g.assigned (xs ++ ys) = (g.assigned xs).assigned ys := List.foldl_append

theorem assigned_keep (g : Generator) (text : Text) (steps : List Step) :
    assigned { g with kept := some text } steps =
      { g.assigned steps with kept := some text } := by
  induction steps generalizing g with
  | nil => rfl
  | cons s steps ih =>
    have hassign : assign { g with kept := some text } s =
        { g.assign s with kept := some text } := by cases s <;> rfl
    show assigned (assign { g with kept := some text } s) steps = _
    rw [hassign]
    exact ih (g.assign s)

theorem assign_of_renders (g : Generator) (h : s.renders = true) : g.assign s = g := by
  cases s with
  | write p => rfl
  | body => rfl
  | setFinal final => cases h
  | setTable table => cases h

theorem assigned_of_renders (g : Generator) (h : ∀ s ∈ steps, s.renders = true) :
    g.assigned steps = g := by
  induction steps generalizing g with
  | nil => rfl
  | cons s steps ih =>
    show (g.assign s).assigned steps = g
    rw [assign_of_renders g (h s (.head _)), ih g fun r hr => h r (.tail _ hr)]

/-! ## One operation -/

theorem step_kept {text : Text} (h : g.kept = some text) (s : Step) :
    g.step s = (g.assign s, s.reply (.ok text)) := by
  have hbody : g.body = (g, .ok text) := by rw [body, h]
  cases s with
  | write p => rw [step, write, hbody]; rfl
  | body => rw [step, hbody]; rfl
  | setFinal final => rfl
  | setTable table => rfl

theorem step_refused (h : g.kept = none) (hr : s.renders = true → ¬ Sound g.table) :
    g.step s = (g.assign s, s.reply (classText g.table g.useFinal)) := by
  have hbody : ¬ Sound g.table → g.body = (g, classText g.table g.useFinal) := fun hres => by
    obtain ⟨f, hf⟩ := Option.ne_none_iff_exists'.1 (mt firstFault?_eq_none_iff.1 hres)
    rw [body, h]
    dsimp only
    rw [classText_eq_error g.useFinal hf]
  cases s with
  | write p => rw [step, write, hbody (hr rfl)]; rfl
  | body => rw [step, hbody (hr rfl)]; rfl
  | setFinal final => rfl
  | setTable table => rfl

theorem step_first (h : g.kept = none) (hs : s.renders = true) (hr : Sound g.table) :
    g.step s = ({ g with kept := some (bodyText g.table g.useFinal) },
      s.reply (.ok (bodyText g.table g.useFinal))) := by
  have hbody : g.body = ({ g with kept := some (bodyText g.table g.useFinal) },
      .ok (bodyText g.table g.useFinal)) := by
    rw [body, h]
    dsimp only
    rw [classText_eq_bodyText g.useFinal hr]
  cases s with
  | write p => rw [step, write, hbody]; rfl
  | body => rw [step, hbody]; rfl
  | setFinal final => cases hs
  | setTable table => cases hs

/-! ## Runs -/

theorem run_append (g : Generator) (xs ys : List Step) :
    g.run (xs ++ ys) =
      (((g.run xs).1.run ys).1, (g.run xs).2 ++ ((g.run xs).1.run ys).2) := by
  induction xs generalizing g with
  | nil => rfl
  | cons x xs ih => simp only [List.cons_append, run, ih]

theorem run_kept {text : Text} (h : g.kept = some text) (steps : List Step) :
    g.run steps = (g.assigned steps, steps.map (Step.reply (.ok text))) := by
  induction steps generalizing g with
  | nil => rfl
  | cons s steps ih =>
    rw [run, step_kept h]
    dsimp only
    rw [ih ((kept_assign g s).trans h)]
    rfl

theorem Refused.tail (h : Refused g (s :: steps)) : Refused (g.assign s) steps :=
  fun before r after he hr => h (s :: before) r after (congrArg (s :: ·) he) hr

theorem run_refused (h : g.kept = none) (hr : Refused g steps) :
    g.run steps = (g.assigned steps, g.unkept steps) := by
  induction steps generalizing g with
  | nil => rfl
  | cons s steps ih =>
    rw [run, step_refused h fun hs => hr [] s steps rfl hs]
    dsimp only
    rw [ih ((kept_assign g s).trans h) hr.tail]
    rfl

/-- Every request is refused, or there is a first one that is not. -/
theorem refused_or_first (g : Generator) (steps : List Step) :
    Refused g steps ∨ ∃ before s after, steps = before ++ s :: after ∧ Refused g before ∧
      s.renders = true ∧ Sound (g.assigned before).table := by
  induction steps generalizing g with
  | nil => exact .inl fun before s after he => absurd he (by simp)
  | cons s steps ih =>
    by_cases hs : s.renders = true ∧ Sound g.table
    · exact .inr ⟨[], s, steps, rfl, fun before r after he => absurd he (by simp), hs.1, hs.2⟩
    · -- `s` is no success, so it goes in front of what the rest gives
      have hfirst : s.renders = true → ¬ Sound g.table := fun hr hsound => hs ⟨hr, hsound⟩
      have hcons : ∀ {rest}, Refused (g.assign s) rest → Refused g (s :: rest) := by
        intro rest h before r after he hr
        cases before with
        | nil =>
          rw [List.nil_append, List.cons.injEq] at he
          exact hfirst (he.1 ▸ hr)
        | cons b before =>
          rw [List.cons_append, List.cons.injEq] at he
          obtain ⟨rfl, he⟩ := he
          exact h before r after he hr
      rcases ih (g.assign s) with h | ⟨before, r, after, rfl, hb, hr, hres⟩
      · exact .inl (hcons h)
      · exact .inr ⟨s :: before, r, after, rfl, hcons hb, hr, hres⟩

theorem run_first {before : List Step} (h : g.kept = none) (hb : Refused g before)
    (hs : s.renders = true) (hr : Sound (g.assigned before).table) (after : List Step)
    {text : Text}
    (htext : text = bodyText (g.assigned before).table (g.assigned before).useFinal) :
    g.run (before ++ s :: after) =
      ({ g.assigned (before ++ s :: after) with kept := some text },
        g.unkept before ++ (s :: after).map (Step.reply (.ok text))) := by
  have hstep := step_first ((kept_assigned g before).trans h) hs hr
  rw [← htext] at hstep
  have hrest : g.assigned (before ++ s :: after) = (g.assigned before).assigned after := by
    rw [assigned_append]
    show ((g.assigned before).assign s).assigned after = _
    rw [assign_of_renders _ hs]
  rw [run_append, run_refused h hb, run, hstep]
  dsimp only
  rw [run_kept rfl, assigned_keep, hrest]
  rfl

theorem unkept_of_renders (hs : ∀ s ∈ steps, s.renders = true) :
    g.unkept steps = steps.map (Step.reply (classText g.table g.useFinal)) := by
  induction steps with
  | nil => rfl
  | cons s steps ih =>
    rw [unkept, assign_of_renders g (hs s (.head _)), ih fun r hr => hs r (.tail _ hr)]
    rfl

theorem run_of_renders (h : g.kept = none) (hs : ∀ s ∈ steps, s.renders = true) :
    (g.run steps).2 = steps.map (Step.reply (classText g.table g.useFinal)) := by
  by_cases hr : Sound g.table
  · cases steps with
    | nil => rfl
    | cons s steps =>
      have hbefore : Refused g [] := fun before r after he => absurd he (by simp)
      have hrun := run_first h hbefore (hs s (.head _)) hr steps rfl
      rw [List.nil_append] at hrun
      rw [hrun, classText_eq_bodyText g.useFinal hr]
      rfl
  · have hrefused : Refused g steps := by
      rintro before s after rfl -
      rwa [assigned_of_renders g fun r hr => hs r (List.mem_append_left _ hr)]
    rw [run_refused h hrefused, unkept_of_renders hs]

/-- The settings that name a package, as data. -/
def settings (packageName : Text) (final : Bool) : List (Value × Value) :=
  [(.text "package_name", .ofText packageName), (.text "use_final", .bool final)]

/-- **The two phases of a generator.** A table fails for its first fault, and has a class if it has
none. In a run of a new generator either every request meets a table with a fault: each fails, and
nothing is kept. Or a first request meets another table: those before it fail, it gives the class of
the table and finality then in force, and this class answers all later ones, whatever is assigned.
Without assignments every package gets the file that rendering gives, failures included; its
settings are valid if it is Unicode. -/
theorem run_new (names : List Text) (final : Bool) (steps : List Step) :
    (∀ table final f, classText table final = .error f ↔ firstFault? table = some f) ∧
    ((Refused (new names final) steps ∧
        (new names final).run steps =
          ((new names final).assigned steps, (new names final).unkept steps)) ∨
      ∃ before s after text, steps = before ++ s :: after ∧
        Refused (new names final) before ∧ s.renders = true ∧
        Sound ((new names final).assigned before).table ∧
        classText ((new names final).assigned before).table
          ((new names final).assigned before).useFinal = .ok text ∧
        (new names final).run steps =
          ({ (new names final).assigned steps with kept := some text },
            (new names final).unkept before ++ (s :: after).map (Step.reply (.ok text)))) ∧
    ((∀ s ∈ steps, s.renders = true) → ∀ (i : Nat) (packageName : Text),
      steps[i]? = some (.write packageName) →
        ((new names final).run steps).2[i]? =
          some (some (render names ⟨packageName, final⟩)) ∧
        (packageName ≠ [] → (Config.validateGeneration (settings packageName final) =
          .ok ⟨packageName, final⟩ ↔ packageName.IsUnicode))) := by
  have hkept : (new names final).kept = none := rfl
  refine ⟨fun table final f => classText_eq_error_iff final, ?_, fun hs i packageName hi => ?_⟩
  · rcases refused_or_first (new names final) steps with h | ⟨before, s, after, rfl, hb, hs, hr⟩
    · exact .inl ⟨h, run_refused hkept h⟩
    · exact .inr ⟨before, s, after, _, rfl, hb, hs, hr, classText_eq_bodyText _ hr,
        run_first hkept hb hs hr after rfl⟩
  · refine ⟨?_, fun hne => Config.validateGeneration_ofText_ok_iff hne final⟩
    rw [run_of_renders hkept hs, List.getElem?_map, hi]
    rfl

/-- A table without the reserved name that has no class, and a package that has a file but no valid
settings. -/
theorem run_new_exceptions :
    (∀ e ∈ [(⟨"a", (Text.firstTooLong : Int)⟩ : Entry Text Index)], e.name ≠ "_all") ∧
    ((new ["x"] true).run [.setTable [⟨"a", (Text.firstTooLong : Int)⟩], .body]).2 =
      [none, some (.error .tooManyDigits)] ∧
    ((new ["a"] true).run [.write [.surrogate 0x4ff]]).2 =
      [some (.ok (sourceText [⟨"a", 1⟩] ⟨[.surrogate 0x4ff], true⟩))] ∧
    Config.validateGeneration (settings [.surrogate 0x4ff] true) =
      .error ⟨.generation, [⟨[.field "package_name"], .notUtf8, .codes [.surrogate 0x4ff]⟩]⟩ := by
  have hfault : firstFault? [⟨"a", (Text.firstTooLong : Int)⟩] = some .tooManyDigits :=
    firstFault?_firstTooLong (by decide) []
  refine ⟨by decide, by simp only [run, step, body, new, classText_eq_error true hfault], ?_, rfl⟩
  rw [run_of_renders rfl (by decide)]
  have hsound : Sound [⟨"a", 1⟩] := by decide +kernel
  have hbody : classText [⟨"a", 1⟩] true = .ok (bodyText [⟨"a", 1⟩] true) :=
    classText_eq_bodyText true hsound
  exact congrArg (fun r => [Step.reply r (.write [.surrogate 0x4ff])]) hbody

/-- Two packages of one generator, after its class was read. -/
theorem run_new_two_packages :
    (∀ s ∈ [Step.body, .write "a", .write "a.b"], s.renders = true) ∧
    ((new ["x", "_all"] true).run [.body, .write "a", .write "a.b"]).2[2]? =
      some (some (render ["x", "_all"] ⟨"a.b", true⟩)) :=
  have hs : ∀ s ∈ [Step.body, .write "a", .write "a.b"], s.renders = true := by decide
  ⟨hs, ((run_new ["x", "_all"] true _).2.2 hs 2 "a.b" rfl).1⟩

end Generator

end BindingIndex

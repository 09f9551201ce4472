import BindingIndex.Text.Basic

/-!
# Terminal escapes

A control sequence starts with an escape character and an opening bracket; digits, semicolons and
question marks follow, and a letter ends it. Plain output leaves such sequences out.

* `Console.withoutEscapes`: a text without control sequences.
-/

namespace BindingIndex.Console

/-- Can the character stand between the start of a control sequence and its last letter? -/
def isParameter : CodePoint → Bool
  | .char c => c.isDigit || c = ';' || c = '?'
  | .surrogate _ => false

/-- What follows a control sequence whose first character has been read. -/
def afterEscape? : Text → Option Text
  | .char '[' :: rest =>
    match rest.dropWhile isParameter with
    | .char c :: after => if c.isAlpha then some after else none
    | _ => none
  | _ => none

theorem afterEscape?_length {s after : Text} (h : afterEscape? s = some after) :
    after.length < s.length := by
  unfold afterEscape? at h
  split at h
  · rename_i rest
    have hd := (List.dropWhile_sublist isParameter (l := rest)).length_le
    split at h
    · rename_i c a ha
      split at h
      · obtain rfl := by simpa using h
        rw [ha] at hd
        simp only [List.length_cons] at hd ⊢
        omega
      · simp at h
    · simp at h
  · simp at h

def withoutEscapes (s : Text) : Text :=
  match s with
  | [] => []
  | p :: rest =>
    if p = .char '\x1b' then
      match h : afterEscape? rest with
      | some after =>
        have := afterEscape?_length h
        withoutEscapes after
      | none => p :: withoutEscapes rest
    else p :: withoutEscapes rest
termination_by s.length
decreasing_by all_goals (simp only [List.length_cons]; omega)

end BindingIndex.Console

/-!
# Splitting

What is left to say about `List.splitOnP` and `List.splitOn`. Every piece is made of elements of the
list (`mem_of_mem_splitOnP`) that are not in the class (`not_mem_of_mem_splitOnP`), and lists that
are each ended by a separator are the pieces of their join, with an empty one after the last
(`splitOn_ended`).
-/

namespace BindingIndex.Text

variable {α : Type}

theorem of_mem_splitOnP {p : α → Bool} {s piece : List α} (h : piece ∈ s.splitOnP p) :
    ∀ c ∈ piece, c ∈ s ∧ p c = false := by
  induction s generalizing piece with
  | nil =>
    intro c hc
    rw [List.splitOnP_nil, List.mem_singleton] at h
    subst h
    cases hc
  | cons d s ih =>
    intro c hc
    rw [List.splitOnP_cons_eq_if_modifyHead] at h
    split at h
    · rcases List.mem_cons.1 h with rfl | h
      · cases hc
      · exact (ih h c hc).imp_left (.tail _)
    · rename_i hd
      obtain ⟨first, more, hs⟩ := List.exists_cons_of_ne_nil (List.splitOnP_ne_nil p s)
      rw [hs, List.modifyHead_cons] at h
      rw [hs] at ih
      rcases List.mem_cons.1 h with rfl | h
      · rcases List.mem_cons.1 hc with rfl | hc
        · exact ⟨.head _, Bool.eq_false_iff.2 hd⟩
        · exact (ih (.head _) c hc).imp_left (.tail _)
      · exact (ih (.tail _ h) c hc).imp_left (.tail _)

theorem not_mem_of_mem_splitOnP {p : α → Bool} {s piece : List α} (h : piece ∈ s.splitOnP p) :
    ∀ c ∈ piece, p c = false := fun c hc => (of_mem_splitOnP h c hc).2

theorem mem_of_mem_splitOnP {p : α → Bool} {s piece : List α} (h : piece ∈ s.splitOnP p) :
    ∀ c ∈ piece, c ∈ s := fun c hc => (of_mem_splitOnP h c hc).1

variable [DecidableEq α]

theorem not_mem_of_mem_splitOn {sep : α} {s piece : List α} (h : piece ∈ s.splitOn sep) :
    sep ∉ piece := by
  rw [List.splitOn_eq_splitOnP] at h
  exact fun hc => by simpa using not_mem_of_mem_splitOnP h sep hc

theorem mem_of_mem_splitOn {sep : α} {s piece : List α} (h : piece ∈ s.splitOn sep) :
    ∀ c ∈ piece, c ∈ s := by
  rw [List.splitOn_eq_splitOnP] at h
  exact mem_of_mem_splitOnP h

theorem splitOn_ended {sep : α} {lines : List (List α)} (h : ∀ line ∈ lines, sep ∉ line)
    (rest : List α) :
    (lines.flatMap (· ++ [sep]) ++ rest).splitOn sep = lines ++ rest.splitOn sep := by
  induction lines with
  | nil => rfl
  | cons line lines ih =>
    rw [List.flatMap_cons, List.append_assoc, List.append_assoc, List.singleton_append,
      List.splitOn_append_cons_self_of_not_mem (h line (.head _)),
      ih fun l hl => h l (.tail _ hl)]
    rfl

end BindingIndex.Text

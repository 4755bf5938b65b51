/-!
Lists of pairs as tables: the first pair of a key counts. Taking out the pairs of one key leaves what
the others lead to.
-/
namespace ClassAtlas.Association

theorem lookup_filter_of_ne {κ β : Type} [BEq κ] [LawfulBEq κ] {entries : List (κ × β)}
    {key other : κ} (apart : other ≠ key) :
    (entries.filter fun entry => entry.1 != key).lookup other = entries.lookup other := by
  induction entries with
  | nil => rfl
  | cons entry rest ih =>
      obtain ⟨own, value⟩ := entry
      by_cases gone : own = key
      · have differs : (other == own) = false := beq_eq_false_iff_ne.mpr (gone ▸ apart)
        rw [List.filter_cons_of_neg (by simp [gone]), ih, List.lookup_cons, differs]
      · rw [List.filter_cons_of_pos (by simp [gone]), List.lookup_cons, List.lookup_cons, ih]

end ClassAtlas.Association

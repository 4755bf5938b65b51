import ClassAtlas.AnnotatedClass

/-!
What a set of annotated classes lists after a series of insertions: of each declaration the first
class inserted, in the order of these first insertions.
-/
namespace ClassAtlas

theorem AnnotatedClass.eraseDupsBy_same_of_nodup {classes : List AnnotatedClass}
    (distinct : (classes.map place).Nodup) : classes.eraseDupsBy same = classes := by
  induction classes with
  | nil => rfl
  | cons c rest ih =>
      rw [List.map_cons, List.nodup_cons] at distinct
      have others : rest.filter (fun d => d.same c = false) = rest := by
        rw [List.filter_eq_self]
        intro d mem
        have apart : d.place ≠ c.place := fun eq =>
          distinct.1 (eq ▸ List.mem_map_of_mem mem)
        simp [same, apart]
      rw [List.eraseDupsBy_cons, others, ih distinct.2]

namespace ClassSet

theorem add_of_contains {s : ClassSet} {c : AnnotatedClass} (old : s.contains c.place) :
    s.add c = s := by
  rw [add]
  exact dif_pos old

theorem toList_add_of_not_contains {s : ClassSet} {c : AnnotatedClass}
    (new : s.contains c.place = false) : (s.add c).toList = s.toList ++ [c] := by
  rw [add, dif_neg (by simp [new])]
  rfl

theorem contains_eq_any_toList (s : ClassSet) (place : Place) :
    s.contains place = s.toList.any (·.place == place) := rfl

/-- Of the classes added in turn, those appear whose declaration was there neither before nor by
an earlier one of them. -/
theorem toList_addAll (s : ClassSet) (classes : List AnnotatedClass) :
    (s.addAll classes).toList =
      s.toList ++ (classes.filter fun c => !s.contains c.place).eraseDupsBy AnnotatedClass.same := by
  induction classes generalizing s with
  | nil => simp [addAll]
  | cons c rest ih =>
      change ((s.add c).addAll rest).toList = _
      rw [ih (s.add c)]
      cases old : s.contains c.place with
      | true =>
          rw [add_of_contains old, List.filter_cons_of_neg (by simp [old])]
      | false =>
          have kept : ∀ d : AnnotatedClass, (!(s.add c).contains d.place) =
              (decide (d.same c = false) && !s.contains d.place) := by
            intro d
            rw [contains_eq_any_toList, toList_add_of_not_contains old, List.any_append,
              ← contains_eq_any_toList]
            by_cases eq : d.place = c.place
            · simp [AnnotatedClass.same, eq]
            · simp [AnnotatedClass.same, eq, Ne.symm eq]
          rw [toList_add_of_not_contains old, List.filter_cons_of_pos (by simp [old]),
            List.eraseDupsBy_cons, List.filter_filter, List.append_assoc, List.singleton_append]
          simp only [kept]

theorem toList_ofList (classes : List AnnotatedClass) :
    (ofList classes).toList = classes.eraseDupsBy AnnotatedClass.same := by
  have all : classes.filter (fun c => !empty.contains c.place) = classes := by
    rw [List.filter_eq_self]
    intro c _
    rfl
  change (empty.addAll classes).toList = _
  rw [toList_addAll, all]
  rfl

theorem mem_of_mem_toList_addAll {s : ClassSet} {classes : List AnnotatedClass} {c : AnnotatedClass}
    (mem : c ∈ (s.addAll classes).toList) : c ∈ s.toList ∨ c ∈ classes := by
  induction classes generalizing s with
  | nil => exact .inl mem
  | cons d rest ih =>
      rcases ih (s := s.add d) mem with mem | mem
      · cases old : s.contains d.place with
        | true =>
            rw [add_of_contains old] at mem
            exact .inl mem
        | false =>
            rw [toList_add_of_not_contains old, List.mem_append, List.mem_singleton] at mem
            exact mem.imp_right fun same => List.mem_cons.mpr (.inl same)
      · exact .inr (List.mem_cons_of_mem d mem)

theorem mem_of_mem_toList_ofList {classes : List AnnotatedClass} {c : AnnotatedClass}
    (mem : c ∈ (ofList classes).toList) : c ∈ classes :=
  (mem_of_mem_toList_addAll mem).resolve_left List.not_mem_nil

theorem contains_add {s : ClassSet} {c : AnnotatedClass} {place : Place} :
    (s.add c).contains place ↔ s.contains place ∨ c.place = place := by
  cases old : s.contains c.place with
  | true =>
      rw [add_of_contains old]
      refine ⟨.inl, ?_⟩
      rintro (held | rfl)
      · exact held
      · exact old
  | false =>
      rw [contains_eq_any_toList, toList_add_of_not_contains old, List.any_append,
        ← contains_eq_any_toList]
      simp

theorem contains_addAll {s : ClassSet} {classes : List AnnotatedClass} {place : Place} :
    (s.addAll classes).contains place ↔
      s.contains place ∨ place ∈ classes.map AnnotatedClass.place := by
  induction classes generalizing s with
  | nil => simp [addAll]
  | cons c rest ih =>
      change ((s.add c).addAll rest).contains place ↔ _
      rw [ih, contains_add, List.map_cons, List.mem_cons, or_assoc, eq_comm (a := c.place)]

theorem contains_ofList {classes : List AnnotatedClass} {place : Place} :
    (ofList classes).contains place ↔ place ∈ classes.map AnnotatedClass.place := by
  rw [ofList, contains_addAll]
  simp [contains, empty]

/-- Classes of different declarations are listed as they stand, whatever follows them. -/
theorem toList_ofList_append {first : List AnnotatedClass} (others : List AnnotatedClass)
    (distinct : (first.map AnnotatedClass.place).Nodup) :
    (ofList (first ++ others)).toList =
      first ++ (others.filter fun c => c.place ∉ first.map AnnotatedClass.place).eraseDupsBy
        AnnotatedClass.same := by
  have listed : (ofList first).toList = first := by
    rw [toList_ofList, AnnotatedClass.eraseDupsBy_same_of_nodup distinct]
  have split : ofList (first ++ others) = (ofList first).addAll others := by
    simp only [ofList, addAll]
    rw [List.foldl_append]
  have new : ∀ c : AnnotatedClass, (!(ofList first).contains c.place) =
      decide (c.place ∉ first.map AnnotatedClass.place) := by
    intro c
    have held := contains_iff (ofList first) c.place
    rw [show (ofList first).classes = first from listed] at held
    rw [Bool.eq_iff_iff, Bool.not_eq_true', ← Bool.not_eq_true, held, decide_eq_true_iff]
  rw [split, toList_addAll, listed]
  simp only [new]

end ClassSet
end ClassAtlas

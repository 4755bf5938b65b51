import Mathlib.Data.List.Forall2

/-!
Going through a list with a function that may fail: all results in order, or the failure of the
first item that has none.
-/
namespace ClassAtlas.FirstFailure

variable {ε α β : Type} {f : α → Except ε β}

theorem mapM_eq_ok_iff {xs : List α} {ys : List β} :
    xs.mapM f = .ok ys ↔ List.Forall₂ (fun x y => f x = .ok y) xs ys := by
  induction xs generalizing ys with
  | nil =>
      rw [List.mapM_nil, List.forall₂_nil_left_iff]
      exact ⟨fun h => (Except.ok.inj h).symm, fun h => h ▸ rfl⟩
  | cons x rest ih =>
      rw [List.mapM_cons, List.forall₂_cons_left_iff]
      cases head : f x with
      | error e =>
          constructor
          · intro h
            cases h
          · rintro ⟨y, ys', same, _⟩
            cases same
      | ok y =>
          cases tail : rest.mapM f with
          | error e =>
              constructor
              · intro h
                cases h
              · rintro ⟨y', ys', _, all, _⟩
                cases tail.symm.trans (ih.mpr all)
          | ok ys' =>
              constructor
              · intro h
                cases h
                exact ⟨y, ys', rfl, ih.mp tail, rfl⟩
              · rintro ⟨z, zs, same, all, rfl⟩
                cases same
                cases tail.symm.trans (ih.mpr all)
                rfl

theorem mapM_eq_error_iff {xs : List α} {e : ε} :
    xs.mapM f = .error e ↔ ∃ before x after, xs = before ++ x :: after ∧
      (∀ b ∈ before, ∃ y, f b = .ok y) ∧ f x = .error e := by
  induction xs with
  | nil =>
      constructor
      · intro h
        cases h
      · rintro ⟨before, x, after, split, _⟩
        simp at split
  | cons x rest ih =>
      rw [List.mapM_cons]
      constructor
      · intro h
        cases head : f x with
        | error e' =>
            rw [head] at h
            cases h
            exact ⟨[], x, rest, rfl, by simp, head⟩
        | ok y =>
            rw [head] at h
            cases tail : rest.mapM f with
            | ok ys =>
                rw [tail] at h
                cases h
            | error e' =>
                rw [tail] at h
                cases h
                obtain ⟨before, z, after, split, sound, failed⟩ := ih.mp tail
                refine ⟨x :: before, z, after, by rw [split, List.cons_append], ?_, failed⟩
                exact List.forall_mem_cons.mpr ⟨⟨y, head⟩, sound⟩
      · rintro ⟨before, z, after, split, sound, failed⟩
        cases before with
        | nil =>
            cases split
            rw [failed]
            rfl
        | cons b before =>
            cases split
            obtain ⟨⟨y, head⟩, sound⟩ := List.forall_mem_cons.mp sound
            rw [head, ih.mpr ⟨before, z, after, rfl, sound, failed⟩]
            rfl

theorem exists_ok_of_mem {xs : List α} {ys : List β} {x : α} (done : xs.mapM f = .ok ys)
    (mem : x ∈ xs) : ∃ y, f x = .ok y := by
  have each := mapM_eq_ok_iff.mp done
  clear done
  induction each with
  | nil => cases mem
  | cons head _ ih =>
      rcases List.mem_cons.mp mem with rfl | mem
      · exact ⟨_, head⟩
      · exact ih mem

theorem exists_mapM_eq_error_iff {xs : List α} :
    (∃ e, xs.mapM f = .error e) ↔ ∃ x ∈ xs, ∃ e, f x = .error e := by
  constructor
  · rintro ⟨e, failed⟩
    obtain ⟨before, x, after, split, _, failed⟩ := mapM_eq_error_iff.mp failed
    exact ⟨x, by simp [split], e, failed⟩
  · rintro ⟨x, mem, e, failed⟩
    cases result : xs.mapM f with
    | error e' => exact ⟨e', rfl⟩
    | ok ys =>
        obtain ⟨y, done⟩ := exists_ok_of_mem result mem
        cases failed.symm.trans done

theorem mapError_eq_ok_iff {ε' : Type} {g : ε → ε'} {x : Except ε α} {a : α} :
    x.mapError g = .ok a ↔ x = .ok a := by
  cases x with
  | error e => exact ⟨nofun, nofun⟩
  | ok b =>
      constructor
      · intro done
        exact congrArg Except.ok (Except.ok.inj done)
      · intro same
        exact congrArg Except.ok (Except.ok.inj same)

theorem mapError_eq_error_iff {ε' : Type} {g : ε → ε'} {x : Except ε α} {e' : ε'} :
    x.mapError g = .error e' ↔ ∃ e, x = .error e ∧ g e = e' := by
  cases x with
  | error e => simp [Except.mapError]
  | ok a => simp [Except.mapError]

theorem bind_eq_ok_iff {x : Except ε α} {g : α → Except ε β} {b : β} :
    x >>= g = .ok b ↔ ∃ a, x = .ok a ∧ g a = .ok b := by
  cases x <;> simp [bind, Except.bind]

theorem bind_eq_error_iff {x : Except ε α} {g : α → Except ε β} {e : ε} :
    x >>= g = .error e ↔ x = .error e ∨ ∃ a, x = .ok a ∧ g a = .error e := by
  cases x <;> simp [bind, Except.bind]

theorem eq_ok_of_toOption {x : Except ε α} {a : α} (done : x.toOption = some a) : x = .ok a := by
  cases x with
  | error e => cases done
  | ok b => exact congrArg Except.ok (Option.some.inj done)

/-- The failure of a result, as a value that can be compared. -/
def failure? : Except ε α → Option ε
  | .ok _ => none
  | .error e => some e

theorem eq_error_of_failure? {x : Except ε α} {e : ε} (failed : failure? x = some e) :
    x = .error e := by
  cases x with
  | ok a => cases failed
  | error e' => exact congrArg Except.error (Option.some.inj failed)

end ClassAtlas.FirstFailure

import ClassAtlas.Check

/-!
Checks that pass. A combined check passes exactly when its parts do, with the combination of what
they pass.
-/
namespace ClassAtlas.Check

variable {α β : Type}

theorem map_eq_pass_iff {f : α → β} {c : Check α} {b : β} :
    f <$> c = .pass b ↔ ∃ a, c = .pass a ∧ f a = b := by
  cases c with
  | pass a => simp [Functor.map, map]
  | fail issues => simp [Functor.map, map]

theorem seq_eq_pass_iff {f : Check (α → β)} {c : Check α} {b : β} :
    f <*> c = .pass b ↔ ∃ g a, f = .pass g ∧ c = .pass a ∧ g a = b := by
  cases f <;> cases c <;> simp [Seq.seq, both]

theorem refuse_ne_pass (cause : Cause) (a : α) : refuse cause ≠ .pass a := by
  intro same
  cases same

theorem under_eq_pass_iff {step : Step} {c : Check α} {a : α} :
    c.under step = .pass a ↔ c = .pass a := by
  cases c <;> simp [under]

theorem toExcept_eq_ok_iff {c : Check α} {a : α} : c.toExcept = .ok a ↔ c = .pass a := by
  cases c <;> simp [toExcept]

theorem alongside_eq_pass_iff {c : Check α} {others : List Issue} {a : α} :
    c.alongside others = .pass a ↔ others = [] ∧ c = .pass a := by
  cases c <;> cases others <;> simp [alongside]

theorem required_eq_pass_iff {key : String} {check : Value → Check α} {entries : Entries} {a : α} :
    required key check entries = .pass a ↔
      ∃ v, Value.field? key entries = some v ∧ check v = .pass a := by
  rw [required]
  cases Value.field? key entries with
  | none => simp [under_eq_pass_iff, refuse_ne_pass]
  | some v => simp [under_eq_pass_iff]

theorem optional_eq_pass_iff {key : String} {default : α} {check : Value → Check α}
    {entries : Entries} {a : α} : optional key default check entries = .pass a ↔
      (Value.field? key entries = none ∧ default = a) ∨
        ∃ v, Value.field? key entries = some v ∧ check v = .pass a := by
  rw [optional]
  cases Value.field? key entries with
  | none => simp
  | some v => simp [under_eq_pass_iff]

/-- The items of a list that passes have passed themselves. -/
theorem exists_of_itemsFrom {check : Value → Check α} {index : Nat} {items : List Value}
    {as : List α} (passed : itemsFrom check index items = .pass as) :
    ∀ a ∈ as, ∃ v, check v = .pass a := by
  induction items generalizing index as with
  | nil =>
      cases passed
      simp
  | cons v rest ih =>
      obtain ⟨g, more, head, tail, rfl⟩ := seq_eq_pass_iff.mp passed
      obtain ⟨a, first, rfl⟩ := map_eq_pass_iff.mp head
      exact List.forall_mem_cons.mpr ⟨⟨v, under_eq_pass_iff.mp first⟩, ih tail⟩

theorem exists_of_listOf {check : Value → Check α} {v : Value} {as : List α}
    (passed : listOf check v = .pass as) : ∀ a ∈ as, ∃ v, check v = .pass a := by
  rw [listOf] at passed
  split at passed
  case h_4 => cases passed
  all_goals exact exists_of_itemsFrom passed

theorem closedRecord_eq_pass_iff {fields : List String} {check : Entries → Check α} {v : Value}
    {a : α} : closedRecord fields check v = .pass a ↔ ∃ entries, v.opened = .map entries ∧
      strayKeys fields entries = [] ∧ check entries = .pass a := by
  rw [closedRecord]
  split
  case h_1 entries opened =>
    rw [alongside_eq_pass_iff]
    constructor
    · exact fun passed => ⟨entries, opened, passed⟩
    · intro ⟨entries', opened', passed⟩
      rw [opened] at opened'
      cases opened'
      exact passed
  case h_2 other =>
    constructor
    · intro passed
      cases passed
    · intro ⟨entries, opened, _⟩
      exact absurd opened (other entries)

end ClassAtlas.Check

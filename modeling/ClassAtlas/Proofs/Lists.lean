import Mathlib.Data.List.Forall2

/-!
Facts about lists that several developments need: the last item of a key, entries of different
keys, the first item with a property, lists that correspond item by item, the positions of the items
that a filter keeps, and the bytes of a text as a list.
-/
namespace ClassAtlas

/-- A list with a member of some key has a last one of that key. -/
theorem exists_last_of_key {α κ : Type} (key : α → κ) {xs : List α} {x : α} (mem : x ∈ xs) :
    ∃ before y after, xs = before ++ y :: after ∧ key y = key x ∧ ∀ z ∈ after, key z ≠ key x := by
  induction xs generalizing x with
  | nil => cases mem
  | cons first rest ih =>
      by_cases later : ∃ z ∈ rest, key z = key x
      · obtain ⟨z, listed, same⟩ := later
        obtain ⟨before, y, after, rfl, alike, last⟩ := ih listed
        rw [same] at alike last
        exact ⟨first :: before, y, after, rfl, alike, last⟩
      · have none : ∀ z ∈ rest, key z ≠ key x := fun z listed same => later ⟨z, listed, same⟩
        rcases List.mem_cons.mp mem with rfl | listed
        · exact ⟨[], x, rest, rfl, rfl, none⟩
        · exact absurd rfl (none x listed)

/-- Entries of different keys are kept as they come, where a new key is put behind the others. -/
theorem foldl_put_eq_append {κ β : Type} {put : κ → β → List (κ × β) → List (κ × β)}
    (behind : ∀ {key : κ} {kept : List (κ × β)}, key ∉ kept.map Prod.fst →
      ∀ v, put key v kept = kept ++ [(key, v)])
    {entries kept : List (κ × β)} (distinct : ((kept ++ entries).map Prod.fst).Nodup) :
    entries.foldl (fun kept (key, v) => put key v kept) kept = kept ++ entries := by
  induction entries generalizing kept with
  | nil => rw [List.foldl_nil, List.append_nil]
  | cons entry rest ih =>
      obtain ⟨key, v⟩ := entry
      have new : key ∉ kept.map Prod.fst := by
        rw [List.map_append, List.nodup_append] at distinct
        intro mem
        exact distinct.2.2 key mem key List.mem_cons_self rfl
      rw [List.foldl_cons]
      dsimp only
      rw [behind new, ih (by simpa using distinct), List.append_assoc, List.singleton_append]

/-- An item with a property, and before it none with that property. -/
def IsFirst {α : Type} (holds : α → Prop) (xs : List α) (x : α) : Prop :=
  ∃ before after, xs = before ++ x :: after ∧ holds x ∧ ∀ y ∈ before, ¬ holds y

theorem find?_eq_some_iff_isFirst {α : Type} {test : α → Bool} {holds : α → Prop} {xs : List α}
    {x : α} (decides : ∀ y, test y = true ↔ holds y) :
    xs.find? test = some x ↔ IsFirst holds xs x := by
  rw [List.find?_eq_some_iff_append, decides]
  constructor
  · rintro ⟨found, before, after, split, none⟩
    refine ⟨before, after, split, found, fun y mem held => ?_⟩
    simpa [(decides y).mpr held] using none y mem
  · rintro ⟨before, after, split, found, none⟩
    refine ⟨found, before, after, split, fun y mem => ?_⟩
    rw [Bool.not_eq_true', Bool.eq_false_iff, Ne, decides]
    exact none y mem

theorem find?_eq_none_iff_forall_not {α : Type} {test : α → Bool} {holds : α → Prop}
    {xs : List α} (decides : ∀ y, test y = true ↔ holds y) :
    xs.find? test = none ↔ ∀ y ∈ xs, ¬ holds y := by
  rw [List.find?_eq_none]
  exact forall₂_congr fun y _ => not_congr (decides y)

/-- What a filter keeps stands at increasing positions, those of the items that pass. -/
theorem exists_positions_of_filter {α : Type} (test : α → Bool) (xs : List α) :
    ∃ positions : List Nat, positions.Pairwise (· < ·) ∧
      (∀ i, i ∈ positions ↔ ∃ x, xs[i]? = some x ∧ test x = true) ∧
      List.Forall₂ (fun i x => xs[i]? = some x) positions (xs.filter test) := by
  refine ⟨xs.findIdxs test, List.pairwise_findIdxs, fun i => ?_, ?_⟩
  · rw [List.mem_findIdxs_iff_exists_getElem_pos]
    constructor
    · rintro ⟨inside, passes⟩
      exact ⟨xs[i], List.getElem?_eq_getElem inside, passes⟩
    · rintro ⟨x, there, passes⟩
      obtain ⟨inside, rfl⟩ := List.getElem?_eq_some_iff.mp there
      exact ⟨inside, passes⟩
  · rw [List.forall₂_iff_get]
    refine ⟨by rw [List.length_findIdxs, List.countP_eq_length_filter], fun i _ inside => ?_⟩
    rw [List.get_eq_getElem, List.get_eq_getElem,
      List.getElem_filter_eq_getElem_getElem_findIdxs inside]
    exact List.getElem?_eq_getElem _

theorem exists_of_mem_of_forall₂ {α β : Type} {R : α → β → Prop} {xs : List α} {ys : List β}
    (each : List.Forall₂ R xs ys) {y : β} (mem : y ∈ ys) : ∃ x ∈ xs, R x y := by
  induction each with
  | nil => cases mem
  | @cons x _ xs ys first _ ih =>
      rcases List.mem_cons.mp mem with rfl | mem
      · exact ⟨x, List.mem_cons_self, first⟩
      · obtain ⟨z, listed, related⟩ := ih mem
        exact ⟨z, List.mem_cons_of_mem x listed, related⟩

/-- Corresponding lists correspond at each position, also at one beyond their end. -/
theorem rel_getElem?_of_forall₂ {α β : Type} {R : α → β → Prop} {xs : List α} {ys : List β}
    (each : List.Forall₂ R xs ys) (i : Nat) : Option.Rel R xs[i]? ys[i]? := by
  induction each generalizing i with
  | nil => exact .none
  | cons first _ ih =>
      cases i with
      | zero => exact .some first
      | succ i => exact ih i

theorem isEmpty_eq_of_forall₂ {α β : Type} {R : α → β → Prop} {xs : List α} {ys : List β}
    (each : List.Forall₂ R xs ys) : xs.isEmpty = ys.isEmpty := by
  cases each <;> rfl

theorem toListLoop_eq (bytes : ByteArray) (i : Nat) (read : List UInt8) :
    ByteArray.toList.loop bytes i read = read.reverse ++ bytes.data.toList.drop i := by
  fun_induction ByteArray.toList.loop bytes i read with
  | case1 i read below ih =>
      have inside : i < bytes.data.toList.length := below
      have byte : bytes.get! i = bytes.data.toList[i] := by
        change bytes.data[i]! = _
        rw [getElem!_pos bytes.data i below, Array.getElem_toList]
      rw [ih, List.drop_eq_getElem_cons inside, byte]
      simp
  | case2 i read out =>
      have outside : bytes.data.toList.length ≤ i := Nat.le_of_not_lt out
      rw [List.drop_eq_nil_of_le outside, List.append_nil]

theorem toList_eq_data (bytes : ByteArray) : bytes.toList = bytes.data.toList := by
  rw [ByteArray.toList, toListLoop_eq]
  rfl

/-- Texts with the same bytes are the same. -/
theorem bytes_inj {text text' : String} :
    text.toUTF8.toList = text'.toUTF8.toList ↔ text = text' := by
  rw [toList_eq_data, toList_eq_data, Array.toList_inj, ← ByteArray.ext_iff,
    String.toUTF8_eq_toByteArray, String.toUTF8_eq_toByteArray, String.toByteArray_inj]

theorem fromUTF8?_eq_some_iff {bytes : ByteArray} {text : String} :
    String.fromUTF8? bytes = some text ↔ bytes = text.toUTF8 := by
  rw [String.fromUTF8?]
  split
  case isTrue valid => rw [Option.some.injEq, ← String.toByteArray_inj]; rfl
  case isFalse invalid =>
    refine ⟨nofun, ?_⟩
    rintro rfl
    exact absurd text.isValidUTF8 invalid

end ClassAtlas

import ClassAtlas.Proofs.JsonString
import ClassAtlas.Proofs.Lists

/-!
Written JSON text is read back as the value it was written for, as long as the reader admits its
nesting. The length of a written value bounds the steps its reading takes, so that no text is too
long to be read.
-/
namespace ClassAtlas.Json

open Writer Text

/-- Values without numbers, whose collections nest within a depth and name each member once. -/
inductive Within : Nat → Json → Prop where
  | null (n : Nat) : Within n .null
  | bool (n : Nat) (b : Bool) : Within n (.bool b)
  | str (n : Nat) (s : String) : Within n (.str s)
  | arr {n : Nat} {items : List Json} (each : ∀ v ∈ items, Within n v) : Within (n + 1) (.arr items)
  | obj {n : Nat} {members : List (String × Json)} (distinct : (members.map Prod.fst).Nodup)
      (each : ∀ m ∈ members, Within n m.2) : Within (n + 1) (.obj members)

theorem Within.mono {n m : Nat} {v : Json} (within : Within n v) (le : n ≤ m) : Within m v := by
  induction within generalizing m with
  | null => exact .null m
  | bool _ b => exact .bool m b
  | str _ s => exact .str m s
  | arr _ ih =>
      obtain ⟨m, rfl⟩ := Nat.exists_eq_add_of_lt le
      exact .arr fun v mem => ih v mem (by omega)
  | obj distinct _ ih =>
      obtain ⟨m, rfl⟩ := Nat.exists_eq_add_of_lt le
      exact .obj distinct fun v mem => ih v mem (by omega)

/-- What is written for a value is read at a depth as this value, whatever follows it. -/
def Reads (limit depth : Nat) (v : Json) : Prop :=
  ∀ fuel rest, (Writer.value v).length ≤ fuel →
    Reader.value limit depth fuel (Writer.value v ++ rest) = .ok (v, rest)

section Reading

variable {limit depth : Nat}

/-- A written value starts with no blank and with no bracket that closes. -/
theorem value_eq_cons (v : Json) (n : Nat) (within : Within n v) :
    ∃ c text, Writer.value v = c :: text ∧ Reader.isBlank c = false ∧ c ≠ ']' := by
  cases within with
  | null => exact ⟨'n', _, rfl, rfl, by decide⟩
  | bool _ b => cases b <;> exact ⟨_, _, rfl, rfl, by decide⟩
  | str => exact ⟨'"', _, rfl, rfl, by decide⟩
  | @arr _ items => cases items <;> exact ⟨'[', _, rfl, rfl, by decide⟩
  | @obj _ members => cases members <;> exact ⟨'\x7b', _, rfl, rfl, by decide⟩

/-- A reading takes its first step because no value is written as nothing. -/
theorem Reads.of_succ {n : Nat} {v : Json} (within : Within n v)
    (step : ∀ fuel rest, (Writer.value v).length ≤ fuel + 1 →
      Reader.value limit depth (fuel + 1) (Writer.value v ++ rest) = .ok (v, rest)) :
    Reads limit depth v := by
  intro fuel rest enough
  cases fuel with
  | zero =>
      obtain ⟨c, text, starts, _⟩ := value_eq_cons v n within
      rw [starts] at enough
      cases enough
  | succ fuel => exact step fuel rest enough

theorem reads_null : Reads limit depth .null := by
  refine .of_succ (.null 0) ?_
  intro fuel rest _
  rfl

theorem reads_bool (b : Bool) : Reads limit depth (.bool b) := by
  refine .of_succ (.bool 0 b) ?_
  intro fuel rest _
  cases b <;> rfl

theorem string_append (s : String) (rest : List Char) :
    Writer.string s ++ rest = '"' :: (s.toList.flatMap escaped ++ '"' :: rest) := by
  simp [Writer.string]

theorem reads_str (s : String) : Reads limit depth (.str s) := by
  refine .of_succ (.str 0 s) ?_
  intro fuel rest _
  simp only [Writer.value, string_append, Reader.value, string_read]
  rfl

theorem skipBlanks_cons {c : Char} (text : List Char) (solid : Reader.isBlank c = false) :
    Reader.skipBlanks (c :: text) = c :: text :=
  List.dropWhile_cons_of_neg (by simp [solid])

theorem skipBlanks_value {n : Nat} {v : Json} (within : Within n v) (rest : List Char) :
    Reader.skipBlanks (Writer.value v ++ rest) = Writer.value v ++ rest := by
  obtain ⟨c, text, starts, solid, _⟩ := value_eq_cons v n within
  rw [starts, List.cons_append, skipBlanks_cons _ solid]

section Steps

variable {fuel : Nat} {name : String} {v : Json} {text more rest : List Char}

theorem items_last (read : Reader.value limit depth fuel text = .ok (v, ']' :: rest)) :
    Reader.items limit depth (fuel + 1) text = .ok ([v], rest) := by
  rw [Reader.items, read]
  rfl

theorem items_cons {vs : List Json} (read : Reader.value limit depth fuel text = .ok (v, ',' :: more))
    (others : Reader.items limit depth fuel (Reader.skipBlanks more) = .ok (vs, rest)) :
    Reader.items limit depth (fuel + 1) text = .ok (v :: vs, rest) := by
  rw [Reader.items, read]
  simp only [bind, Except.bind, skipBlanks_cons more (show Reader.isBlank ',' = false from rfl)]
  rw [others]
  rfl

theorem members_last (named : Reader.string text = some (name, ':' :: more))
    (read : Reader.value limit depth fuel (Reader.skipBlanks more) = .ok (v, '\x7d' :: rest)) :
    Reader.members limit depth (fuel + 1) ('"' :: text) = .ok ([(name, v)], rest) := by
  rw [Reader.members, named]
  simp only [bind, Except.bind, Reader.expected,
    skipBlanks_cons more (show Reader.isBlank ':' = false from rfl)]
  rw [read]
  rfl

theorem members_cons {others : List Char} {ms : List (String × Json)}
    (named : Reader.string text = some (name, ':' :: more))
    (read : Reader.value limit depth fuel (Reader.skipBlanks more) = .ok (v, ',' :: others))
    (last : Reader.members limit depth fuel (Reader.skipBlanks others) = .ok (ms, rest)) :
    Reader.members limit depth (fuel + 1) ('"' :: text) = .ok ((name, v) :: ms, rest) := by
  rw [Reader.members, named]
  simp only [bind, Except.bind, Reader.expected,
    skipBlanks_cons more (show Reader.isBlank ':' = false from rfl)]
  rw [read]
  simp only [skipBlanks_cons others (show Reader.isBlank ',' = false from rfl)]
  rw [last]
  rfl

theorem enter_eq_ok (below : depth < limit) : Reader.enter limit depth = .ok () := if_pos below

theorem value_arr {c : Char} {vs : List Json} (below : depth < limit)
    (solid : Reader.isBlank c = false) (nonempty : c ≠ ']')
    (read : Reader.items limit (depth + 1) fuel (c :: text) = .ok (vs, rest)) :
    Reader.value limit depth (fuel + 1) ('[' :: c :: text) = .ok (.arr vs, rest) := by
  rw [Reader.value, enter_eq_ok below, skipBlanks_cons text solid]
  simp only [bind, Except.bind]
  split
  next first => exact absurd (List.cons.inj first).1 nonempty
  next =>
    rw [read]
    rfl

theorem value_obj {ms : List (String × Json)} (below : depth < limit)
    (read : Reader.members limit (depth + 1) fuel ('"' :: text) = .ok (ms, rest)) :
    Reader.value limit depth (fuel + 1) ('\x7b' :: '"' :: text) =
      .ok (.obj (ms.foldl (fun kept (name, v) => put name v kept) []), rest) := by
  rw [Reader.value, enter_eq_ok below, skipBlanks_cons text (show Reader.isBlank '"' = false from rfl)]
  simp only [bind, Except.bind]
  split
  next first => cases (List.cons.inj first).1
  next =>
    rw [read]
    rfl

end Steps

theorem moreItems_cons_append (v : Json) (vs : List Json) (rest : List Char) :
    moreItems (v :: vs) ++ rest = ',' :: (Writer.value v ++ (moreItems vs ++ rest)) := by
  simp [moreItems]

theorem moreMembers_cons_append (name : String) (v : Json) (ms : List (String × Json))
    (rest : List Char) : moreMembers ((name, v) :: ms) ++ rest =
      ',' :: (Writer.string name ++ ':' :: (Writer.value v ++ (moreMembers ms ++ rest))) := by
  simp [moreMembers]

theorem items_read {n : Nat} (vs : List Json) (v : Json) (first : Reads limit depth v)
    (others : ∀ w ∈ vs, Within n w ∧ Reads limit depth w) (fuel : Nat) (rest : List Char)
    (enough : (Writer.value v ++ moreItems vs).length ≤ fuel) :
    Reader.items limit depth fuel (Writer.value v ++ (moreItems vs ++ rest)) =
      .ok (v :: vs, rest) := by
  induction vs generalizing v fuel with
  | nil =>
      cases fuel with
      | zero => simp [moreItems] at enough
      | succ fuel =>
          simp only [moreItems, List.length_append, List.length_singleton] at enough
          exact items_last (first fuel _ (by omega))
  | cons w ws ih =>
      obtain ⟨⟨within, second⟩, others⟩ := List.forall_mem_cons.mp others
      cases fuel with
      | zero => simp [moreItems] at enough
      | succ fuel =>
          simp only [moreItems, List.length_append, List.length_cons] at enough
          rw [moreItems_cons_append]
          refine items_cons (first fuel _ (by omega)) ?_
          rw [skipBlanks_value within]
          exact ih w second others fuel (by simp only [List.length_append]; omega)

theorem members_read {n : Nat} (ms : List (String × Json)) (name : String) (v : Json)
    (first : Within n v ∧ Reads limit depth v)
    (others : ∀ m ∈ ms, Within n m.2 ∧ Reads limit depth m.2) (fuel : Nat) (rest : List Char)
    (enough : (Writer.string name ++ ':' :: Writer.value v ++ moreMembers ms).length ≤ fuel) :
    Reader.members limit depth fuel
        (Writer.string name ++ (':' :: (Writer.value v ++ (moreMembers ms ++ rest)))) =
      .ok ((name, v) :: ms, rest) := by
  obtain ⟨within, first⟩ := first
  induction ms generalizing name v fuel with
  | nil =>
      cases fuel with
      | zero => simp [moreMembers] at enough
      | succ fuel =>
          simp only [moreMembers, List.length_append, List.length_cons] at enough
          rw [string_append]
          refine members_last (string_read name _) ?_
          rw [skipBlanks_value within]
          exact first fuel _ (by omega)
  | cons m ms ih =>
      obtain ⟨name', v'⟩ := m
      obtain ⟨⟨following, second⟩, others⟩ := List.forall_mem_cons.mp others
      cases fuel with
      | zero => simp [moreMembers] at enough
      | succ fuel =>
          simp only [moreMembers, List.length_append, List.length_cons] at enough
          rw [string_append, moreMembers_cons_append]
          refine members_cons (string_read name _)
            ((congrArg _ (skipBlanks_value within _)).trans (first fuel _ (by omega))) ?_
          have quoted : ∀ text, Reader.skipBlanks (Writer.string name' ++ text) =
              Writer.string name' ++ text := fun text => skipBlanks_cons _ rfl
          rw [quoted]
          refine ih name' v' others fuel ?_ following second
          simp only [List.length_append, List.length_cons]
          omega

theorem reads_arr {n : Nat} {items : List Json} (below : depth < limit)
    (each : ∀ v ∈ items, Within n v ∧ Reads limit (depth + 1) v) :
    Reads limit depth (.arr items) := by
  refine .of_succ (.arr fun v mem => (each v mem).1) ?_
  intro fuel rest enough
  cases items with
  | nil =>
      simp only [Writer.value, List.cons_append, List.nil_append]
      rw [Reader.value, enter_eq_ok below]
      rfl
  | cons v vs =>
      obtain ⟨⟨within, first⟩, others⟩ := List.forall_mem_cons.mp each
      obtain ⟨c, text, starts, solid, nonempty⟩ := value_eq_cons v n within
      simp only [Writer.value, List.length_cons, List.cons_append] at enough
      have read := items_read vs v first others fuel rest (by omega)
      rw [starts, List.cons_append] at read
      simp only [Writer.value, starts, List.cons_append, List.append_assoc]
      exact value_arr below solid nonempty read

theorem put_of_not_mem {name : String} {ms : List (String × Json)}
    (new : name ∉ ms.map Prod.fst) (v : Json) : put name v ms = ms ++ [(name, v)] := by
  induction ms with
  | nil => rfl
  | cons m ms ih =>
      obtain ⟨other, w⟩ := m
      rw [List.map_cons, List.mem_cons, not_or] at new
      rw [put, if_neg (Ne.symm new.1), ih new.2, List.cons_append]

/-- Members of different names are kept as they come. -/
theorem foldl_put_of_nodup {ms kept : List (String × Json)}
    (distinct : ((kept ++ ms).map Prod.fst).Nodup) :
    ms.foldl (fun kept (name, v) => put name v kept) kept = kept ++ ms :=
  foldl_put_eq_append put_of_not_mem distinct

theorem reads_obj {n : Nat} {ms : List (String × Json)} (below : depth < limit)
    (distinct : (ms.map Prod.fst).Nodup)
    (each : ∀ m ∈ ms, Within n m.2 ∧ Reads limit (depth + 1) m.2) :
    Reads limit depth (.obj ms) := by
  refine .of_succ (.obj distinct fun m mem => (each m mem).1) ?_
  intro fuel rest enough
  cases ms with
  | nil =>
      simp only [Writer.value, List.cons_append, List.nil_append]
      rw [Reader.value, enter_eq_ok below]
      rfl
  | cons m ms =>
      obtain ⟨name, v⟩ := m
      obtain ⟨first, others⟩ := List.forall_mem_cons.mp each
      simp only [Writer.value, List.length_cons, List.cons_append] at enough
      have read := members_read ms name v first others fuel rest (by simpa using enough)
      rw [string_append] at read
      simp only [Writer.value, List.cons_append, List.append_assoc, string_append]
      rw [value_obj below read, foldl_put_of_nodup distinct, List.nil_append]

theorem reads_of_within {n : Nat} {v : Json} (within : Within n v) (fits : depth + n ≤ limit) :
    Reads limit depth v := by
  induction within generalizing depth with
  | null => exact reads_null
  | bool _ b => exact reads_bool b
  | str _ s => exact reads_str s
  | arr each ih =>
      refine reads_arr (by omega) fun v mem => ⟨each v mem, ih v mem (by omega)⟩
  | obj distinct each ih =>
      exact reads_obj (by omega) distinct fun m mem => ⟨each m mem, ih m mem (by omega)⟩

end Reading

/-- The text of a value is read as this value by every reader that admits its nesting. -/
theorem parseWithin_compact {n limit : Nat} {v : Json} (within : Within n v) (fits : n ≤ limit) :
    parseWithin limit v.compact = .ok v := by
  have read : Reader.value limit 0 ((Writer.value v).length + 1) (Writer.value v ++ []) =
      .ok (v, []) := reads_of_within within (by omega) _ _ (by omega)
  have solid := skipBlanks_value within []
  rw [List.append_nil] at read solid
  rw [parseWithin, compact, String.toList_ofList, solid]
  dsimp only
  rw [read]
  rfl

theorem printable_of_mem_moreItems {vs : List Json}
    (each : ∀ v ∈ vs, ∀ c ∈ Writer.value v, Printable c) : ∀ c ∈ moreItems vs, Printable c := by
  induction vs with
  | nil =>
      intro c mem
      rw [moreItems, List.mem_singleton] at mem
      rw [mem]
      decide
  | cons v vs ih =>
      obtain ⟨first, others⟩ := List.forall_mem_cons.mp each
      intro c mem
      simp only [moreItems, List.cons_append, List.mem_cons, List.mem_append] at mem
      rcases mem with rfl | mem | mem
      · decide
      · exact first c mem
      · exact ih others c mem

theorem printable_of_mem_moreMembers {ms : List (String × Json)}
    (each : ∀ m ∈ ms, ∀ c ∈ Writer.value m.2, Printable c) :
    ∀ c ∈ moreMembers ms, Printable c := by
  induction ms with
  | nil =>
      intro c mem
      rw [moreMembers, List.mem_singleton] at mem
      rw [mem]
      decide
  | cons m ms ih =>
      obtain ⟨name, v⟩ := m
      obtain ⟨first, others⟩ := List.forall_mem_cons.mp each
      intro c mem
      simp only [moreMembers, List.cons_append, List.mem_cons, List.mem_append] at mem
      rcases mem with rfl | (mem | rfl | mem) | mem
      · decide
      · exact printable_of_mem_string mem
      · decide
      · exact first c mem
      · exact ih others c mem

theorem printable_of_mem_value {n : Nat} {v : Json} (within : Within n v) :
    ∀ c ∈ Writer.value v, Printable c := by
  have fixed : ∀ word : List Char, word.all (fun c => decide (Printable c)) →
      ∀ c ∈ word, Printable c := fun word all c mem =>
    of_decide_eq_true (List.all_eq_true.mp all c mem)
  induction within with
  | null => exact fixed _ rfl
  | bool _ b => cases b <;> exact fixed _ rfl
  | str _ s => exact fun c mem => printable_of_mem_string mem
  | @arr _ items each ih =>
      cases items with
      | nil => exact fixed _ rfl
      | cons v vs =>
          -- After its bracket, an array is written as items after a first comma are.
          intro c mem
          rcases List.mem_cons.mp mem with rfl | mem
          · decide
          · exact printable_of_mem_moreItems ih c (List.mem_cons_of_mem _ mem)
  | @obj _ members distinct each ih =>
      cases members with
      | nil => exact fixed _ rfl
      | cons m ms =>
          intro c mem
          rcases List.mem_cons.mp mem with rfl | mem
          · decide
          · exact printable_of_mem_moreMembers ih c (List.mem_cons_of_mem _ mem)

end ClassAtlas.Json

import ClassAtlas.Json.Reader
import ClassAtlas.Json.Writer
import Mathlib.Data.List.Basic

/-!
Strings in JSON text. Each character is written as itself, as a short escape, or as one or two
16-bit units, and in each of these forms it is read back, whatever follows it. What is written is
printable ASCII.
-/
namespace ClassAtlas.Json

open Reader Writer Text

/-- Written characters that are read as one character, whatever is written after them. -/
def Spells (written : List Char) (c : Char) : Prop :=
  ∃ read, (∀ text, units (written ++ text) = (units text).map fun more => (read ++ more.1, more.2)) ∧
    ∀ more, characters (read ++ more) = c :: characters more

theorem spells_short {letter c : Char} (other : letter ≠ 'u')
    (short : shortEscape? letter = some c) : Spells ['\\', letter] c := by
  refine ⟨[.char c], ?_, fun more => rfl⟩
  intro text
  rw [List.cons_append, List.singleton_append, units]
  · rw [short]
    cases units text <;> rfl
  · intro a b c d rest same
    exact absurd same other

theorem spells_self {c : Char} (printable : ' ' ≤ c) (quote : c ≠ '"') (backslash : c ≠ '\\') :
    Spells [c] c := by
  refine ⟨[.char c], ?_, fun more => rfl⟩
  intro text
  rw [List.singleton_append, units]
  · rw [if_neg (Char.not_lt.mpr printable)]
    cases units text <;> rfl
  · exact quote
  · intro _ _ _ _ _ same
    exact absurd same backslash
  · intro _ _ same
    exact absurd same backslash

theorem units_unit (n : Nat) (text : List Char) :
    units (unit n ++ text) =
      (units text).map fun more => (.code (n % 0x10000) :: more.1, more.2) := by
  have digits : Hex.number? (Hex.fixed 4 n) = some (n % 0x10000) := Hex.number?_fixed 4 n
  simp only [Hex.fixed, List.nil_append, List.cons_append] at digits
  simp only [unit, Hex.fixed, List.nil_append, List.cons_append, units, digits]
  cases units text <;> rfl

/-- A character is no surrogate. -/
theorem toNat_lt_or_gt (c : Char) : c.toNat < 0xd800 ∨ 0xe000 ≤ c.toNat ∧ c.toNat < 0x110000 := by
  rcases c.valid with low | ⟨high, bound⟩
  · exact .inl low
  · exact .inr ⟨high, bound⟩

theorem spells_unit {c : Char} (basic : c.toNat < 0x10000) : Spells (unit c.toNat) c := by
  have whole : c.toNat % 0x10000 = c.toNat := Nat.mod_eq_of_lt basic
  refine ⟨[.code c.toNat], ?_, ?_⟩
  · intro text
    rw [units_unit, whole]
    rfl
  · intro more
    have high : isHigh c.toNat = false := by
      have := toNat_lt_or_gt c
      simp only [isHigh, Bool.and_eq_false_iff, decide_eq_false_iff_not]
      omega
    have low : isLow c.toNat = false := by
      have := toNat_lt_or_gt c
      simp only [isLow, Bool.and_eq_false_iff, decide_eq_false_iff_not]
      omega
    have itself : lone c.toNat = c := by
      simp [lone, high, low]
    cases more with
    | nil => simp [characters, itself]
    | cons u more =>
        cases u with
        | char d => simp [characters, itself]
        | code n => simp [characters, high, itself]

theorem spells_pair {c : Char} (wide : 0x10000 ≤ c.toNat) :
    Spells (unit (surrogates c.toNat).1 ++ unit (surrogates c.toNat).2) c := by
  have bound : c.toNat < 0x110000 := by
    have := toNat_lt_or_gt c
    omega
  have high : (surrogates c.toNat).1 % 0x10000 = (surrogates c.toNat).1 :=
    Nat.mod_eq_of_lt (by simp only [surrogates]; omega)
  have low : (surrogates c.toNat).2 % 0x10000 = (surrogates c.toNat).2 :=
    Nat.mod_eq_of_lt (by simp only [surrogates]; omega)
  refine ⟨[.code (surrogates c.toNat).1, .code (surrogates c.toNat).2], ?_, ?_⟩
  · intro text
    rw [List.append_assoc, units_unit, units_unit, high, low]
    cases units text <;> rfl
  · intro more
    have pair : isHigh (surrogates c.toNat).1 && isLow (surrogates c.toNat).2 := by
      simp only [isHigh, isLow, Bool.and_eq_true, decide_eq_true_eq]
      simp only [surrogates]
      omega
    have joined : 0x10000 + ((surrogates c.toNat).1 - 0xd800) * 0x400 +
        ((surrogates c.toNat).2 - 0xdc00) = c.toNat := by
      simp only [surrogates]
      omega
    rw [List.cons_append, List.singleton_append, characters, if_pos pair, joined, Char.ofNat_toNat]

theorem spells_escaped (c : Char) : Spells (escaped c) c := by
  rw [escaped]
  split_ifs with quote backslash newline ret tab back feed printable basic
  · rw [quote]
    exact spells_short (by decide) rfl
  · rw [backslash]
    exact spells_short (by decide) rfl
  · rw [newline]
    exact spells_short (by decide) rfl
  · rw [ret]
    exact spells_short (by decide) rfl
  · rw [tab]
    exact spells_short (by decide) rfl
  · rw [back]
    exact spells_short (by decide) rfl
  · rw [feed]
    exact spells_short (by decide) rfl
  · exact spells_self printable.1 quote backslash
  · exact spells_unit basic
  · exact spells_pair (by omega)

theorem units_flatMap_escaped (cs rest : List Char) :
    ∃ read, units (cs.flatMap escaped ++ '"' :: rest) = some (read, rest) ∧
      characters read = cs := by
  induction cs with
  | nil => exact ⟨[], rfl, rfl⟩
  | cons c cs ih =>
      obtain ⟨first, spelled, meant⟩ := spells_escaped c
      obtain ⟨others, read, same⟩ := ih
      refine ⟨first ++ others, ?_, ?_⟩
      · rw [List.flatMap_cons, List.append_assoc, spelled, read]
        rfl
      · rw [meant, same]

/-- A written string is read back, whatever follows it. -/
theorem string_read (s : String) (rest : List Char) :
    Reader.string (s.toList.flatMap escaped ++ '"' :: rest) = some (s, rest) := by
  obtain ⟨read, done, same⟩ := units_flatMap_escaped s.toList rest
  simp only [Reader.string, done, Option.bind_eq_bind, Option.bind_some, same]
  rw [String.ofList_toList]
  rfl

/-- The printable characters of ASCII, among them no line break. -/
def Printable (c : Char) : Prop := ' ' ≤ c ∧ c ≤ '~'

instance (c : Char) : Decidable (Printable c) := inferInstanceAs (Decidable (_ ∧ _))

theorem printable_digit (n : Nat) : Printable (Hex.digit n) := by
  have each : ∀ m < 16, Printable (Hex.digits.getD m '0') := by decide
  exact each (n % 16) (Nat.mod_lt n (by omega))

theorem printable_of_mem_unit {n : Nat} {c : Char} (mem : c ∈ unit n) : Printable c := by
  simp only [unit, Hex.fixed, List.nil_append, List.cons_append, List.mem_cons,
    List.not_mem_nil, or_false] at mem
  rcases mem with rfl | rfl | rfl | rfl | rfl | rfl
  · decide
  · decide
  all_goals exact printable_digit _

theorem printable_of_mem_escaped {c d : Char} (mem : d ∈ escaped c) : Printable d := by
  have short : ∀ letter : Char, Printable letter → d ∈ ['\\', letter] → Printable d := by
    intro letter printable mem
    rcases List.mem_cons.mp mem with rfl | mem
    · decide
    · rw [List.mem_singleton.mp mem]
      exact printable
  rw [escaped] at mem
  split_ifs at mem with quote backslash newline ret tab back feed printable basic
  iterate 7 exact short _ (by decide) mem
  · rw [List.mem_singleton.mp mem]
    exact printable
  · exact printable_of_mem_unit mem
  · rcases List.mem_append.mp mem with mem | mem
    · exact printable_of_mem_unit mem
    · exact printable_of_mem_unit mem

theorem printable_of_mem_string {s : String} {c : Char} (mem : c ∈ Writer.string s) :
    Printable c := by
  simp only [Writer.string, List.cons_append, List.mem_cons, List.mem_append,
    List.mem_flatMap, List.not_mem_nil, or_false] at mem
  rcases mem with rfl | ⟨d, _, mem⟩ | rfl
  · decide
  · exact printable_of_mem_escaped mem
  · decide

end ClassAtlas.Json

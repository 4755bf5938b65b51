import ClassAtlas.TargetType.Basic

/-!
The notation of target types can be read in one way only. No name holds a sign of the notation, so
each name ends where the first sign stands, and the signs around it tell what follows: arguments, a
null mark, a bound after a keyword, or the end. A class named like a keyword stands before no blank.
-/
namespace ClassAtlas

namespace TargetType

mutual

/-- The class names in a type, from left to right. -/
def names : TargetType → List String
  | .named name arguments _ => name :: namesOfAll arguments
  | .projection _ bound => names bound

def namesOfAll : List TargetType → List String
  | [] => []
  | t :: rest => names t ++ namesOfAll rest

end

/-- The characters by which the notation is structured. -/
def signs : List Char := ['<', '>', ',', '?', ' ']

/-- A name that no sign cuts. -/
def IsPlain (name : String) : Prop := ∀ c ∈ name.toList, c ∉ signs

-- Named, since a search may settle on the instance that goes over all characters there are.
instance (name : String) : Decidable (IsPlain name) :=
  List.decidableBAll (· ∉ signs) name.toList

/-- A text that is empty or begins with one of some characters. -/
def Begins (cs rest : List Char) : Prop := ∀ c ∈ rest.head?, c ∈ cs

/-- What may stand behind a type: a further argument or the end of the arguments. -/
def behindType : List Char := [',', '>']

/-- What may stand behind the arguments of a class. -/
def behindArguments : List Char := '?' :: behindType

/-- What may stand behind the name of a class. -/
def behindName : List Char := '<' :: behindArguments

/-- What is written behind an argument: the arguments after it and the closing bracket. -/
def furtherChars : List TargetType → List Char
  | [] => ['>']
  | t :: rest => ',' :: ' ' :: t.text.toList ++ furtherChars rest

/-- What is written behind a name: the arguments in brackets, if there are any. -/
def argumentChars : List TargetType → List Char
  | [] => []
  | t :: rest => '<' :: t.text.toList ++ furtherChars rest

def markChars (nullable : Bool) : List Char := if nullable then ['?'] else []

theorem joined_append_eq (t : TargetType) (rest : List TargetType) :
    Text.joined [',', ' '] ((argumentTexts (t :: rest)).map String.toList) ++ ['>'] =
      t.text.toList ++ furtherChars rest := by
  induction rest generalizing t with
  | nil => rfl
  | cons u rest ih =>
      have others := ih u
      rw [argumentTexts, List.map_cons] at others
      rw [argumentTexts, argumentTexts, List.map_cons, List.map_cons, Text.joined,
        List.append_assoc, others, List.append_assoc]
      · rfl
      · simp

theorem toList_enclosed (t : TargetType) (rest : List TargetType) :
    (Text.enclosed "<" ">" (argumentTexts (t :: rest))).toList = argumentChars (t :: rest) := by
  have listed : (Text.separated ", " (argumentTexts (t :: rest))).toList =
      Text.joined [',', ' '] ((argumentTexts (t :: rest)).map String.toList) := String.toList_ofList
  rw [Text.enclosed, String.toList_append, String.toList_append, listed]
  exact congrArg ('<' :: ·) (joined_append_eq t rest)

theorem toList_text_named (name : String) (arguments : List TargetType) (nullable : Bool) :
    (named name arguments nullable).text.toList =
      name.toList ++ (argumentChars arguments ++ markChars nullable) := by
  have marked : (text.mark nullable).toList = markChars nullable := by cases nullable <;> rfl
  cases arguments with
  | nil =>
      rw [text, String.toList_append, marked]
      rfl
  | cons t rest =>
      rw [text, String.toList_append, String.toList_append, marked, toList_enclosed,
        List.append_assoc]
      simp

theorem toList_text_projection (variance : Variance) (bound : TargetType) :
    (projection variance bound).text.toList =
      (keyword variance).toList ++ ' ' :: bound.text.toList := by
  rw [text, String.toList_append, String.toList_append, List.append_assoc]
  rfl

theorem Begins.mem_of_eq {c : Char} {cs rest more : List Char} (begins : Begins cs rest)
    (same : rest = c :: more) : c ∈ cs :=
  begins c (same ▸ rfl)

theorem Begins.mono {cs cs' rest : List Char} (begins : Begins cs rest) (sub : cs ⊆ cs') :
    Begins cs' rest :=
  fun c mem => sub (begins c mem)

theorem begins_nil (cs : List Char) : Begins cs [] := by
  intro c first
  cases first

theorem begins_cons {c : Char} {cs : List Char} (mem : c ∈ cs) (rest : List Char) :
    Begins cs (c :: rest) := by
  intro d first
  cases first
  exact mem

theorem begins_markChars {rest : List Char} (nullable : Bool) (ends : Begins behindType rest) :
    Begins behindArguments (markChars nullable ++ rest) := by
  cases nullable with
  | false => exact ends.mono (List.subset_cons_self _ _)
  | true => exact begins_cons List.mem_cons_self rest

theorem begins_argumentChars {rest : List Char} (arguments : List TargetType)
    (ends : Begins behindArguments rest) : Begins behindName (argumentChars arguments ++ rest) := by
  cases arguments with
  | nil => exact ends.mono (List.subset_cons_self _ _)
  | cons t more => exact begins_cons List.mem_cons_self _

theorem begins_furtherChars (arguments : List TargetType) (rest : List Char) :
    Begins behindType (furtherChars arguments ++ rest) := by
  cases arguments with
  | nil => exact begins_cons (by decide) _
  | cons t more => exact begins_cons (by decide) _

/-- A word without signs that a sign follows, or nothing, is told apart from what follows. -/
theorem append_inj_of_begins {word word' rest rest' : List Char} (plain : ∀ c ∈ word, c ∉ signs)
    (plain' : ∀ c ∈ word', c ∉ signs) (cut : Begins signs rest) (cut' : Begins signs rest')
    (same : word ++ rest = word' ++ rest') : word = word' ∧ rest = rest' := by
  induction word generalizing word' with
  | nil =>
      cases word' with
      | nil => exact ⟨rfl, same⟩
      | cons c word' =>
          exact absurd (cut.mem_of_eq same) (plain' c List.mem_cons_self)
  | cons c word ih =>
      cases word' with
      | nil =>
          exact absurd (cut'.mem_of_eq same.symm) (plain c List.mem_cons_self)
      | cons c' word' =>
          obtain ⟨rfl, more⟩ := List.cons.inj same
          obtain ⟨rfl, rest⟩ := ih (fun d mem => plain d (List.mem_cons_of_mem c mem))
            (fun d mem => plain' d (List.mem_cons_of_mem c mem)) more
          exact ⟨rfl, rest⟩

theorem isPlain_keyword (variance : Variance) : IsPlain (keyword variance) := by
  cases variance <;> decide

theorem keyword_inj {variance variance' : Variance} (same : keyword variance = keyword variance') :
    variance = variance' := by
  cases variance with
  | producer =>
      cases variance' with
      | producer => rfl
      | consumer => exact absurd same (by decide)
  | consumer =>
      cases variance' with
      | producer => exact absurd same (by decide)
      | consumer => rfl

theorem markChars_append_inj {nullable nullable' : Bool} {rest rest' : List Char}
    (ends : Begins behindType rest) (ends' : Begins behindType rest')
    (same : markChars nullable ++ rest = markChars nullable' ++ rest') :
    nullable = nullable' ∧ rest = rest' := by
  have unmarked : '?' ∉ behindType := by decide
  cases nullable with
  | false =>
      cases nullable' with
      | false => exact ⟨rfl, same⟩
      | true => exact absurd (ends.mem_of_eq same) unmarked
  | true =>
      cases nullable' with
      | false => exact absurd (ends'.mem_of_eq same.symm) unmarked
      | true => exact ⟨rfl, (List.cons.inj same).2⟩

/-- Lists of arguments that are written alike behind a name are so behind an argument. -/
theorem furtherChars_append_eq {ts us : List TargetType} {rest rest' : List Char}
    (ends : Begins behindArguments rest) (ends' : Begins behindArguments rest')
    (same : argumentChars ts ++ rest = argumentChars us ++ rest') :
    furtherChars ts ++ rest = furtherChars us ++ rest' := by
  have opens : '<' ∉ behindArguments := by decide
  cases ts with
  | nil =>
      cases us with
      | nil => exact congrArg ('>' :: ·) same
      | cons u us => exact absurd (ends.mem_of_eq same) opens
  | cons t ts =>
      cases us with
      | nil => exact absurd (ends'.mem_of_eq same.symm) opens
      | cons u us => exact congrArg (',' :: ' ' :: ·) (List.cons.inj same).2

/-- Behind the name of a class stands no blank, so no class is read as a projection. -/
theorem text_named_ne_projection {name : String} {arguments : List TargetType} {nullable : Bool}
    {variance : Variance} {bound : TargetType} {rest rest' : List Char} (plain : IsPlain name)
    (ends : Begins behindType rest) :
    (named name arguments nullable).text.toList ++ rest ≠
      (projection variance bound).text.toList ++ rest' := by
  intro same
  rw [toList_text_named, toList_text_projection] at same
  simp only [List.append_assoc, List.cons_append] at same
  have behind := begins_argumentChars arguments (begins_markChars nullable ends)
  obtain ⟨_, blank⟩ := append_inj_of_begins plain (isPlain_keyword variance)
    (behind.mono (by decide)) (begins_cons (by decide) _) same
  exact absurd (behind.mem_of_eq blank) (by decide)

mutual

/-- A type is read off the beginning of a text, wherever it ends there. -/
theorem text_append_inj : {t u : TargetType} → {rest rest' : List Char} →
    (∀ name ∈ t.names, IsPlain name) → (∀ name ∈ u.names, IsPlain name) →
      Begins behindType rest → Begins behindType rest' →
        t.text.toList ++ rest = u.text.toList ++ rest' → t = u ∧ rest = rest'
  | .named name arguments nullable, .named name' arguments' nullable', _, _, plain, plain', ends,
      ends', same => by
      rw [toList_text_named, toList_text_named] at same
      simp only [List.append_assoc] at same
      obtain ⟨own, others⟩ := List.forall_mem_cons.mp plain
      obtain ⟨own', others'⟩ := List.forall_mem_cons.mp plain'
      have marks := begins_markChars nullable ends
      have marks' := begins_markChars nullable' ends'
      obtain ⟨word, more⟩ := append_inj_of_begins own own'
        ((begins_argumentChars arguments marks).mono (by decide))
        ((begins_argumentChars arguments' marks').mono (by decide)) same
      obtain rfl := String.toList_inj.mp word
      obtain ⟨rfl, marked⟩ := furtherChars_append_inj others others'
        (furtherChars_append_eq marks marks' more)
      obtain ⟨rfl, rfl⟩ := markChars_append_inj ends ends' marked
      exact ⟨rfl, rfl⟩
  | .projection variance bound, .projection variance' bound', _, _, plain, plain', ends, ends',
      same => by
      rw [toList_text_projection, toList_text_projection] at same
      simp only [List.append_assoc, List.cons_append] at same
      obtain ⟨word, more⟩ := append_inj_of_begins (isPlain_keyword variance)
        (isPlain_keyword variance') (begins_cons (by decide) _) (begins_cons (by decide) _) same
      obtain rfl := keyword_inj (String.toList_inj.mp word)
      obtain ⟨rfl, rfl⟩ := text_append_inj (t := bound) (u := bound') plain plain' ends ends'
        (List.cons.inj more).2
      exact ⟨rfl, rfl⟩
  | .named .., .projection .., _, _, plain, _, ends, _, same =>
      absurd same (text_named_ne_projection (List.forall_mem_cons.mp plain).1 ends)
  | .projection .., .named .., _, _, _, plain', _, ends', same =>
      absurd same.symm (text_named_ne_projection (List.forall_mem_cons.mp plain').1 ends')

theorem furtherChars_append_inj : {ts us : List TargetType} → {rest rest' : List Char} →
    (∀ name ∈ namesOfAll ts, IsPlain name) → (∀ name ∈ namesOfAll us, IsPlain name) →
      furtherChars ts ++ rest = furtherChars us ++ rest' → ts = us ∧ rest = rest'
  | [], [], _, _, _, _, same => ⟨rfl, (List.cons.inj same).2⟩
  | [], u :: us, _, _, _, _, same => absurd (List.cons.inj same).1 (by decide)
  | t :: ts, [], _, _, _, _, same => absurd (List.cons.inj same).1 (by decide)
  | t :: ts, u :: us, rest, rest', plain, plain', same => by
      obtain ⟨first, others⟩ := List.forall_mem_append.mp plain
      obtain ⟨first', others'⟩ := List.forall_mem_append.mp plain'
      have inner : t.text.toList ++ (furtherChars ts ++ rest) =
          u.text.toList ++ (furtherChars us ++ rest') := by
        simpa only [furtherChars, List.cons_append, List.append_assoc, List.cons.injEq, true_and]
          using same
      obtain ⟨rfl, more⟩ := text_append_inj first first' (begins_furtherChars ts rest)
        (begins_furtherChars us rest') inner
      obtain ⟨rfl, rfl⟩ := furtherChars_append_inj others others' more
      exact ⟨rfl, rfl⟩

end

/-- Types whose class names hold no sign of the notation have the same text only if they are the
same type, with the same arguments, null marks and projections throughout. -/
theorem text_inj {t u : TargetType} (plain : ∀ name ∈ t.names, IsPlain name)
    (plain' : ∀ name ∈ u.names, IsPlain name) : t.text = u.text ↔ t = u := by
  refine ⟨fun same => ?_, fun same => same ▸ rfl⟩
  have whole : t.text.toList ++ [] = u.text.toList ++ [] := by rw [same]
  exact (text_append_inj plain plain' (begins_nil _) (begins_nil _) whole).1

/-- A class named like a keyword, the nameless class and the place of a null mark: only a blank
tells the first argument of one type from that of the other. -/
theorem text_inj_outOfNothing :
    let t : TargetType := .named "a.Box" [.projection .producer (.named "" [] true), .bare ""] false
    let u : TargetType := .named "a.Box" [.named "out" [] true, .bare ""] false
    (∀ name ∈ t.names, IsPlain name) ∧ (∀ name ∈ u.names, IsPlain name) ∧
      t.text = "a.Box<out ?, >" ∧ u.text = "a.Box<out?, >" ∧ t.text ≠ u.text := by
  intro t u
  have plain : ∀ name ∈ t.names, IsPlain name := by decide
  have plain' : ∀ name ∈ u.names, IsPlain name := by decide
  have apart : t ≠ u := by simp [t, u]
  exact ⟨plain, plain', rfl, rfl, mt (text_inj plain plain').mp apart⟩

end TargetType
end ClassAtlas

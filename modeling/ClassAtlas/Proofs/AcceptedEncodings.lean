import ClassAtlas.Proofs.CheckOutcome
import ClassAtlas.Proofs.FirstFailure
import ClassAtlas.Proofs.TargetEncoding

/-!
The JSON values that are read as target types. There are more of them than are written: an empty
list of arguments has four forms, a null mark is any truth value in the lax sense, and keys that do
not belong to the form are passed over. Written again, each takes the one form without all that.
-/
namespace ClassAtlas

namespace Json

/-- A truth value in the lax sense: itself, the numbers 0 and 1, or one of twelve words in any
case. -/
inductive CountsAs : Json → Bool → Prop where
  | truth (b : Bool) : CountsAs (.bool b) b
  | zero : CountsAs (.int 0) false
  | one : CountsAs (.int 1) true
  | floatingZero {x : Decimal.Binary64} (zero : x.toInt? = some 0) : CountsAs (.float x) false
  | floatingOne {x : Decimal.Binary64} (one : x.toInt? = some 1) : CountsAs (.float x) true
  | noWord {s : String} (no : s.toLower ∈ ["0", "off", "f", "false", "n", "no"]) :
      CountsAs (.str s) false
  | yesWord {s : String} (yes : s.toLower ∈ ["1", "on", "t", "true", "y", "yes"]) :
      CountsAs (.str s) true

theorem truthOfNumber_eq_pass_iff {n : Int} {b : Bool} :
    Check.truthOfNumber n = .pass b ↔ n = 0 ∧ b = false ∨ n = 1 ∧ b = true := by
  rw [Check.truthOfNumber]
  split
  case isTrue zero => simp [zero, eq_comm]
  case isFalse other =>
    split
    case isTrue one => simp [one, eq_comm]
    case isFalse none => simp [other, none, Check.refuse]

theorem truth_eq_pass_iff {v : Json} {b : Bool} :
    Check.truth v.toValue = .pass b ↔ v.CountsAs b := by
  cases v with
  | null => exact ⟨nofun, nofun⟩
  | bool own =>
      constructor
      · intro passed
        cases passed
        exact .truth _
      · intro counts
        cases counts
        rfl
  | int n =>
      refine truthOfNumber_eq_pass_iff.trans ⟨?_, ?_⟩
      · rintro (⟨rfl, rfl⟩ | ⟨rfl, rfl⟩)
        · exact .zero
        · exact .one
      · intro counts
        cases counts with
        | zero => exact .inl ⟨rfl, rfl⟩
        | one => exact .inr ⟨rfl, rfl⟩
  | float x =>
      rw [toValue, Check.truth]
      cases whole : x.toInt? with
      | none =>
          refine ⟨nofun, fun counts => ?_⟩
          cases counts with
          | floatingZero zero => cases whole.symm.trans zero
          | floatingOne one => cases whole.symm.trans one
      | some n =>
          refine truthOfNumber_eq_pass_iff.trans ⟨?_, ?_⟩
          · rintro (⟨rfl, rfl⟩ | ⟨rfl, rfl⟩)
            · exact .floatingZero whole
            · exact .floatingOne whole
          · intro counts
            cases counts with
            | floatingZero zero => exact .inl ⟨Option.some.inj (whole.symm.trans zero), rfl⟩
            | floatingOne one => exact .inr ⟨Option.some.inj (whole.symm.trans one), rfl⟩
  | str s =>
      have apart : ∀ w ∈ Check.trueWords, w ∉ Check.falseWords := by decide
      rw [toValue, Check.truth]
      constructor
      · intro passed
        split at passed
        case isTrue no =>
          cases passed
          exact .noWord (List.contains_iff_mem.mp no)
        case isFalse =>
          split at passed
          case isTrue yes =>
            cases passed
            exact .yesWord (List.contains_iff_mem.mp yes)
          case isFalse => cases passed
      · intro counts
        cases counts with
        | noWord no => exact if_pos (List.contains_iff_mem.mpr no)
        | yesWord yes =>
            have other := mt List.contains_iff_mem.mp (apart _ yes)
            exact (if_neg other).trans (if_pos (List.contains_iff_mem.mpr yes))
  | arr items => exact ⟨nofun, nofun⟩
  | obj members => exact ⟨nofun, nofun⟩

end Json

namespace TargetType

/-- What a null mark says, where there is none at all as well. -/
inductive MarkDenotes : Option Json → Bool → Prop where
  | absent : MarkDenotes none false
  | given {v : Json} {b : Bool} (counts : v.CountsAs b) : MarkDenotes (some v) b

mutual

/-- What a JSON value says in the compact form, whatever other keys it has. -/
inductive Denotes : Json → TargetType → Prop where
  | named {members : List (String × Json)} {name : String} {arguments : List TargetType}
      {nullable : Bool} (kind : Json.find? "k" members = some (.str "class"))
      (own : Json.find? "n" members = some (.str name))
      (applied : ArgumentsDenote (Json.find? "a" members) arguments)
      (marked : MarkDenotes (Json.find? "null" members) nullable) :
      Denotes (.obj members) (.named name arguments nullable)
  | projection {members : List (String × Json)} {variance : Variance} {encoded : Json}
      {bound : TargetType} (kind : Json.find? "k" members = some (.str "wildcard"))
      (varied : Json.find? "v" members = some (.str variance.word))
      (bounded : Json.find? "b" members = some encoded) (inner : Denotes encoded bound) :
      Denotes (.obj members) (.projection variance bound)

/-- What a list of arguments says. There are none where it is absent, an empty text or an empty
object. -/
inductive ArgumentsDenote : Option Json → List TargetType → Prop where
  | absent : ArgumentsDenote none []
  | emptyText : ArgumentsDenote (some (.str "")) []
  | emptyObject : ArgumentsDenote (some (.obj [])) []
  | list {items : List Json} {arguments : List TargetType} (each : ItemsDenote items arguments) :
      ArgumentsDenote (some (.arr items)) arguments

inductive ItemsDenote : List Json → List TargetType → Prop where
  | nil : ItemsDenote [] []
  | cons {v : Json} {rest : List Json} {t : TargetType} {more : List TargetType}
      (first : Denotes v t) (others : ItemsDenote rest more) : ItemsDenote (v :: rest) (t :: more)

end

mutual

/-- The form in which types are written: no other keys than those of the form, each at most once,
arguments only where there are some, and a null mark only where it is set. -/
inductive Minimal : Json → Prop where
  | named {members : List (String × Json)}
      (kind : Json.find? "k" members = some (.str "class"))
      (keys : (members.map Prod.fst).Sublist ["k", "n", "a", "null"])
      (applied : ∀ v, Json.find? "a" members = some v → MinimalArguments v)
      (marked : ∀ v, Json.find? "null" members = some v → v = .bool true) : Minimal (.obj members)
  | projection {members : List (String × Json)} {encoded : Json}
      (kind : Json.find? "k" members = some (.str "wildcard"))
      (keys : (members.map Prod.fst).Sublist ["k", "v", "b"])
      (bounded : Json.find? "b" members = some encoded) (inner : Minimal encoded) :
      Minimal (.obj members)

inductive MinimalArguments : Json → Prop where
  | list {v : Json} {rest : List Json} (each : ∀ w ∈ v :: rest, Minimal w) :
      MinimalArguments (.arr (v :: rest))

end

theorem text_eq_pass_iff {v : Json} {s : String} :
    Check.text v.toValue = .pass s ↔ v = .str s := by
  cases v with
  | str own => exact ⟨fun passed => by cases passed; rfl, fun same => by cases same; rfl⟩
  | null | bool | int | float | arr | obj => exact ⟨nofun, nofun⟩

theorem truth_getD_eq_pass_iff {v : Option Json} {b : Bool} :
    Check.truth ((v.map Json.toValue).getD (.bool false)) = .pass b ↔ MarkDenotes v b := by
  cases v with
  | none =>
      constructor
      · intro passed
        cases passed
        exact .absent
      · intro marked
        cases marked
        rfl
  | some v =>
      refine Json.truth_eq_pass_iff.trans ⟨.given, fun marked => ?_⟩
      cases marked with
      | given counts => exact counts

theorem assemble_eq_ok_iff {name : Json} {arguments : List TargetType} {nullable : Option Json}
    {t : TargetType} : assemble name arguments nullable = .ok t ↔
      ∃ own mark, name = .str own ∧ MarkDenotes nullable mark ∧ t = .named own arguments mark := by
  rw [assemble, FirstFailure.mapError_eq_ok_iff, Check.toExcept_eq_ok_iff, Check.seq_eq_pass_iff]
  constructor
  · rintro ⟨g, mark, head, marked, rfl⟩
    obtain ⟨own, named, rfl⟩ := Check.map_eq_pass_iff.mp head
    refine ⟨own, mark, text_eq_pass_iff.mp (Check.under_eq_pass_iff.mp named), ?_, rfl⟩
    exact truth_getD_eq_pass_iff.mp (Check.under_eq_pass_iff.mp marked)
  · rintro ⟨own, mark, rfl, marked, rfl⟩
    refine ⟨fun b => .named own arguments b, mark, rfl, ?_, rfl⟩
    exact Check.under_eq_pass_iff.mpr (truth_getD_eq_pass_iff.mpr marked)

theorem word_of_ofWord? {word : String} {variance : Variance}
    (listed : Variance.ofWord? word = some variance) : word = variance.word := by
  obtain ⟨before, after, split, _⟩ := List.lookup_eq_some_iff.mp listed
  have mem : (word, variance) ∈ Variance.words := by simp [split]
  rcases List.mem_cons.mp mem with same | mem
  · cases same
    rfl
  · cases List.mem_singleton.mp mem
    rfl

theorem varianceOf_eq_ok_iff {given : Json} {variance : Variance} :
    varianceOf given = .ok variance ↔ given = .str variance.word := by
  refine ⟨fun known => ?_, fun same => same ▸ varianceOf_word variance⟩
  cases given with
  | str word =>
      rw [varianceOf] at known
      cases listed : Variance.ofWord? word with
      | none =>
          rw [listed] at known
          cases known
      | some own =>
          rw [listed] at known
          cases known
          exact congrArg Json.str (word_of_ofWord? listed)
  | null | bool | int | float | arr | obj => cases known

theorem member_eq_ok_iff {key : String} {members : List (String × Json)} {v : Json} :
    member key members = .ok v ↔ Json.find? key members = some v := by
  rw [member]
  cases Json.find? key members <;> simp

/-- The two forms that an object can have. -/
theorem forms_of_decode {members : List (String × Json)} {t : TargetType}
    (done : decode (.obj members) = .ok t) :
    (∃ name arguments, Json.find? "k" members = some (.str "class") ∧
      Json.find? "n" members = some name ∧
      (Json.find? "a" members).elim (.ok []) decodeList = .ok arguments ∧
      assemble name arguments (Json.find? "null" members) = .ok t) ∨
    ∃ given variance encoded bound, Json.find? "k" members = some (.str "wildcard") ∧
      Json.find? "v" members = some given ∧ varianceOf given = .ok variance ∧
      Json.find? "b" members = some encoded ∧ decode encoded = .ok bound ∧
      t = .projection variance bound := by
  rw [decode, FirstFailure.bind_eq_ok_iff] at done
  obtain ⟨kind, tagged, done⟩ := done
  have tag := member_eq_ok_iff.mp tagged
  split at done
  case h_1 =>
    obtain ⟨name, named, done⟩ := FirstFailure.bind_eq_ok_iff.mp done
    obtain ⟨arguments, read, done⟩ := FirstFailure.bind_eq_ok_iff.mp done
    rw [getD_decodeArguments] at read
    exact .inl ⟨name, arguments, tag, member_eq_ok_iff.mp named, read, done⟩
  case h_2 =>
    obtain ⟨given, varied, done⟩ := FirstFailure.bind_eq_ok_iff.mp done
    obtain ⟨variance, known, done⟩ := FirstFailure.bind_eq_ok_iff.mp done
    obtain ⟨bound, read, done⟩ := FirstFailure.bind_eq_ok_iff.mp done
    cases done
    rw [decodeBound_eq] at read
    cases encoded : Json.find? "b" members with
    | none =>
        rw [encoded] at read
        cases read
    | some v =>
        rw [encoded] at read
        have variant := member_eq_ok_iff.mp varied
        exact .inr ⟨given, variance, v, bound, tag, variant, known, rfl, read, rfl⟩
  case h_3 => cases done

mutual

theorem denotes_of_decode : (v : Json) → {t : TargetType} → decode v = .ok t → Denotes v t
  | .obj members, t, done => by
      rcases forms_of_decode done with ⟨name, arguments, kind, named, read, whole⟩ |
        ⟨given, variance, encoded, bound, kind, varied, known, bounded, read, rfl⟩
      · obtain ⟨own, mark, rfl, marked, rfl⟩ := assemble_eq_ok_iff.mp whole
        refine .named kind named ?_ marked
        cases listed : Json.find? "a" members with
        | none =>
            rw [listed] at read
            cases read
            exact .absent
        | some v =>
            rw [listed] at read
            exact (denotes_of_find listed).2 arguments read
      · rw [varianceOf_eq_ok_iff.mp known] at varied
        exact .projection kind varied bounded ((denotes_of_find bounded).1 bound read)
  | .null, _, done | .bool _, _, done | .int _, _, done | .float _, _, done | .str _, _, done
  | .arr _, _, done => nomatch done

theorem argumentsDenote_of_decodeList : (v : Json) → {ts : List TargetType} →
    decodeList v = .ok ts → ArgumentsDenote (some v) ts
  | .arr items, _, done => .list (itemsDenote_of_decodeItems items done)
  | .obj [], _, done => by
      cases done
      exact .emptyObject
  | .str s, _, done => by
      unfold decodeList at done
      split at done
      case h_1 other => cases other
      case h_2 empty =>
          cases empty
          cases done
          exact .emptyText
      case h_3 other => cases other
      case h_4 => cases done
  | .obj (_ :: _), _, done | .null, _, done | .bool _, _, done | .int _, _, done
  | .float _, _, done => nomatch done

theorem itemsDenote_of_decodeItems : (vs : List Json) → {ts : List TargetType} →
    decodeItems vs = .ok ts → ItemsDenote vs ts
  | [], _, done => by
      cases done
      exact .nil
  | v :: rest, _, done => by
      rw [decodeItems] at done
      obtain ⟨t, own, more⟩ := FirstFailure.bind_eq_ok_iff.mp done
      obtain ⟨ts, others, last⟩ := FirstFailure.bind_eq_ok_iff.mp more
      cases last
      exact .cons (denotes_of_decode v own) (itemsDenote_of_decodeItems rest others)

theorem denotes_of_find : {members : List (String × Json)} → {key : String} → {v : Json} →
    Json.find? key members = some v → (∀ t, decode v = .ok t → Denotes v t) ∧
      ∀ ts, decodeList v = .ok ts → ArgumentsDenote (some v) ts
  | (k, w) :: rest, key, v, found => by
      rw [Json.find?] at found
      split at found
      · cases found
        exact ⟨fun t => denotes_of_decode w, fun ts => argumentsDenote_of_decodeList w⟩
      · exact denotes_of_find found

end

mutual

theorem decode_of_denotes : {v : Json} → {t : TargetType} → Denotes v t → decode v = .ok t
  | _, _, .named kind own applied marked => by
      rw [decode_of_class kind own (decodeArguments_of_denote applied)]
      exact assemble_eq_ok_iff.mpr ⟨_, _, rfl, marked, rfl⟩
  | _, _, .projection kind varied bounded inner =>
      decode_of_wildcard kind varied (varianceOf_word _) bounded (decode_of_denotes inner)

theorem decodeArguments_of_denote : {v : Option Json} → {ts : List TargetType} →
    ArgumentsDenote v ts → v.elim (.ok []) decodeList = .ok ts
  | _, _, .absent => rfl
  | _, _, .emptyText => rfl
  | _, _, .emptyObject => rfl
  | _, _, .list each => decodeItems_of_denote each

theorem decodeItems_of_denote : {vs : List Json} → {ts : List TargetType} →
    ItemsDenote vs ts → decodeItems vs = .ok ts
  | _, _, .nil => rfl
  | _, _, .cons first others => by
      rw [decodeItems, decode_of_denotes first, decodeItems_of_denote others]
      rfl

end

mutual

theorem minimal_encode : (t : TargetType) → Minimal t.encode
  | .named name arguments nullable => by
      have each := minimal_of_mem_encodeAll arguments
      cases arguments with
      | nil =>
          cases nullable with
          | false => exact .named rfl (show ["k", "n"].Sublist _ by decide) nofun nofun
          | true =>
              refine .named rfl (show ["k", "n", "null"].Sublist _ by decide) nofun ?_
              exact fun v found => (Option.some.inj found).symm
      | cons t rest =>
          have listed (v : Json) (found : some (.arr (encodeAll (t :: rest))) = some v) :
              MinimalArguments v := by
            cases found
            exact .list each
          cases nullable with
          | false => exact .named rfl (show ["k", "n", "a"].Sublist _ by decide) listed nofun
          | true =>
              refine .named rfl (show ["k", "n", "a", "null"].Sublist _ by decide) listed ?_
              exact fun v found => (Option.some.inj found).symm
  | .projection variance bound =>
      .projection rfl (List.Sublist.refl _) rfl (minimal_encode bound)

theorem minimal_of_mem_encodeAll : (ts : List TargetType) → ∀ v ∈ encodeAll ts, Minimal v
  | [] => nofun
  | t :: rest => List.forall_mem_cons.mpr ⟨minimal_encode t, minimal_of_mem_encodeAll rest⟩

end

/-- A JSON value is read as a target type exactly when it says one in either form, and as the type
that it says. What is written of that type says the same type, is read as it, and has the form
without anything that goes without saying. -/
theorem decode_eq_ok_iff_denotes (v : Json) :
    (∀ t, decode v = .ok t ↔ Denotes v t) ∧
      ∀ t, Denotes v t → Denotes t.encode t ∧ decode t.encode = .ok t ∧ Minimal t.encode := by
  refine ⟨fun t => ⟨denotes_of_decode v, decode_of_denotes⟩, fun t _ => ?_⟩
  have again := decode_encode t
  exact ⟨denotes_of_decode t.encode again, again, minimal_encode t⟩

/-- Empty arguments of three forms, null marks in words and numbers, and keys of no form or of the
other one, all of which are gone when the type is written again. -/
theorem decode_eq_ok_iff_denotes_oddBox :
    let item : Json := .obj [("null", .int 0), ("n", .str "a.Item"), ("k", .str "class"),
      ("a", .str ""), ("b", .null)]
    let box : Json := .obj [("k", .str "class"), ("n", .str "a.Box"), ("null", .str "Yes"),
      ("a", .arr [item, .obj [("k", .str "wildcard"), ("v", .str "consumer"), ("b", item),
        ("a", .arr [])]])]
    let t : TargetType :=
      .named "a.Box" [.bare "a.Item", .projection .consumer (.bare "a.Item")] true
    decode box = .ok t ∧ Denotes box t ∧ decode t.encode = .ok t ∧ Minimal t.encode := by
  intro item box t
  obtain ⟨reads, written⟩ := decode_eq_ok_iff_denotes box
  have named : Denotes item (.bare "a.Item") := .named rfl rfl .emptyText (.given .zero)
  have whole : Denotes box t := by
    refine .named rfl rfl (.list (.cons named (.cons ?_ .nil))) (.given (.yesWord ?_))
    · exact .projection rfl rfl rfl named
    · decide +kernel
  exact ⟨(reads t).mpr whole, whole, (written t whole).2⟩

end TargetType
end ClassAtlas

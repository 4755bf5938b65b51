import ClassAtlas.Proofs.JsonText
import ClassAtlas.Proofs.TypeDepth
import ClassAtlas.TargetType.Encoding

/-!
The compact form of a target type is decoded to the type it was made from, whatever it leaves out.
Each level of the type takes at most two levels of the form.
-/
namespace ClassAtlas.TargetType

section Decoding

variable {members : List (String × Json)}

theorem decodeArguments_eq : decodeArguments members = (Json.find? "a" members).map decodeList := by
  induction members with
  | nil => rfl
  | cons m rest ih =>
      rw [decodeArguments, Json.find?, ih]
      split <;> rfl

theorem decodeBound_eq : decodeBound members = (Json.find? "b" members).map decode := by
  induction members with
  | nil => rfl
  | cons m rest ih =>
      rw [decodeBound, Json.find?, ih]
      split <;> rfl

theorem getD_decodeArguments : (decodeArguments members).getD (.ok []) =
    (Json.find? "a" members).elim (.ok []) decodeList := by
  rw [decodeArguments_eq]
  cases Json.find? "a" members <;> rfl

theorem decode_of_class {name : Json} {arguments : List TargetType}
    (kind : Json.find? "k" members = some (.str "class"))
    (named : Json.find? "n" members = some name)
    (read : (Json.find? "a" members).elim (.ok []) decodeList = .ok arguments) :
    decode (.obj members) = assemble name arguments (Json.find? "null" members) := by
  have done := getD_decodeArguments.trans read
  simp only [decode, member, kind, named, done]
  rfl

theorem decode_of_wildcard {given : Json} {variance : Variance} {encoded : Json} {bound : TargetType}
    (kind : Json.find? "k" members = some (.str "wildcard"))
    (varied : Json.find? "v" members = some given) (known : varianceOf given = .ok variance)
    (bounded : Json.find? "b" members = some encoded) (read : decode encoded = .ok bound) :
    decode (.obj members) = .ok (.projection variance bound) := by
  have done : (decodeBound members).getD (.error (.missingKey "b")) = .ok bound := by
    rw [decodeBound_eq, bounded, ← read]
    rfl
  simp only [decode, member, kind, varied, done, bind, Except.bind, known]
  rfl

end Decoding

theorem assemble_str (name : String) (arguments : List TargetType) (nullable : Bool) :
    assemble (.str name) arguments (if nullable then some (.bool true) else none) =
      .ok (.named name arguments nullable) := by
  cases nullable <;> rfl

theorem varianceOf_word (variance : Variance) : varianceOf (.str variance.word) = .ok variance := by
  cases variance <;> rfl

mutual

theorem decode_encode : (t : TargetType) → decode (encode t) = .ok t
  | .named name arguments nullable => by
      have marked := assemble_str name arguments nullable
      have read := decodeItems_encodeAll arguments
      rw [encode, ← marked]
      cases arguments with
      | nil => cases nullable <;> exact decode_of_class rfl rfl rfl
      | cons t rest => cases nullable <;> exact decode_of_class rfl rfl read
  | .projection variance bound =>
      decode_of_wildcard rfl rfl (varianceOf_word variance) rfl (decode_encode bound)

theorem decodeItems_encodeAll : (ts : List TargetType) → decodeItems (encodeAll ts) = .ok ts
  | [] => rfl
  | t :: rest => by
      rw [encodeAll, decodeItems, decode_encode t, decodeItems_encodeAll rest]
      rfl

end

mutual

theorem within_encode : (t : TargetType) → Json.Within (2 * t.depth) t.encode
  | .named name arguments nullable => by
      have each := within_encodeAll arguments
      have depth : 2 * (named name arguments nullable).depth =
          2 * argumentsDepth arguments + 1 + 1 := by
        rw [TargetType.depth]
        omega
      rw [encode, depth]
      refine .obj ?_ ?_
      · cases arguments <;> cases nullable <;> simp [argumentMember]
      · cases arguments with
        | nil => cases nullable <;> simp [argumentMember, Json.Within.str, Json.Within.bool]
        | cons t rest =>
            have items := Json.Within.arr each
            rw [encodeAll] at items
            cases nullable <;> simp [argumentMember, Json.Within.str, Json.Within.bool, items]
  | .projection variance bound => by
      have inner := within_encode bound
      have depth : 2 * (projection variance bound).depth = 2 * bound.depth + 1 + 1 := by
        rw [TargetType.depth]
        omega
      rw [encode, depth]
      refine .obj (by simp) ?_
      simp only [List.forall_mem_cons, List.not_mem_nil, false_implies, implies_true, and_true]
      exact ⟨.str _ _, .str _ _, inner.mono (by omega)⟩

theorem within_encodeAll : (ts : List TargetType) →
    ∀ v ∈ encodeAll ts, Json.Within (2 * argumentsDepth ts) v
  | [] => by simp [encodeAll]
  | t :: rest => by
      intro v mem
      rw [argumentsDepth]
      rcases List.mem_cons.mp mem with rfl | mem
      · exact (within_encode t).mono (by omega)
      · exact (within_encodeAll rest v mem).mono (by omega)

end

end ClassAtlas.TargetType

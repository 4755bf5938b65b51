import ClassAtlas.Host.Basic

/-!
Assignability between declared types: the anchor is reached from the raw name by following
supertypes by name. Names already seen are not followed again, so cyclic hierarchies end.
-/
namespace ClassAtlas.Host

/-- The raw names of the direct supertypes of a name; arrays and wildcards have none. -/
def supertypeNames (h : Host) (name : String) : List String :=
  match h.typeNamed? name with
  | some t => t.supertypes.filterMap SourceType.rawName?
  | none => []

theorem supertypeNames_eq_nil {h : Host} {name : String} (unknown : name ∉ h.names) :
    h.supertypeNames name = [] := by
  unfold supertypeNames
  split
  case h_1 t found => exact absurd (mem_names_of_typeNamed? found) unknown
  case h_2 => rfl

/-- The names of the host that are not yet seen. -/
def unseen (h : Host) (seen : List String) : List String :=
  h.names.filter fun n => decide (n ∉ seen)

theorem unseen_cons (h : Host) (seen : List String) (name : String) :
    h.unseen (name :: seen) = (h.unseen seen).filter fun n => decide (n ≠ name) := by
  unfold unseen
  rw [List.filter_filter]
  congr 1
  funext n
  simp [not_or]

theorem unseen_cons_le (h : Host) (seen : List String) (name : String) :
    (h.unseen (name :: seen)).length ≤ (h.unseen seen).length := by
  rw [unseen_cons]
  exact List.length_filter_le _ _

theorem unseen_cons_lt {h : Host} {seen : List String} {name : String}
    (known : name ∈ h.names) (new : name ∉ seen) :
    (h.unseen (name :: seen)).length < (h.unseen seen).length := by
  rw [unseen_cons, List.length_filter_lt_length_iff_exists]
  exact ⟨name, by simp [unseen, known, new], by simp⟩

/-- Whether the anchor is found by following the pending names, the latest found first. -/
def reaches (h : Host) (anchor : String) (seen : List String) : List String → Bool
  | [] => false
  | name :: pending =>
      if name = anchor then true
      else if name ∈ seen then h.reaches anchor seen pending
      else h.reaches anchor (name :: seen) ((h.supertypeNames name).reverse ++ pending)
termination_by pending => ((h.unseen seen).length, pending.length)
decreasing_by
  · exact Prod.Lex.right _ (Nat.lt_succ_self _)
  · rename_i new
    by_cases known : name ∈ h.names
    · exact Prod.Lex.left _ _ (unseen_cons_lt known new)
    · rw [supertypeNames_eq_nil known, List.reverse_nil, List.nil_append]
      rcases Nat.lt_or_eq_of_le (unseen_cons_le h seen name) with lt | eq
      · exact Prod.Lex.left _ _ lt
      · rw [eq]
        exact Prod.Lex.right _ (Nat.lt_succ_self _)

/-- Only declared types are assignable, and each to itself whether known or not. -/
def isAssignable (h : Host) (t : SourceType) (anchor : String) : Bool :=
  t.rawName?.any fun name => h.reaches anchor [] [name]

def collectionAnchor : String := "java.util.Collection"

def mapAnchor : String := "java.util.Map"

def isCollection (h : Host) (t : SourceType) : Bool := h.isAssignable t collectionAnchor

def isMap (h : Host) (t : SourceType) : Bool := h.isAssignable t mapAnchor

end ClassAtlas.Host

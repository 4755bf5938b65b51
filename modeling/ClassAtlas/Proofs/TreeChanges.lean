import ClassAtlas.Association
import ClassAtlas.Files.FileTree
import ClassAtlas.Proofs.FirstFailure

/-!
What file operations change and what they leave. Making directories only adds entries, and writing
sets the one entry that the path leads to. Directories stay directories, so a path that leads
somewhere leads there from then on, whatever is made or written meanwhile.
-/
namespace ClassAtlas.Files

/-- The place that a path leads to from a working directory, if it leads anywhere. -/
def Path.destination (working : Location) (p : Path) : Location :=
  p.parts.foldl (fun place name => if name = ".." then place.tail else name :: place)
    (if p.anchor = .here then working else [])

/-- A path passes the places that its beginnings lead to, the path itself among them. -/
def Path.Passes (working : Location) (p : Path) (place : Location) : Prop :=
  ∃ first, first <+: p.parts ∧ place = Path.destination working ⟨p.anchor, first⟩

theorem Path.passes_destination (working : Location) (p : Path) :
    p.Passes working (p.destination working) := ⟨p.parts, List.prefix_rfl, rfl⟩

theorem Path.Passes.of_parent {working place : Location} {p : Path}
    (passes : p.parent.Passes working place) : p.Passes working place := by
  obtain ⟨first, start, same⟩ := passes
  exact ⟨first, start.trans (List.dropLast_prefix p.parts), same⟩

/-- What a folder's path passes, the path of a file seen from the folder passes as well. -/
theorem Path.Passes.join {working place : Location} {p q : Path} (below : q.anchor = .here)
    (passes : p.Passes working place) : (p.join q).Passes working place := by
  obtain ⟨first, start, same⟩ := passes
  rw [Path.join, if_pos below]
  exact ⟨first, start.trans (List.prefix_append p.parts q.parts), same⟩

namespace FileTree

variable {t t' : FileTree} {p : Path} {place : Location} {e : Entry} {content : List UInt8}

theorem entry?_put_self (below : place ≠ []) : FileTree.entry? (t.put place e) place = some e := by
  cases place with
  | nil => exact absurd rfl below
  | cons name above => simp [put, entry?]

theorem entry?_put_of_ne {here : Location} (apart : here ≠ place) :
    FileTree.entry? (t.put place e) here = t.entry? here := by
  cases here with
  | nil => rfl
  | cons name above =>
      have other : (name :: above == place) = false := by simpa using apart
      simp only [put, FileTree.entry?]
      rw [List.lookup_cons, other]
      exact Association.lookup_filter_of_ne apart

/-- A later tree in which every directory is still one. -/
structure KeepsDirectories (before after : FileTree) : Prop where
  workingDirectory : after.workingDirectory = before.workingDirectory
  directory : ∀ place, before.entry? place = some .directory → after.entry? place = some .directory

/-- A later tree in which nothing is changed but what was added. -/
structure Extends (before after : FileTree) : Prop where
  workingDirectory : after.workingDirectory = before.workingDirectory
  entry : ∀ place e, before.entry? place = some e → after.entry? place = some e

theorem KeepsDirectories.refl (t : FileTree) : KeepsDirectories t t := ⟨rfl, fun _ => id⟩

theorem KeepsDirectories.trans {t'' : FileTree} (first : KeepsDirectories t t')
    (second : KeepsDirectories t' t'') : KeepsDirectories t t'' :=
  ⟨second.workingDirectory.trans first.workingDirectory,
    fun place is => second.directory place (first.directory place is)⟩

theorem Extends.keepsDirectories (grown : Extends t t') : KeepsDirectories t t' :=
  ⟨grown.workingDirectory, fun place => grown.entry place .directory⟩

theorem locate_eq_ok_iff : t.locate p = .ok place ↔
    p.hasNul = false ∧ p.text.utf8ByteSize ≤ longestPath ∧
      t.follow (t.start p) p.parts = .ok place := by
  rw [locate]
  cases p.hasNul with
  | true => simp
  | false =>
      by_cases long : longestPath < p.text.utf8ByteSize
      · simp [long, Nat.not_le.mpr long]
      · simp [long, Nat.not_lt.mp long, FirstFailure.mapError_eq_ok_iff]

theorem directory_of_step {name : String} {next : Location} (done : t.step place name = .ok next) :
    t.entry? place = some .directory ∧
      next = if name = ".." then place.tail else name :: place := by
  rw [step] at done
  split at done
  · cases done
  · cases done
  case h_3 is =>
    refine ⟨is, ?_⟩
    split at done
    case isTrue up =>
      cases done
      rw [if_pos up]
    case isFalse down =>
      split at done
      · cases done
      · cases done
        rw [if_neg down]

theorem KeepsDirectories.step {name : String} {next : Location} (kept : KeepsDirectories t t')
    (done : t.step place name = .ok next) : t'.step place name = .ok next := by
  have is := (directory_of_step done).1
  rw [FileTree.step, is] at done
  rw [FileTree.step, kept.directory place is]
  exact done

theorem KeepsDirectories.follow {names : List String} {next : Location}
    (kept : KeepsDirectories t t') (done : t.follow place names = .ok next) :
    t'.follow place names = .ok next := by
  induction names generalizing place with
  | nil => exact done
  | cons name rest ih =>
      simp only [FileTree.follow, bind, Except.bind] at done ⊢
      cases first : t.step place name with
      | error obstacle => simp [first] at done
      | ok here =>
          simp only [first] at done
          simp only [kept.step first]
          exact ih done

/-- A path that leads to a place does so for good. -/
theorem KeepsDirectories.locate (kept : KeepsDirectories t t') (done : t.locate p = .ok place) :
    t'.locate p = .ok place := by
  obtain ⟨clean, short, followed⟩ := locate_eq_ok_iff.mp done
  have start : t'.start p = t.start p := by
    rw [FileTree.start, FileTree.start, kept.workingDirectory]
  exact locate_eq_ok_iff.mpr ⟨clean, short, start ▸ kept.follow followed⟩

theorem follow_eq_foldl {names : List String} {next : Location}
    (done : t.follow place names = .ok next) :
    next = names.foldl (fun place name => if name = ".." then place.tail else name :: place)
      place := by
  induction names generalizing place with
  | nil =>
      cases done
      rfl
  | cons name rest ih =>
      simp only [follow, bind, Except.bind] at done
      cases first : t.step place name with
      | error obstacle => simp [first] at done
      | ok here =>
          simp only [first] at done
          rw [List.foldl_cons, ← (directory_of_step first).2]
          exact ih done

/-- A path leads to its destination or nowhere. -/
theorem eq_destination_of_locate (done : t.locate p = .ok place) :
    place = p.destination t.workingDirectory := by
  obtain ⟨_, _, followed⟩ := locate_eq_ok_iff.mp done
  exact follow_eq_foldl followed

theorem read_eq_ok_iff : t.read p = .ok content ↔
    ∃ place, t.locate p = .ok place ∧ t.entry? place = some (.file content) := by
  simp only [read, bind, Except.bind]
  cases t.locate p with
  | error e => simp
  | ok place =>
      cases found : t.entry? place with
      | none => simp [found]
      | some e => cases e <;> simp [found]

/-- A later tree with nothing changed but directories made where a path passes. -/
structure GrowsAlong (p : Path) (before after : FileTree) : Prop where
  workingDirectory : after.workingDirectory = before.workingDirectory
  entry : ∀ place, after.entry? place = before.entry? place ∨
    before.entry? place = none ∧ after.entry? place = some .directory ∧
      p.Passes before.workingDirectory place

theorem GrowsAlong.refl (p : Path) (t : FileTree) : GrowsAlong p t t := ⟨rfl, fun _ => .inl rfl⟩

theorem GrowsAlong.trans {t'' : FileTree} (first : GrowsAlong p t t')
    (second : GrowsAlong p t' t'') : GrowsAlong p t t'' := by
  refine ⟨second.workingDirectory.trans first.workingDirectory, fun place => ?_⟩
  rcases second.entry place with same | ⟨free, made, passes⟩
  · rw [same]
    exact first.entry place
  · rw [first.workingDirectory] at passes
    rcases first.entry place with same | ⟨_, taken, _⟩
    · exact .inr ⟨same.symm.trans free, made, passes⟩
    · cases free.symm.trans taken

/-- What was there before is still there. -/
theorem GrowsAlong.extends (grown : GrowsAlong p t t') : Extends t t' := by
  refine ⟨grown.workingDirectory, fun place e is => ?_⟩
  rcases grown.entry place with same | ⟨free, _, _⟩
  · exact same.trans is
  · cases free.symm.trans is

theorem GrowsAlong.of_parent (grown : GrowsAlong p.parent t t') : GrowsAlong p t t' :=
  ⟨grown.workingDirectory, fun place => (grown.entry place).imp_right
    fun ⟨free, made, passes⟩ => ⟨free, made, passes.of_parent⟩⟩

theorem makeDirectory_eq_ok_iff : t.makeDirectory p = .ok t' ↔ ∃ place,
    t.locate p = .ok place ∧ t.entry? place = none ∧ t' = t.put place .directory := by
  simp only [makeDirectory, bind, Except.bind]
  cases t.locate p with
  | error e => simp
  | ok place => cases free : t.entry? place <;> simp [free, eq_comm]

theorem growsAlong_of_makeDirectory (done : t.makeDirectory p = .ok t') : GrowsAlong p t t' := by
  obtain ⟨place, located, free, rfl⟩ := makeDirectory_eq_ok_iff.mp done
  refine ⟨rfl, fun here => ?_⟩
  by_cases same : here = place
  · subst same
    -- The root is there already.
    have below : here ≠ [] := by
      rintro rfl
      cases free
    refine .inr ⟨free, entry?_put_self below, ?_⟩
    rw [eq_destination_of_locate located]
    exact p.passes_destination _
  · exact .inl (entry?_put_of_ne same)

/-- The induction follows the making of the directories above. -/
theorem growsAlong_ensureDirectory (t : FileTree) (p : Path) :
    GrowsAlong p t (t.ensureDirectory p).1 := by
  fun_induction ensureDirectory t p with
  | case1 _ _ done => exact growsAlong_of_makeDirectory done
  | case2 | case6 | case7 => exact .refl _ t
  | case3 _ _ _ _ _ _ reached ih | case5 _ _ _ _ _ reached _ _ ih =>
      rw [reached] at ih
      exact ih.of_parent
  | case4 _ _ _ _ _ reached _ done ih =>
      rw [reached] at ih
      exact ih.of_parent.trans (growsAlong_of_makeDirectory done)

theorem write_eq_ok_iff : t.write p content = .ok t' ↔ ∃ place, t.locate p = .ok place ∧
    t.entry? place ≠ some .directory ∧ t' = t.put place (.file content) := by
  simp only [write, bind, Except.bind, isDirectoryAt]
  cases t.locate p with
  | error e => simp
  | ok place =>
      by_cases is : t.entry? place = some .directory
      · simp [is]
      · simp only [beq_iff_eq, is, if_false, Except.ok.injEq, exists_eq_left', ne_eq,
          not_false_eq_true, true_and]
        exact eq_comm

/-- What a successful write does to the tree. -/
structure Wrote (before : FileTree) (p : Path) (content : List UInt8) (after : FileTree) :
    Prop where
  kept : KeepsDirectories before after
  located : after.locate p = .ok (p.destination before.workingDirectory)
  entry : after.entry? (p.destination before.workingDirectory) = some (.file content)
  others : ∀ place, place ≠ p.destination before.workingDirectory →
    after.entry? place = before.entry? place

theorem wrote_of_write (done : t.write p content = .ok t') : Wrote t p content t' := by
  obtain ⟨place, located, noDirectory, rfl⟩ := write_eq_ok_iff.mp done
  -- The root is a directory, so it is no place to write to.
  have below : place ≠ [] := by
    rintro rfl
    exact noDirectory rfl
  have kept : KeepsDirectories t (t.put place (.file content)) := by
    refine ⟨rfl, fun here is => ?_⟩
    have apart : here ≠ place := by
      rintro rfl
      exact noDirectory is
    rw [entry?_put_of_ne apart, is]
  have same := eq_destination_of_locate located
  subst same
  exact ⟨kept, kept.locate located, entry?_put_self below, fun _ => entry?_put_of_ne⟩

end FileTree
end ClassAtlas.Files

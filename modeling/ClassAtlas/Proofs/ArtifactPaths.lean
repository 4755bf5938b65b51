import ClassAtlas.Proofs.DumpRun
import ClassAtlas.Proofs.RegistryMembers

/-!
Where the artifacts of a dump go. A simple name has no dots, and the dots of a namespace become
slashes, so no part of either leads up again: an artifact lies below the output directory unless the
folder or the simple name is itself a path from the root. A dump changes no other file.
-/
namespace ClassAtlas

open Files (Location Path FileTree Anchor)

namespace Text

variable {separator : Char} {text : List Char}

theorem mem_of_mem_pieces {piece : List Char} (mem : piece ∈ pieces separator text) {c : Char}
    (within : c ∈ piece) : c ∈ text ∧ c ≠ separator := by
  induction text generalizing piece with
  | nil =>
      rw [List.mem_singleton.mp mem] at within
      cases within
  | cons first rest ih =>
      rw [pieces] at mem
      split at mem
      case isTrue =>
        cases mem with
        | head => cases within
        | tail _ mem => exact (ih mem within).imp_left (List.mem_cons_of_mem first)
      case isFalse other =>
        cases others : pieces separator rest with
        | nil => exact absurd others (pieces_ne_nil separator rest)
        | cons next others' =>
            rw [others] at mem ih
            cases mem with
            | head =>
                cases within with
                | head => exact ⟨List.mem_cons_self, other⟩
                | tail _ within =>
                    exact (ih List.mem_cons_self within).imp_left (List.mem_cons_of_mem first)
            | tail _ mem =>
                exact (ih (List.mem_cons_of_mem next mem) within).imp_left
                  (List.mem_cons_of_mem first)

/-- Text without separators that is put behind another only lengthens its last piece. -/
theorem pieces_append {tail : List Char} (unparted : separator ∉ tail) :
    ∃ before last, pieces separator text = before ++ [last] ∧
      pieces separator (text ++ tail) = before ++ [last ++ tail] := by
  induction text with
  | nil =>
      refine ⟨[], [], rfl, ?_⟩
      induction tail with
      | nil => rfl
      | cons c rest ih =>
          rw [List.mem_cons, not_or] at unparted
          have whole := ih unparted.2
          rw [List.nil_append] at whole ⊢
          rw [pieces, if_neg (Ne.symm unparted.1), whole]
          rfl
  | cons c rest ih =>
      obtain ⟨before, last, own, longer⟩ := ih
      rw [List.cons_append, pieces, pieces, own, longer]
      by_cases parts : c = separator
      · rw [if_pos parts, if_pos parts]
        exact ⟨[] :: before, last, rfl, rfl⟩
      · rw [if_neg parts, if_neg parts]
        cases before with
        | nil => exact ⟨[], c :: last, rfl, rfl⟩
        | cons first before => exact ⟨(c :: first) :: before, last, rfl, rfl⟩

/-- A simple name is a single segment. -/
theorem Dotted.not_mem_simpleName (name : String) : '.' ∉ (simpleName name).toList := by
  intro mem
  rw [simpleName, String.toList_ofList] at mem
  have segment : (segments name).getLastD [] ∈ segments name := by
    cases all : segments name with
    | nil => exact absurd all (pieces_ne_nil _ _)
    | cons first rest =>
        rw [List.getLastD_cons]
        exact List.getLastD_mem_cons
  exact (mem_of_mem_pieces segment mem).2 rfl

end Text

namespace Files.Path

theorem anchor_ofText {text : String} (relative : text.toList.head? ≠ some '/') :
    (ofText text).anchor = .here := by
  change Anchor.ofText text.toList = .here
  cases chars : text.toList with
  | nil => rfl
  | cons c rest =>
      rw [chars] at relative
      have other : c ≠ '/' := fun slash => relative (congrArg some slash)
      simp [Anchor.ofText, other]

/-- Pieces without dots do not lead up. -/
theorem up_not_mem_parts {pieces : List (List Char)} (undotted : ∀ piece ∈ pieces, '.' ∉ piece) :
    ".." ∉ (pieces.filter isPart).map String.ofList := by
  intro mem
  obtain ⟨piece, kept, same⟩ := List.mem_map.mp mem
  have dots : piece = ['.', '.'] := by rw [← String.toList_ofList (l := piece), same]; rfl
  apply undotted piece (List.mem_of_mem_filter kept)
  rw [dots]
  exact List.mem_cons_self

theorem up_not_mem_parts_ofText {text : String} (undotted : '.' ∉ text.toList) :
    ".." ∉ (ofText text).parts :=
  up_not_mem_parts fun _ piece dot => undotted (Text.mem_of_mem_pieces piece dot).1

/-- The parts of a name with an ending are those of the name, the last of them with the ending. -/
theorem exists_parts_ofText_append {text ending : String} (unparted : '/' ∉ ending.toList)
    (long : 2 < ending.toList.length) (undotted : '.' ∉ text.toList) :
    ∃ above last, (ofText (text ++ ending)).parts = above ++ [last ++ ending] ∧
      ".." ∉ above ++ [last ++ ending] := by
  obtain ⟨before, last, own, longer⟩ := @Text.pieces_append _ text.toList _ unparted
  have whole : isPart (last ++ ending.toList) = true := by
    have short : ∀ piece : List Char, piece.length ≤ 1 → last ++ ending.toList ≠ piece := by
      intro piece short same
      rw [← same, List.length_append] at short
      omega
    simp [isPart, short [] (by decide), short ['.'] (by decide)]
  refine ⟨(before.filter isPart).map String.ofList, String.ofList last, ?_, ?_⟩
  · simp only [ofText, String.toList_append, longer, List.filter_append, List.map_append,
      List.filter_cons, whole, if_true, List.filter_nil, List.map_cons, List.map_nil,
      String.ofList_append, String.ofList_toList]
  · rw [List.mem_append, List.mem_singleton, not_or]
    constructor
    · apply up_not_mem_parts
      intro piece mem dot
      have listed : piece ∈ Text.pieces '/' text.toList := by
        rw [own]
        exact List.mem_append_left _ mem
      exact undotted (Text.mem_of_mem_pieces listed dot).1
    · intro same
      have size := congrArg (fun text => text.toList.length) same
      simp at size
      omega

/-- Parts that do not lead up lead further down from where a path leads. -/
theorem destination_append (working : Location) (p : Path) {below : List String}
    (down : ".." ∉ below) :
    destination working ⟨p.anchor, p.parts ++ below⟩ = below.reverse ++ p.destination working := by
  rw [destination, destination, List.foldl_append]
  generalize p.parts.foldl _ _ = place
  induction below generalizing place with
  | nil => rfl
  | cons name rest ih =>
      rw [List.mem_cons, not_or] at down
      rw [List.foldl_cons, if_neg (Ne.symm down.1), ih down.2]
      simp

end Files.Path

namespace Files.FileTree

/-- A later tree with the same files outside of some region. -/
structure KeepsFilesOutside (region : Location → Prop) (before after : FileTree) : Prop where
  workingDirectory : after.workingDirectory = before.workingDirectory
  file : ∀ place, ¬ region place → ∀ content,
    after.entry? place = some (.file content) ↔ before.entry? place = some (.file content)

namespace KeepsFilesOutside

variable {region region' : Location → Prop} {t t' : FileTree} {p : Path} {content : List UInt8}

theorem refl (region : Location → Prop) (t : FileTree) : KeepsFilesOutside region t t :=
  ⟨rfl, fun _ _ _ => Iff.rfl⟩

theorem trans {t'' : FileTree} (first : KeepsFilesOutside region t t')
    (second : KeepsFilesOutside region t' t'') : KeepsFilesOutside region t t'' :=
  ⟨second.workingDirectory.trans first.workingDirectory, fun place outside content =>
    (second.file place outside content).trans (first.file place outside content)⟩

theorem mono (kept : KeepsFilesOutside region t t') (wider : ∀ place, region place → region' place) :
    KeepsFilesOutside region' t t' :=
  ⟨kept.workingDirectory, fun place outside => kept.file place fun within => outside (wider _ within)⟩

/-- Making directories changes no file. -/
theorem of_growsAlong (grown : GrowsAlong p t t') : KeepsFilesOutside region t t' := by
  refine ⟨grown.workingDirectory, fun place _ content => ?_⟩
  rcases grown.entry place with same | ⟨free, made, _⟩
  · rw [same]
  · rw [free, made]
    exact ⟨nofun, nofun⟩

theorem of_wrote (wrote : t.Wrote p content t') :
    KeepsFilesOutside (· = p.destination t.workingDirectory) t t' :=
  ⟨wrote.kept.workingDirectory, fun place outside content => by rw [wrote.others place outside]⟩

end KeepsFilesOutside
end Files.FileTree

namespace Generator

/-- An attempt to write a file touches no other file. -/
theorem keepsFilesOutside_writeFile (g : Generator) (strict : Bool) (directory file : String)
    (content : RawText) (s : Session) :
    let path := (g.folder directory).join (Path.ofText file)
    s.files.KeepsFilesOutside (· = path.destination s.files.workingDirectory)
      (g.writeFile strict directory file content s).1.files := by
  intro path
  have attempted := g.attempted_writeFile strict directory file content s
  generalize g.writeFile strict directory file content s = ended at attempted ⊢
  cases attempted with
  | unwritten _ grown _ =>
      rw [traced_eq]
      exact .of_growsAlong grown
  | written _ _ grown written =>
      rw [traced_eq]
      have wrote := FileTree.KeepsFilesOutside.of_wrote (FileTree.wrote_of_write written)
      rw [grown.workingDirectory] at wrote
      exact .trans (.of_growsAlong grown) wrote

end Generator

/-- A class that is found is called by the simple name of its qualified name. -/
theorem Discovery.dot_not_mem_simpleName {decl : Declarations} {withStandard : Bool} {h : Host}
    (onFile : h = .ofDeclarations decl withStandard) {directKind : String}
    {registryKind : Option String} {found : Found}
    (done : discover h directKind registryKind = .ok found) {c : AnnotatedClass}
    (mem : c ∈ found.classes.toList) : '.' ∉ c.simpleName.toList := by
  subst onFile
  have typed : ∃ t, (t ∈ (Host.ofDeclarations decl withStandard).classes ∨
      t ∈ (Host.ofDeclarations decl withStandard).known) ∧ c.element = .type t := by
    rcases mem_found_of_discover done mem with
      ⟨t, listed, _, same⟩ | ⟨_, _, _, _, _, _, _, _, t, named, same⟩
    · exact ⟨t, .inl listed, same⟩
    · exact ⟨t, Host.mem_of_typeNamed? named, same⟩
  obtain ⟨t, listed | known, same⟩ := typed
  · obtain ⟨i, inside, rfl⟩ := List.mem_mapIdx.mp listed
    rw [AnnotatedClass.simpleName, same]
    exact Text.Dotted.not_mem_simpleName _
  · obtain ⟨entry, rfl⟩ := Host.exists_standardType_of_mem_known known
    rw [AnnotatedClass.simpleName, same]
    exact Text.Dotted.not_mem_simpleName _

namespace Dump

/-- The classes that a dump goes over. -/
def Finds (d : Dump) (c : AnnotatedClass) : Prop := ∃ found,
  Discovery.discover d.host d.directKind d.registryKind = .ok found ∧ c ∈ found.classes.toList

/-- The folder and the name of a class are no paths from the root. -/
def IsRelative (c : AnnotatedClass) : Prop :=
  (folderName c).toList.head? ≠ some '/' ∧ c.simpleName.toList.head? ≠ some '/'

instance (c : AnnotatedClass) : Decidable (IsRelative c) := inferInstanceAs (Decidable (_ ∧ _))

theorem dot_not_mem_folderName (c : AnnotatedClass) : '.' ∉ (folderName c).toList := by
  intro mem
  rw [folderName, String.toList_ofList] at mem
  obtain ⟨ch, _, same⟩ := List.mem_map.mp mem
  by_cases dot : ch = '.'
  · rw [if_pos dot] at same
    cases same
  · rw [if_neg dot] at same
    exact dot same

/-- The path of an artifact goes on from the output directory and never up, to a part with the
ending of artifacts. -/
theorem exists_artifactPath (d : Dump) {c : AnnotatedClass} (relative : IsRelative c)
    (undotted : '.' ∉ c.simpleName.toList) :
    let out := Path.ofText d.outputDirectory
    ∃ above last, d.artifactPath c =
        ⟨out.anchor, out.parts ++ (above ++ [last ++ Artifact.suffix])⟩ ∧
      ".." ∉ above ++ [last ++ Artifact.suffix] := by
  intro out
  obtain ⟨above, last, parts, down⟩ := @Path.exists_parts_ofText_append _ Artifact.suffix
    (by decide) (by decide) undotted
  have upper := Path.up_not_mem_parts_ofText (dot_not_mem_folderName c)
  have folder : (Path.ofText (folderName c)).anchor = .here := Path.anchor_ofText relative.1
  have file : (Path.ofText (fileName c)).anchor = .here := by
    apply Path.anchor_ofText
    rw [fileName, String.toList_append]
    cases name : c.simpleName.toList with
    | nil => decide
    | cons ch rest =>
        have first := relative.2
        rw [name] at first
        exact first
  refine ⟨(Path.ofText (folderName c)).parts ++ above, last, ?_, ?_⟩
  · rw [artifactPath, Generator.folder, Path.join, if_pos file, Path.join, if_pos folder, fileName,
      parts]
    simp only [out, List.append_assoc]
  · rw [List.append_assoc, List.mem_append, not_or]
    exact ⟨upper, down⟩

/-- What a run over classes does to files and paths: it changes no file but those of the classes,
and keeps no path but theirs. -/
structure WritesOnly (d : Dump) (classes : List AnnotatedClass) (before after : Session) :
    Prop where
  files : before.files.KeepsFilesOutside
    (fun place => ∃ c ∈ classes, place = d.artifactPlace before.files.workingDirectory c) after.files
  written : ∀ p ∈ after.written, p ∈ before.written ∨ ∃ c ∈ classes, p = d.artifactPath c

namespace WritesOnly

variable {d : Dump} {classes : List AnnotatedClass} {c : AnnotatedClass} {before after last : Session}

theorem of_noted (noted : before.Noted after) : d.WritesOnly classes before after := by
  constructor
  · rw [noted.files]
    exact .refl _ _
  · rw [noted.written]
    exact fun p mem => .inl mem

theorem trans (first : d.WritesOnly classes before after)
    (second : d.WritesOnly classes after last) : d.WritesOnly classes before last := by
  have files := second.files
  rw [first.files.workingDirectory] at files
  refine ⟨first.files.trans files, fun p mem => ?_⟩
  exact (second.written p mem).elim (first.written p) .inr

theorem mono {others : List AnnotatedClass} (only : d.WritesOnly classes before after)
    (more : ∀ c ∈ classes, c ∈ others) : d.WritesOnly others before after := by
  constructor
  · exact only.files.mono fun place ⟨c, mem, same⟩ => ⟨c, more c mem, same⟩
  · exact fun p mem => (only.written p mem).imp_right fun ⟨c, mem, same⟩ => ⟨c, more c mem, same⟩

end WritesOnly

theorem writesOnly_handOver (d : Dump) (c : AnnotatedClass) (text : String) (s : Session) :
    d.WritesOnly [c] s (d.handOver c text s) := by
  have files := d.keepsFilesOutside_writeFile d.strict (folderName c) (fileName c) text s
  have attempt := d.attempt_writeFile d.strict (folderName c) (fileName c) text s
  rw [handOver]
  constructor
  · exact files.mono fun place same => ⟨c, List.mem_singleton_self c, same⟩
  · intro p mem
    rcases List.mem_append.mp mem with mem | mem
    · rw [attempt.written_eq] at mem
      exact .inl mem
    · rcases attempt.answer_eq with answer | answer
      · rw [answer] at mem
        cases mem
      · rw [answer] at mem
        exact .inr ⟨c, List.mem_singleton_self c, List.mem_singleton.mp mem⟩

theorem writesOnly_writeClass (d : Dump) (c : AnnotatedClass) (s : Session) :
    d.WritesOnly [c] s (d.writeClass c s).1 := by
  have traced := @WritesOnly.of_noted d [c] _ _ (s.noted_observe (c.serialize d.context))
  cases outcome : (c.serialize d.context).outcome with
  | error e =>
      rw [writeClass_of_error outcome]
      exact traced
  | ok text =>
      rw [writeClass_of_ok outcome]
      exact traced.trans (d.writesOnly_handOver c text _)

/-- The induction is on the classes: each of them adds its own file at most. -/
theorem writesOnly_writeAll (d : Dump) (classes : List AnnotatedClass) (s : Session) :
    d.WritesOnly classes s (d.writeAll classes s).1 := by
  induction classes generalizing s with
  | nil => exact .of_noted (.refl s)
  | cons c rest ih =>
      have first : d.WritesOnly (c :: rest) s (d.writeClass c s).1 :=
        (d.writesOnly_writeClass c s).mono (by simp)
      rw [writeAll]
      split
      case h_1 s' e written =>
        rw [written] at first
        exact first
      case h_2 s' written =>
        rw [written] at first
        exact first.trans ((ih s').mono fun _ => List.mem_cons_of_mem c)

/-- A dump whose discovery fails writes nothing. -/
theorem exists_writesOnly_process (d : Dump) (s : Session) :
    ∃ classes, (∀ c ∈ classes, d.Finds c) ∧ d.WritesOnly classes s (d.process s).1 := by
  have noted := d.noted_discover d.directKind d.registryKind s
  cases result : Discovery.discover d.host d.directKind d.registryKind with
  | error x =>
      refine ⟨[], nofun, ?_⟩
      rw [process_of_undiscovered (by rw [Generator.discover_of_error result])]
      exact .of_noted noted
  | ok found =>
      refine ⟨found.classes.toList, fun c mem => ⟨found, result, mem⟩, ?_⟩
      rw [process_of_discovered (by rw [Generator.discover_of_ok result])]
      exact .trans (.of_noted noted) (d.writesOnly_writeAll _ _)

/-- A place below a folder. -/
def IsBelow (folder place : Location) : Prop := ∃ name names, place = name :: (names ++ folder)

theorem isBelow_artifactPlace (d : Dump) {c : AnnotatedClass} (relative : IsRelative c)
    (undotted : '.' ∉ c.simpleName.toList) (working : Location) :
    IsBelow ((Path.ofText d.outputDirectory).destination working) (d.artifactPlace working c) := by
  obtain ⟨above, last, path, down⟩ := d.exists_artifactPath relative undotted
  refine ⟨last ++ Artifact.suffix, above.reverse, ?_⟩
  rw [artifactPlace, path, Path.destination_append working (Path.ofText d.outputDirectory) down]
  simp

/-- The artifact of a class that is found has a path below the output directory, no part of which
leads up again and the last of which has the ending of artifacts, unless the folder or the name of
the class is a path from the root. Only paths of artifacts are kept as written, and outside of the
output directory no file is made, changed or lost but the artifacts of such classes. -/
theorem artifacts_inside {decl : Declarations} {withStandard : Bool} (d : Dump)
    (onFile : d.host = .ofDeclarations decl withStandard) (s : Session) :
    let out := Path.ofText d.outputDirectory
    let working := s.files.workingDirectory
    let s' := (d.process s).1
    (∀ c, d.Finds c → IsRelative c → ∃ above last,
      d.artifactPath c = ⟨out.anchor, out.parts ++ (above ++ [last ++ Artifact.suffix])⟩ ∧
      ".." ∉ above ++ [last ++ Artifact.suffix]) ∧
    (∀ p ∈ s'.written, p ∈ s.written ∨ ∃ c, d.Finds c ∧ p = d.artifactPath c) ∧
    ∀ place, ¬ IsBelow (out.destination working) place →
      (∀ c, d.Finds c → place = d.artifactPlace working c → IsRelative c) →
        ∀ content, s'.files.entry? place = some (.file content) ↔
          s.files.entry? place = some (.file content) := by
  intro out working s'
  have undotted : ∀ c, d.Finds c → '.' ∉ c.simpleName.toList :=
    fun c ⟨found, done, mem⟩ => Discovery.dot_not_mem_simpleName onFile done mem
  obtain ⟨classes, among, only⟩ := d.exists_writesOnly_process s
  refine ⟨?_, ?_, ?_⟩
  · intro c found relative
    exact d.exists_artifactPath relative (undotted c found)
  · intro p mem
    exact (only.written p mem).imp_right fun ⟨c, listed, same⟩ => ⟨c, among c listed, same⟩
  · intro place outside relative content
    apply only.files.file place
    intro artifact
    obtain ⟨c, listed, same⟩ := artifact
    have found := among c listed
    have below := d.isBelow_artifactPlace (relative c found same) (undotted c found) working
    exact outside (same ▸ below)

/-- A class with slashes and empty segments in its name and in its namespace. -/
def oddlyNamed : Declarations where
  classes := [⟨"a..B/c", .plainClass, some "x/../y", [], [⟨"Tag", []⟩], [], [], [], []⟩]

theorem artifacts_inside_oddlyNamed :
    let d : Dump := ⟨.ofConfig (.ofDeclarations oddlyNamed false) .standard [], "Tag", none, true⟩
    let s := Session.start false ⟨[], []⟩
    ∃ c, d.Finds c ∧ IsRelative c ∧
      (d.artifactPath c).text = "build/generated/x/y/B/c.model.json" ∧
      (∃ above last, (d.artifactPath c).parts =
        ["build", "generated"] ++ (above ++ [last ++ Artifact.suffix])) ∧
      ∀ content, (d.process s).1.files.entry? ["c.model.json"] ≠ some (.file content) := by
  intro d s
  let c : AnnotatedClass := ⟨.type (.ofDecl 0 oddlyNamed.classes[0]), false⟩
  have discovered : Discovery.discover d.host d.directKind d.registryKind = .ok ⟨[c], []⟩ := rfl
  have found : d.Finds c := ⟨_, discovered, List.mem_singleton_self c⟩
  have relative : IsRelative c := by decide
  have out : Path.ofText d.outputDirectory = ⟨.here, ["build", "generated"]⟩ := by decide +kernel
  obtain ⟨paths, _, outside⟩ := artifacts_inside d rfl s
  rw [out] at paths outside
  refine ⟨c, found, relative, by decide +kernel, ?_, ?_⟩
  · obtain ⟨above, last, path, _⟩ := paths c found relative
    exact ⟨above, last, congrArg Path.parts path⟩
  · intro content
    have elsewhere : ¬ IsBelow ["generated", "build"] ["c.model.json"] := by
      rintro ⟨name, names, same⟩
      have size := congrArg List.length same
      simp at size
    rw [Ne, outside ["c.model.json"] elsewhere]
    · exact nofun
    · intro c' found' _
      obtain ⟨_, again, mem⟩ := found'
      cases discovered.symm.trans again
      rw [List.mem_singleton.mp mem]
      exact relative

end Dump
end ClassAtlas

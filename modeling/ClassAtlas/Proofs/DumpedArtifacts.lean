import Mathlib.Data.List.Nodup
import ClassAtlas.Proofs.DumpRun
import ClassAtlas.Proofs.Lists

/-!
What a dump leaves of its artifacts. Where nothing fails, the file of every class holds the text of
the last class that is written to the same place. So an artifact is kept unless a later class goes
to its place with another text, as two classes of one namespace and one simple name do.
-/
namespace ClassAtlas

open Files (Location FileTree)

namespace Dump

variable {d : Dump} {s s' : Session}

theorem process_eq_ok {claimed : Bool} (done : d.process s = (s', .ok claimed)) :
    ∃ s₀ found records, d.discover d.directKind d.registryKind s = (s₀, .ok found) ∧
      ClassRecord.ofClasses d.context found.toList = .ok records ∧
      s' = d.handOverAll (texts found.toList records) s₀ := by
  rw [process] at done
  split at done
  · cases done
  case h_2 s₀ found discovered =>
    cases recorded : ClassRecord.ofClasses d.context found.toList with
    | error e =>
        obtain ⟨last, failed⟩ := writeAll_of_error recorded s₀
        rw [failed] at done
        cases done
    | ok records =>
        rw [writeAll_of_ok recorded] at done
        cases done
        exact ⟨s₀, found, records, discovered, recorded, rfl⟩

section Complete

variable {pairs : List (AnnotatedClass × String)}

/-- Where every text was written, the paths kept are those of the classes in order. -/
theorem written_of_complete
    (complete : (d.handOverAll pairs s).written.length = s.written.length + pairs.length) :
    (d.handOverAll pairs s).written = s.written ++ pairs.map (d.artifactPath ·.1) := by
  induction pairs generalizing s with
  | nil => simp [handOverAll]
  | cons p rest ih =>
      obtain ⟨c, text⟩ := p
      have others := d.handedAll_handOverAll rest
        (d.handOver c text (s.observe (c.serialize d.context)).1)
      rw [handOverAll] at complete ⊢
      rw [List.length_cons] at complete
      rcases (d.handed_handOver_observe c text s).outcome with lost | ⟨noted, _⟩
      · have fewer := others.length_le
        rw [lost] at fewer
        omega
      · rw [ih, noted, List.append_assoc]
        · rfl
        · rw [complete, noted, List.length_append, List.length_singleton]
          omega

/-- Where every text was written, every path leads to the place of its class. -/
theorem locate_of_complete
    (complete : (d.handOverAll pairs s).written.length = s.written.length + pairs.length)
    {p : AnnotatedClass × String} (mem : p ∈ pairs) :
    (d.handOverAll pairs s).files.locate (d.artifactPath p.1) =
      .ok (d.artifactPlace s.files.workingDirectory p.1) := by
  obtain ⟨before, after, rfl⟩ := List.append_of_mem mem
  obtain ⟨s₁, _, _, located, _, rest⟩ := handed_of_complete rfl complete
  exact rest.directories.locate located

/-- Where every text was written, a place holds the last text that was written to it. -/
theorem entry?_of_complete
    (complete : (d.handOverAll pairs s).written.length = s.written.length + pairs.length)
    {before after : List (AnnotatedClass × String)} {c : AnnotatedClass} {text : String}
    (split : pairs = before ++ (c, text) :: after)
    (last : ∀ q ∈ after, d.artifactPlace s.files.workingDirectory q.1 ≠
      d.artifactPlace s.files.workingDirectory c) :
    (d.handOverAll pairs s).files.entry? (d.artifactPlace s.files.workingDirectory c) =
      some (.file text.toUTF8.toList) := by
  subst split
  obtain ⟨s₁, _, working, _, entry, rest⟩ := handed_of_complete rfl complete
  refine rest.others _ ?_ _ entry
  rw [working]
  exact fun q mem => Ne.symm (last q mem)

theorem read_eq_ok_iff_of_complete
    (complete : (d.handOverAll pairs s).written.length = s.written.length + pairs.length)
    {p : AnnotatedClass × String} (mem : p ∈ pairs) {content : List UInt8} :
    (d.handOverAll pairs s).files.read (d.artifactPath p.1) = .ok content ↔
      (d.handOverAll pairs s).files.entry? (d.artifactPlace s.files.workingDirectory p.1) =
        some (.file content) := by
  rw [FileTree.read_eq_ok_iff, locate_of_complete complete mem]
  simp only [Except.ok.injEq, exists_eq_left']

/-- Where every text was written, each path holds the text of the last class that was written to
its place. -/
theorem read_of_complete
    (complete : (d.handOverAll pairs s).written.length = s.written.length + pairs.length)
    {p : AnnotatedClass × String} (mem : p ∈ pairs) :
    ∃ before q after, pairs = before ++ q :: after ∧
      d.artifactPlace s.files.workingDirectory q.1 =
        d.artifactPlace s.files.workingDirectory p.1 ∧
      (∀ r ∈ after, d.artifactPlace s.files.workingDirectory r.1 ≠
        d.artifactPlace s.files.workingDirectory p.1) ∧
      (d.handOverAll pairs s).files.read (d.artifactPath p.1) = .ok q.2.toUTF8.toList := by
  obtain ⟨before, q, after, split, same, last⟩ :=
    exists_last_of_key (fun q => d.artifactPlace s.files.workingDirectory q.1) mem
  refine ⟨before, q, after, split, same, last, (read_eq_ok_iff_of_complete complete mem).mpr ?_⟩
  -- The other classes of the place came before, so what was written for this one stands.
  rw [← same] at last ⊢
  exact entry?_of_complete complete split last

/-- Where every text was written, each class has its own text unless another class of its place has
another text. -/
theorem own_text_iff_of_complete
    (complete : (d.handOverAll pairs s).written.length = s.written.length + pairs.length) :
    (∀ p ∈ pairs, (d.handOverAll pairs s).files.read (d.artifactPath p.1) =
        .ok p.2.toUTF8.toList) ↔
      ∀ p ∈ pairs, ∀ q ∈ pairs, d.artifactPlace s.files.workingDirectory p.1 =
        d.artifactPlace s.files.workingDirectory q.1 → p.2 = q.2 := by
  constructor
  · intro own p mem q mem' same
    have one := (read_eq_ok_iff_of_complete complete mem).mp (own p mem)
    have other := (read_eq_ok_iff_of_complete complete mem').mp (own q mem')
    rw [same, other] at one
    simp only [Option.some.injEq, Files.Entry.file.injEq] at one
    exact (bytes_inj.mp one).symm
  · intro agree p mem
    obtain ⟨before, q, after, split, same, _, content⟩ := read_of_complete complete mem
    have mem' : q ∈ pairs := split ▸ List.mem_append_right before List.mem_cons_self
    rw [content, agree q mem' p mem same]

end Complete

/-- Classes at places of their own do not contend for one. -/
theorem same_text_of_nodup {ctx : Context} {place : AnnotatedClass → Location}
    {classes : List AnnotatedClass} {texts : List String}
    (each : List.Forall₂ (fun c text => (c.serialize ctx).outcome = .ok text) classes texts)
    (apart : (classes.map place).Nodup) :
    ∀ p ∈ classes.zip texts, ∀ q ∈ classes.zip texts, place p.1 = place q.1 → p.2 = q.2 := by
  intro p mem q mem' same
  have same_class : p.1 = q.1 :=
    List.inj_on_of_nodup_map apart (List.of_mem_zip mem).1 (List.of_mem_zip mem').1 same
  have text := List.forall₂_zip each mem
  rw [same_class, List.forall₂_zip each mem'] at text
  exact (Except.ok.inj text).symm

/-- A dump that gives every class a path keeps the paths in the order of the classes. Each file
holds the text of the last class that goes to its place, so every class has its own text exactly
when classes that go to one place have one text. -/
theorem process_keeps_artifacts (d : Dump) (s s' : Session) (claimed : Bool)
    (done : d.process s = (s', .ok claimed)) :
    ∃ s₀ found texts, d.discover d.directKind d.registryKind s = (s₀, .ok found) ∧
      List.Forall₂ (fun c text => (c.serialize d.context).outcome = .ok text) found.toList texts ∧
      (s'.written.length = s.written.length + found.toList.length →
        let place := d.artifactPlace s.files.workingDirectory
        let pairs := found.toList.zip texts
        s'.written = s.written ++ found.toList.map d.artifactPath ∧
        (∀ p ∈ pairs, ∃ before q after, pairs = before ++ q :: after ∧ place q.1 = place p.1 ∧
          (∀ r ∈ after, place r.1 ≠ place p.1) ∧
          s'.files.read (d.artifactPath p.1) = .ok q.2.toUTF8.toList) ∧
        ((∀ p ∈ pairs, s'.files.read (d.artifactPath p.1) = .ok p.2.toUTF8.toList) ↔
          ∀ p ∈ pairs, ∀ q ∈ pairs, place p.1 = place q.1 → p.2 = q.2)) := by
  obtain ⟨s₀, found, records, discovered, recorded, rfl⟩ := process_eq_ok done
  have noted := d.noted_discover d.directKind d.registryKind s
  rw [discovered] at noted
  have each := ClassRecord.ofClasses_eq_ok_iff.mp recorded
  refine ⟨s₀, found, records.map ClassRecord.serialize, discovered, ?_, fun complete => ?_⟩
  · rw [List.forall₂_map_right_iff]
    exact each.imp fun _ _ => AnnotatedClass.outcome_serialize_of_ok
  · intro place pairs
    have sizes : found.toList.length = (records.map ClassRecord.serialize).length := by
      rw [List.length_map, each.length_eq]
    have complete : (d.handOverAll pairs s₀).written.length =
        s₀.written.length + pairs.length := by
      rw [noted.written, List.length_zip, ← sizes, Nat.min_self]
      exact complete
    have kept := fun p => read_of_complete complete (p := p)
    have own := own_text_iff_of_complete complete
    rw [noted.files] at kept own
    refine ⟨?_, kept, own⟩
    have listed : pairs.map (·.1) = found.toList := List.map_fst_zip (Nat.le_of_eq sizes)
    calc (d.handOverAll pairs s₀).written
      _ = s₀.written ++ pairs.map (d.artifactPath ·.1) := written_of_complete complete
      _ = s.written ++ (pairs.map (·.1)).map d.artifactPath := by
          rw [noted.written, List.map_map]
          rfl
      _ = s.written ++ found.toList.map d.artifactPath := by rw [listed]

/-- A dump of the classes annotated `Tag`, where all classes of the names are. -/
def ofTagged (names : List String) : Dump where
  toGenerator :=
    let plain (name : String) : ClassDecl :=
      ⟨name, .plainClass, none, [], [⟨"Tag", []⟩], [], [], [], []⟩
    .ofConfig (.ofDeclarations ⟨names.map plain⟩ false) .standard Context.standardUnsupported
  directKind := "Tag"
  registryKind := none
  strict := true

theorem process_keeps_artifacts_namespacesApart :
    let d := ofTagged ["a.A", "b.A"]
    let s := Session.start false ⟨[], []⟩
    ∃ (s' : Session) (found : ClassSet) (texts : List String),
      d.process s = (s', .ok true) ∧ (d.discover "Tag" none s).2 = .ok found ∧
      s'.written = found.toList.map d.artifactPath ∧ found.toList.length = 2 ∧
      ∀ p ∈ found.toList.zip texts,
        s'.files.read (d.artifactPath p.1) = .ok p.2.toUTF8.toList := by
  intro d s
  have ends : (d.process s).2 = .ok true := FirstFailure.eq_ok_of_toOption (by decide +kernel)
  have count : (d.process s).1.written.length = 2 := by decide +kernel
  obtain ⟨s₀, found, texts, discovered, each, kept⟩ :=
    process_keeps_artifacts d s (d.process s).1 true (Prod.ext rfl ends)
  have classes : (d.discover d.directKind d.registryKind s).2.toOption.all (fun found =>
      found.toList.length = 2 ∧ (found.toList.map (d.artifactPlace [])).Nodup) = true := by
    decide +kernel
  rw [discovered] at classes
  obtain ⟨two, apart⟩ := of_decide_eq_true classes
  obtain ⟨written, _, own⟩ := kept (count.trans (by rw [two]; rfl))
  exact ⟨_, found, texts, Prod.ext rfl ends, congrArg Prod.snd discovered, written, two,
    own.mpr (same_text_of_nodup each apart)⟩

/-- Of two classes with one namespace and one simple name only the last has its text in the end,
though both are reported as written. -/
theorem shared_path_loses_artifact :
    let d := ofTagged ["a.B.A", "a.A"]
    let s := Session.start false ⟨[], []⟩
    ∃ (s' : Session) (found : ClassSet) (first second : AnnotatedClass) (one two : String),
      d.process s = (s', .ok true) ∧ s'.hasErrors = false ∧
      (d.discover "Tag" none s).2 = .ok found ∧ found.toList = [first, second] ∧
      first.qualifiedName ≠ second.qualifiedName ∧
      (first.serialize d.context).outcome = .ok one ∧
      (second.serialize d.context).outcome = .ok two ∧ one ≠ two ∧
      s'.written = [d.artifactPath first, d.artifactPath second] ∧
      s'.files.read (d.artifactPath first) = .ok two.toUTF8.toList := by
  intro d s
  have ends : (d.process s).2 = .ok true := FirstFailure.eq_ok_of_toOption (by decide +kernel)
  refine ⟨(d.process s).1, _, _, _, _, _, Prod.ext rfl ends, ?_, rfl, rfl, ?_, rfl, rfl, ?_, ?_,
    FirstFailure.eq_ok_of_toOption ?_⟩
  · decide +kernel
  · decide
  · decide +kernel
  · decide +kernel
  · decide +kernel

end Dump
end ClassAtlas

import ClassAtlas.Generator.Basic

/-!
Steps of a run that only note something. They touch no file, keep no path, and report neither
warnings nor errors. Traces are such steps, and so is a discovery.
-/
namespace ClassAtlas

/-- A later state of a run that differs by notes alone. -/
structure Session.Noted (before after : Session) : Prop where
  files : after.files = before.files
  written : after.written = before.written
  diagnostics : ∃ notes : List Diagnostic, (∀ d ∈ notes, d.severity = .info) ∧
    after.diagnostics = before.diagnostics ++ notes

namespace Session.Noted

variable {before after : Session}

theorem refl (s : Session) : Noted s s := ⟨rfl, rfl, [], by simp, by simp⟩

theorem trans {last : Session} (first : Noted before after) (second : Noted after last) :
    Noted before last := by
  obtain ⟨notes, infos, added⟩ := first.diagnostics
  obtain ⟨notes', infos', added'⟩ := second.diagnostics
  refine ⟨second.files.trans first.files, second.written.trans first.written, notes ++ notes', ?_,
    by rw [added', added, List.append_assoc]⟩
  intro d mem
  exact (List.mem_append.mp mem).elim (infos d) (infos' d)

theorem hasErrors (noted : Noted before after) : after.hasErrors = before.hasErrors := by
  obtain ⟨notes, infos, added⟩ := noted.diagnostics
  have harmless : notes.any Diagnostic.isError = false := by
    rw [List.any_eq_false]
    intro d mem
    simp [Diagnostic.isError, infos d mem]
  rw [Session.hasErrors, Session.hasErrors, Diagnostic.hasErrors, added, List.any_append, harmless,
    Bool.or_false]
  rfl

end Session.Noted

namespace Session

theorem noted_note (message : RawText) (s : Session) : Noted s (s.note message) :=
  ⟨rfl, rfl, [⟨.info, message⟩], by simp, rfl⟩

theorem noted_traceAll (messages : List String) (s : Session) :
    Noted s (s.traceAll messages) := by
  rw [traceAll_eq]
  refine ⟨rfl, rfl, _, ?_, rfl⟩
  intro d mem
  split at mem
  · obtain ⟨message, _, rfl⟩ := List.mem_map.mp mem
    rfl
  · cases mem

theorem noted_observe {α : Type} (x : Traced α) (s : Session) : Noted s (s.observe x).1 :=
  noted_traceAll _ s

end Session

theorem Generator.noted_discover (g : Generator) (directKind : String)
    (registryKind : Option String) (s : Session) :
    s.Noted (g.discover directKind registryKind s).1 := by
  rw [discover]
  split
  case h_1 => exact .refl s
  case h_2 found _ =>
    have traced := s.noted_traceAll found.trace
    dsimp only
    split
    · exact traced.trans (Session.noted_note ..)
    · exact traced

end ClassAtlas

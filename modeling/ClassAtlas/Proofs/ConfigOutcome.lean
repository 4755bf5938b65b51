import ClassAtlas.Config
import ClassAtlas.Proofs.Listings
import Mathlib.Tactic.Tauto

/-!
What a configuration document has to hold. It is a mapping, or empty, and under each of five keys
it holds nothing or a value of the form of the key. The keys are looked at in a fixed order, and the
first with a value of another form is what the document is refused for. Nothing else of a document
counts, and the environment only where it leaves the first key out.
-/
namespace ClassAtlas

open FirstFailure

theorem Modifier.ofKeyword?_eq_some_iff {word : String} {m : Modifier} :
    ofKeyword? word = some m ↔ word = m.keyword := by
  constructor
  · intro known
    obtain ⟨before, after, split, _⟩ := List.lookup_eq_some_iff.mp known
    have listed : (word, m) ∈ byKeyword := by simp [split]
    obtain ⟨m', _, same⟩ := List.mem_map.mp listed
    cases same
    rfl
  · intro same
    rw [same, ofKeyword?_keyword]

namespace Config

inductive Key where
  | debug
  | output
  | unsupported
  | markers
  | renamed
  deriving DecidableEq

namespace Key

def name : Key → String
  | debug => "debug"
  | output => "output-directory"
  | unsupported => "unsupported-modifiers"
  | markers => "nullable-annotations"
  | renamed => "renaming"

/-- The keys in the order in which they are looked at. -/
def all : List Key := [debug, output, unsupported, markers, renamed]

/-- The keys that are looked at before a key. -/
def earlier (k : Key) : List Key := all.takeWhile (· ≠ k)

theorem forall_iff {P : Key → Prop} : (∀ k, P k) ↔
    P debug ∧ P output ∧ P unsupported ∧ P markers ∧ P renamed :=
  ⟨fun all => ⟨all _, all _, all _, all _, all _⟩, fun ⟨a, b, c, d, e⟩ k => by
    cases k <;> assumption⟩

theorem exists_iff {P : Key → Prop} : (∃ k, P k) ↔
    P debug ∨ P output ∨ P unsupported ∨ P markers ∨ P renamed := by
  rw [← not_iff_not]
  push Not
  exact forall_iff

end Key

/-- What a value of the form of a key gives a configuration. -/
inductive Gives (c : Config) : Key → Value → Prop where
  | debug : Gives c .debug (.bool c.debug)
  | output : Gives c .output (.str c.outputDirectory)
  | unsupported {v : Value} {ms : List Modifier}
      (list : v.opened = .seq (ms.map fun m => .str m.keyword)) (same : c.unsupported = some ms) :
      Gives c .unsupported v
  | markers {v : Value} (list : v.opened = .seq (c.markers.map .str)) : Gives c .markers v
  | renamed {v : Value}
      (mapping : v.opened = .map (c.renamed.map fun entry => (.str entry.1, .str entry.2))) :
      Gives c .renamed v

/-- What a configuration is where a key is left out. -/
def IsDefault (env : Environment) (c : Config) : Key → Prop
  | .debug => c.debug = debugRequested env
  | .output => c.outputDirectory = standardOutput
  | .unsupported => c.unsupported = none
  | .markers => c.markers = [Translator.standardMarker]
  | .renamed => c.renamed = []

/-- What a value that is not of the form of its key is refused for. -/
inductive Complaint : Key → Value → Problem → Prop where
  | debug {v : Value} (other : ∀ b, v ≠ .bool b) : Complaint .debug v .debugNotTruth
  | output {v : Value} (other : ∀ s, v ≠ .str s) : Complaint .output v .outputNotText
  | texts {k : Key} {v : Value} (list : k = .unsupported ∨ k = .markers)
      (other : ∀ texts : List String, v.opened ≠ .seq (texts.map .str)) :
      Complaint k v (.notTexts k.name)
  | modifier {v : Value} {before : List String} {word : String} {after : List String}
      (list : v.opened = .seq ((before ++ word :: after).map .str))
      (known : ∀ w ∈ before, ∃ m : Modifier, w = m.keyword)
      (unknown : ∀ m : Modifier, word ≠ m.keyword) :
      Complaint .unsupported v (.unknownModifier word)
  | mapping {v : Value} (other : ∀ entries, v.opened ≠ .map entries) :
      Complaint .renamed v .renamingNotMapping
  | entries {v : Value} {entries : List (Value × Value)} (mapping : v.opened = .map entries)
      (other : ∀ renamed : List (String × String),
        entries ≠ renamed.map fun entry => (.str entry.1, .str entry.2)) :
      Complaint .renamed v .renamingNotTexts

section Settings

variable {α : Type} {key : String} {default : α} {read : Value → Except Problem α}
  {entries : List (Value × Value)} {a : α} {p : Problem} {v : Value}

theorem setting_eq_ok_iff : setting key default read entries = .ok a ↔
    (Value.field? key entries = none ∧ a = default) ∨
      ∃ v, Value.field? key entries = some v ∧ read v = .ok a := by
  rw [setting]
  cases Value.field? key entries with
  | none => simp [eq_comm]
  | some v => simp

theorem setting_eq_error_iff : setting key default read entries = .error p ↔
    ∃ v, Value.field? key entries = some v ∧ read v = .error p := by
  rw [setting]
  cases Value.field? key entries <;> simp

theorem exists_setting_iff : (∃ a, setting key default read entries = .ok a) ↔
    ∀ v, Value.field? key entries = some v → ∃ a, read v = .ok a := by
  rw [setting]
  cases Value.field? key entries <;> simp

theorem readDebug_eq_ok_iff {b : Bool} : readDebug v = .ok b ↔ v = .bool b := by
  cases v <;> simp [readDebug]

theorem readDebug_eq_error_iff :
    readDebug v = .error p ↔ p = .debugNotTruth ∧ ∀ b, v ≠ .bool b := by
  cases v <;> simp [readDebug, eq_comm]

theorem readOutput_eq_ok_iff {s : String} : readOutput v = .ok s ↔ v = .str s := by
  cases v <;> simp [readOutput]

theorem readOutput_eq_error_iff :
    readOutput v = .error p ↔ p = .outputNotText ∧ ∀ s, v ≠ .str s := by
  cases v <;> simp [readOutput, eq_comm]

theorem readTexts_eq_ok_iff {texts : List String} :
    readTexts key v = .ok texts ↔ v.opened = .seq (texts.map .str) := by
  rw [readTexts]
  cases v.opened with
  | seq items =>
      rw [Value.seq.injEq, ← Value.texts?_eq_some_iff]
      dsimp only
      cases Value.texts? items <;> simp
  | _ => simp

theorem readTexts_eq_error_iff : readTexts key v = .error p ↔
    p = .notTexts key ∧ ∀ texts : List String, v.opened ≠ .seq (texts.map .str) := by
  simp only [ne_eq, ← @readTexts_eq_ok_iff key v]
  rw [readTexts]
  cases v.opened with
  | seq items =>
      dsimp only
      cases Value.texts? items <;> simp [eq_comm]
  | _ => simp [eq_comm]

theorem modifier_eq_ok_iff {word : String} {m : Modifier} :
    modifier word = .ok m ↔ word = m.keyword := by
  rw [modifier, ← Modifier.ofKeyword?_eq_some_iff]
  cases Modifier.ofKeyword? word <;> simp

theorem modifier_eq_error_iff {word : String} :
    modifier word = .error p ↔ p = .unknownModifier word ∧ ∀ m : Modifier, word ≠ m.keyword := by
  simp only [ne_eq, ← modifier_eq_ok_iff]
  rw [modifier]
  cases Modifier.ofKeyword? word <;> simp [eq_comm]

theorem mapM_modifier_eq_ok_iff {words : List String} {ms : List Modifier} :
    words.mapM modifier = .ok ms ↔ words = ms.map Modifier.keyword := by
  rw [mapM_eq_ok_iff, ← List.forall₂_eq_eq_eq, List.forall₂_map_right_iff]
  simp only [modifier_eq_ok_iff]

theorem readModifiers_eq_ok_iff {given : Option (List Modifier)} : readModifiers v = .ok given ↔
    ∃ ms : List Modifier, v.opened = .seq (ms.map fun m => .str m.keyword) ∧ given = some ms := by
  simp only [readModifiers, bind_eq_ok_iff, readTexts_eq_ok_iff, mapM_modifier_eq_ok_iff, pure,
    Except.pure, Except.ok.injEq]
  constructor
  · rintro ⟨_, list, ms, rfl, rfl⟩
    exact ⟨ms, by rw [list, List.map_map]; rfl, rfl⟩
  · rintro ⟨ms, list, rfl⟩
    exact ⟨ms.map Modifier.keyword, by rw [list, List.map_map]; rfl, ms, rfl, rfl⟩

theorem readModifiers_eq_error_iff :
    readModifiers v = .error p ↔ Complaint .unsupported v p := by
  simp only [readModifiers, bind_eq_error_iff, readTexts_eq_error_iff, readTexts_eq_ok_iff,
    mapM_eq_error_iff, modifier_eq_ok_iff, modifier_eq_error_iff, pure, Except.pure, reduceCtorEq,
    and_false, exists_false, or_false]
  constructor
  · rintro (⟨rfl, other⟩ | ⟨_, list, before, word, after, rfl, known, rfl, unknown⟩)
    · exact .texts (.inl rfl) other
    · exact .modifier list known unknown
  · intro complaint
    cases complaint with
    | texts _ other => exact .inl ⟨rfl, other⟩
    | modifier list known unknown => exact .inr ⟨_, list, _, _, _, rfl, known, rfl, unknown⟩

theorem textEntries?_eq_some_iff {renamed : List (String × String)} :
    textEntries? entries = some renamed ↔
      entries = renamed.map fun entry => (.str entry.1, .str entry.2) := by
  induction entries generalizing renamed with
  | nil => cases renamed <;> simp [textEntries?]
  | cons entry rest ih =>
      obtain ⟨source, target⟩ := entry
      cases source <;> cases target <;> cases renamed <;>
        simp [textEntries?, ih, and_comm, Prod.ext_iff, and_assoc]

theorem readRenaming_eq_ok_iff {renamed : List (String × String)} :
    readRenaming v = .ok renamed ↔
      v.opened = .map (renamed.map fun entry => (.str entry.1, .str entry.2)) := by
  rw [readRenaming]
  cases v.opened with
  | map entries =>
      rw [Value.map.injEq, ← textEntries?_eq_some_iff]
      dsimp only
      cases textEntries? entries <;> simp
  | _ => simp

theorem readRenaming_eq_error_iff : readRenaming v = .error p ↔ Complaint .renamed v p := by
  constructor
  · intro refused
    rw [readRenaming] at refused
    split at refused
    case h_1 entries mapping =>
      split at refused
      · cases refused
      case h_2 unread =>
        cases refused
        refine .entries mapping fun renamed same => ?_
        rw [textEntries?_eq_some_iff.mpr same] at unread
        cases unread
    case h_2 other =>
      cases refused
      exact .mapping other
  · intro complaint
    cases complaint with
    | texts list => cases list <;> contradiction
    | mapping other =>
        rw [readRenaming]
        split
        case h_1 entries mapping => exact absurd mapping (other entries)
        case h_2 => rfl
    | @entries _ entries mapping other =>
        have unread : textEntries? entries = none := by
          rw [Option.eq_none_iff_forall_ne_some]
          exact fun renamed same => other renamed (textEntries?_eq_some_iff.mp same)
        simp only [readRenaming, mapping, unread]

end Settings

section Keys

variable (env : Environment) (entries : List (Value × Value))

/-- What a document holds under a key is of the form of the key. -/
def Sound (k : Key) : Prop := ∀ v, Value.field? k.name entries = some v → ∃ c, Gives c k v

/-- What a document holds under a key is refused. -/
def Offends (k : Key) (p : Problem) : Prop :=
  ∃ v, Value.field? k.name entries = some v ∧ Complaint k v p

/-- The first key whose value is refused. -/
def FirstOffence (p : Problem) : Prop :=
  ∃ k : Key, (∀ j ∈ k.earlier, Sound entries j) ∧ Offends entries k p

/-- The configuration of a document: what it gives under each key, and the default of each key that
is left out. -/
def Describes (c : Config) : Prop := ∀ k : Key,
  (Value.field? k.name entries = none ∧ IsDefault env c k) ∨
    ∃ v, Value.field? k.name entries = some v ∧ Gives c k v

variable {env entries} {c : Config} {p : Problem}

theorem gives_debug_iff {v : Value} : Gives c .debug v ↔ readDebug v = .ok c.debug := by
  rw [readDebug_eq_ok_iff]
  constructor
  · intro given
    cases given
    rfl
  · intro same
    rw [same]
    exact .debug

theorem gives_output_iff {v : Value} :
    Gives c .output v ↔ readOutput v = .ok c.outputDirectory := by
  rw [readOutput_eq_ok_iff]
  constructor
  · intro given
    cases given
    rfl
  · intro same
    rw [same]
    exact .output

theorem gives_unsupported_iff {v : Value} :
    Gives c .unsupported v ↔ readModifiers v = .ok c.unsupported := by
  rw [readModifiers_eq_ok_iff]
  constructor
  · intro given
    cases given with
    | unsupported list same => exact ⟨_, list, same⟩
  · intro ⟨_, list, same⟩
    exact .unsupported list same

theorem gives_markers_iff {v : Value} :
    Gives c .markers v ↔ readTexts "nullable-annotations" v = .ok c.markers := by
  rw [readTexts_eq_ok_iff]
  constructor
  · intro given
    cases given with
    | markers list => exact list
  · exact .markers

theorem gives_renamed_iff {v : Value} :
    Gives c .renamed v ↔ readRenaming v = .ok c.renamed := by
  rw [readRenaming_eq_ok_iff]
  constructor
  · intro given
    cases given with
    | renamed mapping => exact mapping
  · exact .renamed

theorem complaint_debug_iff {v : Value} : Complaint .debug v p ↔ readDebug v = .error p := by
  rw [readDebug_eq_error_iff]
  constructor
  · intro complaint
    cases complaint with
    | debug other => exact ⟨rfl, other⟩
    | texts list => cases list <;> contradiction
  · intro ⟨same, other⟩
    rw [same]
    exact .debug other

theorem complaint_output_iff {v : Value} : Complaint .output v p ↔ readOutput v = .error p := by
  rw [readOutput_eq_error_iff]
  constructor
  · intro complaint
    cases complaint with
    | output other => exact ⟨rfl, other⟩
    | texts list => cases list <;> contradiction
  · intro ⟨same, other⟩
    rw [same]
    exact .output other

theorem complaint_markers_iff {v : Value} :
    Complaint .markers v p ↔ readTexts "nullable-annotations" v = .error p := by
  rw [readTexts_eq_error_iff]
  constructor
  · intro complaint
    cases complaint with
    | texts _ other => exact ⟨rfl, other⟩
  · intro ⟨same, other⟩
    rw [same]
    exact .texts (.inr rfl) other

theorem ofEntries_eq_ok_iff : ofEntries env entries = .ok c ↔ Describes env entries c := by
  have settings : Describes env entries c ↔
      setting "debug" (debugRequested env) readDebug entries = .ok c.debug ∧
      setting "output-directory" standardOutput readOutput entries = .ok c.outputDirectory ∧
      setting "unsupported-modifiers" none readModifiers entries = .ok c.unsupported ∧
      setting "nullable-annotations" standard.markers (readTexts "nullable-annotations") entries =
        .ok c.markers ∧
      setting "renaming" [] readRenaming entries = .ok c.renamed := by
    simp only [Describes, Key.forall_iff, gives_debug_iff, gives_output_iff, gives_unsupported_iff,
      gives_markers_iff, gives_renamed_iff, setting_eq_ok_iff, IsDefault, Key.name, standard]
  rw [settings]
  simp only [ofEntries, bind_eq_ok_iff, pure, Except.pure, Except.ok.injEq]
  constructor
  · rintro ⟨_, debug, _, output, _, unsupported, _, markers, _, renamed, rfl⟩
    exact ⟨debug, output, unsupported, markers, renamed⟩
  · rintro ⟨debug, output, unsupported, markers, renamed⟩
    exact ⟨_, debug, _, output, _, unsupported, _, markers, _, renamed, rfl⟩

/-- A key is sound where its setting is read, since a configuration can have anything in a field. -/
theorem sound_iff {α : Type} {k : Key} {field : Config → α} {read : Value → Except Problem α}
    (default : α) (any : Function.Surjective field)
    (gives : ∀ c v, Gives c k v ↔ read v = .ok (field c)) :
    Sound entries k ↔ ∃ a, setting k.name default read entries = .ok a := by
  rw [exists_setting_iff]
  simp only [Sound, gives, any.exists]

theorem sound_debug_iff (env : Environment) : Sound entries .debug ↔
    ∃ b, setting "debug" (debugRequested env) readDebug entries = .ok b :=
  sound_iff _ (fun b => ⟨{ standard with debug := b }, rfl⟩) fun _ _ => gives_debug_iff

theorem sound_output_iff : Sound entries .output ↔
    ∃ s, setting "output-directory" standardOutput readOutput entries = .ok s :=
  sound_iff _ (fun s => ⟨{ standard with outputDirectory := s }, rfl⟩) fun _ _ => gives_output_iff

theorem sound_unsupported_iff : Sound entries .unsupported ↔
    ∃ ms, setting "unsupported-modifiers" none readModifiers entries = .ok ms :=
  sound_iff _ (fun ms => ⟨{ standard with unsupported := ms }, rfl⟩) fun _ _ =>
    gives_unsupported_iff

theorem sound_markers_iff : Sound entries .markers ↔ ∃ markers,
    setting "nullable-annotations" standard.markers (readTexts "nullable-annotations") entries =
      .ok markers :=
  sound_iff _ (fun markers => ⟨{ standard with markers := markers }, rfl⟩) fun _ _ =>
    gives_markers_iff

theorem sound_renamed_iff : Sound entries .renamed ↔
    ∃ renamed, setting "renaming" [] readRenaming entries = .ok renamed :=
  sound_iff _ (fun renamed => ⟨{ standard with renamed := renamed }, rfl⟩) fun _ _ =>
    gives_renamed_iff

/-- A document gives a configuration where each of its keys is sound. -/
theorem exists_ofEntries_iff : (∃ c, ofEntries env entries = .ok c) ↔ ∀ k, Sound entries k := by
  rw [Key.forall_iff, sound_debug_iff env, sound_output_iff, sound_unsupported_iff,
    sound_markers_iff, sound_renamed_iff]
  simp only [ofEntries, bind_eq_ok_iff, pure, Except.pure, Except.ok.injEq]
  constructor
  · rintro ⟨_, _, debug, _, output, _, unsupported, _, markers, _, renamed, rfl⟩
    exact ⟨⟨_, debug⟩, ⟨_, output⟩, ⟨_, unsupported⟩, ⟨_, markers⟩, ⟨_, renamed⟩⟩
  · rintro ⟨⟨_, debug⟩, ⟨_, output⟩, ⟨_, unsupported⟩, ⟨_, markers⟩, ⟨_, renamed⟩⟩
    exact ⟨_, _, debug, _, output, _, unsupported, _, markers, _, renamed, rfl⟩

theorem firstOffence_iff : FirstOffence entries p ↔
    Offends entries .debug p ∨ Sound entries .debug ∧
      (Offends entries .output p ∨ Sound entries .output ∧
        (Offends entries .unsupported p ∨ Sound entries .unsupported ∧
          (Offends entries .markers p ∨ Sound entries .markers ∧ Offends entries .renamed p))) := by
  have none : Key.debug.earlier = [] := rfl
  have one : Key.output.earlier = [.debug] := rfl
  have two : Key.unsupported.earlier = [.debug, .output] := rfl
  have three : Key.markers.earlier = [.debug, .output, .unsupported] := rfl
  have four : Key.renamed.earlier = [.debug, .output, .unsupported, .markers] := rfl
  simp only [FirstOffence, Key.exists_iff, none, one, two, three, four, List.forall_mem_cons,
    List.not_mem_nil, false_imp_iff, implies_true, true_and, and_true]
  tauto

/-- A document is refused for its first key with a value of another form. -/
theorem ofEntries_eq_error_iff : ofEntries env entries = .error p ↔ FirstOffence entries p := by
  rw [firstOffence_iff, sound_debug_iff env, sound_output_iff, sound_unsupported_iff,
    sound_markers_iff]
  simp only [Offends, complaint_debug_iff, complaint_output_iff, ← readModifiers_eq_error_iff,
    complaint_markers_iff, ← readRenaming_eq_error_iff, Key.name, ofEntries, bind_eq_error_iff,
    setting_eq_error_iff, pure, Except.pure, reduceCtorEq, and_false, exists_false, or_false,
    exists_and_right]

theorem setting_congr {α : Type} {key : String} {default : α} {read : Value → Except Problem α}
    {entries' : List (Value × Value)} (same : Value.field? key entries' = Value.field? key entries) :
    setting key default read entries' = setting key default read entries := by
  rw [setting, same, setting]

/-- Only the five keys count, and of the environment only whether it asks for debugging, where the
document does not. -/
theorem ofEntries_congr {env' : Environment} {entries' : List (Value × Value)}
    (agree : ∀ k : Key, Value.field? k.name entries' = Value.field? k.name entries)
    (flag : Value.field? Key.debug.name entries = none →
      debugRequested env' = debugRequested env) :
    ofEntries env' entries' = ofEntries env entries := by
  have debug : setting "debug" (debugRequested env') readDebug entries =
      setting "debug" (debugRequested env) readDebug entries := by
    rw [setting, setting]
    cases held : Value.field? "debug" entries with
    | some v => rfl
    | none => simp only [flag held]
  have asked : Value.field? "debug" entries' = Value.field? "debug" entries := agree .debug
  have output : Value.field? "output-directory" entries' =
      Value.field? "output-directory" entries := agree .output
  have unsupported : Value.field? "unsupported-modifiers" entries' =
      Value.field? "unsupported-modifiers" entries := agree .unsupported
  have markers : Value.field? "nullable-annotations" entries' =
      Value.field? "nullable-annotations" entries := agree .markers
  have renamed : Value.field? "renaming" entries' = Value.field? "renaming" entries :=
    agree .renamed
  rw [ofEntries, ofEntries, setting_congr asked, debug, setting_congr output,
    setting_congr unsupported, setting_congr markers, setting_congr renamed]

end Keys

/-- The entries of a document: those of a mapping, and none of an empty document. -/
inductive Holds : Value → List (Value × Value) → Prop where
  | empty : Holds .null []
  | mapping {v : Value} {entries : List (Value × Value)} (opened : v.opened = .map entries) :
      Holds v entries

section Documents

variable {env : Environment} {v : Value} {entries : List (Value × Value)} {label text : String}

theorem ofValue_of_holds (holds : Holds v entries) : ofValue env v = ofEntries env entries := by
  cases holds with
  | empty => rfl
  | mapping opened =>
      have same : Document.orEmpty v = v := by cases v <;> first | rfl | cases opened
      simp only [ofValue, same, opened]

theorem ofValue_of_not_holds (other : ∀ entries, ¬ Holds v entries) :
    ofValue env v = .error .notMapping := by
  have filled : Document.orEmpty v = v := by
    cases v with
    | null => exact absurd .empty (other [])
    | _ => rfl
  rw [ofValue, filled]
  split
  case h_1 entries opened => exact absurd (.mapping opened) (other entries)
  case h_2 => rfl

theorem parse_of_load (loads : Yaml.load text = .ok v) : parse label env text =
    (ofValue env v).mapError fun problem => .refused (.invalid label problem) := by
  rw [parse, Document.value, loads]
  rfl

theorem holds_unique {entries' : List (Value × Value)} (holds : Holds v entries)
    (holds' : Holds v entries') : entries' = entries := by
  cases holds with
  | empty =>
      cases holds' with
      | empty => rfl
      | mapping opened => cases opened
  | mapping opened =>
      cases holds' with
      | empty => cases opened
      | mapping opened' =>
          rw [opened] at opened'
          cases opened'
          rfl

theorem parse_of_holds (loads : Yaml.load text = .ok v) (holds : Holds v entries) :
    parse label env text =
      (ofEntries env entries).mapError fun problem => .refused (.invalid label problem) := by
  rw [parse_of_load loads, ofValue_of_holds holds]

theorem parse_of_not_holds (loads : Yaml.load text = .ok v) (other : ∀ entries, ¬ Holds v entries) :
    parse label env text = .error (.refused (.invalid label .notMapping)) := by
  rw [parse_of_load loads, ofValue_of_not_holds other]
  rfl

theorem parse_eq_ok_iff (loads : Yaml.load text = .ok v) {c : Config} :
    parse label env text = .ok c ↔ ∃ entries, Holds v entries ∧ Describes env entries c := by
  by_cases held : ∃ entries, Holds v entries
  · obtain ⟨entries, holds⟩ := held
    rw [parse_of_holds loads holds, mapError_eq_ok_iff, ofEntries_eq_ok_iff]
    constructor
    · exact fun described => ⟨entries, holds, described⟩
    · intro ⟨entries', holds', described⟩
      rwa [holds_unique holds holds'] at described
  · rw [parse_of_not_holds loads (not_exists.mp held)]
    constructor
    · intro given
      cases given
    · intro ⟨entries, holds, _⟩
      exact absurd ⟨entries, holds⟩ held

theorem exists_parse_iff (loads : Yaml.load text = .ok v) : (∃ c, parse label env text = .ok c) ↔
    ∃ entries, Holds v entries ∧ ∀ k, Sound entries k := by
  simp only [parse_eq_ok_iff loads, ← @exists_ofEntries_iff env, ← ofEntries_eq_ok_iff]
  exact ⟨fun ⟨c, entries, holds, given⟩ => ⟨entries, holds, c, given⟩,
    fun ⟨entries, holds, c, given⟩ => ⟨c, entries, holds, given⟩⟩

theorem parse_eq_error_iff (loads : Yaml.load text = .ok v) {e : LoadError Refusal} :
    parse label env text = .error e ↔ ∃ p, e = .refused (.invalid label p) ∧
      ((∀ entries, ¬ Holds v entries) ∧ p = .notMapping ∨
        ∃ entries, Holds v entries ∧ FirstOffence entries p) := by
  by_cases held : ∃ entries, Holds v entries
  · obtain ⟨entries, holds⟩ := held
    simp only [parse_of_holds loads holds, mapError_eq_error_iff, ofEntries_eq_error_iff]
    constructor
    · intro ⟨p, offence, same⟩
      exact ⟨p, same.symm, .inr ⟨entries, holds, offence⟩⟩
    · intro ⟨p, same, refused⟩
      cases refused with
      | inl none => exact absurd holds (none.1 entries)
      | inr first =>
          obtain ⟨entries', holds', offence⟩ := first
          rw [holds_unique holds holds'] at offence
          exact ⟨p, offence, same.symm⟩
  · rw [parse_of_not_holds loads (not_exists.mp held)]
    constructor
    · intro refused
      cases refused
      exact ⟨_, rfl, .inl ⟨not_exists.mp held, rfl⟩⟩
    · intro ⟨p, same, refused⟩
      cases refused with
      | inl none => rw [same, none.2]
      | inr first =>
          obtain ⟨entries, holds, _⟩ := first
          exact absurd ⟨entries, holds⟩ held

/-- A document that loads gives a configuration exactly where it is empty or a mapping with nothing
or a value of the right form under each of the five keys. What it gives is what these values say,
and elsewhere the defaults. Any other document is refused, a mapping for the first key whose value
has another form. Neither other keys nor the order of keys makes a difference, and the environment
makes one only where the document leaves the flag for debugging out. -/
theorem parse_outcome (loads : Yaml.load text = .ok v) (label : String) (env : Environment) :
    ((∃ c, parse label env text = .ok c) ↔ ∃ entries, Holds v entries ∧ ∀ k, Sound entries k) ∧
    (∀ c, parse label env text = .ok c ↔ ∃ entries, Holds v entries ∧ Describes env entries c) ∧
    (∀ e, parse label env text = .error e ↔ ∃ p, e = .refused (.invalid label p) ∧
      ((∀ entries, ¬ Holds v entries) ∧ p = .notMapping ∨
        ∃ entries, Holds v entries ∧ FirstOffence entries p)) ∧
    (∀ text' v' entries entries', Yaml.load text' = .ok v' → Holds v entries →
      Holds v' entries' →
      (∀ k : Key, Value.field? k.name entries' = Value.field? k.name entries) →
        parse label env text' = parse label env text) ∧
    ∀ env', (∀ entries, Holds v entries → Value.field? Key.debug.name entries = none →
        debugRequested env' = debugRequested env) →
      parse label env' text = parse label env text := by
  refine ⟨exists_parse_iff loads, fun c => parse_eq_ok_iff loads, fun e => parse_eq_error_iff loads,
    ?others, ?environment⟩
  case others =>
    intro text' v' entries entries' loads' holds holds' agree
    rw [parse_of_holds loads holds, parse_of_holds loads' holds', ofEntries_congr agree]
    exact fun _ => rfl
  case environment =>
    intro env' flag
    by_cases held : ∃ entries, Holds v entries
    · obtain ⟨entries, holds⟩ := held
      rw [parse_of_holds loads holds, parse_of_holds loads holds,
        ofEntries_congr (fun _ => rfl) (flag entries holds)]
    · rw [parse_of_not_holds loads (not_exists.mp held),
        parse_of_not_holds loads (not_exists.mp held)]

/-- An unknown modifier comes before a renaming that is no mapping, whichever stands first. -/
theorem parse_outcome_unknownModifier :
    let text := "renaming: 7\nunsupported-modifiers:\n- static\n- sealed\n"
    ∃ v entries, Yaml.load text = .ok v ∧ Holds v entries ∧
      FirstOffence entries (.unknownModifier "sealed") ∧
      ∀ env, parse "c.yaml" env text =
        .error (.refused (.invalid "c.yaml" (.unknownModifier "sealed"))) := by
  intro text
  have refused : (match parse "c.yaml" [] text with
      | .error (.refused (.invalid _ (.unknownModifier word))) => some word
      | _ => none) = some "sealed" := by decide +kernel
  cases loads : Yaml.load text with
  | error fault =>
      simp only [parse, Document.value, loads] at refused
      cases ended : Failure.ofFault? fault <;> simp [ended, bind, Except.bind] at refused
  | ok v =>
      split at refused
      case h_2 => cases refused
      case h_1 label word parsed =>
        cases refused
        obtain ⟨_, _, refusals, _⟩ := parse_outcome loads "c.yaml" []
        obtain ⟨p, same, offence⟩ := (refusals _).mp parsed
        cases same
        cases offence with
        | inl other => cases other.2
        | inr first =>
            obtain ⟨entries, holds, offence⟩ := first
            refine ⟨v, entries, rfl, holds, offence, fun env => ?_⟩
            obtain ⟨_, _, refusals, _⟩ := parse_outcome loads "c.yaml" env
            exact (refusals _).mpr ⟨_, rfl, .inr ⟨entries, holds, offence⟩⟩

end Documents
end Config
end ClassAtlas

import ClassAtlas.TargetType.Basic

/-!
Results with a trace: a computation that may fail still keeps the events before the failure, in
order.
-/
namespace ClassAtlas

/-- What is noted while types are translated: each finished type, and each finished bound. -/
inductive TranslationEvent where
  | translated (source : SourceType) (target : TargetType)
  | projected (variance : Variance) (bound : TargetType)
  deriving Repr

def TranslationEvent.text : TranslationEvent → String
  | .translated source target => source.text ++ " -> " ++ target.text
  | .projected variance bound => TargetType.keyword variance ++ ": " ++ bound.text

/-- A type without the structure that its shape requires. -/
inductive StructureError where
  | unbounded (variance : Variance)
  | nestedWildcard
  | unsupported (given : Value)
  deriving Repr

def StructureError.message : StructureError → String
  | .unbounded variance => "Wildcard (" ++ variance.word ++ ") has no bound"
  | .nestedWildcard => "Wildcard bound must not itself be a wildcard"
  | .unsupported given => "Unsupported source type shape: " ++ given.shown

structure Traced (α : Type) where
  events : List TranslationEvent
  outcome : Except StructureError α
  deriving Repr

namespace Traced

variable {α β : Type}

def pure (a : α) : Traced α := ⟨[], .ok a⟩

def fail (e : StructureError) : Traced α := ⟨[], .error e⟩

def note (event : TranslationEvent) : Traced Unit := ⟨[event], .ok ()⟩

def bind (x : Traced α) (f : α → Traced β) : Traced β :=
  match x.outcome with
  | .error e => ⟨x.events, .error e⟩
  | .ok a => ⟨x.events ++ (f a).events, (f a).outcome⟩

instance : Monad Traced where
  pure := pure
  bind := bind

@[simp] theorem events_pure (a : α) : (Pure.pure a : Traced α).events = [] := rfl

@[simp] theorem outcome_pure (a : α) : (Pure.pure a : Traced α).outcome = .ok a := rfl

theorem bind_of_ok {x : Traced α} {a : α} (h : x.outcome = .ok a) (f : α → Traced β) :
    x >>= f = ⟨x.events ++ (f a).events, (f a).outcome⟩ := by
  change Traced.bind x f = _
  simp only [Traced.bind, h]

theorem outcome_bind_eq_ok {x : Traced α} {f : α → Traced β} {b : β} :
    (x >>= f).outcome = .ok b ↔ ∃ a, x.outcome = .ok a ∧ (f a).outcome = .ok b := by
  change (Traced.bind x f).outcome = _ ↔ _
  unfold Traced.bind
  split
  case h_1 e failed => simp [failed]
  case h_2 a done => simp [done]

theorem bind_of_error {x : Traced α} {e : StructureError} (h : x.outcome = .error e)
    (f : α → Traced β) : x >>= f = ⟨x.events, .error e⟩ := by
  change Traced.bind x f = _
  simp only [Traced.bind, h]

theorem outcome_bind_eq_error {x : Traced α} {f : α → Traced β} {e : StructureError} :
    (x >>= f).outcome = .error e ↔
      x.outcome = .error e ∨ ∃ a, x.outcome = .ok a ∧ (f a).outcome = .error e := by
  cases result : x.outcome with
  | error e' =>
      rw [bind_of_error result]
      simp
  | ok a =>
      rw [bind_of_ok result]
      simp

/-- Computations whose parts have the same results have the same result, whatever they note. -/
theorem outcome_bind_congr {x x' : Traced α} {f f' : α → Traced β}
    (first : x.outcome = x'.outcome) (next : ∀ a, (f a).outcome = (f' a).outcome) :
    (x >>= f).outcome = (x' >>= f').outcome := by
  cases result : x'.outcome with
  | error e =>
      rw [bind_of_error (first.trans result), bind_of_error result]
  | ok a =>
      rw [bind_of_ok (first.trans result), bind_of_ok result]
      exact next a

/-- Two computations whose parts differ by functions of the results differ by one in the end. -/
theorem outcome_bind_eq_map {α' β' : Type} {x : Traced α} {y : Traced α'} {f : α' → α}
    {g : α → Traced β} {g' : α' → Traced β'} {k : β' → β} (first : x.outcome = y.outcome.map f)
    (next : ∀ a, (g (f a)).outcome = (g' a).outcome.map k) :
    (x >>= g).outcome = (y >>= g').outcome.map k := by
  cases result : y.outcome with
  | error e =>
      rw [result] at first
      rw [bind_of_error first, bind_of_error result]
      rfl
  | ok a =>
      rw [result] at first
      rw [bind_of_ok first, bind_of_ok result]
      exact next a

end Traced
end ClassAtlas

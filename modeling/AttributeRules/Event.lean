import AttributeRules.RuleError

/-!
# Events

What is reported while rules are read, combined and evaluated, and
computations that carry what they report (`Traced`). The events of a
computation that fails are kept up to its failure.

Main statement: `Traced` is a lawful monad.
-/

namespace AttributeRules

/-- Something worth reporting. -/
inductive Event
  /-- A rule has been cut into so many tokens. -/
  | tokenized (rule : String) (count : Nat)
  /-- The tree of a rule has been found in the cache. -/
  | cacheHit (rule : String)
  /-- The condition at the left end of a tree has a result. -/
  | operand (condition : String) (result : Bool)
  /-- The left side of a connective has a result. -/
  | leftSide (op : Connective) (result : Bool)
  /-- The right side of a connective has a result. -/
  | rightSide (op : Connective) (result : Bool)
  /-- A rule that was to be created cannot be read. -/
  | rejected (rule : String) (error : RuleError)
  /-- The rule at this index cannot be read, so that the combination fails. -/
  | notCombined (index : Nat) (rule : String) (error : RuleError)
  deriving DecidableEq

namespace Event

/-- How much an event matters. -/
inductive Level
  | trace
  | debug
  | warn
  deriving DecidableEq

/-- The word for a level. -/
def Level.word : Level → String
  | trace => "trace"
  | debug => "debug"
  | warn => "warn"

/-- How much the event matters. -/
def level : Event → Level
  | tokenized .. | cacheHit _ => .trace
  | operand .. | leftSide .. | rightSide .. => .debug
  | rejected .. | notCombined .. => .warn

/-- What the event says, without its details. -/
def message : Event → String
  | tokenized .. => "tokenized rule"
  | cacheHit _ => "rule cache hit"
  | operand .. => "evaluated operand"
  | leftSide .. => "evaluated left side"
  | rightSide .. => "evaluated right side"
  | rejected .. => "error parsing rule"
  | notCombined .. => "failed to parse rule for combination"

end Event

/-! ## Computations with events -/

/-- A result or an error, and what was reported on the way to it. -/
structure Traced (α : Type) where
  /-- The result or the error. -/
  outcome : Except RuleError α
  /-- What was reported, in order. -/
  events : List Event

namespace Traced

variable {α β : Type}

/-- A result without any report. -/
def ok (a : α) : Traced α := ⟨.ok a, []⟩

/-- An error without any report. -/
def fail (e : RuleError) : Traced α := ⟨.error e, []⟩

/-- A result or an error without any report. -/
def ofExcept (r : Except RuleError α) : Traced α := ⟨r, []⟩

/-- Reports one event. -/
def report (e : Event) : Traced Unit := ⟨.ok (), [e]⟩

/-- Goes on with the result of `x`, if it has one; the reports follow each other. -/
def andThen (x : Traced α) (f : α → Traced β) : Traced β :=
  match x.outcome with
  | .ok a => ⟨(f a).outcome, x.events ++ (f a).events⟩
  | .error e => ⟨.error e, x.events⟩

instance : Monad Traced where
  pure := ok
  bind := andThen

@[simp] theorem pure_eq (a : α) : (pure a : Traced α) = ⟨.ok a, []⟩ := rfl

@[simp] theorem ok_bind (a : α) (es : List Event) (f : α → Traced β) :
    (⟨.ok a, es⟩ : Traced α) >>= f = ⟨(f a).outcome, es ++ (f a).events⟩ := rfl

@[simp] theorem error_bind (e : RuleError) (es : List Event) (f : α → Traced β) :
    (⟨.error e, es⟩ : Traced α) >>= f = ⟨.error e, es⟩ := rfl

@[simp] theorem report_bind (e : Event) (f : Unit → Traced β) :
    report e >>= f = ⟨(f ()).outcome, e :: (f ()).events⟩ := rfl

@[simp] theorem fail_bind (e : RuleError) (f : α → Traced β) :
    (fail e : Traced α) >>= f = fail e := rfl

instance : LawfulMonad Traced := LawfulMonad.mk' Traced
  (fun ⟨r, es⟩ => by cases r <;> simp [Functor.map, andThen, ok])
  (fun a f => by simp [Bind.bind, andThen])
  (fun ⟨r, es⟩ f g => by
    cases r with
    | error e => rfl
    | ok a => rcases h : f a with ⟨_ | b, es'⟩ <;> simp [h])

end Traced

end AttributeRules

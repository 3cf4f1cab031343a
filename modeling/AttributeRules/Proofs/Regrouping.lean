import Mathlib.Order.Basic
import AttributeRules.Proofs.Meaning

/-!
# Regrouping

Trees that are joined by one connective can be grouped in any way, as long as
their order stays (`Tree.Grouping`). The events do tell the groupings apart,
since they tell where the connectives stand. Without these events
(`Traced.silence`) a connective is an associative operation on computations,
although `or` leaves its right operand out and `and` does not.

Main statement: `Settings.evaluate_regroup`.
-/

namespace AttributeRules

/-! ## Events of conditions -/

/-- Whether the event is the result of a condition. -/
def Event.isOperand : Event → Bool
  | operand .. => true
  | _ => false

namespace Traced

variable {α β : Type}

/-- The computation that reports the results of conditions only. -/
def silence (x : Traced α) : Traced α := ⟨x.outcome, x.events.filter Event.isOperand⟩

theorem silence_pure (a : α) : (pure a : Traced α).silence = pure a := rfl

theorem silence_bind (x : Traced α) (f : α → Traced β) :
    (x >>= f).silence = x.silence >>= fun a => (f a).silence := by
  obtain ⟨_ | a, es⟩ := x
  · rfl
  · simp [silence]

theorem silence_report_bind {e : Event} (h : e.isOperand = false) (f : Unit → Traced β) :
    (report e >>= f).silence = (f ()).silence := by
  simp [silence, h]

end Traced

/-! ## Two computations under a connective -/

namespace Connective

variable (op : Connective)

/-- Two computations under a connective. The second one takes place unless it cannot matter. -/
def both (x y : Traced Bool) : Traced Bool := do
  let first ← x
  if op = .or ∧ first then return true
  let second ← y
  return op.apply first second

/-- The result that leaves the other one to decide. -/
def neutral : Connective → Bool
  | .and => true
  | .or => false

theorem both_assoc (x y z : Traced Bool) :
    op.both (op.both x y) z = op.both x (op.both y z) := by
  simp only [both, bind_assoc]
  refine congrArg (x >>= ·) (funext fun first => ?_)
  -- A first result that decides an `or` leaves out all that follows, on either side.
  by_cases h : op = .or ∧ first = true
  · simp only [h, and_self, if_true, pure_bind]
  · simp only [h, if_false, bind_assoc, pure_bind]
    refine congrArg (y >>= ·) (funext fun second => ?_)
    cases op <;> cases first <;> cases second <;> simp_all [apply]

instance : Std.Associative op.both := ⟨op.both_assoc⟩

theorem neutral_both (x : Traced Bool) : op.both (pure op.neutral) x = x := by
  cases op <;> exact (pure_bind _ _).trans (bind_pure x)

theorem both_neutral (x : Traced Bool) : op.both x (pure op.neutral) = x := by
  refine Eq.trans ?_ (bind_pure x)
  refine congrArg (x >>= ·) (funext fun first => ?_)
  cases op <;> cases first <;> simp [neutral, apply]

end Connective

namespace Tree

variable {leaf : String → Except RuleError Bool} {op : Connective}

/-- Apart from its own events a connective does what its operands do. -/
theorem silence_meaning_join (left right : Option Tree) :
    (meaning leaf (join op left right)).silence =
      op.both (operandMeaning leaf op .left left).silence
        (operandMeaning leaf op .right right).silence := by
  rw [meaning_join, Traced.silence_bind]
  refine congrArg ((operandMeaning leaf op .left left).silence >>= ·) (funext fun first => ?_)
  rw [resume, Traced.silence_report_bind rfl]
  split
  · rfl
  · rw [Traced.silence_bind]
    refine congrArg ((operandMeaning leaf op .right right).silence >>= ·) (funext fun second => ?_)
    rw [Traced.silence_report_bind rfl, Traced.silence_pure]

/-! ## Groupings -/

/-- The tree joins these trees in their order by the connective. They may be any trees, also such
that have the connective at their own root, and are grouped in any way. -/
inductive Grouping (op : Connective) : List Tree → Tree → Prop
  | single (t : Tree) : Grouping op [t] t
  | join {ts us : List Tree} {l r : Tree} : Grouping op ts l → Grouping op us r →
    Grouping op (ts ++ us) (.join op (some l) (some r))

/-- A grouping does what its trees do one after the other. -/
theorem Grouping.silence_meaning {ts : List Tree} {t : Tree} (h : Grouping op ts t) :
    (meaning leaf t).silence =
      (ts.map fun t => (meaning leaf t).silence).foldr op.both (pure op.neutral) := by
  induction h with
  | single t => exact (op.both_neutral _).symm
  | @join ts us l r _ _ ihl ihr =>
    let silenced (t : Tree) := (meaning leaf t).silence
    calc (meaning leaf (.join op (some l) (some r))).silence
        = op.both ((ts.map silenced).foldr op.both (pure op.neutral))
            ((us.map silenced).foldr op.both (pure op.neutral)) := by
          rw [silence_meaning_join, operandMeaning, operandMeaning, ihl, ihr]
      _ = (ts.map silenced).foldr op.both
            (op.both (pure op.neutral) ((us.map silenced).foldr op.both (pure op.neutral))) :=
          List.foldr_assoc.symm
      _ = ((ts ++ us).map silenced).foldr op.both (pure op.neutral) := by
          rw [op.neutral_both, List.map_append, List.foldr_append]

end Tree

/-- Trees that are joined by one connective, in the same order and grouped in two ways, have the
same result or error under all settings and on every record, after the results of the same
conditions. -/
theorem Settings.evaluate_regroup {op : Connective} {ts : List Tree} {t u : Tree}
    (ht : Tree.Grouping op ts t) (hu : Tree.Grouping op ts u) (s : Settings) (record : Record) :
    (s.evaluate t record).outcome = (s.evaluate u record).outcome ∧
      (s.evaluate t record).events.filter Event.isOperand =
        (s.evaluate u record).events.filter Event.isOperand := by
  have h : (s.evaluate t record).silence = (s.evaluate u record).silence := by
    rw [s.evaluate_eq_meaning, s.evaluate_eq_meaning, ht.silence_meaning, hu.silence_meaning]
  obtain ⟨houtcome, hevents⟩ := Traced.mk.inj h
  exact ⟨houtcome, hevents⟩

/-- `and` over a condition that is false, an `or` that holds without its missing side, and a
condition on an attribute that is not admitted, grouped from either end. The error of the last one
comes to light in both, after the other two. -/
theorem Settings.evaluate_regroup_title :
    let old : Tree := .leaf "age > 60"
    let gap : Tree := .join .or (some (.leaf "age > 30")) none
    let title : Tree := .leaf "title == 'vp'"
    let fromLeft : Tree := .join .and (some (.join .and (some old) (some gap))) (some title)
    let fromRight : Tree := .join .and (some old) (some (.join .and (some gap) (some title)))
    let s : Settings := {}
    let record := Record.empty.set "age" (.int 40)
    Tree.Grouping .and [old, gap, title] fromLeft ∧
      Tree.Grouping .and [old, gap, title] fromRight ∧
      (s.evaluate fromLeft record).outcome = .error (.invalidAttribute "title") ∧
      (s.evaluate fromRight record).outcome = .error (.invalidAttribute "title") ∧
      (s.evaluate fromRight record).events.filter Event.isOperand =
        [.operand "age > 60" false, .operand "age > 30" true] := by
  intro old gap title fromLeft fromRight s record
  have hleft : Tree.Grouping .and [old, gap, title] fromLeft :=
    .join (.join (.single old) (.single gap)) (.single title)
  have hright : Tree.Grouping .and [old, gap, title] fromRight :=
    .join (.single old) (.join (.single gap) (.single title))
  obtain ⟨houtcome, hevents⟩ := evaluate_regroup hleft hright s record
  have herror : (s.evaluate fromLeft record).outcome = .error (.invalidAttribute "title") := by
    decide +kernel
  exact ⟨hleft, hright, herror, houtcome ▸ herror, hevents ▸ by decide +kernel⟩

end AttributeRules

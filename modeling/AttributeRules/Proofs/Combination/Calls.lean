import AttributeRules.Assembly
import AttributeRules.Proofs.Assembly.Grammar

/-!
# The calls of a combination

Rules are combined by calling a reader for one after the other. The reader may
keep a state, and answer the same rule differently each time. What it is called
for, and in which states, is said apart from the combination (`Tree.Calls`):
there are calls up to the first one that fails, or for all rules
(`Tree.exists_calls`), and the combination makes just these.

Main statement: `Tree.combine_calls`.
-/

namespace AttributeRules

namespace Tree

variable {σ : Type}

/-! ## Calls -/

/-- A rule that a reader has been given, and its answer. -/
structure Call where
  /-- The rule. -/
  rule : String
  /-- The tree or the error, and what the reader has reported. -/
  answer : Traced Tree

/-- What has been reported during calls. -/
def Call.events (calls : List Call) : List Event := calls.flatMap (·.answer.events)

/-- The reader, called for these rules one after the other, gives these answers, and comes from the
one state to the other. The state is whatever the reader makes of it, for instance a list of what it
is given, and so tells the calls apart that are made. -/
inductive Calls (read : String → StateM σ (Traced Tree)) : σ → List Call → σ → Prop
  | nil (start : σ) : Calls read start [] start
  | cons {start next stop : σ} {rule : String} {answer : Traced Tree} {calls : List Call} :
    (read rule).run start = (answer, next) → Calls read next calls stop →
    Calls read start (⟨rule, answer⟩ :: calls) stop

variable {read : String → StateM σ (Traced Tree)}

theorem Calls.concat {start next stop : σ} {calls : List Call} {rule : String}
    {answer : Traced Tree} (h : Calls read start calls next)
    (hlast : (read rule).run next = (answer, stop)) :
    Calls read start (calls ++ [⟨rule, answer⟩]) stop := by
  induction h with
  | nil => exact .cons hlast (.nil stop)
  | cons hcall _ ih => exact .cons hcall (ih hlast)

/-- The calls for a list of rules succeed up to a rule of which the call fails, or for all rules. -/
theorem exists_calls (read : String → StateM σ (Traced Tree)) (rules : List String) (start : σ) :
    ∃ (calls : List Call) (trees : List Tree) (next : σ), Calls read start calls next ∧
      calls.map (·.answer.outcome) = trees.map .ok ∧
      (rules = calls.map Call.rule ∨
        ∃ rule after answer e stop, rules = calls.map Call.rule ++ rule :: after ∧
          (read rule).run next = (answer, stop) ∧ answer.outcome = .error e) := by
  induction rules generalizing start with
  | nil => exact ⟨[], [], start, .nil start, rfl, .inl rfl⟩
  | cons rule rules ih =>
    rcases hcall : (read rule).run start with ⟨answer, next⟩
    rcases hanswer : answer.outcome with e | t
    · exact ⟨[], [], start, .nil start, rfl,
        .inr ⟨rule, rules, answer, e, next, rfl, hcall, hanswer⟩⟩
    · obtain ⟨calls, trees, last, hcalls, htrees, hend⟩ := ih next
      refine ⟨⟨rule, answer⟩ :: calls, t :: trees, last, .cons hcall hcalls, ?_, ?_⟩
      · rw [List.map_cons, List.map_cons, hanswer, htrees]
      · rcases hend with rfl | ⟨last, after, answer, e, stop, rfl, hlast, he⟩
        · exact .inl rfl
        · exact .inr ⟨last, after, answer, e, stop, rfl, hlast, he⟩

/-! ## What calls do to a combination -/

variable {start next stop : σ} {rule : String} {rules : List String} {answer : Traced Tree}
  {index : Nat} {combined : Option Tree}

theorem run_combineAfter_error {e : RuleError} (hcall : (read rule).run start = (answer, stop))
    (he : answer.outcome = .error e) :
    (combineAfter read index combined (rule :: rules)).run start =
      (⟨.error e, answer.events ++ [.notCombined index rule e]⟩, stop) := by
  obtain ⟨outcome, es⟩ := answer
  cases he
  rw [combineAfter, StateT.run_bind, hcall]
  rfl

theorem run_combineAfter_ok {t : Tree} {all : Traced (Option Tree)}
    (hcall : (read rule).run start = (answer, next)) (ht : answer.outcome = .ok t)
    (hrest : (combineAfter read (index + 1) (some (orElse combined t)) rules).run next =
      (all, stop)) :
    (combineAfter read index combined (rule :: rules)).run start =
      (⟨all.outcome, answer.events ++ all.events⟩, stop) := by
  obtain ⟨outcome, es⟩ := answer
  cases ht
  rw [combineAfter, StateT.run_bind, hcall]
  show (combineAfter read (index + 1) (some (orElse combined t)) rules >>= _).run next = _
  rw [StateT.run_bind, hrest]
  rfl

/-- The tree of these trees behind what is combined already. -/
def orChain (combined : Option Tree) (trees : List Tree) : Option Tree :=
  trees.foldl (fun combined next => some (orElse combined next)) combined

/-- After calls that succeed the combination goes on with their trees. -/
theorem Calls.run_combineAfter {calls : List Call} {trees : List Tree} {all : Traced (Option Tree)}
    (h : Calls read start calls next) (htrees : calls.map (·.answer.outcome) = trees.map .ok)
    (hrest : (combineAfter read (index + calls.length) (orChain combined trees) rules).run next =
      (all, stop)) :
    (combineAfter read index combined (calls.map Call.rule ++ rules)).run start =
      (⟨all.outcome, Call.events calls ++ all.events⟩, stop) := by
  induction h generalizing index combined trees with
  | nil =>
    obtain rfl : trees = [] := List.map_eq_nil_iff.1 htrees.symm
    exact hrest
  | @cons start next last rule answer calls hcall _ ih =>
    obtain _ | ⟨t, trees⟩ := trees
    · cases htrees
    obtain ⟨ht, htrees⟩ := List.cons.inj htrees
    rw [List.length_cons, Nat.add_comm calls.length, ← Nat.add_assoc] at hrest
    rw [List.map_cons, List.cons_append, run_combineAfter_ok hcall ht (ih htrees hrest)]
    simp only [Call.events, List.flatMap_cons, List.append_assoc]

theorem Calls.run_combine {calls : List Call} {trees : List Tree} (h : Calls read start calls stop)
    (htrees : calls.map (·.answer.outcome) = trees.map .ok) :
    (combine read (calls.map Call.rule)).run start =
      (⟨.ok (orChain none trees), Call.events calls⟩, stop) := by
  have hrun : (combineAfter read 0 none (calls.map Call.rule ++ [])).run start =
      (⟨.ok (orChain none trees), Call.events calls ++ []⟩, stop) :=
    h.run_combineAfter htrees rfl
  rwa [List.append_nil, List.append_nil] at hrun

theorem Calls.run_combine_error {before : List Call} {trees : List Tree} {e : RuleError}
    (h : Calls read start before next) (htrees : before.map (·.answer.outcome) = trees.map .ok)
    (hlast : (read rule).run next = (answer, stop)) (he : answer.outcome = .error e)
    (after : List String) :
    (combine read (before.map Call.rule ++ rule :: after)).run start =
      (⟨.error e, Call.events (before ++ [⟨rule, answer⟩]) ++
        [.notCombined before.length rule e]⟩, stop) := by
  have hfails : (combineAfter read (0 + before.length) (orChain none trees)
      (rule :: after)).run next =
        (⟨.error e, answer.events ++ [.notCombined before.length rule e]⟩, stop) := by
    rw [Nat.zero_add, run_combineAfter_error hlast he]
  have hevents : Call.events (before ++ [⟨rule, answer⟩]) =
      Call.events before ++ answer.events := by
    simp only [Call.events, List.flatMap_append, List.flatMap_singleton]
  rw [hevents, List.append_assoc]
  exact h.run_combineAfter htrees hfails

/-! ## The chain -/

/-- Takes the right side off an `or` this many times, going down on the left: what is left at last,
and the right sides from the root down. There is nothing to take off another tree, and from an `or`
that lacks a side. -/
def peel : Nat → Tree → Option (Tree × List Tree)
  | 0, t => some (t, [])
  | n + 1, join .or (some l) (some r) => (peel n l).map fun (first, rights) => (first, r :: rights)
  | _ + 1, _ => none

theorem orChain_cons (first : Tree) (rest : List Tree) :
    orChain none (first :: rest) = some (joinChain first (rest.map (.or, ·))) := by
  have h : ∀ first, orChain (some first) rest = some (joinChain first (rest.map (.or, ·))) := by
    induction rest with
    | nil => exact fun _ => rfl
    | cons next rest ih => exact fun first => ih (join .or (some first) (some next))
  exact h first

/-- A chain of `or` has its trees on the right from the last one down, and the first one at the
end. -/
theorem peel_joinChain (first : Tree) (rest : List Tree) :
    (joinChain first (rest.map (.or, ·))).peel rest.length = some (first, rest.reverse) := by
  induction rest using List.reverseRecOn with
  | nil => rfl
  | append_singleton rest next ih =>
    rw [List.map_append, List.map_singleton, joinChain_append, List.length_append,
      List.length_singleton, peel, ih, List.reverse_append]
    rfl

/-- A combination calls the reader for one rule after the other. If a call fails, it is the last
one; all before it have succeeded, its error is what the combination gives, and beside the events
of the calls this alone is reported, with the index and the rule. If no call fails there is one for
every rule and nothing else is reported; no rules have no tree, and others the chain of `or` that
has their trees on its right sides, from the last rule at the root down to the second, and the tree
of the first at its end. -/
theorem combine_calls (read : String → StateM σ (Traced Tree)) (rules : List String) (start : σ) :
    ∃ calls stop, Calls read start calls stop ∧
      ((∃ before rule after answer e,
          rules = before.map Call.rule ++ rule :: after ∧ calls = before ++ [⟨rule, answer⟩] ∧
          (∀ call ∈ before, ∃ t, call.answer.outcome = .ok t) ∧ answer.outcome = .error e ∧
          (combine read rules).run start =
            (⟨.error e, Call.events calls ++ [.notCombined before.length rule e]⟩, stop)) ∨
        ∃ trees combined,
          rules = calls.map Call.rule ∧ calls.map (·.answer.outcome) = trees.map .ok ∧
          (combine read rules).run start = (⟨.ok combined, Call.events calls⟩, stop) ∧
          match trees with
          | [] => combined = none
          | first :: rest => ∃ t, combined = some t ∧
              t.peel rest.length = some (first, rest.reverse)) := by
  obtain ⟨calls, trees, next, hcalls, htrees, hend⟩ := exists_calls read rules start
  rcases hend with rfl | ⟨rule, after, answer, e, stop, rfl, hlast, he⟩
  · refine ⟨calls, next, hcalls,
      .inr ⟨trees, orChain none trees, rfl, htrees, hcalls.run_combine htrees, ?_⟩⟩
    cases trees with
    | nil => rfl
    | cons first rest => exact ⟨_, orChain_cons first rest, peel_joinChain first rest⟩
  · have hread : ∀ call ∈ calls, ∃ t, call.answer.outcome = .ok t := by
      intro call hcall
      have hmem : call.answer.outcome ∈ trees.map Except.ok :=
        htrees ▸ List.mem_map_of_mem hcall
      obtain ⟨t, -, ht⟩ := List.mem_map.1 hmem
      exact ⟨t, ht.symm⟩
    exact ⟨calls ++ [⟨rule, answer⟩], stop, hcalls.concat hlast,
      .inl ⟨calls, rule, after, answer, e, rfl, rfl, hread, he,
        hcalls.run_combine_error htrees hlast he after⟩⟩

/-- A reader that notes what it is given, and refuses the empty rule. -/
example :
    let note (rule : String) : StateM (List String) (Traced Tree) := do
      modify (· ++ [rule])
      return if rule = "" then Traced.fail .emptyRule else Traced.ok (.leaf rule)
    (combine note ["a", "", "c"]).run [] =
      (⟨.error .emptyRule, [.notCombined 1 "" .emptyRule]⟩, ["a", ""]) := rfl

end Tree

end AttributeRules

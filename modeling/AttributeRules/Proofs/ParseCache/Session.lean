import AttributeRules.ParseCache
import AttributeRules.Proofs.Outcome

/-!
# Sessions with a cache

A session is a list of requests to one cache: to read a rule, to check one
under settings of its own, or to forget all trees. A cache is sound if its trees
are those that their rules are read as (`ParseCache.Sound`); every request leaves
it so (`serve_sound`), and is answered as if there were no cache.

Main statement: `ParseCache.run_transparent`.
-/

namespace AttributeRules

namespace ParseCache

/-- What is asked of a cache. -/
inductive Request
  /-- The tree of a rule. -/
  | parse (mode : CaseMode) (rule : String)
  /-- The result of a rule on a record. -/
  | check (settings : Settings) (rule : String) (record : Record)
  /-- To forget all trees. -/
  | clear

/-- What a request is answered, apart from the events. -/
inductive Answer
  | tree (read : Except RuleError Tree)
  | result (result : Except RuleError Bool)
  | cleared

/-- An answer, and the events on the way to it. -/
structure Reply where
  /-- What is answered. -/
  answer : Answer
  /-- What was reported, in order. -/
  events : List Event

/-- The answer that is given without a cache. -/
def Request.answer : Request → Answer
  | parse mode rule => .tree (Tree.ofRule mode rule).outcome
  | check settings rule record => .result (settings.check rule record).outcome
  | clear => .cleared

/-- Replies to a request, and changes the cache. -/
def serve (c : ParseCache) : Request → Reply × ParseCache
  | .parse mode rule =>
    let (read, c) := c.parse mode rule
    (⟨.tree read.outcome, read.events⟩, c)
  | .check settings rule record =>
    let (result, c) := c.check settings rule record
    (⟨.result result.outcome, result.events⟩, c)
  | .clear => (⟨.cleared, []⟩, empty)

/-- Replies to the requests of a session one by one. -/
def run (c : ParseCache) : List Request → List Reply × ParseCache
  | [] => ([], c)
  | request :: requests =>
    let (reply, c) := c.serve request
    let (replies, c) := c.run requests
    (reply :: replies, c)

/-! ## Reading through the cache -/

variable {c : ParseCache} {mode : CaseMode} {rule : String}

theorem parse_hit {tree : Tree} (h : c.trees[(mode, rule)]? = some tree) :
    c.parse mode rule = (⟨.ok tree, [.cacheHit rule]⟩, c) := by
  rw [parse, h]

theorem parse_kept {tree : Tree} (h : c.trees[(mode, rule)]? = none)
    (hr : (Tree.ofRule mode rule).outcome = .ok tree) :
    c.parse mode rule = (Tree.ofRule mode rule, ⟨c.trees.insert (mode, rule) tree⟩) := by
  rw [parse, h]
  simp only [hr]

theorem parse_failed {e : RuleError} (h : c.trees[(mode, rule)]? = none)
    (hr : (Tree.ofRule mode rule).outcome = .error e) :
    c.parse mode rule = (Tree.ofRule mode rule, c) := by
  rw [parse, h]
  simp only [hr]

/-- The trees are those that their rules are read as. -/
def Sound (c : ParseCache) : Prop :=
  ∀ mode rule tree, c.trees[(mode, rule)]? = some tree → (Tree.ofRule mode rule).outcome = .ok tree

theorem sound_empty : empty.Sound := by
  intro mode rule tree h
  simp [empty] at h

theorem Sound.insert (h : c.Sound) {tree : Tree} (hr : (Tree.ofRule mode rule).outcome = .ok tree) :
    Sound ⟨c.trees.insert (mode, rule) tree⟩ := by
  intro mode' rule' tree' h'
  rw [Std.HashMap.getElem?_insert] at h'
  split at h'
  · next heq =>
    obtain ⟨rfl, rfl⟩ := Prod.mk.inj (eq_of_beq heq)
    rw [hr, Option.some.inj h']
  · exact h mode' rule' tree' h'

/-- A sound cache reads a rule as it is read without a cache, and stays sound. -/
theorem Sound.parse (h : c.Sound) (mode : CaseMode) (rule : String) :
    (c.parse mode rule).1.outcome = (Tree.ofRule mode rule).outcome ∧
      (c.parse mode rule).2.Sound := by
  rcases hc : c.trees[(mode, rule)]? with _ | tree
  · rcases hr : (Tree.ofRule mode rule).outcome with e | tree
    · rw [parse_failed hc hr]
      exact ⟨hr, h⟩
    · rw [parse_kept hc hr]
      exact ⟨hr, h.insert hr⟩
  · rw [parse_hit hc]
    exact ⟨(h mode rule tree hc).symm, h⟩

/-! ## Sessions -/

/-- A sound cache answers as if there were none. -/
theorem answer_serve (h : c.Sound) (request : Request) :
    (c.serve request).1.answer = request.answer := by
  cases request with
  | parse mode rule => exact congrArg Answer.tree (h.parse mode rule).1
  | check settings rule record =>
    refine congrArg Answer.result ?_
    change (c.check settings rule record).1.outcome = (settings.check rule record).outcome
    simp only [check, Settings.check, Settings.parse, Traced.outcome_bind,
      (h.parse settings.caseMode rule).1]
  | clear => rfl

/-- A request leaves a sound cache sound. -/
theorem serve_sound (h : c.Sound) (request : Request) : (c.serve request).2.Sound := by
  cases request with
  | parse mode rule => exact (h.parse mode rule).2
  | check settings rule record => exact (h.parse settings.caseMode rule).2
  | clear => exact sound_empty

theorem Sound.run (h : c.Sound) (requests : List Request) :
    (c.run requests).1.map Reply.answer = requests.map Request.answer ∧
      (c.run requests).2.Sound := by
  induction requests generalizing c with
  | nil => exact ⟨rfl, h⟩
  | cons request requests ih =>
    obtain ⟨hanswers, hsound⟩ := ih (serve_sound h request)
    refine ⟨?_, hsound⟩
    simp only [ParseCache.run, List.map_cons, answer_serve h, hanswers]

/-- In a session that starts without any tree every request is answered as it is without a cache,
and afterwards every tree is the one that its rule is read as in its mode. -/
theorem run_transparent (requests : List Request) :
    (empty.run requests).1.map Reply.answer = requests.map Request.answer ∧
      ∀ mode rule tree, (empty.run requests).2.trees[(mode, rule)]? = some tree →
        (Tree.ofRule mode rule).outcome = .ok tree :=
  sound_empty.run requests

end ParseCache

end AttributeRules

import Mathlib.Data.List.Find
import AttributeRules.Proofs.Attributes

/-!
# Records after writes

A rule means the value of exactly the name that it has, or else that of the
first name with that lowercase, in the order of the entries. If no two names have
the same lowercase, every order finds the same values (`CaseDistinct.lookupIn`).

After any number of writes (`Write`) a name has the value that was last written
to it, or the one it had before (`get?_run`).

Main statement: `Record.run_writes`.
-/

namespace AttributeRules

/-! ## The search for a value -/

namespace Record

variable {r : Record}

/-- The value of a lowercased name, where the entries are gone through in this order. -/
def lookupIn (r : Record) (entries : List (String × Value)) (field : String) : Option Value :=
  r.get? field <|>
    (entries.find? fun (name, _) => Text.lowercase name = field).map Prod.snd

/-- If no two names have the same lowercase, every order of the entries finds the same values. -/
theorem CaseDistinct.lookupIn (h : r.CaseDistinct) {entries : List (String × Value)}
    (hperm : entries.Perm r.values.toList) : r.lookupIn entries = r.lookup := by
  funext field
  have honly : {entry ∈ r.values.toList |
      decide (Text.lowercase entry.1 = field) = true}.Subsingleton := by
    rintro ⟨name, value⟩ ⟨hname, hlower⟩ ⟨other, value'⟩ ⟨hother, hlower'⟩
    rw [mem_toList_iff] at hname hother
    obtain rfl : name = other := h name other (by simp [hname]) (by simp [hother])
      ((of_decide_eq_true hlower).trans (of_decide_eq_true hlower').symm)
    rw [Option.some.inj (hname.symm.trans hother)]
  rw [Record.lookupIn, Record.lookup]
  exact congrArg (fun entry => r.get? field <|> Option.map Prod.snd entry)
    (List.find?_eq_find?_of_perm hperm.symm honly).symm

end Record

namespace Settings

variable (s : Settings)

/-- The result of the condition in a text, with the value that is found for its attribute. -/
def evaluateConditionBy (find : String → Option Value) (text : String) : Except RuleError Bool := do
  let condition ← Condition.parse text
  if s.whitelist.contains condition.field then
    condition.test (find condition.field) s.caseMode.foldsValues
  else throw (.invalidAttribute condition.field)

/-- The result of a tree, with the values that are found for the attributes. -/
def evaluateBy (tree : Tree) (find : String → Option Value) : Traced Bool :=
  tree.evaluate (s.evaluateConditionBy find)

/-- The result of a rule, with the values that are found for the attributes. -/
def checkBy (rule : String) (find : String → Option Value) : Traced Bool := do
  s.evaluateBy (← s.parse rule) find

theorem evaluateBy_lookup (tree : Tree) (record : Record) :
    s.evaluateBy tree record.lookup = s.evaluate tree record := rfl

theorem checkBy_lookup (rule : String) (record : Record) :
    s.checkBy rule record.lookup = s.check rule record := rfl

end Settings

/-! ## Writes -/

namespace Record

/-- One value that a record is given. -/
inductive Write
  /-- Sets a value, and asks for the one that it replaces. -/
  | insert (name : String) (value : Value)
  /-- Sets a value. -/
  | set (name : String) (value : Value)

namespace Write

/-- The name that is written to. -/
def name : Write → String
  | insert name _ | set name _ => name

/-- The value that is written. -/
def value : Write → Value
  | insert _ value | set _ value => value

end Write

/-- Answers a write, if it asks for something, and gives the record behind it. -/
def serve (r : Record) : Write → Option (Option Value) × Record
  | .insert name value =>
    let (old, r) := r.insert name value
    (some old, r)
  | .set name value => (none, r.set name value)

/-- Answers writes one by one. -/
def run (r : Record) : List Write → List (Option (Option Value)) × Record
  | [] => ([], r)
  | write :: writes =>
    let (answer, r) := r.serve write
    let (answers, r) := r.run writes
    (answer :: answers, r)

/-- The value that was last written to a name. -/
def lastWritten (name : String) (writes : List Write) : Option Value :=
  (writes.filter (·.name = name)).getLast?.map Write.value

/-- The names that have a value. -/
def names (r : Record) : Finset String := r.values.keys.toFinset

/-- The same writes to every name, in the same order, and otherwise in any order. -/
def Reordered (writes writes' : List Write) : Prop :=
  ∀ name, writes.filter (·.name = name) = writes'.filter (·.name = name)

variable {r : Record}

theorem mem_names {name : String} : name ∈ r.names ↔ r.get? name ≠ none := by
  rw [names, List.mem_toFinset, Std.ExtTreeMap.mem_keys, Std.ExtTreeMap.mem_iff_isSome_getElem?,
    Option.isSome_iff_ne_none]
  rfl

theorem size_eq_card (r : Record) : r.size = r.names.card := by
  rw [names, List.toFinset_card_of_nodup Std.ExtTreeMap.nodup_keys,
    Std.ExtTreeMap.length_keys, size]

theorem reordered_swap {first second : Write} (h : first.name ≠ second.name)
    (before after : List Write) :
    Reordered (before ++ first :: second :: after) (before ++ second :: first :: after) := by
  intro name
  rw [List.filter_append, List.filter_append]
  by_cases hfirst : first.name = name
  · have hsecond : second.name ≠ name := hfirst ▸ h.symm
    simp [hfirst, hsecond]
  · simp [List.filter_cons, hfirst]

theorem Reordered.trans {writes writes' writes'' : List Write} (h : Reordered writes writes')
    (h' : Reordered writes' writes'') : Reordered writes writes'' :=
  fun name => (h name).trans (h' name)

/-! ## One write -/

theorem serve_snd (r : Record) (write : Write) :
    (r.serve write).2 = r.set write.name write.value := by
  cases write <;> rfl

/-- A write changes the value of its name and no other. -/
theorem get?_serve (r : Record) (write : Write) (name : String) :
    (r.serve write).2.get? name = if name = write.name then some write.value else r.get? name := by
  rw [serve_snd, get?_set]

theorem names_serve (r : Record) (write : Write) :
    (r.serve write).2.names = r.names ∪ {write.name} := by
  ext name
  rw [mem_names, get?_serve, Finset.mem_union, Finset.mem_singleton, mem_names]
  split
  · next h => simp [h]
  · next h => simp [h]

/-! ## Many writes -/

theorem run_append (r : Record) (before after : List Write) :
    r.run (before ++ after) =
      ((r.run before).1 ++ ((r.run before).2.run after).1, ((r.run before).2.run after).2) := by
  induction before generalizing r with
  | nil => rfl
  | cons write before ih =>
    have hrest := ih (r.serve write).2
    simp only [List.cons_append, run, hrest]

theorem length_answers (r : Record) (writes : List Write) :
    (r.run writes).1.length = writes.length := by
  induction writes generalizing r with
  | nil => rfl
  | cons write writes ih => exact congrArg Nat.succ (ih (r.serve write).2)

theorem answer_run (r : Record) (before after : List Write) (write : Write) :
    (r.run (before ++ write :: after)).1[before.length]? =
      some ((r.run before).2.serve write).1 := by
  rw [run_append, List.getElem?_append_right (length_answers r before).le, length_answers,
    Nat.sub_self]
  rfl

theorem run_concat (r : Record) (writes : List Write) (write : Write) :
    (r.run (writes ++ [write])).2 = ((r.run writes).2.serve write).2 := by
  rw [run_append]
  rfl

theorem lastWritten_concat (name : String) (writes : List Write) (write : Write) :
    lastWritten name (writes ++ [write]) =
      if name = write.name then some write.value else lastWritten name writes := by
  rw [lastWritten, List.filter_append]
  split
  · next h => simp [h]
  · next h => simp [Ne.symm h, lastWritten]

/-- A name has the value that was last written to it, or else the one it had before. -/
theorem get?_run (r : Record) (writes : List Write) (name : String) :
    (r.run writes).2.get? name = (lastWritten name writes).or (r.get? name) := by
  induction writes using List.reverseRecOn with
  | nil => rfl
  | append_singleton writes write ih =>
    rw [run_concat, get?_serve, lastWritten_concat, ih]
    split <;> rfl

/-- The names are those from before and those that were written to. -/
theorem names_run (r : Record) (writes : List Write) :
    (r.run writes).2.names = r.names ∪ (writes.map Write.name).toFinset := by
  induction writes using List.reverseRecOn with
  | nil => simp [run]
  | append_singleton writes write ih =>
    rw [run_concat, names_serve, ih, List.map_append, List.toFinset_append, Finset.union_assoc]
    rfl

/-- The order of writes to different names is of no consequence. -/
theorem Reordered.run {writes writes' : List Write} (h : Reordered writes writes') (r : Record) :
    (r.run writes).2 = (r.run writes').2 := by
  ext name : 1
  rw [get?_run, get?_run, lastWritten, lastWritten, h name]

/-- A record after any writes. A name has the value that was last written to it, or else the one it
had before, and this is what a write that asks for it is answered. The size is the number of
different names, and the record is empty if that is zero. It is equal to the records that have the
same value for every name. So it is the same record after writes that differ only in the order of
those to different names. If no two of its names have the same lowercase, then nothing that is found
in it, and no result of a tree or a rule, depends on the order of its entries either. -/
theorem run_writes (r : Record) (writes : List Write) :
    (∀ name, (r.run writes).2.get? name = (lastWritten name writes).or (r.get? name)) ∧
    (∀ before name value after, writes = before ++ .insert name value :: after →
      (r.run writes).1[before.length]? = some (some ((r.run before).2.get? name)) ∧
        (r.run before).2.get? name = (lastWritten name before).or (r.get? name)) ∧
    ((r.run writes).2.size = (r.names ∪ (writes.map Write.name).toFinset).card ∧
      ((r.run writes).2.isEmpty = true ↔ (r.run writes).2.size = 0)) ∧
    (∀ other : Record,
      (r.run writes).2 = other ↔ ∀ name, (r.run writes).2.get? name = other.get? name) ∧
    (∀ writes', Reordered writes writes' → (r.run writes).2 = (r.run writes').2 ∧
      ((r.run writes).2.CaseDistinct → ∀ entries, entries.Perm (r.run writes').2.values.toList →
        (∀ field, (r.run writes').2.lookupIn entries field = (r.run writes).2.lookup field) ∧
        (∀ (s : Settings) (tree : Tree), s.evaluateBy tree ((r.run writes').2.lookupIn entries) =
          s.evaluate tree (r.run writes).2) ∧
        (∀ (s : Settings) (rule : String), s.checkBy rule ((r.run writes').2.lookupIn entries) =
          s.check rule (r.run writes).2))) := by
  refine ⟨get?_run r writes, ?_, ⟨?_, ?_⟩, fun other => ⟨?_, Record.ext⟩, ?_⟩
  · rintro before name value after rfl
    exact ⟨answer_run r before after _, get?_run r before name⟩
  · rw [size_eq_card, names_run]
  · rw [isEmpty, Std.ExtTreeMap.isEmpty_eq_size_beq_zero, beq_iff_eq, size]
  · rintro rfl name
    rfl
  · intro writes' hreordered
    have hsame := hreordered.run r
    refine ⟨hsame, fun hdistinct entries hentries => ?_⟩
    have hlookup : (r.run writes').2.lookupIn entries = (r.run writes).2.lookup := by
      rw [← hsame] at hentries ⊢
      exact hdistinct.lookupIn hentries
    rw [hlookup]
    exact ⟨fun field => rfl, fun s tree => s.evaluateBy_lookup tree _,
      fun s rule => s.checkBy_lookup rule _⟩

/-- The age is there before and is written twice; the title and the name are written in between or
before that. The entries are then gone through in an order that is not that of the names. -/
theorem run_writes_interleaved :
    let r := Record.empty.set "age" (.int 1)
    let writes : List Write := [.insert "age" (.int 2), .set "Title" (.str "x"),
      .insert "age" (.int 3), .insert "Name" (.str "y")]
    let writes' : List Write := [.set "Title" (.str "x"), .insert "age" (.int 2),
      .insert "Name" (.str "y"), .insert "age" (.int 3)]
    let entries := [("age", Value.int 3), ("Title", .str "x"), ("Name", .str "y")]
    let s : Settings := ⟨.ofList ["title"], .verbatim⟩
    (r.run writes).2.get? "age" = some (.int 3) ∧
      (r.run writes).1[2]? = some (some (some (.int 2))) ∧ (r.run writes).2.size = 3 ∧
      Reordered writes writes' ∧ (r.run writes).2 = (r.run writes').2 ∧
      (r.run writes).2.CaseDistinct ∧ entries.Perm (r.run writes').2.values.toList ∧
      s.checkBy "TITLE == 'x'" ((r.run writes').2.lookupIn entries) =
        s.check "TITLE == 'x'" (r.run writes).2 := by
  intro r writes writes' entries s
  obtain ⟨hget, hanswer, ⟨hsize, -⟩, -, hreorder⟩ := run_writes r writes
  have hreordered : Reordered writes writes' :=
    (reordered_swap (by decide) [] _).trans
      (reordered_swap (by decide) [.set "Title" (.str "x"), .insert "age" (.int 2)] [])
  have hdistinct : (r.run writes).2.CaseDistinct := by decide +kernel
  have hperm : entries.Perm (r.run writes').2.values.toList := by decide +kernel
  obtain ⟨hsame, hsearch⟩ := hreorder writes' hreordered
  obtain ⟨-, -, hcheck⟩ := hsearch hdistinct entries hperm
  obtain ⟨hold, hlast⟩ := hanswer [.insert "age" (.int 2), .set "Title" (.str "x")] "age" (.int 3)
    [.insert "Name" (.str "y")] rfl
  exact ⟨(hget "age").trans (by decide +kernel), hold.trans (by rw [hlast]; decide +kernel),
    hsize.trans (by decide +kernel), hreordered, hsame, hdistinct, hperm, hcheck s _⟩

end Record

end AttributeRules

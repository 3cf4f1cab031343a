import AttributeRules.Proofs.Combination
import AttributeRules.Proofs.Condition.RoundTrip

/-!
# Membership as a disjunction

`department in 'sales, hr'` says that the department is one of the items. So
does `department == 'sales' or department == 'hr'`, in another way: there each
item is a literal of its own, and the comparisons are made one after the other
(`Condition.classify_test_member`). The two have the same answer, or an error of
the same class (`Settings.evaluate_member`).
-/

namespace AttributeRules

open Text

/-! ## Lists as they are written -/

/-- An item of a list between single quotes, with the blanks around it. -/
structure ListItem where
  /-- The blanks before the item. -/
  before : String
  /-- The item. -/
  text : String
  /-- The blanks behind the item. -/
  behind : String
  text_ne_empty : text ≠ ""
  trimmed_text : Trimmed text.toList
  quote_not_mem : '\'' ∉ text.toList
  comma_not_mem : ',' ∉ text.toList
  blank_before : ∀ c ∈ before.toList, isBlank c = true
  blank_behind : ∀ c ∈ behind.toList, isBlank c = true

namespace ListItem

variable (item : ListItem)

/-- What stands between the commas. -/
def written : String := item.before ++ item.text ++ item.behind

theorem toList_written :
    item.written.toList = item.before.toList ++ (item.text.toList ++ item.behind.toList) := by
  simp [written]

theorem trim_written : trim item.written.toList = item.text.toList := by
  rw [toList_written, trim_blank_append item.blank_before, trim_append_blank item.blank_behind,
    trim_eq_self item.trimmed_text]

theorem written_ne_empty : item.written.toList ≠ [] := by
  rw [toList_written]
  exact List.append_ne_nil_of_right_ne_nil _
    (List.append_ne_nil_of_left_ne_nil (by simpa using item.text_ne_empty) _)

theorem not_mem_written {c : Char} (hc : isBlank c = false) (h : c ∉ item.text.toList) :
    c ∉ item.written.toList := by
  have hblank : ∀ {s : List Char}, (∀ d ∈ s, isBlank d = true) → c ∉ s := by
    intro s hs hmem
    rw [hs c hmem] at hc
    cases hc
  simp only [toList_written, List.mem_append, not_or]
  exact ⟨hblank item.blank_before, h, hblank item.blank_behind⟩

end ListItem

theorem mem_intercalate_comma {items : List String} {c : Char}
    (h : c ∈ (",".intercalate items).toList) : c = ',' ∨ ∃ item ∈ items, c ∈ item.toList := by
  induction items with
  | nil => simp at h
  | cons first items ih =>
    cases items with
    | nil =>
      rw [String.intercalate_singleton] at h
      exact .inr ⟨first, List.mem_cons_self, h⟩
    | cons second items =>
      rw [String.intercalate_cons_cons, String.toList_append, String.toList_append,
        List.mem_append, List.mem_append] at h
      rcases h with (h | h) | h
      · exact .inr ⟨first, List.mem_cons_self, h⟩
      · exact .inl (by simpa using h)
      · rcases ih h with h | ⟨item, hitem, h⟩
        · exact .inl h
        · exact .inr ⟨item, List.mem_cons_of_mem first hitem, h⟩

namespace Condition

variable {field : String} {items : List ListItem}

/-- The text of the list. -/
def listText (items : List ListItem) : String := ",".intercalate (items.map ListItem.written)

theorem splitOn_listText (hitems : items ≠ []) :
    (listText items).toList.splitOn ',' = items.map fun item => item.written.toList := by
  have hcomma : ∀ w ∈ items.map ListItem.written, ',' ∉ w.toList := by
    intro w hw
    obtain ⟨item, -, rfl⟩ := List.mem_map.1 hw
    exact item.not_mem_written (by decide) item.comma_not_mem
  rw [listText, splitOn_intercalate_comma (by simpa using hitems) hcomma, List.map_map]
  rfl

/-- A list with its quotes is spelled as a literal. -/
theorem spells_listText (hitems : items ≠ []) :
    (Spelling.quoted (listText items).toList).Spells ("'" ++ listText items ++ "'").toList := by
  have hne : listText items ≠ "" := by
    intro hempty
    have hsplit := splitOn_listText hitems
    rw [hempty, String.toList_empty, List.splitOn_nil] at hsplit
    obtain ⟨item, items, rfl⟩ := List.exists_cons_of_ne_nil hitems
    exact item.written_ne_empty (List.cons.inj hsplit).1.symm
  have hquote : '\'' ∉ (listText items).toList := by
    intro hmem
    rcases mem_intercalate_comma hmem with h | ⟨w, hw, h⟩
    · cases h
    · obtain ⟨item, -, rfl⟩ := List.mem_map.1 hw
      exact item.not_mem_written (by decide) item.quote_not_mem h
  exact spells_quoted hne hquote

/-- A condition with a list is read as membership in its items. -/
theorem parse_member (hne : field ≠ "") (hword : ∀ c ∈ field.toList, isWord c = true)
    (hitems : items ≠ []) :
    parse (field ++ " in '" ++ listText items ++ "'") =
      .ok ⟨lowercase field, .member, .list (items.map ListItem.text)⟩ := by
  have hdenotes := Denotes.list (.quoted (listText items).toList)
  rw [Spelling.content, splitOn_listText hitems, List.map_map] at hdenotes
  have htexts : (items.map fun item => String.ofList (trim item.written.toList)) =
      items.map ListItem.text :=
    List.map_congr_left fun item _ => by rw [item.trim_written, String.ofList_toList]
  have htext : field ++ " in '" ++ listText items ++ "'" =
      spaced field .member ("'" ++ listText items ++ "'") :=
    String.toList_inj.1 (by simp [spaced, Comparison.symbol])
  rw [htext, parse_spaced hne hword (spells_listText hitems) (htexts ▸ hdenotes)]

theorem parse_equal (hne : field ≠ "") (hword : ∀ c ∈ field.toList, isWord c = true)
    (item : ListItem) :
    parse (field ++ " == '" ++ item.text ++ "'") =
      .ok ⟨lowercase field, .equal, .str item.text⟩ := by
  have hspells := spells_quoted item.text_ne_empty item.quote_not_mem
  have htext : field ++ " == '" ++ item.text ++ "'" =
      spaced field .equal ("'" ++ item.text ++ "'") :=
    String.toList_inj.1 (by simp [spaced, Comparison.symbol])
  have hdenotes := Denotes.str (c := .equal) (by decide) item.text.toList
  rw [String.ofList_toList] at hdenotes
  rw [htext, parse_spaced hne hword hspells hdenotes]

/-! ## Answers -/

/-- A string is in a list if the comparisons with its items say yes, one after the other; other
values are refused in the same way, and no value is in no list. -/
theorem classify_test_member (field first : String) (rest : List String) (actual : Option Value)
    (fold : Bool) :
    classify (test ⟨field, .member, .list (first :: rest)⟩ actual fold) =
      classify (firstDecided ((first :: rest).map fun item =>
        test ⟨field, .equal, .str item⟩ actual fold)) := by
  cases actual with
  | none =>
    have hnone := firstDecided_map_ok (fun _ => false) (first :: rest)
    rw [show ((first :: rest).any fun _ => false) = false by simp] at hnone
    exact congrArg classify hnone.symm
  | some v =>
    cases v with
    | int n => rfl
    | str s =>
      have hequal : ∀ item, test ⟨field, .equal, .str item⟩ (some (.str s)) fold =
          .ok (folded fold s == item) := by
        intro item
        show Except.ok (decide (compare (folded fold s) item = .eq)) = _
        simp only [Std.LawfulEqCmp.compare_eq_iff_eq, beq_eq_decide]
      simp only [hequal, firstDecided_map_ok]
      show classify (.ok ((first :: rest).contains (folded fold s))) = _
      rw [List.contains_eq_any_beq]

end Condition

namespace Settings

open Condition

variable (s : Settings) (record : Record)

theorem outcome_evaluate_leaf (text : String) :
    (s.evaluate (.leaf text) record).outcome = s.evaluateCondition record text := by
  rw [outcome_evaluate, Tree.outcome_meaning_leaf]

/-- A condition with a list has the same answer as the disjunction of the comparisons with its
items, from left to right, or an error of the same class: under all settings and on every record,
whatever blanks stand around the items. -/
theorem evaluate_member (field : String) (hne : field ≠ "")
    (hword : ∀ c ∈ field.toList, isWord c = true) (first : ListItem) (rest : List ListItem) :
    let equal (item : ListItem) : Tree := .leaf (field ++ " == '" ++ item.text ++ "'")
    classify (s.evaluate (.leaf (field ++ " in '" ++ listText (first :: rest) ++ "'"))
        record).outcome =
      classify (s.evaluate (joinChain (equal first) (rest.map fun item => (.or, equal item)))
        record).outcome := by
  intro equal
  have hmember := parse_member hne hword (List.cons_ne_nil first rest)
  have hequal := fun item => parse_equal hne hword item
  rw [outcome_evaluate_leaf, evaluateCondition_eq hmember, outcome_evaluate_orChain]
  simp only [equal, outcome_evaluate_leaf, evaluateCondition_eq (hequal _)]
  split
  · have htest := classify_test_member (lowercase field) first.text (rest.map ListItem.text)
      (record.lookup (lowercase field)) s.caseMode.foldsValues
    rw [← List.map_cons, List.map_map] at htest
    exact htest
  · -- The first comparison is refused for its attribute, as the condition with the list is.
    exact congrArg classify (firstDecided_cons (by simp) _).symm

/-- The second of the items is the value, once it is folded; a number is refused in both ways, and so
is an attribute that is not admitted. -/
theorem evaluate_member_department :
    let folding : Settings := ⟨.standard, .foldContext⟩
    let list : Tree := .leaf "Department in '\u3000sales ,\thr'"
    let either : Tree := .join .or (some (.leaf "Department == 'sales'"))
      (some (.leaf "Department == 'hr'"))
    let clerk := Record.empty.set "department" (.str "HR")
    let number := Record.empty.set "department" (.int 7)
    classify (folding.evaluate list clerk).outcome = .ok true ∧
      classify (folding.evaluate list clerk).outcome =
        classify (folding.evaluate either clerk).outcome ∧
      classify (folding.evaluate list number).outcome = .error .invalidCondition ∧
      classify (folding.evaluate list number).outcome =
        classify (folding.evaluate either number).outcome := by
  intro folding list either clerk number
  let sales : ListItem :=
    { before := "\u3000", text := "sales", behind := " "
      text_ne_empty := by decide
      trimmed_text := ⟨by rintro c ⟨⟩; decide, by rintro c ⟨⟩; decide⟩
      quote_not_mem := by decide
      comma_not_mem := by decide
      blank_before := List.all_eq_true.1 (by decide)
      blank_behind := List.all_eq_true.1 (by decide) }
  let hr : ListItem :=
    { before := "\t", text := "hr", behind := ""
      text_ne_empty := by decide
      trimmed_text := ⟨by rintro c ⟨⟩; decide, by rintro c ⟨⟩; decide⟩
      quote_not_mem := by decide
      comma_not_mem := by decide
      blank_before := List.all_eq_true.1 (by decide)
      blank_behind := List.all_eq_true.1 (by decide) }
  have hsame := fun record => evaluate_member folding record "Department" (by decide)
    (List.all_eq_true.1 (by decide +kernel)) sales [hr]
  exact ⟨by decide +kernel, hsame clerk, by decide +kernel, hsame number⟩

end Settings

end AttributeRules

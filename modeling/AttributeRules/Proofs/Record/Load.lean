import AttributeRules.Proofs.Json.Document
import AttributeRules.Record.Load

/-!
# Records from their documents

A value has one place in JSON: an integer is a number with its sign and no more
digits than it needs, a string is a string (`Value.toJson`). Everything else in
JSON is foreign to records (`Json.Foreign`), and a member with a foreign value
spoils its document even if its name comes again with a good one.

Main statement: `Record.load_object`.
-/

namespace AttributeRules

/-- The value as it stands in JSON. -/
def Value.toJson : Value → Json
  | int n => .number (.integer (n.toInt < 0) n.toInt.natAbs)
  | str s => .text (some s)

/-- What is in JSON but no value of an attribute. -/
inductive Json.Foreign : Json → Prop
  | null : Foreign null
  | bool (b : Bool) : Foreign (bool b)
  | array (items : List Json) : Foreign (array items)
  | object (members : List (Option String × Json)) : Foreign (object members)
  /-- A string with half a surrogate pair. -/
  | half : Foreign (text none)
  /-- A number with a fraction or an exponent. -/
  | real : Foreign (number .real)
  | negativeZero : Foreign (number (.integer true 0))
  /-- An integer above the greatest one of 64 bits. -/
  | above {n : Nat} : Int64.maxValue.toInt < n → Foreign (number (.integer false n))
  /-- An integer below the least one of 64 bits. -/
  | below {n : Nat} : -n < Int64.minValue.toInt → Foreign (number (.integer true n))

/-! ## Numbers -/

theorem int64?_eq_none_iff {n : Int} :
    int64? n = none ↔ n < Int64.minValue.toInt ∨ Int64.maxValue.toInt < n := by
  rw [int64?]
  split
  · exact iff_of_false (Option.some_ne_none _) (by omega)
  · exact iff_of_true rfl (by omega)

namespace Json.Number

/-- The negative of a number that is not zero is an integer like any other. -/
theorem int64?_negative {n : Nat} (h : n ≠ 0) :
    int64? (.integer true n) = AttributeRules.int64? (-n) := by
  rw [int64?]
  exact h

/-- An integer of 64 bits is a number with its sign and its magnitude. -/
theorem int64?_eq_some_iff {number : Number} {n : Int64} :
    number.int64? = some n ↔ number = .integer (n.toInt < 0) n.toInt.natAbs := by
  cases number with
  | real => exact iff_of_false nofun nofun
  | integer negative magnitude =>
    rw [Number.integer.injEq, eq_comm (a := negative)]
    cases negative with
    | false =>
      rw [int64?, AttributeRules.int64?_eq_some_iff, decide_eq_false_iff_not]
      omega
    | true =>
      rw [decide_eq_true_eq]
      by_cases hzero : magnitude = 0
      · rw [hzero]
        exact iff_of_false nofun (by omega)
      · rw [int64?_negative hzero, AttributeRules.int64?_eq_some_iff]
        omega

/-- Exactly the numbers that are foreign to records are no integers of 64 bits. -/
theorem int64?_eq_none_iff {number : Number} :
    number.int64? = none ↔ Foreign (.number number) := by
  have hmin : Int64.minValue.toInt = -2 ^ 63 := rfl
  have hmax : Int64.maxValue.toInt = 2 ^ 63 - 1 := rfl
  constructor
  · intro h
    cases number with
    | real => exact .real
    | integer negative magnitude =>
      cases negative with
      | false =>
        rw [int64?, AttributeRules.int64?_eq_none_iff] at h
        exact .above (by omega)
      | true =>
        by_cases hzero : magnitude = 0
        · rw [hzero]
          exact .negativeZero
        · rw [int64?_negative hzero, AttributeRules.int64?_eq_none_iff] at h
          exact .below (by omega)
  · intro h
    cases h with
    | real => rfl
    | negativeZero => rfl
    | above h => exact AttributeRules.int64?_eq_none_iff.2 (.inr h)
    | below h =>
      rw [int64?_negative (by omega), AttributeRules.int64?_eq_none_iff]
      exact .inl h

end Json.Number

/-! ## Values -/

namespace Value

theorem ofJson?_eq_some_iff {v : Json} {value : Value} :
    ofJson? v = some value ↔ v = value.toJson := by
  cases v with
  | number n =>
    rw [ofJson?, Option.map_eq_some_iff]
    cases value with
    | int m => simp [toJson, Json.Number.int64?_eq_some_iff]
    | str s => simp [toJson]
  | text s =>
    rw [ofJson?, Option.map_eq_some_iff]
    cases value <;> simp [toJson]
  | _ => cases value <;> exact iff_of_false nofun nofun

theorem ofJson?_eq_none_iff {v : Json} : ofJson? v = none ↔ v.Foreign := by
  cases v with
  | null => exact iff_of_true rfl .null
  | bool b => exact iff_of_true rfl (.bool b)
  | number n => rw [ofJson?, Option.map_eq_none_iff, Json.Number.int64?_eq_none_iff]
  | text s =>
    cases s with
    | none => exact iff_of_true rfl .half
    | some s => exact iff_of_false nofun nofun
  | array items => exact iff_of_true rfl (.array items)
  | object members => exact iff_of_true rfl (.object members)

end Value

/-! ## Records -/

namespace Record

/-- The JSON object of names and values. -/
def document (members : List (String × Value)) : Json :=
  .ofMembers (members.map fun member => (member.1, member.2.toJson))

theorem member?_toJson (name : String) (value : Value) :
    member? (some name, value.toJson) = some (name, value) := by
  rw [member?, Value.ofJson?_eq_some_iff.2 rfl]
  rfl

theorem member?_foreign {member : Option String × Json} (h : member.2.Foreign) :
    member? member = none := by
  simp [member?, Value.ofJson?_eq_none_iff.2 h]

/-- An object of names and values gives the record of them. -/
theorem ofJson?_document (members : List (String × Value)) :
    ofJson? (document members) = some (ofList members) := by
  have hmembers : ((members.map fun member => (member.1, member.2.toJson)).map
      fun member => (some member.1, member.2)).mapM member? = some members := by
    rw [Json.mapM_eq_some_iff, List.map_map, List.map_map]
    exact List.map_congr_left fun member _ => member?_toJson member.1 member.2
  rw [document, Json.ofMembers, ofJson?, hmembers, Option.map_some]

/-- A foreign value spoils the object that it is in. -/
theorem ofJson?_foreign {members : List (Option String × Json)}
    (h : ∃ member ∈ members, member.2.Foreign) : ofJson? (.object members) = none := by
  obtain ⟨member, hmem, hforeign⟩ := h
  rw [ofJson?, Option.map_eq_none_iff, Option.eq_none_iff_forall_ne_some]
  intro taken htaken
  rw [Json.mapM_eq_some_iff] at htaken
  have hmember := List.mem_map_of_mem (f := member?) hmem
  rw [htaken, member?_foreign hforeign] at hmember
  obtain ⟨_, _, ⟨⟩⟩ := List.mem_map.1 hmember

/-- A document of names and values can be written, and however it is written it gives the record
that they are inserted into one by one; a document with a foreign value anywhere gives none. -/
theorem load_object :
    (∀ members : List (String × Value),
      (∃ text, (document members).Writes text) ∧
        ∀ text, (document members).Writes text →
          load text = .ok (members.foldl (fun r (name, value) => (r.insert name value).2) empty)) ∧
    ∀ members : List (Option String × Json), (∃ member ∈ members, member.2.Foreign) →
      ∀ text, (Json.object members).Writes text →
        ∃ e, load text = .error e ∧ e.kind = .config := by
  refine ⟨fun members => ⟨Json.exists_text _, fun text h => ?_⟩, fun members hforeign text h => ?_⟩
  · rw [load, Json.ofText?_eq_some_iff.2 h, Option.bind_some, ofJson?_document]
    rfl
  · refine ⟨.config .malformed, ?_, rfl⟩
    rw [load, Json.ofText?_eq_some_iff.2 h, Option.bind_some, ofJson?_foreign hforeign]

/-- The later value of a name counts, however the name is escaped; a negative zero that is
replaced later is refused all the same. -/
theorem load_object_repeated :
    load "\x7b \"a\\/b\": \"\\ud83d\\uDE00\",\"\\u0061/b\":-9223372036854775808\n\x7d" =
        .ok (((empty.insert "a/b" (.str "😀")).2.insert "a/b" (.int Int64.minValue)).2) ∧
      ∃ e, load "\x7b\"age\":-0,\"age\":1\x7d" = .error e ∧ e.kind = .config := by
  constructor
  · refine (load_object.1 [("a/b", .str "😀"), ("a/b", .int Int64.minValue)]).2 _ ?_
    rw [Json.writes_iff]
    decide +kernel
  · refine load_object.2 [(some "age", .number (.integer true 0)),
      (some "age", .number (.integer false 1))] ⟨_, List.mem_cons_self, .negativeZero⟩ _ ?_
    rw [Json.writes_iff]
    decide +kernel

end Record

end AttributeRules

import Mathlib.Data.List.Perm.Basic
import AttributeRules.Proofs.Attributes
import AttributeRules.Proofs.Json.Document
import AttributeRules.Settings.Load

/-!
# Settings from their documents

Settings are written as two members of an object (`Settings.members`), either of
which may be left out. A member is found by its name, wherever it stands among
the others (`Json.unique?_of_perm`), and members of other names may hold anything
(`Settings.ofJson?_ofMembers`).

Main statement: `Settings.load_members`.
-/

namespace AttributeRules

/-! ## Members by their names -/

namespace Json

/-- The member of a name, if there is something that it holds. -/
def memberOf (name : String) (v : Option Json) : List (String × Json) := (v.map (name, ·)).toList

theorem fst_of_mem_memberOf {name : String} {v : Option Json} {member : String × Json}
    (h : member ∈ memberOf name v) : member.1 = name := by
  rw [memberOf, Option.mem_toList, Option.map_eq_some_iff] at h
  obtain ⟨_, _, rfl⟩ := h
  rfl

/-- A member is found wherever it stands, if there is no other of its name. -/
theorem unique?_of_perm {name : String} {v : Option Json} {members others : List (String × Json)}
    (h : members.Perm (memberOf name v ++ others)) (hothers : ∀ member ∈ others, member.1 ≠ name) :
    unique? name members = some v := by
  have hkept : (memberOf name v).filter (·.1 = name) = memberOf name v := by
    rw [List.filter_eq_self]
    exact fun member hmem => decide_eq_true (fst_of_mem_memberOf hmem)
  have hpassed : others.filter (·.1 = name) = [] := by
    rw [List.filter_eq_nil_iff]
    exact fun member hmem => by simpa using hothers member hmem
  have hperm := h.filter (·.1 = name)
  rw [List.filter_append, hkept, hpassed, List.append_nil] at hperm
  rw [unique?]
  cases v with
  | none => rw [hperm.eq_nil]
  | some v => rw [List.perm_singleton.1 hperm]

end Json

/-! ## Settings by their members -/

namespace Settings

/-- A list of names as it stands in JSON. -/
def namesJson (names : List String) : Json := .array (names.map fun name => .text (some name))

/-- A mode as it stands in JSON. -/
def modeJson (mode : CaseMode) : Json := .text (some mode.name)

/-- The members that settings are written as. -/
def members (names : Option (List String)) (mode : Option CaseMode) : List (String × Json) :=
  Json.memberOf "attributes" (names.map namesJson) ++ Json.memberOf "case_mode" (mode.map modeJson)

/-- The settings with these names and this mode; the standard stands for what is left out. -/
def ofOptions (names : Option (List String)) (mode : Option CaseMode) : Settings :=
  ⟨names.elim .standard .ofList, mode.getD .verbatim⟩

theorem texts?_namesJson (names : List String) : (namesJson names).texts? = some names := by
  rw [namesJson, Json.texts?, Json.mapM_eq_some_iff, List.map_map]
  rfl

theorem ofJson?_modeJson (mode : CaseMode) : CaseMode.ofJson? (modeJson mode) = some mode :=
  CaseMode.ofName?_name mode

theorem ofParts?_map (names : Option (List String)) (mode : Option CaseMode) :
    ofParts? (names.map namesJson) (mode.map modeJson) = some (ofOptions names mode) := by
  cases names <;> cases mode <;>
    simp [ofParts?, ofOptions, texts?_namesJson, ofJson?_modeJson]

theorem isEmpty_ofOptions (names : Option (List String)) (mode : Option CaseMode) :
    (ofOptions names mode).whitelist.isEmpty = true ↔ names = some [] := by
  cases names with
  | none =>
    have hstandard : Whitelist.standard.isEmpty = false := Whitelist.isEmpty_ofList _
    simp [ofOptions, hstandard]
  | some names => simp [ofOptions, Whitelist.isEmpty_ofList]

variable {names : Option (List String)} {mode : Option CaseMode}
  {unknown written : List (String × Json)}

/-- Settings are found in an object, in whatever order and among whatever other members. -/
theorem ofJson?_ofMembers
    (hunknown : ∀ member ∈ unknown, member.1 ≠ "attributes" ∧ member.1 ≠ "case_mode")
    (hwritten : written.Perm (members names mode ++ unknown)) :
    ofJson? (.ofMembers written) = some (ofOptions names mode) := by
  have htaken : (written.map fun member => (some member.1, member.2)).mapM
      (fun member : Option String × Json => member.1.map (·, member.2)) = some written := by
    rw [Json.mapM_eq_some_iff, List.map_map]
    rfl
  rw [members, List.append_assoc] at hwritten
  have hnames : Json.unique? "attributes" written = some (names.map namesJson) := by
    refine Json.unique?_of_perm hwritten fun member hmem => ?_
    rcases List.mem_append.1 hmem with hmode | hmem
    · rw [Json.fst_of_mem_memberOf hmode]
      decide
    · exact (hunknown member hmem).1
  have hmode : Json.unique? "case_mode" written = some (mode.map modeJson) := by
    refine Json.unique?_of_perm (hwritten.trans (List.perm_append_comm_assoc _ _ _))
      fun member hmem => ?_
    rcases List.mem_append.1 hmem with hnames | hmem
    · rw [Json.fst_of_mem_memberOf hnames]
      decide
    · exact (hunknown member hmem).2
  simp only [Json.ofMembers, ofJson?, htaken, hnames, hmode, Option.bind_eq_bind,
    Option.bind_some, ofParts?_map]

/-- An object with the members of settings, in any order and among any others, can be written,
and however it is written it is loaded as these settings, unless its list of names is empty; then
that is the error. No text at all is loaded as settings that admit nothing. -/
theorem load_members :
    (∀ (names : Option (List String)) (mode : Option CaseMode)
      (unknown written : List (String × Json)),
      (∀ member ∈ unknown, member.1 ≠ "attributes" ∧ member.1 ≠ "case_mode") →
      written.Perm (members names mode ++ unknown) →
      (∃ text, (Json.ofMembers written).Writes text) ∧
        ∀ text, (Json.ofMembers written).Writes text →
          (names ≠ some [] →
            load text = .ok ⟨names.elim .standard .ofList, mode.getD .verbatim⟩) ∧
          (names = some [] → ∃ e, load text = .error e ∧ e.kind = .config ∧
            e.message = "Configuration error: attribute whitelist is empty")) ∧
    ∀ text s, load text = .ok s → s.whitelist.isEmpty = false := by
  constructor
  · intro names mode unknown written hunknown hwritten
    refine ⟨Json.exists_text _, fun text h => ?_⟩
    have hread : (Json.ofText? text).bind ofJson? = some (ofOptions names mode) := by
      rw [Json.ofText?_eq_some_iff.2 h, Option.bind_some, ofJson?_ofMembers hunknown hwritten]
    have hempty := isEmpty_ofOptions names mode
    constructor
    · intro hsome
      rw [load, hread]
      exact if_neg (mt hempty.1 hsome)
    · intro hnone
      refine ⟨.config .emptyWhitelist, ?_, rfl, by decide⟩
      rw [load, hread]
      exact if_pos (hempty.2 hnone)
  · intro text s h
    unfold load at h
    split at h
    · cases h
    · split at h
      · cases h
      · next hempty =>
        cases h
        rwa [Bool.not_eq_true] at hempty

/-- The members of settings may come in the other order and with escaped names, behind one that
has a part of such a name; an empty list of names is refused. -/
theorem load_members_behind_others :
    let text := "\x7b\"x\":[\x7b\"attributes\":-0.5e+3\x7d],\"case_mode\":\"fold_context\",
        \"\\u0061ttributes\" : [\"\\u00c9t\\u00E9\",\"ÉTÉ\"]\x7d"
    (load text = .ok ⟨.ofList ["Été", "ÉTÉ"], .foldContext⟩ ∧
      (Whitelist.ofList ["Été", "ÉTÉ"]).isEmpty = false) ∧
      ∃ e, load "\x7b\"attributes\":[\t]\x7d" = .error e ∧ e.kind = .config ∧
        e.message = "Configuration error: attribute whitelist is empty" := by
  intro text
  let unknown : List (String × Json) :=
    [("x", .array [.object [(some "attributes", .number .real)]])]
  constructor
  · have hwritten : (Json.ofMembers
        (members (some ["Été", "ÉTÉ"]) (some .foldContext) ++ unknown).reverse).Writes text := by
      rw [Json.writes_iff]
      decide +kernel
    have hloaded : load text = .ok ⟨.ofList ["Été", "ÉTÉ"], .foldContext⟩ :=
      ((load_members.1 _ _ unknown _ (by decide) (List.reverse_perm _)).2 text hwritten).1
        (by decide)
    exact ⟨hloaded, load_members.2 text _ hloaded⟩
  · refine ((load_members.1 (some []) none [] _ nofun (.refl _)).2 _ ?_).2 rfl
    rw [Json.writes_iff]
    decide +kernel

end Settings

end AttributeRules

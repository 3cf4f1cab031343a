import AttributeRules.Json.Document
import AttributeRules.Settings

/-!
# Loading settings

Settings are written as a JSON object with the members `attributes`, a list of
names, and `case_mode`, the name of a mode; either may be left out, and other
members are passed over. They may also be written as an array of the two. A
whitelist that admits nothing is refused.
-/

namespace AttributeRules

/-- The text of a JSON string. -/
def Json.text? : Json → Option String
  | .text s => s
  | _ => none

/-- The strings of a JSON array that holds nothing else. -/
def Json.texts? : Json → Option (List String)
  | .array items => items.mapM text?
  | _ => none

/-- The only member of this name, if there is one; nothing if there are several. -/
def Json.unique? (name : String) (members : List (String × Json)) : Option (Option Json) :=
  match members.filter (·.1 = name) with
  | [] => some none
  | [(_, value)] => some (some value)
  | _ => none

/-- The mode of a name, which may also stand as the only name in an object, with `null`. -/
def CaseMode.ofJson? : Json → Option CaseMode
  | .text s => s.bind ofName?
  | .object [(name, .null)] => name.bind ofName?
  | _ => none

namespace Settings

/-- The settings of these two parts; the standard stands for one that is left out. -/
def ofParts? (attributes mode : Option Json) : Option Settings := do
  let whitelist ← match attributes with
    | none => some Whitelist.standard
    | some attributes => attributes.texts?.map Whitelist.ofList
  let caseMode ← match mode with
    | none => some .verbatim
    | some mode => CaseMode.ofJson? mode
  return ⟨whitelist, caseMode⟩

/-- The settings that a JSON object or array stands for. -/
def ofJson? : Json → Option Settings
  | .object members => do
    let members ← members.mapM fun member => member.1.map (·, member.2)
    ofParts? (← Json.unique? "attributes" members) (← Json.unique? "case_mode" members)
  | .array [] => ofParts? none none
  | .array [attributes] => ofParts? (some attributes) none
  | .array [attributes, mode] => ofParts? (some attributes) (some mode)
  | _ => none

/-- The settings in a JSON text. -/
def load (text : String) : Except RuleError Settings :=
  match (Json.ofText? text).bind ofJson? with
  | none => .error (.config .malformed)
  | some settings =>
    if settings.whitelist.isEmpty then .error (.config .emptyWhitelist) else .ok settings

end Settings

end AttributeRules

import AttributeRules.Json.Document
import AttributeRules.Proofs.Json.Lexeme

/-!
# Documents as they are written

A value is written with lexemes of its own (`Json.lexemes`), and with any gaps
between them (`Json.Writes`). The reader that comes to these lexemes, whatever
arrays and objects are open around the value, goes on behind them with that
value (`readValue_lexemes`), and it reads no other lexemes (`lexemes_of_read`).

Main statement: `Json.ofText?_eq_some_iff`.
-/

namespace AttributeRules.Json

/-! ## Written values -/

mutual

/-- The lexemes that a value is written with. -/
def lexemes : Json → List Lexeme
  | null => [.null]
  | bool b => [.bool b]
  | number n => [.number n]
  | text s => [.text s]
  | array [] => [.openBracket, .closeBracket]
  | array (v :: items) => .openBracket :: (lexemes v ++ (itemLexemes items ++ [.closeBracket]))
  | object [] => [.openBrace, .closeBrace]
  | object ((name, v) :: members) =>
    .openBrace :: .text name :: .colon :: (lexemes v ++ (memberLexemes members ++ [.closeBrace]))

/-- The lexemes of the items of an array behind the first one. -/
def itemLexemes : List Json → List Lexeme
  | [] => []
  | v :: items => .comma :: (lexemes v ++ itemLexemes items)

/-- The lexemes of the members of an object behind the first one. -/
def memberLexemes : List (Option String × Json) → List Lexeme
  | [] => []
  | (name, v) :: members =>
    .comma :: .text name :: .colon :: (lexemes v ++ memberLexemes members)

end

/-- The text is one of a value, with any gaps. -/
def Writes (v : Json) (text : String) : Prop := Lexeme.Spaced v.lexemes text.toList

/-! ## Values that are read -/

variable {frames : List Frame} {r : List Lexeme}

theorem exists_lexemes_cons (v : Json) : ∃ l ls, v.lexemes = l :: ls ∧ l ≠ .closeBracket := by
  rcases v with _ | _ | _ | _ | (_ | _) | (_ | ⟨⟨_, _⟩, _⟩) <;> rw [lexemes] <;>
    exact ⟨_, _, rfl, nofun⟩

theorem readValue_openBracket (v : Json) : readValue frames (.openBracket :: (v.lexemes ++ r)) =
    readValue (.array [] :: frames) (v.lexemes ++ r) := by
  obtain ⟨l, ls, hl, hne⟩ := v.exists_lexemes_cons
  rw [hl, List.cons_append, readValue]
  rintro r' heq
  exact hne (List.cons.inj heq).1

mutual

/-- The reader goes on behind the lexemes of a value with that value. -/
theorem readValue_lexemes : (v : Json) → ∀ (frames : List Frame) (r : List Lexeme),
    readValue frames (v.lexemes ++ r) = readAfter frames v r
  | null, _, _ => rfl
  | bool _, _, _ => rfl
  | number _, _, _ => rfl
  | text _, _, _ => rfl
  | array [], _, _ => rfl
  | array (v :: items), frames, r => by
    rw [lexemes, List.cons_append, List.append_assoc, List.append_assoc, List.singleton_append,
      readValue_openBracket, readValue_lexemes v]
    exact readAfter_itemLexemes items frames [] v r
  | object [], _, _ => rfl
  | object ((name, v) :: members), frames, r => by
    rw [lexemes]
    simp only [List.cons_append, List.append_assoc, List.nil_append]
    rw [readValue, readValue_lexemes v]
    exact readAfter_memberLexemes members frames [] name v r

theorem readAfter_itemLexemes : (items : List Json) →
    ∀ (frames : List Frame) (done : List Json) (v : Json) (r : List Lexeme),
      readAfter (.array done :: frames) v (itemLexemes items ++ .closeBracket :: r) =
        readAfter frames (array (done.reverse ++ v :: items)) r
  | [], frames, done, v, r => by
    show readAfter frames (array (v :: done).reverse) r = _
    rw [List.reverse_cons]
  | next :: items, frames, done, v, r => by
    rw [itemLexemes, List.cons_append, List.append_assoc, readAfter, readValue_lexemes next,
      readAfter_itemLexemes items, List.reverse_cons, List.append_assoc]
    rfl

theorem readAfter_memberLexemes : (members : List (Option String × Json)) →
    ∀ (frames : List Frame) (done : List (Option String × Json)) (name : Option String) (v : Json)
      (r : List Lexeme),
      readAfter (.object done name :: frames) v (memberLexemes members ++ .closeBrace :: r) =
        readAfter frames (object (done.reverse ++ (name, v) :: members)) r
  | [], frames, done, name, v, r => by
    show readAfter frames (object ((name, v) :: done).reverse) r = _
    rw [List.reverse_cons]
  | (next, w) :: members, frames, done, name, v, r => by
    rw [memberLexemes]
    simp only [List.cons_append, List.append_assoc]
    rw [readAfter, readValue_lexemes w, readAfter_memberLexemes members, List.reverse_cons,
      List.append_assoc]
    rfl

end

/-! ## Lexemes that are read -/

/-- The lexemes of items of an array that others follow. -/
def itemsAhead (items : List Json) : List Lexeme :=
  items.flatMap fun v => v.lexemes ++ [.comma]

/-- The lexemes of members of an object that others follow. -/
def membersAhead (members : List (Option String × Json)) : List Lexeme :=
  members.flatMap fun member => .text member.1 :: .colon :: (member.2.lexemes ++ [.comma])

/-- The lexemes up to the place where the value is due that is read next. -/
def opened : List Frame → List Lexeme
  | [] => []
  | .array items :: outer => opened outer ++ .openBracket :: itemsAhead items.reverse
  | .object members name :: outer =>
    opened outer ++ .openBrace :: (membersAhead members.reverse ++ [.text name, .colon])

theorem itemLexemes_append (items : List Json) (v : Json) :
    itemLexemes (items ++ [v]) = .comma :: (itemsAhead items ++ v.lexemes) := by
  induction items with
  | nil => simp [itemLexemes, itemsAhead]
  | cons w items ih => simp [itemLexemes, ih, itemsAhead]

theorem lexemes_array_append (items : List Json) (v : Json) : (array (items ++ [v])).lexemes =
    .openBracket :: (itemsAhead items ++ (v.lexemes ++ [.closeBracket])) := by
  cases items with
  | nil => simp [lexemes, itemLexemes, itemsAhead]
  | cons w items => simp [lexemes, itemLexemes_append, itemsAhead]

theorem memberLexemes_append (members : List (Option String × Json)) (name : Option String)
    (v : Json) : memberLexemes (members ++ [(name, v)]) =
      .comma :: (membersAhead members ++ .text name :: .colon :: v.lexemes) := by
  induction members with
  | nil => simp [memberLexemes, membersAhead]
  | cons member members ih => simp [memberLexemes, ih, membersAhead]

theorem lexemes_object_append (members : List (Option String × Json)) (name : Option String)
    (v : Json) : (object (members ++ [(name, v)])).lexemes = .openBrace ::
      (membersAhead members ++ .text name :: .colon :: (v.lexemes ++ [.closeBrace])) := by
  cases members with
  | nil => simp [lexemes, memberLexemes, membersAhead]
  | cons member members => simp [lexemes, memberLexemes_append, membersAhead]

/-- The lexemes of what is read are those that were read. -/
theorem lexemes_of_read :
    (∀ frames ls, ∀ d, readValue frames ls = some d → d.lexemes = opened frames ++ ls) ∧
      ∀ frames v ls, ∀ d, readAfter frames v ls = some d →
        d.lexemes = opened frames ++ (v.lexemes ++ ls) := by
  apply readValue.mutual_induct
  -- A value that is one lexeme, or an array or object without parts.
  case case1 | case2 | case3 | case4 | case5 | case7 =>
    intros
    simp_all [readValue, lexemes]
  -- The first part of an array or an object is due.
  case case6 =>
    intro frames r hne ih d h
    rw [readValue] at h
    · simpa [opened, itemsAhead] using ih d h
    · exact hne
  case case8 =>
    intro frames name r ih d h
    simpa [opened, membersAhead] using ih d h
  case case9 =>
    intros
    simp_all [readValue]
  case case10 =>
    rintro v d ⟨⟩
    simp [opened]
  -- A comma: the next part is due.
  case case12 | case13 =>
    intros
    simp_all [readAfter, opened, itemsAhead, membersAhead]
  -- The end of an array or an object.
  case case15 =>
    intro v r items outer ih d h
    rw [ih d h, List.reverse_cons, lexemes_array_append]
    simp [opened]
  case case17 =>
    intro v r members name outer ih d h
    rw [ih d h, List.reverse_cons, lexemes_object_append]
    simp [opened]
  -- Nothing that may come here.
  case case14 =>
    intro frames v r harray hobject d h
    rw [readAfter] at h
    · cases h
    · exact harray
    · exact hobject
  case case11 | case16 | case18 | case19 =>
    intros
    simp_all [readAfter]

/-! ## Values in a text -/

open Lexeme

theorem separated_cons {l : Lexeme} {ls : List Lexeme} (hnumber : l.isNumber = false)
    (h : Separated ls) : Separated (l :: ls) := by
  refine List.isChain_cons.2 ⟨fun next _ hl => ?_, h⟩
  rw [hnumber] at hl
  cases hl

mutual

/-- The lexemes of a value are separated from each other and from a mark that follows them. -/
theorem separated_lexemes : (v : Json) → ∀ {r : List Lexeme},
    Separated r → (∀ l ∈ r.head?, l.isMark = true) → Separated (v.lexemes ++ r)
  | null, _, hr, _ => separated_cons rfl hr
  | bool _, _, hr, _ => separated_cons rfl hr
  | number _, _, hr, hmark => List.isChain_cons.2 ⟨fun l hl _ => hmark l hl, hr⟩
  | text _, _, hr, _ => separated_cons rfl hr
  | array [], _, hr, _ => separated_cons rfl (separated_cons rfl hr)
  | array (v :: items), r, hr, _ => by
    rw [lexemes, List.cons_append, List.append_assoc, List.append_assoc, List.singleton_append]
    obtain ⟨hitems, hmark⟩ := separated_itemLexemes items
      (separated_cons (l := .closeBracket) rfl hr) (by rintro _ ⟨⟩; rfl)
    exact separated_cons rfl (separated_lexemes v hitems hmark)
  | object [], _, hr, _ => separated_cons rfl (separated_cons rfl hr)
  | object ((name, v) :: members), r, hr, _ => by
    rw [lexemes]
    simp only [List.cons_append, List.append_assoc, List.nil_append]
    obtain ⟨hmembers, hmark⟩ := separated_memberLexemes members
      (separated_cons (l := .closeBrace) rfl hr) (by rintro _ ⟨⟩; rfl)
    exact separated_cons rfl (separated_cons rfl (separated_cons rfl
      (separated_lexemes v hmembers hmark)))

theorem separated_itemLexemes : (items : List Json) → ∀ {r : List Lexeme},
    Separated r → (∀ l ∈ r.head?, l.isMark = true) →
      Separated (itemLexemes items ++ r) ∧ ∀ l ∈ (itemLexemes items ++ r).head?, l.isMark = true
  | [], _, hr, hmark => ⟨hr, hmark⟩
  | v :: items, r, hr, hmark => by
    obtain ⟨hitems, hmark'⟩ := separated_itemLexemes items hr hmark
    rw [itemLexemes, List.cons_append, List.append_assoc]
    refine ⟨separated_cons rfl (separated_lexemes v hitems hmark'), ?_⟩
    rintro _ ⟨⟩
    rfl

theorem separated_memberLexemes : (members : List (Option String × Json)) → ∀ {r : List Lexeme},
    Separated r → (∀ l ∈ r.head?, l.isMark = true) →
      Separated (memberLexemes members ++ r) ∧
        ∀ l ∈ (memberLexemes members ++ r).head?, l.isMark = true
  | [], _, hr, hmark => ⟨hr, hmark⟩
  | (name, v) :: members, r, hr, hmark => by
    obtain ⟨hmembers, hmark'⟩ := separated_memberLexemes members hr hmark
    rw [memberLexemes]
    simp only [List.cons_append, List.append_assoc]
    refine ⟨separated_cons rfl (separated_cons rfl (separated_cons rfl
      (separated_lexemes v hmembers hmark'))), ?_⟩
    rintro _ ⟨⟩
    rfl

end

/-- A text is one of a value exactly if the lexemes of that value are read in it. -/
theorem writes_iff {v : Json} {text : String} :
    v.Writes text ↔ Lexeme.ofText? text.toList = some v.lexemes := by
  have hsep : Separated v.lexemes := by
    have h := v.separated_lexemes (r := []) .nil nofun
    rwa [List.append_nil] at h
  exact ⟨fun h => ofText?_spaced h hsep, spaced_of_ofText?⟩

/-- A text is read as a value exactly if it is one of that value. -/
theorem ofText?_eq_some_iff {v : Json} {text : String} : ofText? text = some v ↔ v.Writes text := by
  rw [ofText?, Option.bind_eq_some_iff, writes_iff]
  constructor
  · rintro ⟨ls, hls, hread⟩
    have hlexemes : v.lexemes = ls := lexemes_of_read.1 [] ls v hread
    rw [hls, hlexemes]
  · intro h
    have hread := v.readValue_lexemes [] []
    rw [List.append_nil] at hread
    exact ⟨v.lexemes, h, hread⟩

theorem exists_text (v : Json) : ∃ text, v.Writes text := by
  obtain ⟨s, hs⟩ := exists_spaced v.lexemes
  exact ⟨String.ofList s, by rwa [Writes, String.toList_ofList]⟩

/-! ## Parts of a value -/

/-- An object with these members. -/
def ofMembers (members : List (String × Json)) : Json :=
  object (members.map fun member => (some member.1, member.2))

theorem mapM_eq_some_iff {α β : Type} {take? : α → Option β} {parts : List α} {taken : List β} :
    parts.mapM take? = some taken ↔ parts.map take? = taken.map some := by
  induction parts generalizing taken with
  | nil => cases taken <;> simp
  | cons part parts ih =>
    rw [List.mapM_cons, List.map_cons]
    constructor
    · intro h
      obtain ⟨first, hfirst, h⟩ := Option.bind_eq_some_iff.1 h
      obtain ⟨behind, hbehind, ⟨⟩⟩ := Option.bind_eq_some_iff.1 h
      rw [hfirst, ih.1 hbehind, List.map_cons]
    · intro h
      obtain ⟨first, behind, rfl, hfirst, hbehind⟩ := List.map_eq_cons_iff.1 h.symm
      rw [← hfirst, ih.2 hbehind.symm]
      rfl

end AttributeRules.Json

import ChangeFeed.Json.Print
import ChangeFeed.Proofs.Json.Number

/-!
# JSON: Spelling

A text spells a value if it is made of the texts of the scalars in it, the marks between them, and
blanks where blanks may stand. There is no reader and no fuel in this, so it is what a printer and a
reader can agree on.

## Main results

* `spells_render`: the compact text of a value spells it.
* `spells_pretty`: the text with one item or member on a line spells it, too.
-/

namespace ChangeFeed.Json

/-! ## Spelled values -/

/-- Symbols that may stand between the parts of a text. -/
def Blanks (blanks : List Symbol) : Prop := ∀ s ∈ blanks, Cursor.isBlank s = true

mutual

/-- The text spells the value. -/
inductive Spells : Json → List Symbol → Prop where
  | scalar (v : Json) : v.isPrimitive = true → Spells v (symbolsOf v.render)
  | array {items : List Json} {text : List Symbol} :
      SpellsItems true items text → Spells (.array items) (.char '[' :: text)
  | object {members : List (String × Json)} {text : List Symbol} :
      SpellsMembers true members text → Spells (.object members) (.char '\x7b' :: text)

/-- The text spells items up to their bracket. All items but the first of an array stand behind a
comma. -/
inductive SpellsItems : (first : Bool) → List Json → List Symbol → Prop where
  | nil (first : Bool) {blanks : List Symbol} : Blanks blanks →
      SpellsItems first [] (blanks ++ [.char ']'])
  | first {blanks text tail : List Symbol} {v : Json} {items : List Json} : Blanks blanks →
      Spells v text → SpellsItems false items tail →
      SpellsItems true (v :: items) (blanks ++ (text ++ tail))
  | next {blanks text tail : List Symbol} {v : Json} {items : List Json} : Blanks blanks →
      Spells v text → SpellsItems false items tail →
      SpellsItems false (v :: items) (.char ',' :: (blanks ++ (text ++ tail)))

/-- The text spells members up to their brace. -/
inductive SpellsMembers : (first : Bool) → List (String × Json) → List Symbol → Prop where
  | nil (first : Bool) {blanks : List Symbol} : Blanks blanks →
      SpellsMembers first [] (blanks ++ [.char '\x7d'])
  | first {blanks gap text tail : List Symbol} {m : String × Json}
      {members : List (String × Json)} : Blanks blanks → Blanks gap → Spells m.2 text →
      SpellsMembers false members tail →
      SpellsMembers true (m :: members)
        (blanks ++ (symbolsOf (quote m.1) ++ .char ':' :: (gap ++ (text ++ tail))))
  | next {blanks gap text tail : List Symbol} {m : String × Json}
      {members : List (String × Json)} : Blanks blanks → Blanks gap → Spells m.2 text →
      SpellsMembers false members tail →
      SpellsMembers false (m :: members)
        (.char ',' :: (blanks ++ (symbolsOf (quote m.1) ++ .char ':' :: (gap ++ (text ++ tail)))))

end

/-- An item that may be the first may also stand behind a comma. -/
theorem SpellsItems.behindComma {v : Json} {items : List Json} {text : List Symbol}
    (h : SpellsItems true (v :: items) text) :
    SpellsItems false (v :: items) (.char ',' :: text) := by
  cases h with
  | first hblanks hv hitems => exact .next hblanks hv hitems

/-- So may a member. -/
theorem SpellsMembers.behindComma {m : String × Json} {members : List (String × Json)}
    {text : List Symbol} (h : SpellsMembers true (m :: members) text) :
    SpellsMembers false (m :: members) (.char ',' :: text) := by
  cases h with
  | first hblanks hgap hv hmembers => exact .next hblanks hgap hv hmembers

theorem blanks_nil : Blanks [] := by simp [Blanks]

/-- An item without blanks in front of it. -/
theorem SpellsItems.cons {v : Json} {items : List Json} {text tail : List Symbol}
    (hv : Spells v text) (hitems : SpellsItems false items tail) :
    SpellsItems true (v :: items) (text ++ tail) := by
  have hfirst := SpellsItems.first blanks_nil hv hitems
  rwa [List.nil_append] at hfirst

/-- A member without blanks in front of it and in it. -/
theorem SpellsMembers.cons {m : String × Json} {members : List (String × Json)}
    {text tail : List Symbol} (hv : Spells m.2 text) (hmembers : SpellsMembers false members tail) :
    SpellsMembers true (m :: members)
      (symbolsOf (quote m.1) ++ .char ':' :: (text ++ tail)) := by
  have hfirst := SpellsMembers.first blanks_nil blanks_nil hv hmembers
  rwa [List.nil_append, List.nil_append] at hfirst

/-- A new line and the blanks that indent it. -/
theorem blanks_newLine (depth : Nat) : Blanks (symbolsOf (newLine depth)) := by
  intro s hs
  simp only [newLine, symbolsOf, String.toList_append, String.toList_ofList, List.map_append,
    List.map_replicate, List.mem_append] at hs
  rcases hs with hs | hs
  · obtain rfl : s = .char '\n' := by simpa using hs
    rfl
  · rw [List.eq_of_mem_replicate hs]
    rfl

theorem symbolsOf_append (s t : String) : symbolsOf (s ++ t) = symbolsOf s ++ symbolsOf t := by
  simp [symbolsOf]

/-! ## Compact texts -/

/-- A list as symbols: the bracket in front, the items, the bracket behind. -/
theorem symbolsOf_array (items : List Json) (rest : List Symbol) :
    symbolsOf (Json.array items).render ++ rest =
      .char '[' :: (symbolsOf (renderItems items) ++ .char ']' :: rest) := by
  simp only [render, symbolsOf_append, List.append_assoc]
  rfl

/-- An object as symbols, between braces. -/
theorem symbolsOf_object (members : List (String × Json)) (rest : List Symbol) :
    symbolsOf (Json.object members).render ++ rest =
      .char '\x7b' :: (symbolsOf (renderMembers members) ++ .char '\x7d' :: rest) := by
  simp only [render, symbolsOf_append, List.append_assoc]
  rfl

/-- The first of several items has a comma behind it. -/
theorem symbolsOf_renderItems_cons (v w : Json) (ws : List Json) :
    symbolsOf (renderItems (v :: w :: ws)) =
      symbolsOf v.render ++ .char ',' :: symbolsOf (renderItems (w :: ws)) := by
  rw [renderItems, symbolsOf_append, symbolsOf_append, List.append_assoc]
  · rfl
  · simp

/-- A member is its key, a colon and its value. -/
theorem symbolsOf_member (m : String × Json) :
    symbolsOf (quote m.1 ++ ":" ++ m.2.render) =
      symbolsOf (quote m.1) ++ .char ':' :: symbolsOf m.2.render := by
  rw [symbolsOf_append, symbolsOf_append, List.append_assoc]
  rfl

/-- The first of several members has a comma behind it. -/
theorem symbolsOf_renderMembers_cons (m n : String × Json) (ns : List (String × Json)) :
    symbolsOf (renderMembers (m :: n :: ns)) =
      symbolsOf (quote m.1) ++ .char ':' ::
        (symbolsOf m.2.render ++ .char ',' :: symbolsOf (renderMembers (n :: ns))) := by
  rw [renderMembers, symbolsOf_append, symbolsOf_append, symbolsOf_member, List.append_assoc,
    List.append_assoc]
  · rfl
  · simp

mutual

/-- **Compact texts**: the compact text of a value spells it. -/
theorem spells_render (v : Json) : Spells v (symbolsOf v.render) := by
  match v with
  | .null | .bool _ | .int _ | .float _ | .string _ => exact .scalar _ rfl
  | .array items =>
    rw [← List.append_nil (symbolsOf _), symbolsOf_array]
    exact .array (spellsItems_render items)
  | .object members =>
    rw [← List.append_nil (symbolsOf _), symbolsOf_object]
    exact .object (spellsMembers_render members)

/-- The items of a list spell it from behind its bracket on. -/
theorem spellsItems_render (items : List Json) :
    SpellsItems true items (symbolsOf (renderItems items) ++ [.char ']']) := by
  match items with
  | [] => exact .nil true blanks_nil
  | [v] => exact .cons (spells_render v) (.nil false blanks_nil)
  | v :: w :: ws =>
    -- The comma belongs to the item behind it.
    rw [symbolsOf_renderItems_cons, List.append_assoc]
    exact .cons (spells_render v) (spellsItems_render (w :: ws)).behindComma

/-- The members of an object spell it from behind its brace on. -/
theorem spellsMembers_render (members : List (String × Json)) :
    SpellsMembers true members (symbolsOf (renderMembers members) ++ [.char '\x7d']) := by
  match members with
  | [] => exact .nil true blanks_nil
  | [m] =>
    rw [renderMembers, symbolsOf_member, List.append_assoc]
    exact .cons (spells_render m.2) (.nil false blanks_nil)
  | m :: n :: ns =>
    rw [symbolsOf_renderMembers_cons, List.append_assoc, List.cons_append, List.append_assoc]
    exact .cons (spells_render m.2) (spellsMembers_render (n :: ns)).behindComma

end

/-! ## Texts on several lines -/

/-- On several lines, a list ends on a line of its own. -/
theorem symbolsOf_arrayLines (depth : Nat) (v : Json) (vs : List Json) :
    symbolsOf ((Json.array (v :: vs)).renderLines depth) =
      .char '[' :: (symbolsOf (itemLines (depth + 1) (v :: vs)) ++
        (symbolsOf (newLine depth) ++ [.char ']'])) := by
  rw [renderLines, symbolsOf_append, symbolsOf_append, symbolsOf_append, List.append_assoc,
    List.append_assoc]
  · rfl
  · simp

/-- So does an object. -/
theorem symbolsOf_objectLines (depth : Nat) (m : String × Json) (ms : List (String × Json)) :
    symbolsOf ((Json.object (m :: ms)).renderLines depth) =
      .char '\x7b' :: (symbolsOf (memberLines (depth + 1) (m :: ms)) ++
        (symbolsOf (newLine depth) ++ [.char '\x7d'])) := by
  rw [renderLines, symbolsOf_append, symbolsOf_append, symbolsOf_append, List.append_assoc,
    List.append_assoc]
  · rfl
  · simp

/-- Every item stands on a line of its own. -/
theorem symbolsOf_itemLines_cons (depth : Nat) (v w : Json) (ws : List Json) :
    symbolsOf (itemLines depth (v :: w :: ws)) =
      symbolsOf (newLine depth) ++ (symbolsOf (v.renderLines depth) ++
        .char ',' :: symbolsOf (itemLines depth (w :: ws))) := by
  rw [itemLines, symbolsOf_append, symbolsOf_append, symbolsOf_append, List.append_assoc,
    List.append_assoc]
  · rfl
  · simp

/-- There is a blank between the colon and the value. -/
theorem symbolsOf_memberLine (depth : Nat) (m : String × Json) :
    symbolsOf (newLine depth ++ quote m.1 ++ ": " ++ m.2.renderLines depth) =
      symbolsOf (newLine depth) ++ (symbolsOf (quote m.1) ++
        .char ':' :: ([.char ' '] ++ symbolsOf (m.2.renderLines depth))) := by
  rw [symbolsOf_append, symbolsOf_append, symbolsOf_append, List.append_assoc, List.append_assoc]
  rfl

/-- Every member stands on a line of its own. -/
theorem symbolsOf_memberLines_cons (depth : Nat) (m n : String × Json)
    (ns : List (String × Json)) :
    symbolsOf (memberLines depth (m :: n :: ns)) =
      symbolsOf (newLine depth) ++ (symbolsOf (quote m.1) ++ .char ':' ::
        ([.char ' '] ++ (symbolsOf (m.2.renderLines depth) ++
          .char ',' :: symbolsOf (memberLines depth (n :: ns))))) := by
  rw [memberLines, symbolsOf_append, symbolsOf_append, symbolsOf_memberLine]
  · simp only [List.append_assoc, List.cons_append]
    rfl
  · simp

/-- A single blank. -/
theorem blanks_space : Blanks [.char ' '] := by
  intro s hs
  rw [List.mem_singleton.1 hs]
  rfl

mutual

/-- **Texts on several lines**: a text with one item or member on a line spells its value, however
far it is indented. -/
theorem spells_renderLines (depth : Nat) (v : Json) :
    Spells v (symbolsOf (v.renderLines depth)) := by
  -- A list or an object without members has no lines inside; the others are spelled line by line.
  match v with
  | .null | .bool _ | .int _ | .float _ | .string _ => exact .scalar _ rfl
  | .array [] =>
    rw [renderLines]
    exact .array (.nil true blanks_nil)
  | .array (v :: vs) =>
    rw [symbolsOf_arrayLines]
    exact .array (spellsItems_lines (depth + 1) (blanks_newLine depth) (v :: vs) (by simp))
  | .object [] =>
    rw [renderLines]
    exact .object (.nil true blanks_nil)
  | .object (m :: ms) =>
    rw [symbolsOf_objectLines]
    exact .object (spellsMembers_lines (depth + 1) (blanks_newLine depth) (m :: ms) (by simp))

/-- The items of a list on lines of their own, with blanks in front of the bracket that ends it. -/
theorem spellsItems_lines (depth : Nat) {blanks : List Symbol} (hblanks : Blanks blanks)
    (items : List Json) (hne : items ≠ []) :
    SpellsItems true items (symbolsOf (itemLines depth items) ++ (blanks ++ [.char ']'])) := by
  -- The last item stands before the closing bracket, and any other one before a comma.
  match items with
  | [] => exact absurd rfl hne
  | [v] =>
    rw [itemLines, symbolsOf_append, List.append_assoc]
    exact .first (blanks_newLine depth) (spells_renderLines depth v) (.nil false hblanks)
  | v :: w :: ws =>
    have hitems := (spellsItems_lines depth hblanks (w :: ws) (by simp)).behindComma
    rw [symbolsOf_itemLines_cons, List.append_assoc, List.append_assoc]
    exact .first (blanks_newLine depth) (spells_renderLines depth v) hitems

/-- The members of an object on lines of their own. -/
theorem spellsMembers_lines (depth : Nat) {blanks : List Symbol} (hblanks : Blanks blanks)
    (members : List (String × Json)) (hne : members ≠ []) :
    SpellsMembers true members
      (symbolsOf (memberLines depth members) ++ (blanks ++ [.char '\x7d'])) := by
  -- As for items, with a key and a colon before each value.
  match members with
  | [] => exact absurd rfl hne
  | [m] =>
    have hlast := SpellsMembers.first (blanks_newLine depth) blanks_space
      (spells_renderLines depth m.2) (.nil false hblanks)
    rw [memberLines, symbolsOf_memberLine]
    simpa only [List.append_assoc, List.cons_append] using hlast
  | m :: n :: ns =>
    have hmembers := SpellsMembers.first (blanks_newLine depth) blanks_space
      (spells_renderLines depth m.2)
      (spellsMembers_lines depth hblanks (n :: ns) (by simp)).behindComma
    rw [symbolsOf_memberLines_cons]
    simpa only [List.append_assoc, List.cons_append] using hmembers

end

theorem spells_pretty (v : Json) : Spells v (symbolsOf v.pretty) := spells_renderLines 0 v

end ChangeFeed.Json

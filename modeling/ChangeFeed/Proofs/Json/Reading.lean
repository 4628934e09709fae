import ChangeFeed.Proofs.Json.Spelling

/-!
# JSON: Reading what was written

A text that spells a value is read into a document that denotes the value. Floating-point numbers
are left out: reading one rounds more than once.

## Main results

* `readsValue_of_spells`: the text of a value is read up to its end, with enough fuel and depth.
* `readDocument_of_spells`: a whole text is read, and nothing is left behind.
-/

namespace ChangeFeed.Json

/-! ## Documents of values -/

mutual

/-- A document that denotes a value, wherever the parts of its text lie. -/
inductive Denotes : Doc → Json → Prop where
  | leaf (value : Json) (start behind : Nat) : value.isPrimitive = true →
      Denotes (.leaf value start behind) value
  | array {items : List (Nat × Nat × Doc)} {values : List Json} (opening first behind : Nat) :
      DenotesItems items values →
      Denotes (.array none opening first items (.closed behind)) (.array values)
  | object {members : List (Except Fault String × Nat × Nat × Doc)}
      {values : List (String × Json)} (opening first behind : Nat) :
      DenotesMembers members values →
      Denotes (.object none opening first members (.closed behind)) (.object values)

/-- Items that denote values, one by one. -/
inductive DenotesItems : List (Nat × Nat × Doc) → List Json → Prop where
  | nil : DenotesItems [] []
  | cons {doc : Doc} {v : Json} {items : List (Nat × Nat × Doc)} {vs : List Json}
      (start after : Nat) : Denotes doc v → DenotesItems items vs →
      DenotesItems ((start, after, doc) :: items) (v :: vs)

/-- Members that denote the members of an object, one by one. -/
inductive DenotesMembers :
    List (Except Fault String × Nat × Nat × Doc) → List (String × Json) → Prop where
  | nil : DenotesMembers [] []
  | cons {doc : Doc} {v : Json} {members : List (Except Fault String × Nat × Nat × Doc)}
      {vs : List (String × Json)} (key : String) (atKey after : Nat) : Denotes doc v →
      DenotesMembers members vs →
      DenotesMembers ((.ok key, atKey, after, doc) :: members) ((key, v) :: vs)

end

/-! ## Values that are read back -/

mutual

/-- The value holds no floating-point number, and its integers have 64 bits. -/
def Exact : Json → Prop
  | .int n => -(Nat.pow 2 63 : Int) ≤ n ∧ n < (UInt64.size : Int)
  | .float _ => False
  | .array items => ExactItems items
  | .object members => ExactMembers members
  | _ => True

/-- Every value of a list is exact. -/
def ExactItems : List Json → Prop
  | [] => True
  | v :: vs => v.Exact ∧ ExactItems vs

/-- Every value of a list of members is exact. -/
def ExactMembers : List (String × Json) → Prop
  | [] => True
  | m :: ms => m.2.Exact ∧ ExactMembers ms

end

mutual

/-- How deeply arrays and objects are nested in the value. -/
def levels : Json → Nat
  | .array items => itemLevels items + 1
  | .object members => memberLevels members + 1
  | _ => 0

/-- How deeply arrays and objects are nested in items. -/
def itemLevels : List Json → Nat
  | [] => 0
  | v :: vs => max v.levels (itemLevels vs)

/-- How deeply arrays and objects are nested in members. -/
def memberLevels : List (String × Json) → Nat
  | [] => 0
  | m :: ms => max m.2.levels (memberLevels ms)

end

mutual

/-- The steps that reading the value takes. -/
def steps : Json → Nat
  | .array items => itemSteps items + 1
  | .object members => memberSteps members + 1
  | _ => 1

/-- The steps that reading items takes. -/
def itemSteps : List Json → Nat
  | [] => 1
  | v :: vs => v.steps + itemSteps vs + 1

/-- The steps that reading members takes. -/
def memberSteps : List (String × Json) → Nat
  | [] => 1
  | m :: ms => m.2.steps + memberSteps ms + 1

end

/-! ## The first character of a value -/

/-- A value can begin with the character. -/
def opensValue (c : Char) : Bool := c ∈ ['n', 't', 'f', '-', '"', '[', '\x7b'] || c.isDigit

theorem opensValue_of_isDigit {c : Char} (h : c.isDigit = true) : opensValue c = true := by
  simp [opensValue, h]

/-- A character that opens a value is none that does not. -/
theorem ne_of_opensValue {c d : Char} (h : opensValue c = true) (hd : opensValue d = false) :
    c ≠ d := by
  rintro rfl
  rw [h] at hd
  cases hd

/-- A natural number is written as its digits. -/
theorem toString_ofNat (n : Nat) :
    symbolsOf (toString (Int.ofNat n)) = symbolsOfChars (Nat.toDigits 10 n) := by
  rw [symbolsOf_eq]
  congr 1
  exact Nat.toList_repr

/-- A negative number is written as a sign in front of its digits. -/
theorem toString_negSucc (n : Nat) :
    symbolsOf (toString (Int.negSucc n)) =
      .char '-' :: symbolsOfChars (Nat.toDigits 10 (n + 1)) := by
  have htext : toString (Int.negSucc n) = "-" ++ Nat.repr (n + 1) := rfl
  rw [htext, symbolsOf_append, symbolsOf_eq (Nat.repr _), Nat.toList_repr]
  rfl

/-- A number has a first digit. -/
theorem toDigits_eq_cons (n : Nat) :
    ∃ d ds, Nat.toDigits 10 n = d :: ds ∧ d.isDigit = true := by
  obtain ⟨d, ds, hdigits⟩ := List.exists_cons_of_ne_nil (Nat.toDigits_ne_nil (n := n) (b := 10))
  refine ⟨d, ds, hdigits, ?_⟩
  exact Nat.isDigit_of_mem_toDigits (by decide) (by decide) (hdigits ▸ List.mem_cons_self)

/-- What spells a value begins with one of those characters. -/
theorem Spells.head {v : Json} {text : List Symbol} (h : Spells v text) (hexact : v.Exact) :
    ∃ c more, text = .char c :: more ∧ opensValue c = true := by
  -- Every value but a whole number has a first symbol of its own; a number begins with a digit or a
  -- sign.
  cases h with
  | array => exact ⟨'[', _, rfl, rfl⟩
  | object => exact ⟨'\x7b', _, rfl, rfl⟩
  | scalar _ hprimitive =>
    cases v with
    | null => exact ⟨'n', _, rfl, rfl⟩
    | bool b => cases b with
      | true => exact ⟨'t', _, rfl, rfl⟩
      | false => exact ⟨'f', _, rfl, rfl⟩
    | int n =>
      simp only [render]
      cases n with
      | ofNat n =>
        obtain ⟨d, ds, hdigits, hd⟩ := toDigits_eq_cons n
        rw [toString_ofNat, hdigits]
        exact ⟨d, _, rfl, opensValue_of_isDigit hd⟩
      | negSucc n =>
        rw [toString_negSucc]
        exact ⟨'-', _, rfl, rfl⟩
    | float x => exact absurd hexact (by simp [Exact])
    | string s =>
      have hquote := symbolsOf_quote s []
      rw [List.append_nil] at hquote
      exact ⟨'"', _, hquote, rfl⟩
    | array _ | object _ => cases hprimitive

/-! ## Steps of the reader -/

/-- What is not blank is not passed over. -/
theorem skipBlanks_char {c : Char} (h : Cursor.isBlank (.char c) = false) (place : Nat)
    (more : List Symbol) :
    Cursor.skipBlanks ⟨place, .char c :: more⟩ = ⟨place, .char c :: more⟩ := by
  simp [Cursor.skipBlanks, Cursor.pastBlanks, h]

/-- No blank opens a value. -/
theorem isBlank_of_opensValue {c : Char} (h : opensValue c = true) :
    Cursor.isBlank (.char c) = false := by
  simp [Cursor.isBlank, ne_of_opensValue h (d := ' ') rfl, ne_of_opensValue h (d := '\n') rfl,
    ne_of_opensValue h (d := '\t') rfl, ne_of_opensValue h (d := '\r') rfl]

/-- Blanks are passed over, up to the first character that is none. -/
theorem skipBlanks_blanks {blanks : List Symbol} (hblanks : Blanks blanks) {c : Char}
    (hc : Cursor.isBlank (.char c) = false) (place : Nat) (more : List Symbol) :
    ∃ start, Cursor.skipBlanks ⟨place, blanks ++ .char c :: more⟩ = ⟨start, .char c :: more⟩ := by
  -- Each blank is passed over, and the place moves on by its size.
  induction blanks generalizing place with
  | nil => exact ⟨place, skipBlanks_char hc place more⟩
  | cons s blanks ih =>
    obtain ⟨hs, hblanks⟩ := List.forall_mem_cons.1 hblanks
    obtain ⟨start, hstart⟩ := ih hblanks (place + s.size)
    refine ⟨start, ?_⟩
    rw [← hstart]
    simp [Cursor.skipBlanks, Cursor.pastBlanks, hs]

/-- The value that stands for nothing is read from its word. -/
theorem value_null (depth fuel place : Nat) (rest : List Symbol) :
    value depth (fuel + 1) ⟨place, symbolsOf "null" ++ rest⟩ =
      (.leaf .null place (place + 1 + 1 + 1 + 1), some ⟨place + 1 + 1 + 1 + 1, rest⟩) := rfl

/-- So are the two truth values. -/
theorem value_true (depth fuel place : Nat) (rest : List Symbol) :
    value depth (fuel + 1) ⟨place, symbolsOf "true" ++ rest⟩ =
      (.leaf (.bool true) place (place + 1 + 1 + 1 + 1), some ⟨place + 1 + 1 + 1 + 1, rest⟩) := rfl

theorem value_false (depth fuel place : Nat) (rest : List Symbol) :
    value depth (fuel + 1) ⟨place, symbolsOf "false" ++ rest⟩ =
      (.leaf (.bool false) place (place + 1 + 1 + 1 + 1 + 1),
        some ⟨place + 1 + 1 + 1 + 1 + 1, rest⟩) := rfl

/-- A number without a sign is recognized by its first digit. -/
theorem value_digit {d : Char} (h : d.isDigit = true) (depth fuel place : Nat)
    (more : List Symbol) :
    value depth (fuel + 1) ⟨place, .char d :: more⟩ =
      number false place ⟨place, .char d :: more⟩ := by
  -- A digit is none of the characters that open another value.
  have hne : d ≠ 'n' ∧ d ≠ 't' ∧ d ≠ 'f' ∧ d ≠ '-' ∧ d ≠ '"' ∧ d ≠ '[' ∧ d ≠ '\x7b' := by
    refine ⟨?_, ?_, ?_, ?_, ?_, ?_, ?_⟩ <;> (rintro rfl; revert h; decide)
  obtain ⟨hn, ht, hf, hminus, hquote, hbracket, hbrace⟩ := hne
  have hblank := isBlank_of_opensValue (opensValue_of_isDigit h)
  rw [value, skipBlanks_char hblank]
  simp [hn, ht, hf, hminus, hquote, hbracket, hbrace, digit?_char h]

/-- An integer within the bounds is read as itself. -/
theorem value_int {n : Int} (h : (Json.int n).Exact) (depth fuel place : Nat) {rest : List Symbol}
    (hrest : EndsNumber rest) :
    ∃ behind, value depth (fuel + 1) ⟨place, symbolsOf (toString n) ++ rest⟩ =
      (.leaf (.int n) place behind, some ⟨behind, rest⟩) := by
  simp only [Exact] at h
  cases n with
  | ofNat n =>
    have hbound : n ≤ Numeral.maxSignificand := by
      have htop : Numeral.maxSignificand = 18446744073709551615 := by decide
      have hn : (n : Int) < 2 ^ 64 := h.2
      rw [htop]
      omega
    -- The first digit tells the reader that this is a number without a sign.
    obtain ⟨d, ds, hdigits, hd⟩ := toDigits_eq_cons n
    obtain ⟨behind, hnumeral⟩ := numeral_toDigits false n place hrest
    refine ⟨behind, ?_⟩
    rw [toString_ofNat, hdigits, symbolsOfChars_cons, List.cons_append, value_digit hd]
    rw [hdigits, symbolsOfChars_cons, List.cons_append] at hnumeral
    simp only [number, hnumeral, Numeral.value?, int?_ofNat hbound]
    rfl
  | negSucc n =>
    have hbound : n + 1 ≤ Nat.pow 2 63 := by
      have htop : Nat.pow 2 63 = 9223372036854775808 := by decide
      rw [htop]
      omega
    obtain ⟨behind, hnumeral⟩ := numeral_toDigits true (n + 1) (place + 1) hrest
    refine ⟨behind, ?_⟩
    -- The sign tells it, too, and is not a part of the numeral.
    have hvalue : value depth (fuel + 1)
        ⟨place, .char '-' :: (symbolsOfChars (Nat.toDigits 10 (n + 1)) ++ rest)⟩ =
          number true place ⟨place + 1, symbolsOfChars (Nat.toDigits 10 (n + 1)) ++ rest⟩ := rfl
    rw [toString_negSucc, List.cons_append, hvalue]
    simp only [number, hnumeral, Numeral.value?, int?_ofNat_negative (Nat.succ_pos n) hbound]
    rfl

/-- A string is read as itself, whatever is escaped in it. -/
theorem value_quote (s : String) (depth fuel place : Nat) (rest : List Symbol) :
    ∃ behind, value depth (fuel + 1) ⟨place, symbolsOf (quote s) ++ rest⟩ =
      (.leaf (.string s) place behind, some ⟨behind, rest⟩) := by
  obtain ⟨behind, hbody⟩ := textBody_quote s (place + 1) rest
  refine ⟨behind, ?_⟩
  have hvalue : value depth (fuel + 1) ⟨place, symbolsOf (quote s) ++ rest⟩ =
      textValue ⟨place, symbolsOf (quote s) ++ rest⟩ := by
    rw [symbolsOf_quote]
    rfl
  rw [hvalue]
  simp only [textValue, hbody, text_of_toList]

/-! ### Items -/

/-- Whatever the place is, a value is read from the text, up to `rest`. -/
def ReadsValue (depth fuel : Nat) (v : Json) (text rest : List Symbol) : Prop :=
  ∀ place, ∃ doc behind, value depth fuel ⟨place, text⟩ = (doc, some ⟨behind, rest⟩) ∧ Denotes doc v

/-- Whatever the place is, items are read from the text, up to `rest` behind their bracket. -/
def ReadsItems (depth fuel : Nat) (first : Bool) (vs : List Json) (text rest : List Symbol) :
    Prop :=
  ∀ place, ∃ parts closed behind,
    items depth fuel first ⟨place, text⟩ = (parts, .closed closed, some ⟨behind, rest⟩) ∧
      DenotesItems parts vs

/-- Whatever the place is, members are read from the text, up to `rest` behind their brace. -/
def ReadsMembers (depth fuel : Nat) (first : Bool) (ms : List (String × Json))
    (text rest : List Symbol) : Prop :=
  ∀ place, ∃ parts closed behind,
    members depth fuel first ⟨place, text⟩ = (parts, .closed closed, some ⟨behind, rest⟩) ∧
      DenotesMembers parts ms

variable {depth fuel : Nat} {c : Char} {v : Json} {more tail rest : List Symbol}

/-- A value is read behind blanks, too. -/
theorem ReadsValue.behindBlanks {blanks : List Symbol} (hblanks : Blanks blanks)
    (hopens : opensValue c = true) (hv : ReadsValue depth fuel v (.char c :: more) rest) :
    ReadsValue depth fuel v (blanks ++ .char c :: more) rest := by
  -- Where a value begins the blanks are over, so that skipping them again does nothing.
  intro place
  have hc := isBlank_of_opensValue hopens
  obtain ⟨start, hstart⟩ := skipBlanks_blanks hblanks hc place more
  obtain ⟨doc, behind, hdoc, hdenotes⟩ := hv start
  refine ⟨doc, behind, ?_, hdenotes⟩
  cases fuel with
  | zero => simp [value] at hdoc
  | succ fuel =>
    rw [← hdoc, value, value, hstart, skipBlanks_char hc]

/-- A list ends at its bracket, with blanks in front. -/
theorem readsItems_end (depth fuel : Nat) (first : Bool) {blanks : List Symbol}
    (hblanks : Blanks blanks) (rest : List Symbol) :
    ReadsItems depth (fuel + 1) first [] (blanks ++ .char ']' :: rest) rest := by
  intro place
  obtain ⟨start, hstart⟩ := skipBlanks_blanks hblanks (c := ']') rfl place rest
  refine ⟨[], start + 1, start + 1, ?_, .nil⟩
  rw [items, hstart]
  rfl

/-- The first item may have blanks in front of it. -/
theorem readsItems_first {vs : List Json} {blanks : List Symbol} (hblanks : Blanks blanks)
    (hopens : opensValue c = true) (hv : ReadsValue depth fuel v (.char c :: more) tail)
    (hvs : ReadsItems depth fuel false vs tail rest) :
    ReadsItems depth (fuel + 1) true (v :: vs) (blanks ++ .char c :: more) rest := by
  intro place
  obtain ⟨start, hstart⟩ := skipBlanks_blanks hblanks (isBlank_of_opensValue hopens) place more
  obtain ⟨doc, after, hdoc, hdenotes⟩ := hv start
  obtain ⟨parts, closed, behind, hparts, hrest⟩ := hvs after
  refine ⟨_, closed, behind, ?_, .cons start (Cursor.leaveArray ⟨after, tail⟩) hdenotes hrest⟩
  -- What opens a value is neither the bracket nor a comma.
  rw [items, hstart]
  simp [ne_of_opensValue hopens (d := ']') rfl, ne_of_opensValue hopens (d := ',') rfl, hdoc,
    hparts]

/-- A later item has a comma in front of it. -/
theorem readsItems_next {vs : List Json} {blanks : List Symbol} (hblanks : Blanks blanks)
    (hopens : opensValue c = true) (hv : ReadsValue depth fuel v (.char c :: more) tail)
    (hvs : ReadsItems depth fuel false vs tail rest) :
    ReadsItems depth (fuel + 1) false (v :: vs) (.char ',' :: (blanks ++ .char c :: more))
      rest := by
  -- The comma is passed over with the blanks behind it, and what follows it is not the end of the
  -- list.
  intro place
  obtain ⟨start, hstart⟩ :=
    skipBlanks_blanks hblanks (isBlank_of_opensValue hopens) (place + 1) more
  obtain ⟨doc, after, hdoc, hdenotes⟩ := hv start
  obtain ⟨parts, closed, behind, hparts, hrest⟩ := hvs after
  refine ⟨_, closed, behind, ?_, .cons start (Cursor.leaveArray ⟨after, tail⟩) hdenotes hrest⟩
  have hskip (text : List Symbol) : Cursor.skip ⟨place, .char ',' :: text⟩ = ⟨place + 1, text⟩ :=
    rfl
  rw [items, skipBlanks_char (c := ',') rfl]
  simp only [hskip, hstart, Bool.false_eq_true, if_false]
  simp [ne_of_opensValue hopens (d := ']') rfl, hdoc, hparts]

/-! ### Members -/

/-- A key is found behind blanks, and read up to its quote. -/
theorem skipBlanks_quote {blanks : List Symbol} (hblanks : Blanks blanks) (key : String)
    (place : Nat) (rest : List Symbol) :
    ∃ start body colon,
      Cursor.skipBlanks ⟨place, blanks ++ (symbolsOf (quote key) ++ rest)⟩ =
        ⟨start, .char '"' :: body⟩ ∧
      textBody (start + 1) body = .ok ⟨key.toList, none, false, ⟨colon, rest⟩⟩ := by
  rw [symbolsOf_quote]
  obtain ⟨start, hstart⟩ := skipBlanks_blanks hblanks (c := '"') rfl place
    (symbolsOfChars (key.toList.flatMap escapeChar) ++ .char '"' :: rest)
  obtain ⟨colon, hbody⟩ := textBody_escaped key.toList (start + 1) rest
  exact ⟨start, _, colon, hstart, hbody⟩

/-- An object ends at its brace, with blanks in front. -/
theorem readsMembers_end (depth fuel : Nat) (first : Bool) {blanks : List Symbol}
    (hblanks : Blanks blanks) (rest : List Symbol) :
    ReadsMembers depth (fuel + 1) first [] (blanks ++ .char '\x7d' :: rest) rest := by
  intro place
  obtain ⟨start, hstart⟩ := skipBlanks_blanks hblanks (c := '\x7d') rfl place rest
  refine ⟨[], start + 1, start + 1, ?_, .nil⟩
  rw [members, hstart]
  rfl

/-- The first member: its key, a colon and its value. -/
theorem readsMembers_first {ms : List (String × Json)} {blanks : List Symbol}
    (hblanks : Blanks blanks) (key : String) (hv : ReadsValue depth fuel v more tail)
    (hms : ReadsMembers depth fuel false ms tail rest) :
    ReadsMembers depth (fuel + 1) true ((key, v) :: ms)
      (blanks ++ (symbolsOf (quote key) ++ .char ':' :: more)) rest := by
  -- The key is read up to its colon, the value behind that, and then whatever members are left.
  intro place
  obtain ⟨start, body, colon, hstart, hbody⟩ :=
    skipBlanks_quote hblanks key place (.char ':' :: more)
  obtain ⟨doc, after, hdoc, hdenotes⟩ := hv (colon + 1)
  obtain ⟨parts, closed, behind, hparts, hrest⟩ := hms after
  refine ⟨_, closed, behind, ?_, .cons key (Cursor.leaveObject ⟨colon, .char ':' :: more⟩)
    (Cursor.leaveObject ⟨after, tail⟩) hdenotes hrest⟩
  have hskip : Cursor.skip ⟨colon, .char ':' :: more⟩ = ⟨colon + 1, more⟩ := rfl
  rw [members, hstart]
  simp only [List.drop_one, List.tail_cons, hbody, skipBlanks_char (c := ':') rfl, hskip, hdoc,
    hparts, text_of_toList, if_true]

/-- A later member has a comma in front of it. -/
theorem readsMembers_next {ms : List (String × Json)} {blanks : List Symbol}
    (hblanks : Blanks blanks) (key : String) (hv : ReadsValue depth fuel v more tail)
    (hms : ReadsMembers depth fuel false ms tail rest) :
    ReadsMembers depth (fuel + 1) false ((key, v) :: ms)
      (.char ',' :: (blanks ++ (symbolsOf (quote key) ++ .char ':' :: more))) rest := by
  intro place
  obtain ⟨start, body, colon, hstart, hbody⟩ :=
    skipBlanks_quote hblanks key (place + 1) (.char ':' :: more)
  obtain ⟨doc, after, hdoc, hdenotes⟩ := hv (colon + 1)
  obtain ⟨parts, closed, behind, hparts, hrest⟩ := hms after
  refine ⟨_, closed, behind, ?_, .cons key (Cursor.leaveObject ⟨colon, .char ':' :: more⟩)
    (Cursor.leaveObject ⟨after, tail⟩) hdenotes hrest⟩
  have hskip : Cursor.skip ⟨colon, .char ':' :: more⟩ = ⟨colon + 1, more⟩ := rfl
  -- Behind the comma, a member is read as the first one is.
  have hcomma (text : List Symbol) : Cursor.skip ⟨place, .char ',' :: text⟩ = ⟨place + 1, text⟩ :=
    rfl
  rw [members, skipBlanks_char (c := ',') rfl]
  simp only [hcomma, hstart, List.drop_one, List.tail_cons, hbody, skipBlanks_char (c := ':') rfl,
    hskip, hdoc, hparts, text_of_toList, Bool.false_eq_true, if_false]

/-! ### Arrays and objects -/

theorem depthFault_none (h : 1 < depth) (place : Nat) : depthFault depth place = none := by
  rw [depthFault, if_neg (Nat.not_le_of_lt h)]

/-- A list is read one level below the value that it is. -/
theorem readsValue_array {vs : List Json} {text : List Symbol} (hdepth : 1 < depth)
    (hvs : ReadsItems (depth - 1) fuel true vs text rest) :
    ReadsValue depth (fuel + 1) (.array vs) (.char '[' :: text) rest := by
  intro place
  obtain ⟨parts, closed, behind, hparts, hdenotes⟩ := hvs (place + 1)
  refine ⟨_, behind, ?_, .array place (Cursor.leaveArray ⟨place + 1, text⟩) closed hdenotes⟩
  have hskip : Cursor.skip ⟨place, .char '[' :: text⟩ = ⟨place + 1, text⟩ := rfl
  rw [value, skipBlanks_char (c := '[') rfl]
  simp only [hskip, hparts, depthFault_none hdepth]

/-- So is an object. -/
theorem readsValue_object {ms : List (String × Json)} {text : List Symbol} (hdepth : 1 < depth)
    (hms : ReadsMembers (depth - 1) fuel true ms text rest) :
    ReadsValue depth (fuel + 1) (.object ms) (.char '\x7b' :: text) rest := by
  intro place
  obtain ⟨parts, closed, behind, hparts, hdenotes⟩ := hms (place + 1)
  refine ⟨_, behind, ?_, .object place (Cursor.leaveObject ⟨place + 1, text⟩) closed hdenotes⟩
  have hskip : Cursor.skip ⟨place, .char '\x7b' :: text⟩ = ⟨place + 1, text⟩ := rfl
  rw [value, skipBlanks_char (c := '\x7b') rfl]
  simp only [hskip, hparts, depthFault_none hdepth]

/-! ## Whole values -/

/-- Blanks end a number as well as what stands behind them. -/
theorem endsNumber_blanks {blanks text : List Symbol} (hblanks : Blanks blanks)
    (htext : EndsNumber text) : EndsNumber (blanks ++ text) := by
  cases blanks with
  | nil => exact htext
  | cons s blanks =>
    have hs : Cursor.isBlank s = true := hblanks s List.mem_cons_self
    simp only [Cursor.isBlank, Bool.or_eq_true, decide_eq_true_eq] at hs
    rcases hs with ((rfl | rfl) | rfl) | rfl <;>
      exact endsNumber_cons _ rfl (by decide) (by decide) (by decide)

/-- A number ends where items go on. -/
theorem SpellsItems.endsNumber {vs : List Json} {text : List Symbol}
    (h : SpellsItems false vs text) (rest : List Symbol) : EndsNumber (text ++ rest) := by
  cases h with
  | nil _ hblanks =>
    rw [List.append_assoc]
    exact endsNumber_blanks hblanks
      (endsNumber_cons rest rfl (by decide) (by decide) (by decide))
  | next => exact endsNumber_cons _ rfl (by decide) (by decide) (by decide)

/-- A number ends where members go on. -/
theorem SpellsMembers.endsNumber {ms : List (String × Json)} {text : List Symbol}
    (h : SpellsMembers false ms text) (rest : List Symbol) : EndsNumber (text ++ rest) := by
  cases h with
  | nil _ hblanks =>
    rw [List.append_assoc]
    exact endsNumber_blanks hblanks
      (endsNumber_cons rest rfl (by decide) (by decide) (by decide))
  | next => exact endsNumber_cons _ rfl (by decide) (by decide) (by decide)

/-- Values without parts are read in one step. -/
theorem readsValue_scalar (hprimitive : v.isPrimitive = true) (hexact : v.Exact)
    (depth fuel : Nat) (hrest : EndsNumber rest) :
    ReadsValue depth (fuel + 1) v (symbolsOf v.render ++ rest) rest := by
  -- A scalar is read as a leaf; how far it goes is only a question for numbers.
  intro place
  cases v with
  | null => exact ⟨_, _, value_null depth fuel place rest, .leaf .null _ _ rfl⟩
  | bool b => cases b with
    | true => exact ⟨_, _, value_true depth fuel place rest, .leaf (.bool true) _ _ rfl⟩
    | false => exact ⟨_, _, value_false depth fuel place rest, .leaf (.bool false) _ _ rfl⟩
  | int n =>
    obtain ⟨behind, hvalue⟩ := value_int hexact depth fuel place hrest
    exact ⟨_, behind, hvalue, .leaf (.int n) place behind rfl⟩
  | float x => exact absurd hexact (by simp [Exact])
  | string s =>
    obtain ⟨behind, hvalue⟩ := value_quote s depth fuel place rest
    exact ⟨_, behind, hvalue, .leaf (.string s) place behind rfl⟩
  | array _ | object _ => cases hprimitive

theorem steps_pos (v : Json) : 0 < v.steps := by
  cases v <;> simp [steps]

mutual

/-- **Reading back**: a text that spells a value is read into a document that denotes it. -/
theorem readsValue_of_spells (v : Json) {text rest : List Symbol} (h : Spells v text)
    (depth fuel : Nat) (hexact : v.Exact) (hdepth : v.levels < depth) (hfuel : v.steps ≤ fuel)
    (hrest : EndsNumber rest) : ReadsValue depth fuel v (text ++ rest) rest := by
  obtain ⟨fuel, rfl⟩ : ∃ n, fuel = n + 1 := ⟨fuel - 1, by have := steps_pos v; omega⟩
  match v, h with
  | v, .scalar _ hprimitive => exact readsValue_scalar hprimitive hexact depth fuel hrest
  | .array vs, .array hvs =>
    simp only [Exact, levels, steps] at hexact hdepth hfuel
    -- One level and one unit of fuel go to the array, the rest to its items.
    exact readsValue_array (by omega)
      (readsItems_of_spells vs hvs _ _ hexact (by omega) (by omega) rest)
  | .object ms, .object hms =>
    simp only [Exact, levels, steps] at hexact hdepth hfuel
    exact readsValue_object (by omega)
      (readsMembers_of_spells ms hms _ _ hexact (by omega) (by omega) rest)

/-- The items of an array are read up to its bracket. -/
theorem readsItems_of_spells (vs : List Json) {first : Bool} {text : List Symbol}
    (h : SpellsItems first vs text) (depth fuel : Nat) (hexact : ExactItems vs)
    (hdepth : itemLevels vs < depth) (hfuel : itemSteps vs ≤ fuel) (rest : List Symbol) :
    ReadsItems depth fuel first vs (text ++ rest) rest := by
  match vs, h with
  | [], .nil first hblanks =>
    obtain ⟨fuel, rfl⟩ := Nat.exists_eq_succ_of_ne_zero (Nat.ne_of_gt hfuel)
    rw [List.append_assoc]
    exact readsItems_end depth fuel first hblanks rest
  | v :: vs, .first hblanks hv hvs =>
    simp only [ExactItems, itemLevels, itemSteps] at hexact hdepth hfuel
    obtain ⟨fuel, rfl⟩ : ∃ n, fuel = n + 1 := ⟨fuel - 1, by omega⟩
    have hvalue := readsValue_of_spells v hv depth fuel hexact.1 (by omega) (by omega)
      (hvs.endsNumber rest)
    have hitems := readsItems_of_spells vs hvs depth fuel hexact.2 (by omega) (by omega) rest
    -- The reader looks at the first character of an item before it reads the item.
    obtain ⟨c, more, hhead, hopens⟩ := hv.head hexact.1
    rw [List.append_assoc, List.append_assoc]
    rw [hhead] at hvalue ⊢
    exact readsItems_first hblanks hopens hvalue hitems
  | v :: vs, .next hblanks hv hvs =>
    simp only [ExactItems, itemLevels, itemSteps] at hexact hdepth hfuel
    obtain ⟨fuel, rfl⟩ : ∃ n, fuel = n + 1 := ⟨fuel - 1, by omega⟩
    have hvalue := readsValue_of_spells v hv depth fuel hexact.1 (by omega) (by omega)
      (hvs.endsNumber rest)
    have hitems := readsItems_of_spells vs hvs depth fuel hexact.2 (by omega) (by omega) rest
    obtain ⟨c, more, hhead, hopens⟩ := hv.head hexact.1
    rw [List.cons_append, List.append_assoc, List.append_assoc]
    rw [hhead] at hvalue ⊢
    exact readsItems_next hblanks hopens hvalue hitems

/-- The members of an object are read up to its brace. -/
theorem readsMembers_of_spells (ms : List (String × Json)) {first : Bool} {text : List Symbol}
    (h : SpellsMembers first ms text) (depth fuel : Nat) (hexact : ExactMembers ms)
    (hdepth : memberLevels ms < depth) (hfuel : memberSteps ms ≤ fuel) (rest : List Symbol) :
    ReadsMembers depth fuel first ms (text ++ rest) rest := by
  match ms, h with
  | [], .nil first hblanks =>
    obtain ⟨fuel, rfl⟩ := Nat.exists_eq_succ_of_ne_zero (Nat.ne_of_gt hfuel)
    rw [List.append_assoc]
    exact readsMembers_end depth fuel first hblanks rest
  | (key, v) :: ms, .first hblanks hgap hv hms =>
    -- One step is spent on the member itself; the levels below are enough for its value and for the
    -- rest.
    simp only [ExactMembers, memberLevels, memberSteps] at hexact hdepth hfuel
    obtain ⟨fuel, rfl⟩ : ∃ n, fuel = n + 1 := ⟨fuel - 1, by omega⟩
    have hvalue := readsValue_of_spells v hv depth fuel hexact.1 (by omega) (by omega)
      (hms.endsNumber rest)
    have hmembers := readsMembers_of_spells ms hms depth fuel hexact.2 (by omega) (by omega) rest
    obtain ⟨c, more, hhead, hopens⟩ := hv.head hexact.1
    simp only [List.append_assoc, List.cons_append]
    rw [hhead] at hvalue ⊢
    exact readsMembers_first hblanks key (hvalue.behindBlanks hgap hopens) hmembers
  | (key, v) :: ms, .next hblanks hgap hv hms =>
    simp only [ExactMembers, memberLevels, memberSteps] at hexact hdepth hfuel
    obtain ⟨fuel, rfl⟩ : ∃ n, fuel = n + 1 := ⟨fuel - 1, by omega⟩
    have hvalue := readsValue_of_spells v hv depth fuel hexact.1 (by omega) (by omega)
      (hms.endsNumber rest)
    have hmembers := readsMembers_of_spells ms hms depth fuel hexact.2 (by omega) (by omega) rest
    obtain ⟨c, more, hhead, hopens⟩ := hv.head hexact.1
    simp only [List.append_assoc, List.cons_append]
    rw [hhead] at hvalue ⊢
    exact readsMembers_next hblanks key (hvalue.behindBlanks hgap hopens) hmembers

end

/-! ## Whole texts -/

/-- The items of a list are exact one by one. -/
theorem exactItems_iff {vs : List Json} : ExactItems vs ↔ ∀ v ∈ vs, v.Exact := by
  induction vs with
  | nil => simp [ExactItems]
  | cons v vs ih => simp [ExactItems, ih]

/-- So are the members of an object. -/
theorem exactMembers_iff {ms : List (String × Json)} :
    ExactMembers ms ↔ ∀ m ∈ ms, m.2.Exact := by
  induction ms with
  | nil => simp [ExactMembers]
  | cons m ms ih => simp only [ExactMembers, ih, List.forall_mem_cons]

/-- A list is as deep as its deepest item. -/
theorem itemLevels_le {vs : List Json} {n : Nat} (h : ∀ v ∈ vs, v.levels ≤ n) :
    itemLevels vs ≤ n := by
  induction vs with
  | nil => exact Nat.zero_le n
  | cons v vs ih =>
    rw [List.forall_mem_cons] at h
    exact Nat.max_le.2 ⟨h.1, ih h.2⟩

/-- An object is as deep as the deepest of its values. -/
theorem memberLevels_le {ms : List (String × Json)} {n : Nat} (h : ∀ m ∈ ms, m.2.levels ≤ n) :
    memberLevels ms ≤ n := by
  induction ms with
  | nil => exact Nat.zero_le n
  | cons m ms ih =>
    rw [List.forall_mem_cons] at h
    exact Nat.max_le.2 ⟨h.1, ih h.2⟩

mutual

/-- Every symbol of a text is good for two steps. -/
theorem steps_le (v : Json) {text : List Symbol} (h : Spells v text) (hexact : v.Exact) :
    v.steps ≤ 2 * text.length := by
  -- A scalar takes one step and has a symbol at least; what is nested adds up.
  match v, h with
  | v, .scalar _ hprimitive =>
    obtain ⟨c, more, hhead, -⟩ := (Spells.scalar v hprimitive).head hexact
    have hone : v.steps = 1 := by
      cases v <;> first | rfl | cases hprimitive
    rw [hhead, hone, List.length_cons]
    omega
  | .array vs, .array hvs =>
    have hitems := itemSteps_le vs hvs hexact
    simp only [steps, List.length_cons]
    omega
  | .object ms, .object hms =>
    have hmembers := memberSteps_le ms hms hexact
    simp only [steps, List.length_cons]
    omega

/-- Behind the first item, every item has a comma for the step that looks for it. -/
theorem itemSteps_le (vs : List Json) {first : Bool} {text : List Symbol}
    (h : SpellsItems first vs text) (hexact : ExactItems vs) :
    itemSteps vs + (if first then 0 else 1) ≤ 2 * text.length := by
  -- Every item pays for its own steps with its text, and for the one step of the list with its
  -- comma.
  match vs, h with
  | [], .nil first _ =>
    simp only [itemSteps, List.length_append, List.length_singleton]
    split <;> omega
  | v :: vs, .first _ hv hvs =>
    simp only [ExactItems] at hexact
    have hvalue := steps_le v hv hexact.1
    have hitems := itemSteps_le vs hvs hexact.2
    simp only [itemSteps, List.length_append, Bool.false_eq_true, if_false, if_true] at hitems ⊢
    omega
  | v :: vs, .next _ hv hvs =>
    simp only [ExactItems] at hexact
    have hvalue := steps_le v hv hexact.1
    have hitems := itemSteps_le vs hvs hexact.2
    simp only [itemSteps, List.length_append, List.length_cons, Bool.false_eq_true, if_false]
      at hitems ⊢
    omega

/-- Behind the first member, every member has a comma for the step that looks for it. -/
theorem memberSteps_le (ms : List (String × Json)) {first : Bool} {text : List Symbol}
    (h : SpellsMembers first ms text) (hexact : ExactMembers ms) :
    memberSteps ms + (if first then 0 else 1) ≤ 2 * text.length := by
  -- As for items, with the text of the key on top.
  match ms, h with
  | [], .nil first _ =>
    simp only [memberSteps, List.length_append, List.length_singleton]
    split <;> omega
  | m :: ms, .first _ _ hv hms =>
    simp only [ExactMembers] at hexact
    have hvalue := steps_le m.2 hv hexact.1
    have hmembers := memberSteps_le ms hms hexact.2
    simp only [memberSteps, List.length_append, List.length_cons, Bool.false_eq_true, if_false,
      if_true] at hmembers ⊢
    omega
  | m :: ms, .next _ _ hv hms =>
    simp only [ExactMembers] at hexact
    have hvalue := steps_le m.2 hv hexact.1
    have hmembers := memberSteps_le ms hms hexact.2
    simp only [memberSteps, List.length_append, List.length_cons, Bool.false_eq_true, if_false]
      at hmembers ⊢
    omega

end

/-- **Whole texts**: a text that spells a value is read to its end, without a fault. -/
theorem readDocument_of_spells {v : Json} {text : List Symbol} (h : Spells v text)
    (hexact : v.Exact) (hlevels : v.levels < maxDepth) :
    ∃ doc, readDocument text = ⟨doc, none⟩ ∧ Denotes doc v := by
  -- The reader is given two steps for every symbol.
  have hfuel : v.steps ≤ 2 * text.length + 2 := Nat.le_add_right_of_le (steps_le v h hexact)
  obtain ⟨doc, behind, hdoc, hdenotes⟩ :=
    readsValue_of_spells v h maxDepth _ hexact hlevels hfuel endsNumber_nil 0
  rw [List.append_nil] at hdoc
  exact ⟨doc, by rw [readDocument, hdoc]; rfl, hdenotes⟩

end ChangeFeed.Json

import ChangeFeed.Position
import ChangeFeed.Proofs.Json.Float

/-!
# Positions: Different offsets, different positions

The position of a record is a text, and two records of one partition that lie at different offsets
have different positions. A reader tells from the first characters of a text which scalar stands
there and where it ends, so the text of a flat object can be taken apart in one way only.

## Main results

* `flatText_injective`: flat objects with the same text are the same.
* `ResumePoint.ofSource_injective`: the position of a record determines its offset.
-/

namespace ChangeFeed

namespace Json

/-! ## Scalars -/

/-- What a reader finds where a scalar stands, before it rounds. -/
inductive Token where
  | null
  | bool (value : Bool)
  | number (n : Numeral)
  | string (cs : List Char)

/-- The scalar at the beginning of a text, and what follows it. -/
def token? : List Symbol → Option (Token × List Symbol)
  | .char 'n' :: rest => some (.null, rest.drop 3)
  | .char 't' :: rest => some (.bool true, rest.drop 3)
  | .char 'f' :: rest => some (.bool false, rest.drop 4)
  | .char '"' :: rest =>
    match textBody 1 rest with
    | .ok r => some (.string r.chars, r.behind.rest)
    | .error _ => none
  | text =>
    match signedNumeral ⟨0, text⟩ with
    | .ok (n, _, behind) => some (.number n, behind.rest)
    | .error _ => none

/-- The token is that of the value. -/
inductive Token.Tells : Token → Json → Prop where
  | null : Tells .null .null
  | bool (b : Bool) : Tells (.bool b) (.bool b)
  | int (n : Numeral) (i : Int) : n.negative = decide (i < 0) → n.magnitude = i.natAbs →
      n.isWhole = true → Tells (.number n) (.int i)
  | float (n : Numeral) (x : Binary64) : n.negative = x.isNegative →
      n.magnitude = x.decimalValue → n.isWhole = false → Tells (.number n) (.float x)
  | string (cs : List Char) (s : String) : cs = s.toList → Tells (.string cs) (.string s)

/-- The value is neither an array nor an object, and if it is a number, it is finite. -/
def IsScalar : Json → Prop
  | .array _ | .object _ => False
  | .float x => x.isFinite = true
  | _ => True

variable {v w : Json} {t : Token}

/-- A token tells one value only. -/
theorem Token.Tells.unique (hv : t.Tells v) (hw : t.Tells w) : v = w := by
  cases hv with
  | null =>
    cases hw
    rfl
  | bool b =>
    cases hw
    rfl
  | int n i hsign hvalue hwhole =>
    cases hw with
    -- Two integers with one sign and one magnitude are the same.
    | int _ j hsign' hvalue' _ =>
      have hneg : i < 0 ↔ j < 0 := decide_eq_decide.1 (hsign.symm.trans hsign')
      have habs : i.natAbs = j.natAbs := by exact_mod_cast hvalue.symm.trans hvalue'
      exact congrArg Json.int (by omega)
    | float _ y _ _ hwhole' => exact Bool.noConfusion (hwhole.symm.trans hwhole')
  | float n x hsign hvalue hwhole =>
    cases hw with
    -- An integer is written without fraction and exponent, and no other number is.
    | int _ j _ _ hwhole' => exact Bool.noConfusion (hwhole.symm.trans hwhole')
    | float _ y hsign' hvalue' _ =>
      exact congrArg Json.float
        (Binary64.eq_of_decimalValue (hsign.symm.trans hsign') (hvalue.symm.trans hvalue'))
  | string cs s hs =>
    cases hw with
    | string _ s' hs' => exact congrArg Json.string (String.toList_injective (hs.symm.trans hs'))

/-- A text that begins with a number begins with nothing else. -/
theorem token?_of_signedNumeral {text : List Symbol} {n : Numeral} {first : Nat} {behind : Cursor}
    (h : signedNumeral ⟨0, text⟩ = .ok (n, first, behind)) :
    token? text = some (.number n, behind.rest) := by
  -- None of the letters and quotes opens a number.
  have hletter {c : Char} {rest : List Symbol} (hminus : c ≠ '-') (hdigit : c.isDigit = false) :
      ¬ signedNumeral ⟨0, .char c :: rest⟩ = .ok (n, first, behind) := by
    simp [signedNumeral, hminus, numeral, digits, digit?, hdigit, bind, Except.bind, throw,
      throwThe, MonadExceptOf.throw]
  unfold token?
  split
  next => exact absurd h (hletter (by decide) rfl)
  next => exact absurd h (hletter (by decide) rfl)
  next => exact absurd h (hletter (by decide) rfl)
  next => exact absurd h (hletter (by decide) rfl)
  next => rw [h]

/-- A number is read as such, wherever it stands. -/
theorem token?_of_readsNumber {text rest : List Symbol} {n : Numeral} (h : ReadsNumber text n)
    (hrest : EndsNumber rest) : token? (text ++ rest) = some (.number n, rest) := by
  obtain ⟨first, behind, hread⟩ := h 0 rest hrest
  exact token?_of_signedNumeral hread

/-- The text of a scalar is read as a token of it, up to what ends a number. -/
theorem token?_render (hv : v.IsScalar) {rest : List Symbol} (hrest : EndsNumber rest) :
    ∃ t, token? (symbolsOf v.render ++ rest) = some (t, rest) ∧ t.Tells v := by
  -- There is a case for each kind of scalar; the first character tells which one is read.
  cases v with
  | null => exact ⟨.null, rfl, .null⟩
  | bool b => cases b with
    | true => exact ⟨.bool true, rfl, .bool true⟩
    | false => exact ⟨.bool false, rfl, .bool false⟩
  | int i =>
    obtain ⟨n, hreads, hsign, hvalue, hwhole⟩ := readsNumber_int i
    exact ⟨.number n, token?_of_readsNumber hreads hrest, .int n i hsign hvalue hwhole⟩
  | float x =>
    obtain ⟨n, hreads, hsign, hvalue, hwhole⟩ := readsNumber_float hv
    exact ⟨.number n, token?_of_readsNumber hreads hrest, .float n x hsign hvalue hwhole⟩
  | string s =>
    obtain ⟨behind, hbody⟩ := textBody_quote s 1 rest
    refine ⟨.string s.toList, ?_, .string _ s rfl⟩
    rw [symbolsOf_quote] at hbody
    rw [render, symbolsOf_quote, token?]
    exact congrArg (fun r => match r with
      | .ok r => some (Token.string r.chars, r.behind.rest)
      | .error _ => none) hbody
  | array items => exact hv.elim
  | object members => exact hv.elim

/-! ## Flat objects -/

/-- The text of a member. -/
def memberText (m : String × Json) : List Symbol :=
  symbolsOf (quote m.1) ++ .char ':' :: symbolsOf m.2.render

/-- The text of the members behind the first. -/
def memberTail (members : List (String × Json)) : List Symbol :=
  members.flatMap fun m => .char ',' :: memberText m

theorem memberTail_cons (m : String × Json) (ms : List (String × Json)) :
    memberTail (m :: ms) = .char ',' :: (memberText m ++ memberTail ms) := by
  simp [memberTail]

/-- The members of an object, with a comma in front of all but the first. -/
theorem symbolsOf_renderMembers (m : String × Json) (ms : List (String × Json)) :
    symbolsOf (renderMembers (m :: ms)) = memberText m ++ memberTail ms := by
  induction ms generalizing m with
  | nil => simp only [renderMembers, symbolsOf_member, memberText, memberTail, List.flatMap_nil,
      List.append_nil]
  | cons n ns ih =>
    simp only [symbolsOf_renderMembers_cons, ih n, memberTail_cons, memberText, List.append_assoc,
      List.cons_append]

/-- A number in front of other members ends at the comma or the brace. -/
theorem endsNumber_memberTail (ms : List (String × Json)) (rest : List Symbol) :
    EndsNumber (memberTail ms ++ .char '\x7d' :: rest) := by
  cases ms with
  | nil => exact endsNumber_cons rest rfl (by decide) (by decide) (by decide)
  | cons n ns => exact endsNumber_cons _ rfl (by decide) (by decide) (by decide)

/-- The text of a member ends where the text says. -/
theorem memberText_unique {m n : String × Json} (hm : m.2.IsScalar) (hn : n.2.IsScalar)
    {rest rest' : List Symbol} (hrest : EndsNumber rest) (hrest' : EndsNumber rest')
    (h : memberText m ++ rest = memberText n ++ rest') : m = n ∧ rest = rest' := by
  obtain ⟨key, v⟩ := m
  obtain ⟨key', w⟩ := n
  simp only [memberText, List.append_assoc, List.cons_append] at h
  -- The key ends with its quote, and the value where its token ends.
  obtain ⟨_, hkey⟩ := textBody_quote key 1 (.char ':' :: (symbolsOf v.render ++ rest))
  obtain ⟨_, hkey'⟩ := textBody_quote key' 1 (.char ':' :: (symbolsOf w.render ++ rest'))
  rw [h, hkey'] at hkey
  simp only [Except.ok.injEq, TextRead.mk.injEq, Cursor.mk.injEq, List.cons.injEq, true_and]
    at hkey
  obtain ⟨t, ht, hv⟩ := token?_render hm hrest
  obtain ⟨t', ht', hw⟩ := token?_render hn hrest'
  rw [← hkey.2.2, ht'] at ht
  simp only [Option.some.injEq, Prod.mk.injEq] at ht
  obtain ⟨rfl, rfl⟩ := ht
  exact ⟨Prod.ext (String.toList_injective hkey.1.symm) (hv.unique hw), rfl⟩

/-- Equal texts are made of equal members. -/
theorem memberTail_unique {ms ns : List (String × Json)} (hms : ∀ m ∈ ms, m.2.IsScalar)
    (hns : ∀ n ∈ ns, n.2.IsScalar)
    (h : memberTail ms ++ [.char '\x7d'] = memberTail ns ++ [.char '\x7d']) : ms = ns := by
  induction ms generalizing ns with
  | nil =>
    cases ns with
    | nil => rfl
    | cons n ns => simp [memberTail] at h
  | cons m ms ih =>
    cases ns with
    | nil => simp [memberTail] at h
    | cons n ns =>
      -- Both texts begin with a member, and behind it they are equal again.
      rw [List.forall_mem_cons] at hms hns
      rw [memberTail_cons, memberTail_cons, List.cons_append, List.cons_append, List.append_assoc,
        List.append_assoc] at h
      obtain ⟨rfl, htail⟩ := memberText_unique hms.1 hns.1 (endsNumber_memberTail ms [])
        (endsNumber_memberTail ns []) (List.cons.inj h).2
      rw [ih hms.2 hns.2 htail]

end Json

/-- An object with members, all of them scalars. -/
structure SortedMap.IsFlat (object : SortedMap Json) : Prop where
  nonempty : object.entries ≠ []
  scalars : ∀ e ∈ object.entries, e.2.IsScalar

/-- A flat object as symbols. -/
theorem symbolsOf_flatText {object : SortedMap Json} {e : String × Json}
    {es : List (String × Json)} (h : object.entries = e :: es) :
    Json.symbolsOf (flatText object) =
      .char '\x7b' :: (Json.memberText e ++ (Json.memberTail es ++ [.char '\x7d'])) := by
  rw [flatText, Json.ofMap, ← List.append_nil (Json.symbolsOf _), Json.symbolsOf_object, h,
    Json.symbolsOf_renderMembers, List.append_assoc]

/-- **Texts of flat objects**: flat objects with the same text are the same. -/
theorem flatText_injective {m n : SortedMap Json} (hm : m.IsFlat) (hn : n.IsFlat)
    (h : flatText m = flatText n) : m = n := by
  obtain ⟨e, es, hes⟩ := List.exists_cons_of_ne_nil hm.nonempty
  obtain ⟨f, fs, hfs⟩ := List.exists_cons_of_ne_nil hn.nonempty
  have hms := hm.scalars
  have hns := hn.scalars
  have htext := congrArg Json.symbolsOf h
  -- The brace is taken off, then the first members are compared, and then the others.
  rw [symbolsOf_flatText hes, symbolsOf_flatText hfs] at htext
  rw [hes, List.forall_mem_cons] at hms
  rw [hfs, List.forall_mem_cons] at hns
  obtain ⟨rfl, htail⟩ := Json.memberText_unique hms.1 hns.1 (Json.endsNumber_memberTail es [])
    (Json.endsNumber_memberTail fs []) (List.cons.inj htext).2
  rw [Json.memberTail_unique hms.2 hns.2 htail] at hes
  exact SortedMap.ext (hes.trans hfs.symm)

/-! ## Positions -/

/-- The object has members, and none of them is an array or an object. -/
def HasOnlyPrimitives (object : SortedMap Json) : Prop :=
  object.entries ≠ [] ∧ ∀ e ∈ object.entries, e.2.isPrimitive = true

variable {object : SortedMap Json}

/-- An object passes the check if it has members, all of them primitive. -/
theorem checkFlat_eq_ok_iff (part : PositionPart) :
    checkFlat part object = .ok () ↔ HasOnlyPrimitives object := by
  -- An empty object is refused; otherwise the first member that is not primitive is, if there is
  -- one.
  unfold checkFlat HasOnlyPrimitives
  split
  next hempty => simp [SortedMap.isEmpty] at hempty; simp [hempty]
  next hnonempty =>
    have hne : object.entries ≠ [] := fun hnil => hnonempty (by simp [SortedMap.isEmpty, hnil])
    split
    next e hfound =>
      have hmem := List.mem_of_find?_eq_some hfound
      have hnot := List.find?_some hfound
      refine ⟨nofun, fun h => ?_⟩
      simp [h.2 e hmem] at hnot
    next hnone =>
      refine ⟨fun _ => ⟨hne, fun e he => ?_⟩, fun _ => rfl⟩
      simpa using List.find?_eq_none.1 hnone e he

/-- Every floating-point number of an object is finite. -/
def SortedMap.HasFiniteNumbers (object : SortedMap Json) : Prop :=
  ∀ key x, (key, Json.float x) ∈ object.entries → x.isFinite = true

/-- Primitive values with finite numbers are flat. -/
theorem HasOnlyPrimitives.isFlat (h : HasOnlyPrimitives object)
    (hfinite : object.HasFiniteNumbers) : object.IsFlat := by
  refine ⟨h.1, fun e he => ?_⟩
  have hprimitive := h.2 e he
  obtain ⟨key, v⟩ := e
  cases v with
  | float x => exact hfinite key x he
  | array _ | object _ => cases hprimitive
  | null | bool _ | int _ | string _ => trivial

namespace ResumePoint

/-- A position is made if both objects are flat. -/
theorem ofSource_eq_ok_iff {name : String} {origin offset : SortedMap Json} {p : ResumePoint} :
    ofSource name origin offset = .ok p ↔
      (HasOnlyPrimitives origin ∧ HasOnlyPrimitives offset) ∧
        p = ⟨name, .single (flatText origin) (flatText offset)⟩ := by
  -- Both parts are checked, the origin first.
  rw [← checkFlat_eq_ok_iff .partition, ← checkFlat_eq_ok_iff .offset]
  unfold ofSource
  cases hpartition : checkFlat .partition origin with
  | error f => simp [bind, Except.bind]
  | ok _ =>
    cases hoffset : checkFlat .offset offset with
    | error f => simp [bind, Except.bind]
    | ok _ => simp [bind, Except.bind, pure, Except.pure, eq_comm]

/-- **Positions**: the position of a record determines its offset. -/
theorem ofSource_injective {name : String} {sourcePartition offset offset' : SortedMap Json}
    {p : ResumePoint} (hfinite : offset.HasFiniteNumbers) (hfinite' : offset'.HasFiniteNumbers)
    (h : ofSource name sourcePartition offset = .ok p)
    (h' : ofSource name sourcePartition offset' = .ok p) : offset = offset' := by
  obtain ⟨⟨-, hflat⟩, hp⟩ := ofSource_eq_ok_iff.1 h
  obtain ⟨⟨-, hflat'⟩, hp'⟩ := ofSource_eq_ok_iff.1 h'
  -- One position has one text for the offset.
  have htext : flatText offset = flatText offset' := by
    have hsame := hp.symm.trans hp'
    simpa [SortedMap.single] using hsame
  exact flatText_injective (hflat.isFlat hfinite) (hflat'.isFlat hfinite') htext

end ResumePoint

end ChangeFeed

import ChangeFeed.Proofs.Json.Decoding

/-!
# JSON: Decoding records and alternatives

The fields of a record are met one after the other. Members that a record is built from stay the
same when another field is put behind them, so the members of a record are found field by field. An
alternative is found by its tag, beside its content or within it.

## Main results

* `Fields.Builds.decodes`: members that build a record are decoded to it.
* `decodes_beside`, `decodes_within`: alternatives with a tag.
* `decodes_first`: the first kind that does not refuse a value decodes it.
-/

namespace ChangeFeed.Json

variable {α β : Type}

/-! ## Records -/

namespace Fields

/-- Reading members one after the other takes a state of the fields to another one. -/
inductive Reads (f : Fields α) : f.State → List (String × Json) → f.State → Prop where
  | nil (s : f.State) : Reads f s [] s
  | cons {s s' s'' : f.State} {key : String} {v : Json} {ms : List (String × Json)} :
      f.has key = true → f.seen key s = false → Decodes (fun o doc => f.read o key doc s) v s' →
      Reads f s' ms s'' → Reads f s ((key, v) :: ms) s''

/-- The members make up the record, and no field is left that must be there. -/
def Builds (f : Fields α) (ms : List (String × Json)) (a : α) : Prop :=
  ∃ s, f.Reads f.start ms s ∧ f.finish s = .ok a

variable {f : Fields α} {ms ns : List (String × Json)} {a : α}

/-- What is read in two goes is read in one. -/
theorem Reads.trans {s s' s'' : f.State} (h : f.Reads s ms s') (h' : f.Reads s' ns s'') :
    f.Reads s (ms ++ ns) s'' := by
  induction h with
  | nil => exact h'
  | cons hkey hseen hread _ ih => exact .cons hkey hseen hread (ih h')

/-! ### Fields one behind the other -/

theorem builds_pure (a : α) : (Fields.pure a).Builds [] a :=
  ⟨(), .nil (f := Fields.pure a) (), rfl⟩

/-- What the first fields read is read by them, whatever fields stand behind. -/
theorem Reads.apply_left {g : Fields (α → β)} {x : Fields α} {s s' : g.State}
    (h : g.Reads s ms s') (t : x.State) : (Fields.apply g x).Reads (s, t) ms (s', t) := by
  induction h with
  | nil s => exact .nil (f := Fields.apply g x) (s, t)
  -- The member belongs to one of the first fields, so the state of the last one stays as it is.
  | cons hkey hseen hread _ ih =>
    refine .cons (f := Fields.apply g x) ?_ ?_ (fun o doc hdoc => ?_) ih
    · simp [Fields.apply, hkey]
    · simp [Fields.apply, hkey, hseen]
    · simp only [Fields.apply, hkey, if_true, hread o doc hdoc]
      rfl

/-- A field that is present stands behind the fields before it. -/
theorem Builds.present {g : Fields (α → β)} {b : α → β} {name : String} {decode : Decode α}
    {absent : Option α} {orderly : Bool} {v : Json} (h : g.Builds ms b)
    (hnew : g.has name = false) (hv : Decodes decode v a) :
    (Fields.apply g (field name decode absent orderly)).Builds (ms ++ [(name, v)]) (b a) := by
  obtain ⟨s, hreads, hfinish⟩ := h
  have hfield : (Fields.apply g (field name decode absent orderly)).Reads (s, none) [(name, v)]
      (s, some a) := by
    -- The fields before do not know the name, so the member is left to the new field.
    refine .cons ?_ ?_ (fun o doc hdoc => ?_) (.nil _)
    · simp [Fields.apply, field]
    · simp [Fields.apply, hnew, field]
    · simp only [Fields.apply, hnew, Bool.false_eq_true, if_false, field, hv o doc hdoc]
      rfl
  have hbefore := hreads.apply_left (x := field name decode absent orderly) none
  refine ⟨(s, some a), hbefore.trans hfield, ?_⟩
  simp only [Fields.apply, hfinish, field, Option.some_or]
  rfl

/-- A field that may be missing needs no member. -/
theorem Builds.missing {g : Fields (α → β)} {b : α → β} {name : String} {decode : Decode α}
    {orderly : Bool} (h : g.Builds ms b) (a : α) :
    (Fields.apply g (field name decode (some a) orderly)).Builds ms (b a) := by
  obtain ⟨s, hreads, hfinish⟩ := h
  refine ⟨(s, none), hreads.apply_left (x := field name decode (some a) orderly) none, ?_⟩
  simp only [Fields.apply, hfinish, field, Option.none_or]
  rfl

/-- A field that may be missing or null, with the member that stands for it if there is one. -/
theorem Builds.optional {g : Fields (Option α → β)} {b : Option α → β} {name : String}
    {decode : Decode α} {encode : α → Json} (h : g.Builds ms b) (hnew : g.has name = false)
    (x : Option α) (hx : ∀ a ∈ x, Decodes decode (encode a) a ∧ encode a ≠ .null) :
    (Fields.apply g (Fields.optional name decode)).Builds
      (ms ++ (x.map fun a => (name, encode a)).toList) (b x) := by
  -- A member that is missing is left to the default of its field.
  cases x with
  | none =>
    rw [Option.map_none, Option.toList_none, List.append_nil]
    exact h.missing none
  | some a =>
    obtain ⟨ha, hne⟩ := hx a rfl
    exact h.present hnew (ha.option hne)

/-! ### Whole records -/

/-- The members of an object lead to the value that its fields make of their last state. -/
theorem members_of_reads {s s' : f.State} (h : f.Reads s ms s')
    {members : List (Except Fault String × Nat × Nat × Doc)} (hmembers : DenotesMembers members ms)
    (o : Origin) (behind : Nat) (hfinish : f.finish s' = .ok a) :
    f.members o members (.closed behind) s = .ok a := by
  -- The induction is on what was read: each step is a member that its field has not seen before.
  induction h generalizing members with
  | nil s =>
    cases hmembers
    simp only [Fields.members, Ending.reached, hfinish]
    rfl
  | cons hkey hseen hread _ ih =>
    cases hmembers with
    | cons key atKey after hdoc hrest =>
      simp only [Fields.members, hkey, if_true, hseen, Bool.false_eq_true, if_false,
        hread o _ hdoc]
      exact ih hrest hfinish

/-- **Records**: members that build a record are decoded to it. -/
theorem Builds.decodes (h : f.Builds ms a) (typeName : String) :
    Decodes (f.decode typeName) (.object ms) a := by
  obtain ⟨s, hreads, hfinish⟩ := h
  intro o doc hdoc
  cases hdoc with
  | leaf _ _ _ hprimitive => cases hprimitive
  | object opening first behind hmembers => exact members_of_reads hreads hmembers o behind hfinish

end Fields

/-! ## Unknown members -/

mutual

/-- A value of a whole text can be passed over. -/
theorem skip_of_denotes {doc : Doc} (v : Json) (h : Denotes doc v) : skip doc = .ok () := by
  match v, h with
  | _, .leaf _ _ _ _ => rfl
  | .array vs, .array _ _ behind hitems => exact skipItems_of_denotes vs hitems behind
  | .object ms, .object _ _ behind hmembers => exact skipMembers_of_denotes ms hmembers behind

/-- Items that nobody asks for are passed over. -/
theorem skipItems_of_denotes {items : List (Nat × Nat × Doc)} (vs : List Json)
    (h : DenotesItems items vs) (behind : Nat) : skipItems items (.closed behind) = .ok () := by
  match vs, h with
  | [], .nil => rfl
  | v :: vs, .cons _ _ hdoc hrest =>
    simp only [skipItems, skip_of_denotes v hdoc, skipItems_of_denotes vs hrest behind]

/-- So are members. -/
theorem skipMembers_of_denotes {members : List (Except Fault String × Nat × Nat × Doc)}
    (ms : List (String × Json)) (h : DenotesMembers members ms) (behind : Nat) :
    skipMembers members (.closed behind) = .ok () := by
  match ms, h with
  | [], .nil => rfl
  | (_, v) :: ms, .cons _ _ _ hdoc hrest =>
    simp only [skipMembers, skip_of_denotes v hdoc, skipMembers_of_denotes ms hrest behind]

end

namespace Fields

variable {f : Fields α} {ms : List (String × Json)}

/-- Members without a field leave the fields as they are. -/
theorem members_of_unknown (hunknown : ∀ m ∈ ms, f.has m.1 = false)
    {members : List (Except Fault String × Nat × Nat × Doc)} (hmembers : DenotesMembers members ms)
    (o : Origin) (behind : Nat) (s : f.State) :
    f.members o members (.closed behind) s = placed o behind (f.finish s) := by
  -- Unknown members are passed over one by one, and nothing changes until the object is closed.
  induction ms generalizing members with
  | nil =>
    cases hmembers
    rfl
  | cons m ms ih =>
    rw [List.forall_mem_cons] at hunknown
    cases hmembers with
    | cons key atKey after hdoc hrest =>
      simp only [Fields.members, hunknown.1, Bool.false_eq_true, if_false, skip_of_denotes _ hdoc]
      exact ih hunknown.2 hrest

end Fields

/-- A value that was set aside is refused. -/
def Refuses (decode : Decode α) (v : Json) : Prop :=
  ∀ doc, Denotes doc v → ∃ e, decode .aside doc = .error e

/-- A record is refused if no member is one of its fields and one of them must be there. -/
theorem Fields.refuses {f : Fields α} {ms : List (String × Json)} {e : Refusal}
    (hunknown : ∀ m ∈ ms, f.has m.1 = false) (hfinish : f.finish f.start = .error e)
    (typeName : String) : Refuses (f.decode typeName) (.object ms) := by
  intro doc hdoc
  cases hdoc with
  | leaf _ _ _ hprimitive => cases hprimitive
  | object opening first behind hmembers =>
    refine ⟨e, ?_⟩
    simp only [Fields.decode, unlessTooDeep, members_of_unknown hunknown hmembers, hfinish]
    rfl

/-- What refuses a value goes on doing so when something is made of it. -/
theorem Refuses.as {β : Type} {decode : Decode α} {v : Json} (h : Refuses decode v) (f : α → β) :
    Refuses (decodeAs f decode) v := by
  intro doc hdoc
  obtain ⟨e, he⟩ := h doc hdoc
  exact ⟨e, by simp only [decodeAs, he]; rfl⟩

/-! ## Alternatives -/

variable {typeName tag kind : String} {a : α} {ms : List (String × Json)} {v : Json}

/-- A name that is known stands for its alternative. -/
theorem decodes_alternative {known : List (String × α)} (h : known.lookup kind = some a) :
    Decodes (decodeAlternative known) (.string kind) a := by
  intro o doc hdoc
  cases hdoc with
  | leaf => simp only [decodeAlternative, decodeName, h]

/-- A tag is a name as well. -/
theorem decodes_tag {known : List (String × α)} (h : known.lookup kind = some a) :
    Decodes (decodeTag known) (.string kind) a := by
  intro o doc hdoc
  cases hdoc with
  | leaf => simp only [decodeTag, decodeName, h]

/-! ### A tag beside the content -/

variable {b : Beside} {name : String} {known : List (String × String × Content α)}

/-- The tag stands before the content. -/
theorem decodes_beside (h : known.lookup kind = some (name, .content decode))
    (hne : b.content ≠ b.tag) (hv : Decodes decode v a) :
    Decodes (decodeBeside b known) (.object [(b.tag, .string kind), (b.content, v)]) a := by
  intro o doc hdoc
  cases hdoc with
  | leaf _ _ _ hprimitive => cases hprimitive
  | object _ _ behind hmembers =>
    -- The object has these two members and no other.
    obtain _ | ⟨_, atTag, behindTag, htag, hmembers⟩ := hmembers
    obtain _ | ⟨_, atContent, behindContent, hcontent, hmembers⟩ := hmembers
    cases hmembers
    simp only [decodeBeside, unlessTooDeep, besideMembers, relevant, if_true, hne, if_false,
      bind, Except.bind, decodes_alternative h o _ htag, placed, Content.decode,
      hv o _ hcontent, nothingRelevant, Ending.reached]
    rfl

/-- An alternative without content is its tag alone. -/
theorem decodes_beside_unit (h : known.lookup kind = some (name, .unit a)) :
    Decodes (decodeBeside b known) (.object [(b.tag, .string kind)]) a := by
  intro o doc hdoc
  cases hdoc with
  | leaf _ _ _ hprimitive => cases hprimitive
  | object _ _ behind hmembers =>
    obtain _ | ⟨_, atTag, behindTag, htag, hmembers⟩ := hmembers
    cases hmembers
    simp only [decodeBeside, unlessTooDeep, besideMembers, relevant, if_true, bind, Except.bind,
      decodes_alternative h o _ htag, placed, withoutContent, Ending.reached]

/-! ### A tag within the content -/

/-- Behind the tag there are only members of the content. -/
theorem splitTag_of_denotes {decode : Decode α} (o : Origin) (behind : Nat)
    {members : List (Except Fault String × Nat × Nat × Doc)} (hmembers : DenotesMembers members ms)
    (hother : ∀ m ∈ ms, m.1 ≠ tag) (a : α) :
    splitTag tag decode o members (.closed behind) (some a) = .ok (a, members) := by
  -- The tag was found before, and the other members are set aside as they are.
  induction ms generalizing members with
  | nil =>
    cases hmembers
    rfl
  | cons m ms ih =>
    rw [List.forall_mem_cons] at hother
    cases hmembers with
    | cons key atKey after hdoc hrest =>
      simp only [splitTag, if_neg hother.1, setAside_of_denotes hdoc, ih hrest hother.2]
      rfl

/-- The tag comes first, and the content is made of the members behind it. -/
theorem decodes_within {known : List (String × Decode α)} {decode : Decode α}
    (h : known.lookup kind = some decode) (hother : ∀ m ∈ ms, m.1 ≠ tag)
    (hms : Decodes decode (.object ms) a) :
    Decodes (decodeWithin typeName tag known) (.object ((tag, .string kind) :: ms)) a := by
  intro o doc hdoc
  cases hdoc with
  | leaf _ _ _ hprimitive => cases hprimitive
  | object opening first behind hmembers =>
    obtain _ | ⟨_, atTag, behindTag, htag, hmembers⟩ := hmembers
    simp only [decodeWithin, unlessTooDeep, splitTag, if_true, Option.isSome_none,
      Bool.false_eq_true, if_false, decodes_tag h o _ htag, placed, bind, Except.bind,
      splitTag_of_denotes o behind hmembers hother]
    -- The members behind the tag were set aside, and the content is decoded from there.
    exact hms .aside _ (.object opening first 0 hmembers)

/-- An alternative without fields does not look at the members. -/
theorem decodes_unit (unitName : String) (a : α) (ms : List (String × Json)) :
    Decodes (decodeUnit unitName a) (.object ms) a := by
  intro o doc hdoc
  cases hdoc with
  | leaf _ _ _ hprimitive => cases hprimitive
  | object => rfl

/-! ### The first that fits -/

/-- The kinds before the one that fits have refused the value. -/
theorem decodes_first (before : List (Decode α)) {after : List (Decode α)} {decode : Decode α}
    (hbefore : ∀ other ∈ before, Refuses other v) (h : Decodes decode v a) :
    Decodes (decodeFirst typeName (before ++ decode :: after)) v a := by
  intro o doc hdoc
  -- All that come before fail, so the search goes on to the one that fits.
  have hnone : before.findSome? (fun other => (other .aside doc).toOption) = none := by
    rw [List.findSome?_eq_none_iff]
    intro other hother
    obtain ⟨e, he⟩ := hbefore other hother doc hdoc
    rw [he]
    rfl
  have hfound : (decode .aside doc).toOption = some a := by
    rw [h .aside doc hdoc]
    rfl
  simp only [decodeFirst, setAside_of_denotes hdoc, List.findSome?_append, hnone, Option.none_or,
    List.findSome?_cons, hfound]

end ChangeFeed.Json

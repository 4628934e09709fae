import ChangeFeed.Json.Decode
import Mathlib.Data.List.Forall2

/-!
# JSON: Decoding side by side

Two documents are decoded side by side. If the decoder of every field takes what differs in them to
related values, or refuses both for the same reason, then so does the decoder of the whole record.
What is related is up to whoever asks: two results may be equal, or equal but for a part that is to
stay hidden.

## Main results

* `Fields.Respects.apply`: fields that respect relations make up a record that does.
* `Fields.Respects.decode`: objects whose members are related, one by one.
-/

namespace ChangeFeed.Json

variable {α β : Type}

/-! ## Results -/

/-- Both are refused for the same reason, or both are decoded, to related results. -/
inductive AlikeUpTo (R : α → α → Prop) : Decoded α → Decoded α → Prop where
  | refused (e : Refusal) : AlikeUpTo R (.error e) (.error e)
  | decoded {a b : α} (h : R a b) : AlikeUpTo R (.ok a) (.ok b)

namespace AlikeUpTo

variable {R : α → α → Prop} {T : β → β → Prop} {r s : Decoded α}

theorem refl (h : ∀ a, R a a) (r : Decoded α) : AlikeUpTo R r r := by
  cases r with
  | error e => exact .refused e
  | ok a => exact .decoded (h a)

theorem bind {f g : α → Decoded β} (h : AlikeUpTo R r s)
    (hnext : ∀ a b, R a b → AlikeUpTo T (f a) (g b)) : AlikeUpTo T (r >>= f) (s >>= g) := by
  cases h with
  | refused e => exact .refused e
  | decoded hab => exact hnext _ _ hab

theorem map {f g : α → β} (h : AlikeUpTo R r s) (hresult : ∀ a b, R a b → T (f a) (g b)) :
    AlikeUpTo T (f <$> r) (g <$> s) := by
  cases h with
  | refused e => exact .refused e
  | decoded hab => exact .decoded (hresult _ _ hab)

/-- A refusal is given its place without regard to what was decoded. -/
theorem placed (h : AlikeUpTo R r s) (o : Origin) (place : Nat) :
    AlikeUpTo R (Json.placed o place r) (Json.placed o place s) := by
  cases h with
  | refused e =>
    simp only [Json.placed]
    split <;> exact .refused _
  | decoded hab => exact .decoded hab

end AlikeUpTo

/-! ## Fields -/

namespace Fields

variable {V : String → Doc → Doc → Prop} {R : α → α → Prop}

/-- The fields take related states to related states, and in the end to related records, as long as
the members of one name are related. The names that were seen are the same on both sides. -/
structure Keeps (f : Fields α) (V : String → Doc → Doc → Prop) (S : f.State → f.State → Prop)
    (R : α → α → Prop) : Prop where
  start : S f.start f.start
  seen : ∀ key s t, S s t → f.seen key s = f.seen key t
  read : ∀ o key d e s t, f.has key = true → V key d e → S s t →
    AlikeUpTo S (f.read o key d s) (f.read o key e t)
  finish : ∀ s t, S s t → AlikeUpTo R (f.finish s) (f.finish t)

/-- Members that are related make up related records. -/
def Respects (f : Fields α) (V : String → Doc → Doc → Prop) (R : α → α → Prop) : Prop :=
  ∃ S : f.State → f.State → Prop, f.Keeps V S R

theorem respects_pure {a : α} (h : R a a) : (Fields.pure a).Respects V R :=
  ⟨Eq, rfl, fun _ _ _ _ => rfl, fun _ _ _ _ _ _ _ _ hst => .decoded hst, fun _ _ _ => .decoded h⟩

theorem respects_field {name : String} {decode : Decode α} {absent : Option α} {orderly : Bool}
    (hdecode : ∀ o d e, V name d e → AlikeUpTo R (decode o d) (decode o e))
    (habsent : ∀ a ∈ absent, R a a) : (field name decode absent orderly).Respects V R := by
  refine ⟨Option.Rel R, ⟨.none, fun key s t hst => ?_, fun o key d e s t hkey hv hst => ?_,
    fun s t hst => ?_⟩⟩
  · cases hst <;> rfl
  · obtain rfl : key = name := by simpa [field] using hkey
    exact (hdecode o d e hv).map fun _ _ => .some
  · cases hst with
    | some hab => exact .decoded hab
    | none =>
      -- Where the member is missing, the same value stands for it on both sides.
      cases absent with
      | none => exact .refused _
      | some a => exact .decoded (habsent a rfl)

/-- Fields that respect relations make up a record that does. -/
theorem Respects.apply {f : Fields (α → β)} {x : Fields α} {T : β → β → Prop}
    (hf : f.Respects V fun g h => ∀ a b, R a b → T (g a) (h b)) (hx : x.Respects V R) :
    (Fields.apply f x).Respects V T := by
  obtain ⟨S, hS⟩ := hf
  obtain ⟨U, hU⟩ := hx
  refine ⟨fun s t => S s.1 t.1 ∧ U s.2 t.2, ⟨⟨hS.start, hU.start⟩, ?_, ?_, ?_⟩⟩
  · rintro key s t ⟨hleft, hright⟩
    simp only [Fields.apply, hS.seen key _ _ hleft, hU.seen key _ _ hright]
  · rintro o key d e s t hkey hv ⟨hleft, hright⟩
    -- The first fields come first, and what they do not know is left to the others.
    cases hfirst : f.has key with
    | true =>
      simp only [Fields.apply, hfirst, if_true]
      exact (hS.read o key d e _ _ hfirst hv hleft).map fun _ _ h => ⟨h, hright⟩
    | false =>
      have hsecond : x.has key = true := by simpa [Fields.apply, hfirst] using hkey
      simp only [Fields.apply, hfirst, Bool.false_eq_true, if_false]
      exact (hU.read o key d e _ _ hsecond hv hright).map fun _ _ h => ⟨hleft, h⟩
  · rintro s t ⟨hleft, hright⟩
    exact (hS.finish _ _ hleft).bind fun g h hgh =>
      (hU.finish _ _ hright).bind fun a b hab => .decoded (hgh a b hab)

/-! ## Whole records -/

/-- The members of two objects have the same names in the same order, and related values. -/
def MembersAlike (V : String → Doc → Doc → Prop) : (ms ns : List (String × Json)) → Prop :=
  List.Forall₂ fun m n => m.1 = n.1 ∧ V m.1 (.ofJson m.2) (.ofJson n.2)

theorem Keeps.members {f : Fields α} {S : f.State → f.State → Prop} (h : f.Keeps V S R)
    (hskip : ∀ key d e, V key d e → skip d = skip e) (o : Origin) (ending : Ending)
    {ms ns : List (String × Json)} (hms : MembersAlike V ms ns) {s t : f.State} (hst : S s t) :
    AlikeUpTo R (f.members o (Doc.ofMembers ms) ending s)
      (f.members o (Doc.ofMembers ns) ending t) := by
  induction hms generalizing s t with
  | nil =>
    cases ending with
    | closed behind => exact (h.finish s t hst).placed o behind
    | broken fault ignored => exact .refused _
  | @cons m n ms ns hmn hrest ih =>
    obtain ⟨hname, hv⟩ := hmn
    simp only [Doc.ofMembers, Fields.members, ← hname]
    split
    next hkey =>
      rw [← h.seen m.1 s t hst]
      split
      next => exact .refused _
      next =>
        have hread := h.read o m.1 _ _ s t hkey hv hst
        exact (hread.placed o 0).bind fun _ _ hst' => ih hst'
    next =>
      -- Nobody looks at the value of a member without a field.
      rw [← hskip m.1 _ _ hv]
      exact (AlikeUpTo.refl (R := Eq) (fun _ => rfl) _).bind fun _ _ _ => ih hst

/-- **Side by side**: objects whose members are related are decoded to related records, or refused
for the same reason. -/
theorem Respects.decode {f : Fields α} (h : f.Respects V R)
    (hskip : ∀ key d e, V key d e → skip d = skip e) {ms ns : List (String × Json)}
    (hms : MembersAlike V ms ns) (typeName : String) (o : Origin) :
    AlikeUpTo R (f.decode typeName o (.ofJson (.object ms)))
      (f.decode typeName o (.ofJson (.object ns))) := by
  obtain ⟨S, hS⟩ := h
  exact hS.members hskip o (.closed 0) hms hS.start

end Fields

end ChangeFeed.Json

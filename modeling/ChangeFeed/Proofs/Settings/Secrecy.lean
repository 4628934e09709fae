import ChangeFeed.Proofs.Json.Parallel
import ChangeFeed.Proofs.SortedMap
import ChangeFeed.Settings.Codec

/-!
# Configuration of a reader: Secrecy

Nobody who is shown a configuration, or the properties of an engine, learns a secret from it. Two
configurations that differ in the password only cannot be told apart by what is shown of them, and
neither can two sets of properties that differ in secret values only. Whether options are accepted,
and why they are refused, does not depend on the password either.

## Main results

* `masked_congr`: masked properties tell nothing about secret values.
* `decode_alike`: options with different passwords are decoded side by side.
* `password_never_shows`: what is shown does not depend on the password.
-/

namespace ChangeFeed

open Json (Decode)
open Json.Fields (withDefault)

/-! ## Names that contain a mark -/

/-- A part occurs in a text where the text begins with it, or further behind. -/
theorem Text.occursIn_iff {part cs : List Char} : occursIn part cs = true ↔ part <:+: cs := by
  induction cs with
  | nil => simp [occursIn]
  | cons c cs ih =>
    rw [occursIn, Bool.or_eq_true, List.isPrefixOf_iff_prefix, ih, List.infix_cons_iff]

namespace EngineProperties

/-- A name that contains one of two words, in whatever letter case. -/
def HasMark (name : String) : Prop :=
  "password".toList <:+: (Text.lowercase name).toList ∨
    "secret".toList <:+: (Text.lowercase name).toList

theorem isSecret_iff {name : String} : isSecret name = true ↔ HasMark name := by
  simp only [isSecret, secretMarks, List.any_cons, List.any_nil, Bool.or_false, Bool.or_eq_true,
    Text.mentions, Text.occursIn_iff, HasMark]

theorem isSecret_eq_false_iff {name : String} : isSecret name = false ↔ ¬ HasMark name := by
  rw [← isSecret_iff, Bool.not_eq_true]

/-! ## Masked properties -/

variable {p q : EngineProperties}

/-- What is not secret is shown as it is. -/
theorem get?_masked_of_not_hasMark {key : String} (h : ¬ HasMark key) (p : EngineProperties) :
    p.masked.get? key = p.get? key := by
  rw [masked, SortedMap.get?_mapValues, isSecret_eq_false_iff.2 h]
  exact congrFun Option.map_id _

/-- Masked properties tell nothing about secret values. -/
theorem masked_congr (hkeys : ∀ key, p.contains key = q.contains key)
    (hopen : ∀ key, ¬ HasMark key → p.get? key = q.get? key) : p.masked = q.masked := by
  refine SortedMap.ext_get? fun key => ?_
  by_cases hmark : HasMark key
  · -- All that is left of a secret value is that there is one.
    have hkey : (p.get? key).isSome = (q.get? key).isSome := hkeys key
    rw [masked, masked, SortedMap.get?_mapValues, SortedMap.get?_mapValues, isSecret_iff.2 hmark]
    cases hp : p.get? key <;> cases hq : q.get? key <;> simp_all
  · rw [get?_masked_of_not_hasMark hmark, get?_masked_of_not_hasMark hmark, hopen key hmark]

/-- The text for people is that of the masked properties. -/
theorem text_congr (h : p.masked = q.masked) : p.text = q.text := by rw [text, text, h]

end EngineProperties

namespace ReaderSettings

/-! ## Configurations with different passwords -/

/-- The configurations differ in the password only, and both have one or neither has. -/
structure SameButPassword (c d : ReaderSettings) : Prop where
  others : d = { c with password := d.password }
  isSome : c.password.isSome = d.password.isSome

namespace SameButPassword

variable {c d : ReaderSettings}

/-- Whether a configuration is valid does not depend on the password. -/
theorem check_eq (h : SameButPassword c d) : c.check = d.check := by
  rw [h.others]
  rfl

theorem describe_eq (h : SameButPassword c d) : c.describe = d.describe := by
  -- Of the password, only that there is one is shown.
  have hshown : (c.password.map fun _ => Text.quoted redacted) =
      d.password.map fun _ => Text.quoted redacted := by
    have hsome := h.isSome
    cases hc : c.password <;> cases hd : d.password <;> simp_all
  rw [describe, describe, hshown, h.others]

/-- The properties of a run differ in a single value, which is a secret. -/
theorem masked_eq (h : SameButPassword c d) (session : String) (tables : List String)
    (start : Option ResumePoint) (batch : UInt64) (replica : UInt32) :
    (c.properties session tables start batch replica).masked =
      (d.properties session tables start batch replica).masked := by
  have hsecret : EngineProperties.isSecret "database.password" = true := by decide
  rw [h.others]
  -- The two lists of properties differ in one value, which is masked.
  cases start <;>
    simp only [properties, EngineProperties.masked, SortedMap.mapValues_insert,
      SortedMap.mapValues_ofList, List.map_cons, hsecret, if_true]

end SameButPassword

/-! ## Options with different passwords -/

/-- The members of one name are the same, or they are two texts that are given as the password. -/
def PasswordsAside (key : String) (d e : Json.Doc) : Prop :=
  d = e ∨ key = "password" ∧ ∃ p q, d = .ofJson (.string p) ∧ e = .ofJson (.string q)

/-- A password is passed over whatever it is. -/
theorem skip_of_passwordsAside {key : String} {d e : Json.Doc} (h : PasswordsAside key d e) :
    Json.skip d = Json.skip e := by
  obtain rfl | ⟨-, p, q, rfl, rfl⟩ := h
  · rfl
  · rfl

/-- Other fields do not look at the password. -/
theorem respects_other {α : Type} {name : String} (h : name ≠ "password") (decode : Decode α)
    (absent : α) : (withDefault name decode absent).Respects PasswordsAside Eq := by
  refine Json.Fields.respects_field (fun o d e hde => ?_) fun _ _ => rfl
  obtain rfl := hde.resolve_right fun hpassword => h hpassword.1
  exact .refl (fun _ => rfl) _

/-- Of two passwords, both are decoded. -/
theorem respects_password (absent : Option String) :
    (withDefault "password" (Json.decodeOption Json.decodeString) absent).Respects PasswordsAside
      fun x y => x.isSome = y.isSome := by
  refine Json.Fields.respects_field (fun o d e hde => ?_) fun _ _ => rfl
  obtain rfl | ⟨-, p, q, rfl, rfl⟩ := hde
  · exact .refl (R := fun x y : Option String => x.isSome = y.isSome) (fun _ => rfl) _
  · exact .decoded rfl

/-- Options that differ in the password are refused for the same reason, or tell configurations that
differ in the password. -/
theorem decode_alike {ms ns : List (String × Json)}
    (h : Json.Fields.MembersAlike PasswordsAside ms ns) :
    Json.AlikeUpTo SameButPassword (decode .value (.ofJson (.object ms)))
      (decode .value (.ofJson (.object ns))) := by
  -- Eleven fields stand in a row, and only the eighth of them is the password.
  refine Json.Fields.Respects.decode ?_ (fun _ _ _ => skip_of_passwordsAside) h _ _
  refine .apply ?_ (respects_other (by decide) _ _)
  refine .apply ?_ (respects_other (by decide) _ _)
  refine .apply ?_ (respects_other (by decide) _ _)
  refine .apply ?_ (respects_other (by decide) _ _)
  refine .apply ?_ (respects_other (by decide) _ _)
  refine .apply ?_ (respects_other (by decide) _ _)
  refine .apply ?_ (respects_other (by decide) _ _)
  refine .apply ?_ (respects_password _)
  refine .apply ?_ (respects_other (by decide) _ _)
  refine .apply ?_ (respects_other (by decide) _ _)
  refine .apply (Json.Fields.respects_pure ?_) (respects_other (by decide) _ _)
  rintro host _ rfl portNumber _ rfl user _ rfl p q hpassword database _ rfl sourceServer _ rfl
    replica _ rfl dialect _ rfl queueCapacity _ rfl pollTimeout _ rfl historyInterval _ rfl
  exact ⟨rfl, hpassword⟩

/-- Wherever the password stands among the options, the others stay where they are. -/
theorem membersAlike_insertEntry (options : List (String × Json)) (p q : String) :
    Json.Fields.MembersAlike PasswordsAside
      (SortedMap.insertEntry "password" (.string p) options)
      (SortedMap.insertEntry "password" (.string q) options) := by
  -- Apart from the password both have the same members, wherever it is put among them.
  have hsame : ∀ es : List (String × Json), Json.Fields.MembersAlike PasswordsAside es es :=
    fun es => List.forall₂_same.2 fun _ _ => ⟨rfl, .inl rfl⟩
  have hpasswords : PasswordsAside "password" (.ofJson (.string p)) (.ofJson (.string q)) :=
    .inr ⟨rfl, p, q, rfl, rfl⟩
  induction options with
  | nil => exact .cons ⟨rfl, hpasswords⟩ .nil
  | cons e es ih =>
    simp only [SortedMap.insertEntry]
    split
    next => exact .cons ⟨rfl, hpasswords⟩ (hsame _)
    next =>
      split
      next => exact .cons ⟨rfl, .inl rfl⟩ ih
      next => exact .cons ⟨rfl, hpasswords⟩ (hsame _)

/-- A configuration with one password is accepted if it is with another. -/
theorem ofJson_alike (options : SortedMap Json) (p q : String) :
    (∃ e, ofJson (.ofMap (options.insert "password" (.string p))) = .error e ∧
      ofJson (.ofMap (options.insert "password" (.string q))) = .error e) ∨
    ∃ c d, ofJson (.ofMap (options.insert "password" (.string p))) = .ok c ∧
      ofJson (.ofMap (options.insert "password" (.string q))) = .ok d ∧ SameButPassword c d := by
  have halike := decode_alike (membersAlike_insertEntry options.entries p q)
  simp only [ofJson, Json.decodeValue, Json.ofMap, SortedMap.insert]
  generalize decode .value (.ofJson (.object (SortedMap.insertEntry "password" (.string p)
    options.entries))) = given at halike ⊢
  generalize decode .value (.ofJson (.object (SortedMap.insertEntry "password" (.string q)
    options.entries))) = other at halike ⊢
  cases halike with
  | refused e => exact .inl ⟨_, rfl, rfl⟩
  | @decoded c d h =>
    -- Both configurations are checked, and the password is not among what is checked.
    have hcheck := h.check_eq
    cases hc : c.check with
    | error e =>
      rw [hc] at hcheck
      exact .inl ⟨e, by simp only [hc]; rfl, by simp only [← hcheck]; rfl⟩
    | ok _ =>
      rw [hc] at hcheck
      exact .inr ⟨c, d, by simp only [hc]; rfl, by simp only [← hcheck]; rfl, h⟩

/-! ## What is shown -/

/-- **The password never shows**: options that differ in the password only are both refused, for the
same reason, or both accepted, and then neither the configurations nor the properties of a run show
which is which. What is shown of properties does not depend on the values of secret ones, and it
tells everything else. -/
theorem password_never_shows :
    (∀ (options : SortedMap Json) (p q : String),
      (∃ e, ofJson (.ofMap (options.insert "password" (.string p))) = .error e ∧
        ofJson (.ofMap (options.insert "password" (.string q))) = .error e) ∨
      ∃ c d, ofJson (.ofMap (options.insert "password" (.string p))) = .ok c ∧
        ofJson (.ofMap (options.insert "password" (.string q))) = .ok d ∧
        c.describe = d.describe ∧
        ∀ session tables start batch replica,
          (c.properties session tables start batch replica).masked =
            (d.properties session tables start batch replica).masked ∧
          (c.properties session tables start batch replica).text =
            (d.properties session tables start batch replica).text) ∧
    (∀ p q : EngineProperties, (∀ key, p.contains key = q.contains key) →
      (∀ key, ¬ EngineProperties.HasMark key → p.get? key = q.get? key) →
      p.masked = q.masked ∧ p.text = q.text) ∧
    ∀ p : EngineProperties, p.masked.keys = p.keys ∧
      ∀ key, ¬ EngineProperties.HasMark key → p.masked.get? key = p.get? key := by
  -- What is shown is computed from the masked properties, which are the same.
  refine ⟨fun options p q => ?_, fun p q hkeys hopen => ?_, fun p => ⟨?_, fun key hmark => ?_⟩⟩
  · obtain hrefused | ⟨c, d, hc, hd, h⟩ := ofJson_alike options p q
    · exact .inl hrefused
    · refine .inr ⟨c, d, hc, hd, h.describe_eq, fun session tables start batch replica => ?_⟩
      have hmasked := h.masked_eq session tables start batch replica
      exact ⟨hmasked, EngineProperties.text_congr hmasked⟩
  · have hmasked : p.masked = q.masked := EngineProperties.masked_congr hkeys hopen
    exact ⟨hmasked, EngineProperties.text_congr hmasked⟩
  · exact SortedMap.keys_mapValues _ p
  · exact EngineProperties.get?_masked_of_not_hasMark hmark p

/-- Two readers of a shop differ in the password, and two sets of properties in a secret value whose
name is partly in capitals. -/
theorem hunter2_never_shows :
    (∃ c d, ofJson (.ofMap ((SortedMap.ofList
        [("database", .string "shop"), ("user", .string "cdc")]).insert "password"
          (.string "hunter2"))) = .ok c ∧
      ofJson (.ofMap ((SortedMap.ofList
        [("database", .string "shop"), ("user", .string "cdc")]).insert "password"
          (.string "s3cr3t"))) = .ok d ∧
      c.password ≠ d.password ∧ c.describe = d.describe) ∧
    EngineProperties.text (.ofList [("a", "1"), ("ssl.keystore.SECRET", "hunter2")]) =
      EngineProperties.text (.ofList [("a", "1"), ("ssl.keystore.SECRET", "s3cr3t")]) := by
  refine ⟨?_, (password_never_shows.2.1 _ _ (fun key => ?_) fun key hmark => ?_).2⟩
  · obtain ⟨e, he, -⟩ | ⟨c, d, hc, hd, hshown, -⟩ := password_never_shows.1
      (.ofList [("database", .string "shop"), ("user", .string "cdc")]) "hunter2" "s3cr3t"
    · cases he
    · refine ⟨c, d, hc, hd, ?_, hshown⟩
      cases hc
      cases hd
      decide
  · simp only [SortedMap.contains, SortedMap.ofList, List.foldl_cons, List.foldl_nil,
      SortedMap.get?_insert, SortedMap.get?_empty]
    split
    next => rfl
    next => split <;> rfl
  · -- The names that the values differ at are secret.
    have hkey : key ≠ "ssl.keystore.SECRET" := by
      rintro rfl
      exact hmark (EngineProperties.isSecret_iff.1 (by decide))
    simp only [SortedMap.ofList, List.foldl_cons, List.foldl_nil, SortedMap.get?_insert,
      SortedMap.get?_empty, if_neg hkey]

end ReaderSettings

end ChangeFeed

import ChangeFeed.Proofs.Store.Refinement

/-!
# Stores: Files: Interruptions

A program can be interrupted behind every step that it takes in its directory, and in the middle of
a text that it writes. As long as only the draft of a file is written, no store that is opened later
can tell; and once the draft has taken the place of the file, the new value is there as a whole.

## Main results

* `alike_of_drafting`: steps that write a draft change nothing that a store can tell.
* `drafting_or_all`: a cut through the steps of writing leaves a draft at most, or none was cut.
* `interruption_is_atomic`: what is found after an interruption.
-/

namespace ChangeFeed

/-! ## Steps that are cut short -/

/-- What is done of some steps when the program is interrupted: those in front, and of a text that
is being written some of the first bytes. -/
inductive Directory.CutShort : (steps done : List Step) → Prop where
  | here (steps : List Step) : CutShort steps []
  | within (name : String) {content part : List UInt8} (h : part <+: content) (steps : List Step) :
    CutShort (.append name content :: steps) [.append name part]
  | later (step : Step) {steps done : List Step} (h : CutShort steps done) :
    CutShort (step :: steps) (step :: done)

namespace FileStore

open Directory (blocked CutShort)

variable {key : String} {value : Json} {d d' : Directory} {steps done : List Directory.Step}

/-! ## Writing a draft -/

/-- A step that empties the draft of a key, or writes to it. -/
def Drafts (key : String) : Directory.Step → Prop
  | .truncate name => name = draftName key
  | .append name _ => name = draftName key
  | _ => False

/-- What a draft holds does not matter. -/
theorem alike_insert_draft (h : d.get? (draftName key) ≠ some .directory) (content : List UInt8) :
    Alike (ofDirectory d) (ofDirectory (d.insert (draftName key) (.file content))) := by
  have halike : Alike ⟨d, .empty⟩ ⟨d.insert (draftName key) (.file content), .empty⟩ := by
    -- No file of any key has the name of a draft.
    refine ⟨fun other => ?_, fun other => ?_, fun _ _ => rfl⟩
    · rw [SortedMap.get?_insert, if_neg (fileName_ne_draftName other key)]
    · rw [SortedMap.get?_insert]
      split
      next hsame =>
        rw [hsame]
        exact ⟨fun hdirectory => absurd hdirectory h, nofun⟩
      next => rfl
  exact halike.reopen

/-- **One step**: to write to a draft changes nothing that a store can tell. -/
theorem alike_of_take {step : Directory.Step} (hstep : Drafts key step)
    (htake : d.take step = .ok d') : Alike (ofDirectory d) (ofDirectory d') := by
  -- A draft is truncated and added to under its own name, and nothing else is done to it.
  cases step with
  | truncate name =>
    obtain rfl : name = draftName key := hstep
    rw [Directory.take_truncate] at htake
    cases hblocked : blocked d (draftName key) with
    | some fault =>
      rw [hblocked] at htake
      cases htake
    | none =>
      rw [hblocked] at htake
      obtain rfl := Except.ok.inj htake
      exact alike_insert_draft (Directory.ne_directory_of_blocked hblocked) _
  | append name content =>
    obtain rfl : name = draftName key := hstep
    obtain ⟨before, hbefore, rfl⟩ := Directory.eq_insert_of_take_append htake
    exact alike_insert_draft (by simp [hbefore]) _
  | move name target => exact hstep.elim
  | unlink name => exact hstep.elim

/-- **Runs**: however far the draft was written, nothing has changed that a store can tell. -/
theorem alike_of_drafting (h : ∀ step ∈ steps, Drafts key step) (d : Directory) :
    Alike (ofDirectory d) (ofDirectory (d.takeAll steps).2) := by
  -- Every directory on the way is like the one before, so the induction is over all of them.
  induction steps generalizing d with
  | nil => exact Alike.refl _
  | cons step steps ih =>
    rw [List.forall_mem_cons] at h
    rw [Directory.takeAll]
    cases htake : d.take step with
    | error fault => exact Alike.refl _
    | ok next => exact (alike_of_take h.1 htake).trans (ih h.2 next)

/-- A cut leaves a draft at most, unless the draft has already taken the place of the file. -/
theorem drafting_or_all (h : CutShort (writing key value) done) :
    (∀ step ∈ done, Drafts key step) ∨ done = writing key value := by
  -- The cut is looked for from the first step on: in front of it, within its text, or later.
  obtain _ | _ | ⟨_, h⟩ := h
  · exact .inl nofun
  obtain _ | ⟨_, hpart, _⟩ | ⟨_, h⟩ := h
  · exact .inl (by simp [Drafts])
  · exact .inl (by simp [Drafts])
  obtain _ | _ | ⟨_, h⟩ := h
  · exact .inl (by simp [Drafts])
  obtain _ | _ | _ := h
  exact .inr rfl

/-! ## What is found afterwards -/

theorem read_ofDirectory (hkey : isValidKey key = true) (d : Directory) :
    (ofDirectory d).read key = .ok (held d key) := by
  rw [read, if_pos hkey, ofDirectory, get?_valuesIn d (ne_empty_of_isValidKey hkey)]

/-- A key is answered from its own file. -/
theorem read_congr (h : d.get? (fileName key) = d'.get? (fileName key)) :
    (ofDirectory d).read key = (ofDirectory d').read key := by
  -- A key that is not valid is refused without a look at the files.
  by_cases hkey : isValidKey key = true
  · rw [read_ofDirectory hkey, read_ofDirectory hkey, held, held, h]
  · rw [read, read, if_neg hkey, if_neg hkey]

/-- Whether a value can be written depends on what stands in its way. -/
theorem write_congr (hdraft : blocked d (draftName key) = blocked d' (draftName key))
    (hfile : blocked d (fileName key) = blocked d' (fileName key)) (value other : Json) :
    ((ofDirectory d).write key value).1 = ((ofDirectory d').write key other).1 := by
  by_cases hkey : isValidKey key = true
  · simp only [write_eq hkey, ofDirectory, hdraft, hfile]
    cases blocked d' (draftName key) with
    | some fault => rfl
    | none => cases blocked d' (fileName key) <;> rfl
  · rw [write, write, if_neg hkey, if_neg hkey]

/-- What a store answers that is opened on a directory in which a call on a key was interrupted. -/
structure Recovers (before after : Directory) (key : String) (new : Option Json) : Prop where
  /-- The key has its old value or the new one. -/
  own : (ofDirectory after).read key = (ofDirectory before).read key ∨
    (ofDirectory after).read key = .ok new
  /-- The other keys have the values that they had. -/
  others : ∀ other, other ≠ key → (ofDirectory after).read other = (ofDirectory before).read other
  /-- A value can be written if one could be written before. -/
  writes : ∀ value later,
    ((ofDirectory after).write key later).1 = ((ofDirectory before).write key value).1

theorem recovers_of_alike (h : Alike (ofDirectory d) (ofDirectory d')) (key : String)
    (new : Option Json) : Recovers d d' key new :=
  ⟨.inl (h.read key).symm, fun other _ => (h.read other).symm, fun value later =>
    (write_congr (h.blocked_draftName key) (h.blocked_fileName key) value later).symm⟩

/-- After a put the new value is read. -/
theorem read_published (hkey : isValidKey key = true) {content : List UInt8}
    (hread : valueOf? (.file content) = some value) (d : Directory) :
    (ofDirectory (published d key content)).read key = .ok (some value) := by
  rw [read_ofDirectory hkey, held, get?_published, if_pos rfl, Option.bind_some, hread]

theorem read_erased (hkey : isValidKey key = true) (d : Directory) :
    (ofDirectory (d.erase (fileName key))).read key = .ok none := by
  rw [read_ofDirectory hkey, held, SortedMap.get?_erase, if_pos rfl, Option.bind_none]

/-- The move of the draft makes the change, all at once. -/
theorem recovers_published (hkey : isValidKey key = true)
    (hdraft : blocked d (draftName key) = none) (hfile : blocked d (fileName key) = none)
    {content : List UInt8} (hread : valueOf? (.file content) = some value) :
    Recovers d (published d key content) key (some value) := by
  refine ⟨.inr (read_published hkey hread d), fun other hother => ?_,
    fun _ _ => (write_congr ?_ ?_ _ _).symm⟩
  · -- No other key has this file, and no key has the draft.
    refine read_congr ?_
    rw [get?_published, if_neg fun heq => hother (fileName_injective heq),
      if_neg (fileName_ne_draftName other key)]
  · refine Directory.blocked_congr ?_
    rw [get?_published, if_neg (fileName_ne_draftName key key).symm, if_pos rfl]
    exact iff_of_false (Directory.ne_directory_of_blocked hdraft) (by simp)
  · refine Directory.blocked_congr ?_
    rw [get?_published, if_pos rfl]
    exact iff_of_false (Directory.ne_directory_of_blocked hfile) (by simp)

/-- So does the removal of the file. -/
theorem recovers_erased (hkey : isValidKey key = true)
    (hfile : blocked d (fileName key) = none) :
    Recovers d (d.erase (fileName key)) key none := by
  -- The file of the key is gone, and no other one was touched.
  refine ⟨.inr (read_erased hkey d), fun other hother => ?_,
    fun _ _ => (write_congr ?_ ?_ _ _).symm⟩
  · refine read_congr ?_
    rw [SortedMap.get?_erase, if_neg fun heq => hother (fileName_injective heq)]
  · refine Directory.blocked_congr ?_
    rw [SortedMap.get?_erase, if_neg (fileName_ne_draftName key key).symm]
  · refine Directory.blocked_congr ?_
    rw [SortedMap.get?_erase, if_pos rfl]
    exact iff_of_false (Directory.ne_directory_of_blocked hfile) (by simp)

/-! ## Interrupted calls -/

/-- Up to its last step, a put only writes to the draft. -/
theorem recovers_of_writing (hkey : isValidKey key = true)
    (hread : valueOf? (.file (Text.Utf8.encode value.pretty)) = some value) (d : Directory)
    (h : CutShort (writing key value) done) : Recovers d (d.takeAll done).2 key (some value) := by
  obtain hdrafting | rfl := drafting_or_all h
  · exact recovers_of_alike (alike_of_drafting hdrafting d) key _
  · rw [takeAll_writing]
    -- If the draft or the file is blocked, the put fails and the old value stays.
    cases hdraft : blocked d (draftName key) with
    | some fault => exact recovers_of_alike (Alike.refl _) key _
    | none =>
      cases hfile : blocked d (fileName key) with
      | some fault =>
        -- Nothing was cut, but the draft cannot take the place of the file.
        have halike := alike_drafted (s := ofDirectory d) hdraft (Text.Utf8.encode value.pretty)
        exact recovers_of_alike halike.reopen key _
      | none => exact recovers_published hkey hdraft hfile hread

/-- What stands under the name of the file is removed, if anything does. -/
theorem cases_of_removing (h : removing d key = .ok steps) :
    Directory.checkName (fileName key) = .ok () ∧
      (steps = [] ∨ steps = [.unlink (fileName key)] ∧
        ∃ entry, d.get? (fileName key) = some entry) := by
  -- A name that cannot be used stops the removal before its first step.
  cases hcheck : Directory.checkName (fileName key) with
  | error fault =>
    simp only [removing, Directory.find, hcheck, bind, Except.bind] at h
    cases h
  | ok _ =>
    rw [removing_eq hcheck] at h
    obtain rfl := Except.ok.inj h
    refine ⟨rfl, ?_⟩
    split
    next hentry => exact .inr ⟨rfl, Option.isSome_iff_exists.1 hentry⟩
    next => exact .inl rfl

/-- A removal has one step at most. -/
theorem recovers_of_removing (hkey : isValidKey key = true) (hsteps : removing d key = .ok steps)
    (h : CutShort steps done) : Recovers d (d.takeAll done).2 key none := by
  have hnothing : Recovers d d key none := recovers_of_alike (Alike.refl _) key none
  obtain ⟨hcheck, rfl | ⟨rfl, entry, hentry⟩⟩ := cases_of_removing hsteps
  · obtain _ | _ | _ := h
    exact hnothing
  -- There is one step, and it is either taken or not.
  · obtain _ | _ | ⟨_, h⟩ := h
    · exact hnothing
    obtain _ | _ | _ := h
    rw [Directory.takeAll, Directory.take_unlink hcheck hentry]
    cases entry with
    | directory => exact hnothing
    | file content =>
      have hfile : blocked d (fileName key) = none := by simp [blocked, hcheck, hentry]
      exact recovers_erased hkey hfile

/-- **Interruptions**: whatever a directory holds, and wherever a call that puts or removes a value
is interrupted, the store that is opened on what is left answers the key with the old value or the
new one, answers all other keys as before, and lets a value be put under the key if one could be put
there before. A call that succeeds leaves the new value. It is taken for granted that the whole text
of the new value is read as that value. -/
theorem interruption_is_atomic (d : Directory) {key : String} (hkey : isValidKey key = true) :
    (∀ value, valueOf? (.file (Text.Utf8.encode value.pretty)) = some value →
      (∀ done, CutShort (writing key value) done →
        Recovers d (d.takeAll done).2 key (some value)) ∧
      (((ofDirectory d).write key value).1 = .ok () →
        ((ofDirectory d).write key value).2.reopen.read key = .ok (some value))) ∧
    (∀ steps, removing d key = .ok steps → ∀ done, CutShort steps done →
      Recovers d (d.takeAll done).2 key none) ∧
    (((ofDirectory d).discard key).1 = .ok () →
      ((ofDirectory d).discard key).2.reopen.read key = .ok none) := by
  -- What remains after an interruption is settled by the lemmas on writing and removing; a call
  -- that succeeds has taken all of its steps.
  refine ⟨fun value hread => ⟨fun done hdone => ?_, fun hwritten => ?_⟩,
    fun steps hsteps done hdone => ?_, fun hdiscarded => ?_⟩
  · exact recovers_of_writing hkey hread d hdone
  · rw [write_of_ok hwritten]
    exact read_published hkey hread d
  · exact recovers_of_removing hkey hsteps hdone
  · rw [discard_of_ok hdiscarded]
    exact read_erased hkey d

/-- A directory with two values. -/
def twoValues : Directory :=
  ⟨[("a.json", .file (Text.Utf8.encode "1")), ("b.json", .file (Text.Utf8.encode "true"))],
    by decide⟩

/-- The program is interrupted when it has written the first bytes of a new value, and when it has
removed a file. -/
theorem twoValues_recovers :
    Recovers twoValues (twoValues.takeAll [.truncate "a.tmp", .append "a.tmp" [0x5b, 0x0a]]).2 "a"
      (some (.array [.int 1, .null])) ∧
    (twoValues.takeAll [.truncate "a.tmp", .append "a.tmp" [0x5b, 0x0a]]).2.get? "a.tmp" =
      some (.file [0x5b, 0x0a]) ∧
    Recovers twoValues (twoValues.takeAll [.unlink "b.json"]).2 "b" none ∧
    (twoValues.takeAll [.unlink "b.json"]).2.get? "b.json" = none := by
  -- What the file holds is read back as the value.
  have hread : valueOf? (.file (Text.Utf8.encode (Json.array [.int 1, .null]).pretty)) =
      some (.array [.int 1, .null]) := by
    refine valueOf?_pretty ?_ (n := 1) ⟨?_, by decide⟩ (by decide) <;>
      simp [Json.Ordered, Json.OrderedItems, Json.Exact, Json.ExactItems]
  obtain ⟨hput, -⟩ := interruption_is_atomic twoValues (show isValidKey "a" = true by decide)
  obtain ⟨-, hremove, -⟩ := interruption_is_atomic twoValues (show isValidKey "b" = true by decide)
  refine ⟨(hput _ hread).1 _ (.later _ (.within _ ?_ _)), rfl,
    hremove _ rfl _ (.later _ (.here [])), rfl⟩
  exact ⟨_, rfl⟩

end FileStore

end ChangeFeed

import ChangeFeed.Proofs.Directory
import ChangeFeed.Proofs.Json.Decoding
import ChangeFeed.Proofs.Store
import ChangeFeed.Proofs.Text.Utf8
import ChangeFeed.Store.File

/-!
# Stores: Files: Operations

The names of the files of different keys are different, and no file of values is ever a draft. So
all that an operation does depends on two names of the directory: that of the file and that of the
draft.

## Main results

* `get?_valuesIn`: an opened store knows what the files hold.
* `valueOf?_pretty`: what was written is read back.
* `write_eq`, `discard_eq`: what an operation does, by the two names that it is about.
-/

namespace ChangeFeed.FileStore

open Directory (blocked)

/-! ## Names -/

variable {key other : String}

/-- No two keys have the same file. -/
theorem fileName_injective (h : fileName key = fileName other) : key = other := by
  have hchars := congrArg String.toList h
  simp only [fileName, String.toList_append] at hchars
  exact String.toList_injective (List.append_cancel_right hchars)

/-- The last characters tell a file from a draft. -/
theorem fileName_ne_draftName (key other : String) : fileName key ≠ draftName other := by
  intro h
  have hlast := congrArg (fun s => s.toList.getLast?) h
  simp [fileName, draftName, ending] at hlast

theorem toList_fileName (key : String) : (fileName key).toList = key.toList ++ ending := by
  rw [fileName, String.toList_append, String.toList_ofList]

/-- A file is that of the key that its name begins with. -/
theorem keyOf?_eq_some_iff {name : String} :
    keyOf? name = some key ↔ key ≠ "" ∧ name = fileName key := by
  unfold keyOf?
  dsimp only
  constructor
  · -- The stem of the name is the key, so the two name the same file.
    intro h
    split at h
    next => cases h
    next hstem =>
      simp only [not_or, Classical.not_not, Option.some.injEq, List.isEmpty_iff] at hstem h
      refine ⟨?_, ?_⟩
      · rintro rfl
        exact hstem.1 (by simpa using congrArg String.toList h)
      · refine String.toList_injective ?_
        rw [toList_fileName, ← h, String.toList_ofList, hstem.2]
  · -- The ending is cut off, and what is left is not empty.
    rintro ⟨hne, rfl⟩
    have hstem : (fileName key).toList.take ((fileName key).toList.length - ending.length) =
        key.toList := by
      rw [toList_fileName, List.length_append, Nat.add_sub_cancel, List.take_left]
    have hsome : ¬ key.toList = [] := fun hnil => hne (String.toList_injective hnil)
    rw [hstem, toList_fileName, if_neg (by simpa using hsome), String.ofList_toList]

/-! ## Opening -/

/-- The value that the file of a key holds. -/
def held (d : Directory) (key : String) : Option Json := (d.get? (fileName key)).bind valueOf?

/-- What was written is read back. -/
theorem valueOf?_pretty {v : Json} (hordered : v.Ordered) {n : Nat} (hfits : v.Fits n)
    (hdepth : n < Json.maxDepth) : valueOf? (.file (Text.Utf8.encode v.pretty)) = some v := by
  have hparse : Json.parse v.pretty = .ok v :=
    Json.parse_of_spells hordered hfits hdepth (Json.spells_pretty v)
  simp [valueOf?, Text.Utf8.text?_encode, hparse, Except.toOption]

/-- What a file counts for: the key that its name tells, with its value. -/
def valueAt? (e : String × DirectoryEntry) : Option (String × Json) := do
  return (← keyOf? e.1, ← valueOf? e.2)

/-- An entry counts for a key if it is named for it and holds a value. -/
theorem valueAt?_eq_some_iff {e : String × DirectoryEntry} {v : Json} :
    valueAt? e = some (key, v) ↔ (key ≠ "" ∧ e.1 = fileName key) ∧ valueOf? e.2 = some v := by
  rw [← keyOf?_eq_some_iff]
  cases hkey : keyOf? e.1 <;> cases hvalue : valueOf? e.2 <;> simp [valueAt?, hkey, hvalue]

/-- Files are passed one by one, and each counts for its own key. -/
theorem get?_foldl_values (hkey : key ≠ "") (m : SortedMap Json)
    {es : List (String × DirectoryEntry)} (hsorted : es.Pairwise fun a b => a.1 < b.1) :
    ((es.filterMap valueAt?).foldl (fun m e => m.insert e.1 e.2) m).get? key =
      ((es.lookup (fileName key)).bind valueOf?).or (m.get? key) := by
  -- The induction is on the entries, which are sorted by name and so name no key twice.
  induction es generalizing m with
  | nil => rfl
  | cons e es ih =>
    obtain ⟨hfirst, hsorted⟩ := List.pairwise_cons.1 hsorted
    by_cases hname : e.1 = fileName key
    · -- Behind the file of the key, there is no other of the same name.
      have hrest : es.lookup (fileName key) = none :=
        SortedMap.lookup_of_lt (hname ▸ hfirst)
      rw [SortedMap.lookup_entry, if_pos hname.symm, Option.bind_some]
      cases hvalue : valueOf? e.2 with
      | none =>
        have hnone : valueAt? e = none := Option.eq_none_iff_forall_ne_some.2 fun ⟨k, v⟩ hsome => by
          rw [(valueAt?_eq_some_iff.1 hsome).2] at hvalue
          cases hvalue
        rw [List.filterMap_cons_none hnone, ih m hsorted, hrest]
        rfl
      | some v =>
        have hsome : valueAt? e = some (key, v) := valueAt?_eq_some_iff.2 ⟨⟨hkey, hname⟩, hvalue⟩
        rw [List.filterMap_cons_some hsome, List.foldl_cons, ih _ hsorted, hrest,
          SortedMap.get?_insert_self]
        rfl
    · rw [SortedMap.lookup_entry, if_neg (Ne.symm hname)]
      cases hvalue : valueAt? e with
      | none => rw [List.filterMap_cons_none hvalue, ih m hsorted]
      | some kv =>
        have hne : key ≠ kv.1 := fun heq => by
          subst heq
          exact hname (valueAt?_eq_some_iff.1 hvalue).1.2
        rw [List.filterMap_cons_some hvalue, List.foldl_cons, ih _ hsorted, SortedMap.get?_insert,
          if_neg hne]

/-- An opened store knows what the files hold. -/
theorem get?_valuesIn (d : Directory) (hkey : key ≠ "") : (valuesIn d).get? key = held d key := by
  have hvalues := get?_foldl_values hkey .empty d.sorted
  rw [SortedMap.get?_empty, Option.or_none] at hvalues
  exact hvalues

/-! ## Operations -/

variable {d : Directory} {s t : FileStore}

/-- The directory after a draft was written. -/
def drafted (d : Directory) (key : String) (content : List UInt8) : Directory :=
  (d.insert (draftName key) (.file [])).insert (draftName key) (.file content)

/-- The directory after the draft took the place of the file. -/
def published (d : Directory) (key : String) (content : List UInt8) : Directory :=
  ((drafted d key content).erase (draftName key)).insert (fileName key) (.file content)

/-- A draft changes only the entry of its own name. -/
theorem get?_drafted (d : Directory) (key : String) (content : List UInt8) (name : String) :
    (drafted d key content).get? name =
      if name = draftName key then some (.file content) else d.get? name := by
  simp only [drafted, SortedMap.get?_insert]
  split <;> rfl

/-- After the move the new content is in the file, and the draft is gone. -/
theorem get?_published (d : Directory) (key : String) (content : List UInt8) (name : String) :
    (published d key content).get? name =
      if name = fileName key then some (.file content)
      else if name = draftName key then none else d.get? name := by
  simp only [published, SortedMap.get?_insert, SortedMap.get?_erase, get?_drafted]
  split
  · rfl
  · split <;> rfl

/-- The steps of writing go as far as the names let them. -/
theorem takeAll_writing (d : Directory) (key : String) (value : Json) :
    d.takeAll (writing key value) =
      match blocked d (draftName key) with
      | some fault => (.error fault, d)
      | none =>
        match blocked d (fileName key) with
        | some fault => (.error fault, drafted d key (Text.Utf8.encode value.pretty))
        | none => (.ok (), published d key (Text.Utf8.encode value.pretty)) := by
  rw [writing, Directory.takeAll, Directory.take_truncate]
  cases hdraft : blocked d (draftName key) with
  | some fault => rfl
  | none =>
    have hcheck := Directory.checkName_of_blocked hdraft
    have happend : Directory.take (d.insert (draftName key) (.file []))
        (.append (draftName key) (Text.Utf8.encode value.pretty)) =
          .ok (drafted d key (Text.Utf8.encode value.pretty)) :=
      Directory.take_append hcheck (SortedMap.get?_insert_self d _ _) _
    have hfile : (drafted d key (Text.Utf8.encode value.pretty)).get? (draftName key) =
        some (.file (Text.Utf8.encode value.pretty)) := by rw [get?_drafted, if_pos rfl]
    -- The draft does not stand in the way of the file.
    have hsame : blocked (drafted d key (Text.Utf8.encode value.pretty)) (fileName key) =
        blocked d (fileName key) :=
      Directory.blocked_congr (by rw [get?_drafted, if_neg (fileName_ne_draftName key key)])
    have hmove := Directory.take_move hcheck hfile (fileName key)
    rw [hsame] at hmove
    simp only [Directory.takeAll, happend, hmove]
    cases hblocked : blocked d (fileName key) <;> rfl

/-- A put fails at the draft, fails at the file, or does what it should. -/
theorem write_eq (hkey : isValidKey key = true) (s : FileStore) (value : Json) :
    s.write key value =
      match blocked s.directory (draftName key) with
      | some fault => (.error (ioError fault), s)
      | none =>
        match blocked s.directory (fileName key) with
        | some fault =>
          (.error (ioError fault),
            ⟨drafted s.directory key (Text.Utf8.encode value.pretty), s.known⟩)
        | none =>
          (.ok (), ⟨published s.directory key (Text.Utf8.encode value.pretty),
            s.known.insert key value⟩) := by
  -- The draft is written first, and the file is replaced by it.
  rw [write, if_pos hkey, perform, takeAll_writing]
  cases hdraft : blocked s.directory (draftName key) with
  | some fault => rfl
  | none => cases hfile : blocked s.directory (fileName key) <;> rfl

/-- Writing succeeds only by putting the draft in the place of the file. -/
theorem write_of_ok {value : Json} (h : (s.write key value).1 = .ok ()) :
    (s.write key value).2 = ⟨published s.directory key (Text.Utf8.encode value.pretty),
      s.known.insert key value⟩ := by
  by_cases hkey : isValidKey key = true
  · rw [write_eq hkey] at h ⊢
    cases hdraft : blocked s.directory (draftName key) with
    | some fault =>
      rw [hdraft] at h
      cases h
    | none =>
      -- Only the third way gives no error.
      cases hfile : blocked s.directory (fileName key) with
      | some fault =>
        rw [hdraft, hfile] at h
        cases h
      | none => rfl
  · rw [write, if_neg hkey] at h
    cases h

/-- A store of files answers from memory, which follows the writes that succeed. -/
instance : LawfulStore FileStore where
  value s := s.known.get?
  value_get _ _ _ := rfl
  get_eq {s key found} h := by
    have hread : s.read key = .ok found := h
    unfold read at hread
    split at hread
    · exact (Except.ok.inj hread).symm
    · cases hread
  -- The value is known exactly if it was written.
  value_put s key v other := by
    show (s.write key v).2.known.get? other =
      if other = key ∧ (s.write key v).1.isOk = true then _ else _
    by_cases hok : (s.write key v).1 = .ok ()
    · rw [write_of_ok hok, hok, SortedMap.get?_insert]
      simp [Except.isOk, Except.toBool]
    · have hfailed : (s.write key v).1.isOk = false ∧ (s.write key v).2.known = s.known := by
        unfold write perform at hok ⊢
        split at hok
        next hkey =>
          rw [if_pos hkey]
          split at hok
          next => exact absurd rfl hok
          next => simp [Except.isOk, Except.toBool]
        next hkey => simp [hkey, Except.isOk, Except.toBool]
      simp [hfailed.1, hfailed.2]

theorem removing_eq (hcheck : Directory.checkName (fileName key) = .ok ()) (d : Directory) :
    removing d key =
      .ok (if (d.get? (fileName key)).isSome then [.unlink (fileName key)] else []) := by
  simp only [removing, Directory.find_of_checkName hcheck, bind, Except.bind]
  cases d.get? (fileName key) <;> rfl

theorem discard_eq (hkey : isValidKey key = true) (s : FileStore) :
    s.discard key =
      match blocked s.directory (fileName key) with
      | some fault => (.error (ioError fault), s)
      | none => (.ok (), ⟨s.directory.erase (fileName key), s.known.erase key⟩) := by
  rw [discard, if_pos hkey]
  unfold blocked
  cases hcheck : Directory.checkName (fileName key) with
  | error fault => simp only [removing, Directory.find, hcheck, bind, Except.bind]
  | ok _ =>
    cases hentry : s.directory.get? (fileName key) with
    | none =>
      -- There is nothing to remove.
      simp only [removing_eq hcheck, hentry, perform, Option.isSome_none, Bool.false_eq_true,
        if_false, Directory.takeAll, SortedMap.erase_of_get?_eq_none hentry]
      rfl
    | some entry =>
      simp only [removing_eq hcheck, hentry, perform, Option.isSome_some, if_true,
        Directory.takeAll, Directory.take_unlink hcheck hentry]
      cases entry <;> rfl

theorem discard_of_ok (h : (s.discard key).1 = .ok ()) :
    (s.discard key).2 = ⟨s.directory.erase (fileName key), s.known.erase key⟩ := by
  -- A removal fails at the file, or it is done.
  by_cases hkey : isValidKey key = true
  · rw [discard_eq hkey] at h ⊢
    cases hfile : blocked s.directory (fileName key) with
    | some fault =>
      rw [hfile] at h
      cases h
    | none => rfl
  · rw [discard, if_neg hkey] at h
    cases h

end ChangeFeed.FileStore

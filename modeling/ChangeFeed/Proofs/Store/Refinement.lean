import ChangeFeed.Proofs.Store.File
import ChangeFeed.Store.Memory

/-!
# Stores: Files: As good as memory

A store in files answers as a map in memory does that started with what the files held and took part
in every call that succeeded. Starting the program again in between makes no difference. A call that
fails may leave a draft behind, but no later call can tell.

## Main results

* `Alike.step`: stores whose files are the same answer the same, whatever drafts they hold.
* `Agrees.step`: a call keeps the store, its files and the map in memory together.
* `behaves_like_memory`: every run of calls and restarts.
-/

namespace ChangeFeed

/-! ## Calls -/

/-- A call of a store. -/
inductive Store.Call where
  | get (key : String)
  | put (key : String) (value : Json)
  | remove (key : String)

namespace Store.Call

variable {σ : Type} [Store σ]

/-- The call as an operation. One that changes the store has no value as its answer. -/
def run : Call → Access σ (Option Json)
  | .get key => Store.get key
  | .put key value => do
    Store.put key value
    return none
  | .remove key => do
    Store.remove key
    return none

/-- What a call answers. -/
def answer (c : Call) (s : σ) : Result (Option Json) := (c.run.run s).1

/-- The key that a call may change. -/
def changes? : Call → Option String
  | .get _ => none
  | .put key _ => some key
  | .remove key => some key

end Store.Call

open Store (Call)

namespace FileStore

open Directory (blocked)

/-- What happens to a store: it is called, or the program is started again. -/
inductive Move where
  | call (c : Call)
  | restart

def step (s : FileStore) : Move → Result (Option Json) × FileStore
  | .call c => c.run.run s
  | .restart => (.ok none, s.reopen)

/-- The store after a run. -/
def after (s : FileStore) (moves : List Move) : FileStore :=
  moves.foldl (fun s move => (s.step move).2) s

/-- The answers of a run. -/
def answers (s : FileStore) : List Move → List (Result (Option Json))
  | [] => []
  | move :: moves => (s.step move).1 :: (s.step move).2.answers moves

variable {key : String} {s t : FileStore}

/-- A put answers whether it succeeded. -/
theorem step_put (s : FileStore) (key : String) (value : Json) :
    s.step (.call (.put key value)) =
      ((s.write key value).1.map fun _ => none, (s.write key value).2) := by
  have hput : (Store.put key value : Access FileStore Unit).run s = s.write key value := rfl
  rw [step, Call.run, Access.run_bind, hput]
  rcases s.write key value with ⟨_ | _, _⟩ <;> rfl

/-- So does a removal. -/
theorem step_remove (s : FileStore) (key : String) :
    s.step (.call (.remove key)) =
      ((s.discard key).1.map fun _ => none, (s.discard key).2) := by
  have hremove : (Store.remove key : Access FileStore Unit).run s = s.discard key := rfl
  rw [step, Call.run, Access.run_bind, hremove]
  rcases s.discard key with ⟨_ | _, _⟩ <;> rfl

/-- An answer without an error is that of a call that succeeded. -/
theorem ok_of_map {r : Result Unit} {found : Option Json}
    (h : (r.map fun _ => (none : Option Json)) = .ok found) : r = .ok () := by
  cases r with
  | error e => cases h
  | ok _ => rfl

theorem ne_empty_of_isValidKey (h : isValidKey key = true) : key ≠ "" := by
  rintro rfl
  simp [isValidKey] at h

/-! ## Stores that answer alike -/

/-- The stores hold the same files of values and the same values, and a draft that cannot be written
in one cannot be written in the other. What the drafts hold does not matter. -/
structure Alike (s t : FileStore) : Prop where
  files : ∀ key, s.directory.get? (fileName key) = t.directory.get? (fileName key)
  drafts : ∀ key, s.directory.get? (draftName key) = some .directory ↔
    t.directory.get? (draftName key) = some .directory
  known : ∀ key, isValidKey key = true → s.known.get? key = t.known.get? key

namespace Alike

theorem refl (s : FileStore) : Alike s s := ⟨fun _ => rfl, fun _ => Iff.rfl, fun _ _ => rfl⟩

/-- Stores that are like the same one are alike. -/
theorem trans {u : FileStore} (hst : Alike s t) (htu : Alike t u) : Alike s u :=
  ⟨fun key => (hst.files key).trans (htu.files key),
    fun key => (hst.drafts key).trans (htu.drafts key),
    fun key hkey => (hst.known key hkey).trans (htu.known key hkey)⟩

/-- A draft that both write makes no difference. -/
theorem drafted (h : Alike s t) (key : String) (content : List UInt8) :
    Alike ⟨drafted s.directory key content, s.known⟩
      ⟨drafted t.directory key content, t.known⟩ := by
  refine ⟨fun other => ?_, fun other => ?_, h.known⟩
  · simp only [get?_drafted, if_neg (fileName_ne_draftName other key), h.files other]
  · simp only [get?_drafted]
    split
    · rfl
    · exact h.drafts other

/-- Nor does a value that both put. -/
theorem published (h : Alike s t) (key : String) (value : Json) (content : List UInt8) :
    Alike ⟨published s.directory key content, s.known.insert key value⟩
      ⟨published t.directory key content, t.known.insert key value⟩ := by
  refine ⟨fun other => ?_, fun other => ?_, fun other hother => ?_⟩
  · simp only [get?_published, if_neg (fileName_ne_draftName other key), h.files other]
  · simp only [get?_published, if_neg (fileName_ne_draftName key other).symm]
    split
    · rfl
    · exact h.drafts other
  · simp only [SortedMap.get?_insert, h.known other hother]

/-- Nor does a value that both remove. -/
theorem erased (h : Alike s t) (key : String) :
    Alike ⟨s.directory.erase (fileName key), s.known.erase key⟩
      ⟨t.directory.erase (fileName key), t.known.erase key⟩ := by
  refine ⟨fun other => ?_, fun other => ?_, fun other hother => ?_⟩
  · simp only [SortedMap.get?_erase, h.files other]
  · simp only [SortedMap.get?_erase, if_neg (fileName_ne_draftName key other).symm]
    exact h.drafts other
  · simp only [SortedMap.get?_erase, h.known other hother]

/-- Stores that are alike are so when they are opened again. -/
theorem reopen (h : Alike s t) : Alike s.reopen t.reopen := by
  refine ⟨h.files, h.drafts, fun key hkey => ?_⟩
  -- All that is known afterwards was read from the files.
  have hne := ne_empty_of_isValidKey hkey
  simp only [FileStore.reopen, ofDirectory, get?_valuesIn _ hne, held, h.files key]

theorem blocked_fileName (h : Alike s t) (key : String) :
    blocked s.directory (fileName key) = blocked t.directory (fileName key) :=
  Directory.blocked_congr (by rw [h.files key])

theorem blocked_draftName (h : Alike s t) (key : String) :
    blocked s.directory (draftName key) = blocked t.directory (draftName key) :=
  Directory.blocked_congr (h.drafts key)

/-- Both take a value or both refuse it, and stay alike. -/
theorem write (h : Alike s t) (key : String) (value : Json) :
    (s.write key value).1 = (t.write key value).1 ∧
      Alike (s.write key value).2 (t.write key value).2 := by
  -- Whether a key is valid, and whether its files are in the way, looks the same from both stores.
  by_cases hkey : isValidKey key = true
  · rw [write_eq hkey, write_eq hkey, h.blocked_draftName key, h.blocked_fileName key]
    cases blocked t.directory (draftName key) with
    | some fault => exact ⟨rfl, h⟩
    | none =>
      cases blocked t.directory (fileName key) with
      | some fault => exact ⟨rfl, h.drafted key _⟩
      | none => exact ⟨rfl, h.published key value _⟩
  · simpa only [FileStore.write, if_neg hkey, true_and] using h

/-- The same with a removal. -/
theorem discard (h : Alike s t) (key : String) :
    (s.discard key).1 = (t.discard key).1 ∧ Alike (s.discard key).2 (t.discard key).2 := by
  by_cases hkey : isValidKey key = true
  · rw [discard_eq hkey, discard_eq hkey, h.blocked_fileName key]
    cases blocked t.directory (fileName key) with
    | some fault => exact ⟨rfl, h⟩
    | none => exact ⟨rfl, h.erased key⟩
  · simpa only [FileStore.discard, if_neg hkey, true_and] using h

/-- Both read the same. -/
theorem read (h : Alike s t) (key : String) : s.read key = t.read key := by
  by_cases hkey : isValidKey key = true
  · simp only [FileStore.read, if_pos hkey, h.known key hkey]
  · simp only [FileStore.read, if_neg hkey]

/-- **Alike stores**: whatever happens to stores that are alike, they answer the same and stay
alike. -/
theorem step (h : Alike s t) (move : Move) :
    (s.step move).1 = (t.step move).1 ∧ Alike (s.step move).2 (t.step move).2 := by
  -- Every move answers the same, and what it leaves behind is alike again.
  match move with
  | .call (.get key) => exact ⟨h.read key, h⟩
  | .call (.put key value) =>
    obtain ⟨hsame, halike⟩ := h.write key value
    rw [step_put, step_put, hsame]
    exact ⟨rfl, halike⟩
  | .call (.remove key) =>
    obtain ⟨hsame, halike⟩ := h.discard key
    rw [step_remove, step_remove, hsame]
    exact ⟨rfl, halike⟩
  | .restart => exact ⟨rfl, h.reopen⟩

/-- So they go on answering the same, one call after the other. -/
theorem answers (h : Alike s t) (moves : List Move) : s.answers moves = t.answers moves := by
  induction moves generalizing s t with
  | nil => rfl
  | cons move moves ih =>
    obtain ⟨hsame, halike⟩ := h.step move
    rw [FileStore.answers, FileStore.answers, hsame, ih halike]

end Alike

/-! ## Calls that fail -/

/-- A draft is left behind only where one could be written. -/
theorem alike_drafted (h : blocked s.directory (draftName key) = none) (content : List UInt8) :
    Alike s ⟨drafted s.directory key content, s.known⟩ := by
  refine ⟨fun other => ?_, fun other => ?_, fun _ _ => rfl⟩
  · simp only [get?_drafted, if_neg (fileName_ne_draftName other key)]
  · simp only [get?_drafted]
    split
    next hsame =>
      have hne := Directory.ne_directory_of_blocked h
      rw [hsame]
      exact ⟨fun hdirectory => absurd hdirectory hne, nofun⟩
    next => rfl

/-- **Failures**: a call that fails leaves a store that is like the one before. -/
theorem alike_of_error {move : Move} {e : Error} (h : (s.step move).1 = .error e) :
    Alike s (s.step move).2 := by
  match move with
  | .call (.get key) => exact Alike.refl s
  | .call (.put key value) =>
    rw [step_put] at h ⊢
    by_cases hkey : isValidKey key = true
    · rw [write_eq hkey] at h ⊢
      cases hdraft : blocked s.directory (draftName key) with
      | some fault => exact Alike.refl s
      | none =>
        cases hfile : blocked s.directory (fileName key) with
        -- The draft was written before it was seen that it cannot take the place of the file.
        | some fault => exact alike_drafted hdraft _
        | none =>
          rw [hdraft, hfile] at h
          cases h
    · simpa only [write, if_neg hkey] using Alike.refl s
  | .call (.remove key) =>
    rw [step_remove] at h ⊢
    by_cases hkey : isValidKey key = true
    · rw [discard_eq hkey] at h ⊢
      cases hfile : blocked s.directory (fileName key) with
      | some fault => exact Alike.refl s
      | none =>
        rw [hfile] at h
        cases h
    · simpa only [discard, if_neg hkey] using Alike.refl s
  | .restart => cases h

/-! ## Beside a map in memory -/

/-- A value that is put can be read back: it holds no floating-point number, and it is nested less
deeply than a reader gives up at. The members of its objects are in order, as they always are. -/
def Move.IsReadable : Move → Prop
  | .call (.put _ value) => value.Ordered ∧ value.Exact ∧ value.levels < Json.maxDepth
  | _ => True

/-- The key that is written or removed. -/
def Move.changes? : Move → Option String
  | .call c => c.changes?
  | .restart => none

/-- The store, its files and a map in memory say the same. -/
structure Agrees (s : FileStore) (m : MemoryStore) : Prop where
  known : ∀ key, isValidKey key = true → s.known.get? key = m.entries.get? key
  files : ∀ key, isValidKey key = true → s.known.get? key = held s.directory key

end FileStore

open FileStore (Move Agrees)

namespace MemoryStore

/-- A map in memory takes part in a call if it succeeds on the store beside it. -/
def follow (m : MemoryStore) (s : FileStore) (move : Move) : MemoryStore :=
  match move, (s.step move).1 with
  | .call c, .ok _ => (c.run.run m).2
  | _, _ => m

/-- The map in memory after a run of the store beside it. -/
def alongside (m : MemoryStore) (s : FileStore) : List Move → MemoryStore
  | [] => m
  | move :: moves => (m.follow s move).alongside (s.step move).2 moves

/-- The map follows a call that succeeds. -/
theorem follow_of_ok {m : MemoryStore} {s : FileStore} {c : Call} {found : Option Json}
    (h : (s.step (.call c)).1 = .ok found) : m.follow s (.call c) = (c.run.run m).2 := by
  unfold follow
  rw [h]

/-- It does not follow one that fails. -/
theorem follow_of_error {m : MemoryStore} {s : FileStore} {move : Move} {e : Error}
    (h : (s.step move).1 = .error e) : m.follow s move = m := by
  unfold follow
  rw [h]
  cases move <;> rfl

/-- A call on a map in memory changes no key but its own. -/
theorem get?_run {c : Call} {key : String} (h : c.changes? ≠ some key) (m : MemoryStore) :
    (c.run.run m).2.entries.get? key = m.entries.get? key := by
  cases c with
  | get other => rfl
  | put other value =>
    have hne : key ≠ other := fun heq => h (congrArg some heq.symm)
    exact (m.entries.get?_insert other key value).trans (if_neg hne)
  | remove other =>
    have hne : key ≠ other := fun heq => h (congrArg some heq.symm)
    exact (m.entries.get?_erase other key).trans (if_neg hne)

/-- A call changes no key but its own, whether it succeeds or not. -/
theorem get?_follow {move : Move} {key : String} (h : move.changes? ≠ some key) (m : MemoryStore)
    (s : FileStore) : (m.follow s move).entries.get? key = m.entries.get? key := by
  cases hanswer : (s.step move).1 with
  | error e => rw [follow_of_error hanswer]
  | ok found =>
    cases move with
    | call c => rw [follow_of_ok hanswer, get?_run h]
    | restart => rfl

/-- A key that no call is about keeps its value. -/
theorem get?_alongside {moves : List Move} {key : String}
    (h : ∀ move ∈ moves, move.changes? ≠ some key) (m : MemoryStore) (s : FileStore) :
    (m.alongside s moves).entries.get? key = m.entries.get? key := by
  induction moves generalizing m s with
  | nil => rfl
  | cons move moves ih =>
    rw [List.forall_mem_cons] at h
    rw [alongside, ih h.2, get?_follow h.1]

end MemoryStore

namespace FileStore

variable {key : String} {s : FileStore} {m : MemoryStore}

namespace Agrees

/-- A value that was put is known, in the file and in the map. -/
theorem put (h : Agrees s m) {key : String} {value : Json}
    (hvalue : Move.IsReadable (.call (.put key value))) :
    Agrees ⟨published s.directory key (Text.Utf8.encode value.pretty), s.known.insert key value⟩
      ⟨m.entries.insert key value⟩ := by
  obtain ⟨hordered, hexact, hlevels⟩ := hvalue
  have hfits : value.Fits 127 := ⟨hexact, Nat.le_of_lt_succ hlevels⟩
  refine ⟨fun other hother => ?_, fun other hother => ?_⟩
  · simp only [SortedMap.get?_insert, h.known other hother]
  · simp only [SortedMap.get?_insert, held, get?_published,
      if_neg (fileName_ne_draftName other key)]
    -- Different keys have different files, and what was written to the file is read back.
    by_cases hsame : other = key
    · rw [if_pos hsame, if_pos (congrArg fileName hsame), Option.bind_some,
        valueOf?_pretty hordered hfits (by decide)]
    · rw [if_neg hsame, if_neg fun heq => hsame (fileName_injective heq)]
      exact h.files other hother

/-- A value that was removed is in none of them. -/
theorem remove (h : Agrees s m) (key : String) :
    Agrees ⟨s.directory.erase (fileName key), s.known.erase key⟩ ⟨m.entries.erase key⟩ := by
  refine ⟨fun other hother => ?_, fun other hother => ?_⟩
  · simp only [SortedMap.get?_erase, h.known other hother]
  · simp only [SortedMap.get?_erase, held]
    by_cases hsame : other = key
    · rw [if_pos hsame, if_pos (congrArg fileName hsame)]
      rfl
    · rw [if_neg hsame, if_neg fun heq => hsame (fileName_injective heq)]
      exact h.files other hother

/-- A restart reads what the files hold, which is what was known. -/
theorem reopen (h : Agrees s m) : Agrees s.reopen m := by
  have hvalues (key : String) (hkey : isValidKey key = true) :
      s.reopen.known.get? key = held s.directory key :=
    get?_valuesIn s.directory (ne_empty_of_isValidKey hkey)
  refine ⟨fun key hkey => ?_, hvalues⟩
  rw [hvalues key hkey, ← h.files key hkey, h.known key hkey]

/-- A store that is like one that agrees with a map agrees with it, too. -/
theorem of_alike {t : FileStore} (h : Agrees s m) (halike : Alike s t) : Agrees t m := by
  refine ⟨fun key hkey => ?_, fun key hkey => ?_⟩
  · rw [← halike.known key hkey, h.known key hkey]
  · rw [← halike.known key hkey, h.files key hkey, held, held, halike.files key]

/-- **One step**: whatever happens, the store, its files and the map in memory stay together. -/
theorem step (h : Agrees s m) {move : Move} (hmove : move.IsReadable) :
    Agrees (s.step move).2 (m.follow s move) := by
  -- A call that fails may leave a draft behind, and nothing else.
  cases hanswer : (s.step move).1 with
  | error e =>
    rw [MemoryStore.follow_of_error hanswer]
    exact h.of_alike (alike_of_error hanswer)
  | ok found =>
    match move with
    | .restart => exact h.reopen
    | .call (.get key) =>
      rw [MemoryStore.follow_of_ok hanswer]
      exact h
    | .call (.put key value) =>
      have hrun : ((Call.put key value).run.run m).2 = ⟨m.entries.insert key value⟩ := rfl
      rw [MemoryStore.follow_of_ok hanswer, hrun, step_put]
      rw [step_put] at hanswer
      rw [write_of_ok (ok_of_map hanswer)]
      exact h.put hmove
    | .call (.remove key) =>
      have hrun : ((Call.remove key).run.run m).2 = ⟨m.entries.erase key⟩ := rfl
      rw [MemoryStore.follow_of_ok hanswer, hrun, step_remove]
      rw [step_remove] at hanswer
      rw [discard_of_ok (ok_of_map hanswer)]
      exact h.remove key

/-- **Runs**: the store after a run agrees with the map in memory alongside. -/
theorem run (h : Agrees s m) {moves : List Move} (hmoves : ∀ move ∈ moves, move.IsReadable) :
    Agrees (s.after moves) (m.alongside s moves) := by
  induction moves generalizing s m with
  | nil => exact h
  | cons move moves ih =>
    rw [List.forall_mem_cons] at hmoves
    exact ih (h.step hmoves.1) hmoves.2

/-- A key is answered like the map answers it. -/
theorem answer_get (h : Agrees s m) (hkey : isValidKey key = true) :
    (Call.get key).answer s = (Call.get key).answer m := by
  have hread : (Call.get key).answer s = s.read key := rfl
  rw [hread, read, if_pos hkey, h.known key hkey]
  rfl

end Agrees

/-! ## Runs -/

theorem after_append (s : FileStore) (before later : List Move) :
    s.after (before ++ later) = (s.after before).after later :=
  List.foldl_append

/-- **Files as good as memory**: a store opened on any directory answers every valid key as a map in
memory does that started with what the files of the keys hold and took part in the calls that
succeeded, whatever is called and however often the program is started again. A call that fails
changes no later answer, and what happens to other keys changes no answer about a key. -/
theorem behaves_like_memory (d : Directory) {m : MemoryStore} {moves : List Move}
    (hstart : ∀ key, isValidKey key = true →
      m.entries.get? key = (d.get? (fileName key)).bind valueOf?)
    (hmoves : ∀ move ∈ moves, move.IsReadable) :
    (∀ key, isValidKey key = true →
      (Call.get key).answer ((ofDirectory d).after moves) =
        (Call.get key).answer (m.alongside (ofDirectory d) moves)) ∧
    (∀ move e, (((ofDirectory d).after moves).step move).1 = .error e → ∀ later,
      (((ofDirectory d).after moves).step move).2.answers later =
        ((ofDirectory d).after moves).answers later) ∧
    ∀ key others, isValidKey key = true →
      (∀ move ∈ others, move.IsReadable ∧ move.changes? ≠ some key) →
        (Call.get key).answer ((ofDirectory d).after (moves ++ others)) =
          (Call.get key).answer ((ofDirectory d).after moves) := by
  have hopen : Agrees (ofDirectory d) m := by
    have hvalues (key : String) (hkey : isValidKey key = true) :
        (ofDirectory d).known.get? key = held d key := get?_valuesIn d (ne_empty_of_isValidKey hkey)
    exact ⟨fun key hkey => (hvalues key hkey).trans (hstart key hkey).symm, hvalues⟩
  have hrun := hopen.run hmoves
  refine ⟨fun key hkey => hrun.answer_get hkey, fun move e herror later =>
    ((alike_of_error herror).answers later).symm, fun key others hkey hothers => ?_⟩
  -- The other calls leave the map in memory as it is at the key, and it tells what the store does.
  have hafter := hrun.run fun move hmove => (hothers move hmove).1
  have hsame := MemoryStore.get?_alongside (fun move hmove => (hothers move hmove).2)
    (m.alongside (ofDirectory d) moves) ((ofDirectory d).after moves)
  rw [after_append, hafter.answer_get hkey, hrun.answer_get hkey]
  exact congrArg Except.ok hsame

/-- A directory in which the name of a file is taken. -/
def takenDirectory : Directory := ⟨[("b.json", .directory)], by decide⟩

/-- One value is written, one cannot be, and the program is started again. -/
def writesAndRestart : List Move :=
  [.call (.put "a" (.array [.int 1, .null])), .call (.put "b" (.bool true)), .restart]

theorem takenDirectory_behaves_like_memory :
    (∀ move ∈ writesAndRestart, move.IsReadable) ∧
      (Call.get "a").answer ((ofDirectory takenDirectory).after writesAndRestart) =
        .ok (some (.array [.int 1, .null])) ∧
      (Call.get "b").answer ((ofDirectory takenDirectory).after writesAndRestart) = .ok none := by
  -- Nothing is stored in the directory that is taken over, so an empty memory begins with the same.
  have hstart (key : String) (hkey : isValidKey key = true) :
      MemoryStore.empty.entries.get? key = held takenDirectory key := by
    have hnothing : valuesIn takenDirectory = .empty := rfl
    rw [← get?_valuesIn takenDirectory (ne_empty_of_isValidKey hkey), hnothing]
    rfl
  have hreadable : ∀ move ∈ writesAndRestart, move.IsReadable := by
    simp only [writesAndRestart, List.forall_mem_cons]
    refine ⟨⟨?_, ?_, by decide⟩, ⟨?_, ?_, by decide⟩, trivial, nofun⟩ <;>
      simp [Json.Ordered, Json.OrderedItems, Json.Exact, Json.ExactItems]
  obtain ⟨hanswers, -⟩ := behaves_like_memory takenDirectory hstart hreadable
  refine ⟨hreadable, ?_, ?_⟩
  · rw [hanswers "a" (by decide)]
    rfl
  · rw [hanswers "b" (by decide)]
    rfl

end FileStore

end ChangeFeed

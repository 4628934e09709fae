import ChangeFeed.Proofs.History.Operations
import Mathlib.Data.List.Perm.Subperm

/-!
# The schema history: Writes

Many tasks share a history. They record statements, load snapshots and try to write, and a put that
began ends whenever its store likes. What a task does between two moments at which it waits is one
step. The invariant compares the generations that were written with the counters of the history: a
put that ends late may declare a history older than a load did, but what it took along was newer
than all that was written before.

## Main results

* `step_load`, `run_persist`: the operations as such steps.
* `Tally.step`: the invariant survives every step.
* `writes_are_exclusive`: there is one put at a time, and never one of a generation that was written
  before.
-/

namespace ChangeFeed

/-! ## A history that is shared -/

/-- What happens to a history that is shared. -/
inductive HistoryEvent where
  | record (table statement : String)
  /-- A load goes on with the answer of its store. -/
  | load (found : Result (Option StatementLists))
  /-- A task tries to write. -/
  | attempt
  /-- One of the puts under way ends. -/
  | endPut (index : Nat) (succeeded : Bool)

/-- What a task is told. -/
inductive HistoryNotice where
  | recorded (isNew : Bool)
  | loaded (found : Bool)
  | attempted (outcome : HistoryWrite)
  | ended (capture : HistoryCapture) (succeeded : Bool)
  deriving DecidableEq, Repr

namespace HistoryNotice

/-- The history has changed. -/
def isChange : HistoryNotice → Bool
  | .recorded isNew => isNew
  | .loaded found => found
  | .attempted _ | .ended _ _ => false

/-- The generation that was written. -/
def written? : HistoryNotice → Option Nat
  | .ended capture true => some capture.generation
  | _ => none

/-- How often the history has changed. -/
def changes (told : List HistoryNotice) : Nat := told.countP isChange

/-- The generations that were written, one after the other. -/
def written (told : List HistoryNotice) : List Nat := told.filterMap written?

end HistoryNotice

/-- A history and the puts that are under way. -/
structure SharedHistory where
  cache : SchemaHistory
  puts : List HistoryCapture
  deriving DecidableEq, Repr

namespace SharedHistory

/-- The history of a new reader. -/
def empty : SharedHistory := ⟨.empty, []⟩

/-- What an event does, and what the task is told. -/
def step (h : SharedHistory) : HistoryEvent → List HistoryNotice × SharedHistory
  | .record table statement =>
    let (isNew, cache) := h.cache.record table statement
    ([.recorded isNew], { h with cache })
  | .load (.ok found) => ([.loaded found.isSome], { h with cache := (h.cache.absorb found).2 })
  | .load (.error _) => ([.loaded false], h)
  | .attempt =>
    match h.cache.beginWrite with
    | (.started capture, cache) => ([.attempted (.started capture)], ⟨cache, h.puts ++ [capture]⟩)
    | (outcome, cache) => ([.attempted outcome], { h with cache })
  | .endPut index succeeded =>
    match h.puts[index]? with
    | some capture =>
      ([.ended capture succeeded], ⟨h.cache.endWrite succeeded, h.puts.eraseIdx index⟩)
    | none => ([], h)

def run (h : SharedHistory) : List HistoryEvent → List HistoryNotice × SharedHistory
  | [] => ([], h)
  | event :: events =>
    let (told, h) := h.step event
    let (later, h) := h.run events
    (told ++ later, h)

/-- What every step preserves holds after every run. -/
theorem run_induction {P : SharedHistory → Prop} (hstep : ∀ h event, P h → P (h.step event).2)
    {h : SharedHistory} (hstart : P h) (events : List HistoryEvent) : P (h.run events).2 := by
  induction events generalizing h with
  | nil => exact hstart
  | cons event events ih => exact ih (hstep h event hstart)

/-! ### The operations in these steps -/

/-- Whatever comes of an attempt, the history is left as its beginning leaves it. -/
theorem cache_step_attempt (h : SharedHistory) :
    (h.step .attempt).2.cache = h.cache.beginWrite.2 := by
  rw [step]
  cases h.cache.beginWrite with
  | mk outcome cache => cases outcome <;> rfl

/-- What an event can do to the cache. -/
inductive CacheMove (c : SchemaHistory) : SchemaHistory → Prop where
  | keep : CacheMove c c
  | record {table statement : String} : statement ∉ c.statements table →
    CacheMove c
      { c with
        tables := c.tables.insert table (c.statements table ++ [statement])
        generation := c.generation + 1 }
  | merge (stored : StatementLists) : CacheMove c (c.merge stored).2
  | beginWrite : CacheMove c c.beginWrite.2
  | endWrite (succeeded : Bool) : CacheMove c (c.endWrite succeeded)

/-- Every event is one of the moves that a history can make, or none. -/
theorem cacheMove_step (h : SharedHistory) (event : HistoryEvent) :
    CacheMove h.cache (h.step event).2.cache := by
  -- An event makes no move if the statement is known, nothing was found, or no such put is under
  -- way.
  cases event with
  | record table statement =>
    by_cases hknown : statement ∈ h.cache.statements table
    · simp only [step, SchemaHistory.record_of_mem hknown]
      exact .keep
    · simp only [step, SchemaHistory.record_of_not_mem hknown]
      exact .record hknown
  | load found =>
    cases found with
    | error e => exact .keep
    | ok found =>
      cases found with
      | none => exact .keep
      | some stored => exact .merge stored
  | attempt =>
    rw [cache_step_attempt]
    exact .beginWrite
  | endPut index succeeded =>
    rw [step]
    cases h.puts[index]? with
    | none => exact .keep
    | some capture => exact .endWrite succeeded

/-- What every move of the cache preserves holds of it after every run. -/
theorem cache_run_induction {P : SchemaHistory → Prop}
    (hmove : ∀ c c', CacheMove c c' → P c → P c') {h : SharedHistory} (hstart : P h.cache)
    (events : List HistoryEvent) : P (h.run events).2.cache :=
  run_induction (P := fun h => P h.cache)
    (fun h event hh => hmove _ _ (cacheMove_step h event) hh) hstart events

section

variable {σ : Type} [Store σ]

/-- A load is one step, when its store has answered. -/
theorem step_load (h : SharedHistory) (s : σ) :
    (h.step (.load (SchemaHistory.fetch.run s).1)).2.cache =
      match (h.cache.load.run s).1 with
      | .ok (_, cache) => cache
      | .error _ => h.cache := by
  rw [SchemaHistory.load_run_eq]
  cases (SchemaHistory.fetch.run s : Result (Option StatementLists) × σ).1 <;> rfl

/-- An attempt that nobody disturbs is two steps, if it has something to put. -/
theorem run_persist [Gzip.Packer] (h : SharedHistory) (hputs : h.puts = [])
    (hnone : h.cache.writing = none) (s : σ) :
    ∃ succeeded, (h.run [.attempt, .endPut 0 succeeded]).2.cache = (h.cache.persist.run s).1.2 := by
  rw [SchemaHistory.persist_run_eq]
  obtain ⟨hwriting, -⟩ | ⟨-, -, hbegin⟩ | ⟨-, -, hbegin⟩ := h.cache.beginWrite_cases
  · exact absurd hnone hwriting
  · -- A clean history has nothing to put, and the answer of the store does not matter.
    refine ⟨true, ?_⟩
    simp only [run, step, hbegin, hputs, List.getElem?_nil]
  · let capture : HistoryCapture := ⟨h.cache.generation, h.cache.tables⟩
    refine ⟨((SchemaHistory.put capture).run s : Result Unit × σ).1.isOk, ?_⟩
    simp only [run, step, hbegin, hputs, List.nil_append, List.getElem?_cons_zero]
    rfl

end

/-! ## The tally -/

open HistoryNotice (changes written)

variable {h : SharedHistory} {told : List HistoryNotice}

/-- The counters of a history, the put under way, and the generations that were written. Generation
zero counts as written, for an empty history is clean. -/
structure Tally (told : List HistoryNotice) (h : SharedHistory) : Prop where
  puts : h.puts = h.cache.writing.toList
  generation : h.cache.generation = changes told
  ascending : (0 :: written told).Pairwise (· < ·)
  bounded : ∀ g ∈ 0 :: written told, g ≤ h.cache.generation
  /-- A history that was written as it is now is clean. -/
  current : h.cache.generation ∈ 0 :: written told → h.cache.saved = h.cache.generation
  captured_le : ∀ capture, h.cache.writing = some capture →
    capture.generation ≤ h.cache.generation
  captured_new : ∀ capture, h.cache.writing = some capture →
    ∀ g ∈ 0 :: written told, g < capture.generation

namespace Tally

/-- An empty history counts nothing, and its generation zero is taken for written. -/
theorem empty : Tally [] .empty where
  puts := rfl
  generation := rfl
  ascending := List.pairwise_singleton _ 0
  bounded := by simp [written]
  current _ := rfl
  captured_le := nofun
  captured_new := nofun

/-- What is told about neither a change nor a write counts for nothing. -/
theorem tell (t : Tally told h) {notice : HistoryNotice} (hchange : notice.isChange = false)
    (hwritten : notice.written? = none) : Tally (told ++ [notice]) h := by
  -- A notice that tells neither of a change nor of a write is not counted anywhere.
  have hchanges : changes (told ++ [notice]) = changes told := by
    simp [changes, hchange]
  have hsame : written (told ++ [notice]) = written told := by
    simp [written, hwritten]
  exact { t with
    generation := hchanges ▸ t.generation
    ascending := hsame ▸ t.ascending
    bounded := hsame ▸ t.bounded
    current := hsame ▸ t.current
    captured_new := hsame ▸ t.captured_new }

/-- A change leaves the put under way as it is and leads to a generation that was never written. -/
theorem change (t : Tally told h) {notice : HistoryNotice} {cache : SchemaHistory}
    (hchange : notice.isChange = true) (hwritten : notice.written? = none)
    (hgeneration : cache.generation = h.cache.generation + 1)
    (hwriting : cache.writing = h.cache.writing) : Tally (told ++ [notice]) { h with cache } := by
  have hchanges : changes (told ++ [notice]) = changes told + 1 := by
    simp [changes, hchange]
  have hsame : written (told ++ [notice]) = written told := by
    simp [written, hwritten]
  constructor
  · show h.puts = cache.writing.toList
    rw [hwriting]
    exact t.puts
  · -- The new generation is greater by one than any that was written or taken along.
    rw [hchanges, ← t.generation]
    exact hgeneration
  · rw [hsame]
    exact t.ascending
  · intro g hg
    rw [hsame] at hg
    have hle := t.bounded g hg
    show g ≤ cache.generation
    omega
  · intro hmem
    rw [hsame] at hmem
    have hle := t.bounded _ hmem
    simp only at hle
    omega
  · intro capture hcapture
    have hle := t.captured_le capture (hwriting ▸ hcapture)
    show capture.generation ≤ cache.generation
    omega
  · intro capture hcapture
    rw [hsame]
    exact t.captured_new capture (hwriting ▸ hcapture)

/-- What a put takes along when it begins was never written. -/
theorem begin (t : Tally told h) (hnone : h.cache.writing = none)
    (hdirty : h.cache.saved ≠ h.cache.generation) :
    Tally told
      ⟨{ h.cache with writing := some ⟨h.cache.generation, h.cache.tables⟩ },
        h.puts ++ [⟨h.cache.generation, h.cache.tables⟩]⟩ := by
  have hputs : h.puts = [] := by rw [t.puts, hnone]; rfl
  exact { t with
    puts := by rw [hputs]; rfl
    captured_le := by
      rintro capture ⟨⟩
      exact Nat.le_refl _
    captured_new := by
      rintro capture ⟨⟩ g hg
      have hle := t.bounded g hg
      -- A generation that was written already would be clean.
      have hne : g ≠ h.cache.generation := by
        rintro rfl
        exact hdirty (t.current hg)
      exact Nat.lt_of_le_of_ne hle hne }

/-- A put that fails is forgotten: its generation may be taken along again. -/
theorem fail (t : Tally told h) {capture : HistoryCapture}
    (hwriting : h.cache.writing = some capture) :
    Tally (told ++ [.ended capture false]) ⟨h.cache.endWrite false, []⟩ := by
  rw [SchemaHistory.endWrite_of_writing hwriting]
  have t : Tally (told ++ [.ended capture false]) h := t.tell rfl rfl
  exact { t with puts := rfl, captured_le := nofun, captured_new := nofun }

/-- A put that succeeds has written what was never written before. -/
theorem succeed (t : Tally told h) {capture : HistoryCapture}
    (hwriting : h.cache.writing = some capture) :
    Tally (told ++ [.ended capture true]) ⟨h.cache.endWrite true, []⟩ := by
  rw [SchemaHistory.endWrite_of_writing hwriting]
  have hwritten : 0 :: written (told ++ [.ended capture true]) =
      (0 :: written told) ++ [capture.generation] := by
    rw [written, List.filterMap_append]
    rfl
  have hchanges : changes (told ++ [.ended capture true]) = changes told := by
    simp [changes, HistoryNotice.isChange]
  have hle := t.captured_le capture hwriting
  have hnew := t.captured_new capture hwriting
  -- The generation that was taken along is greater than all that were written before.
  refine ⟨rfl, hchanges ▸ t.generation, ?_, ?_, ?_, nofun, nofun⟩
  · rw [hwritten, List.pairwise_append]
    refine ⟨t.ascending, List.pairwise_singleton _ _, ?_⟩
    intro g hg g' hg'
    rw [List.mem_singleton.1 hg']
    exact hnew g hg
  · intro g hg
    rw [hwritten, List.mem_append, List.mem_singleton] at hg
    rcases hg with hg | rfl
    · exact t.bounded g hg
    · exact hle
  · intro hmem
    rw [hwritten, List.mem_append, List.mem_singleton] at hmem
    rcases hmem with hmem | hsame
    · -- What was written before is older than what was taken along.
      have hlt := hnew _ hmem
      simp only at hlt
      omega
    · exact hsame.symm

/-- The put that ends is the one that the history is waiting for. -/
theorem writing_of_put (t : Tally told h) {index : Nat} {capture : HistoryCapture}
    (hput : h.puts[index]? = some capture) :
    h.cache.writing = some capture ∧ h.puts.eraseIdx index = [] := by
  -- There is at most one put, and it is the one that was captured.
  rw [t.puts] at hput ⊢
  cases hwriting : h.cache.writing with
  | none =>
    rw [hwriting] at hput
    simp at hput
  | some capture' =>
    rw [hwriting] at hput
    cases index with
    | zero => exact ⟨hput, rfl⟩
    | succ index => simp at hput

/-- **The tally is kept**: the invariant survives every step. -/
theorem step (t : Tally told h) (event : HistoryEvent) :
    Tally (told ++ (h.step event).1) (h.step event).2 := by
  -- Records and merges change the history or tell nothing; the put under way is begun and ended by
  -- the other events.
  cases event with
  | record table statement =>
    by_cases hknown : statement ∈ h.cache.statements table
    · simp only [SharedHistory.step, SchemaHistory.record_of_mem hknown]
      exact t.tell rfl rfl
    · simp only [SharedHistory.step, SchemaHistory.record_of_not_mem hknown]
      exact t.change rfl rfl rfl rfl
  | load found =>
    cases found with
    | error e => exact t.tell rfl rfl
    | ok found =>
      cases found with
      | none => exact t.tell rfl rfl
      | some stored => exact t.change rfl rfl rfl rfl
  | attempt =>
    rw [SharedHistory.step]
    -- A put begins only if none is under way and the history is dirty.
    obtain ⟨-, hbegin⟩ | ⟨-, -, hbegin⟩ | ⟨hnone, hdirty, hbegin⟩ := h.cache.beginWrite_cases
    · rw [hbegin]
      exact t.tell rfl rfl
    · rw [hbegin]
      exact t.tell rfl rfl
    · rw [hbegin]
      exact (t.begin hnone hdirty).tell rfl rfl
  | endPut index succeeded =>
    rw [SharedHistory.step]
    cases hput : h.puts[index]? with
    | none => simpa using t
    | some capture =>
      obtain ⟨hwriting, hnothing⟩ := t.writing_of_put hput
      simp only [hnothing]
      cases succeeded with
      | false => exact t.fail hwriting
      | true => exact t.succeed hwriting

/-- The tally is kept along every run, with what was told before in front. -/
theorem run (t : Tally told h) (events : List HistoryEvent) :
    Tally (told ++ (h.run events).1) (h.run events).2 := by
  induction events generalizing told h with
  | nil => simpa [SharedHistory.run] using t
  | cons event events ih =>
    have hlater := ih (t.step event)
    rw [List.append_assoc] at hlater
    exact hlater

/-- There is a change for everything that was written. -/
theorem length_written_le (t : Tally told h) : (written told).length ≤ changes told := by
  have hascending := List.pairwise_cons.1 t.ascending
  have hnodup : (written told).Nodup := hascending.2.imp Nat.ne_of_lt
  -- They are different generations between the first one and the last one.
  have hsubset : written told ⊆ List.range' 1 (changes told) := by
    intro g hg
    have hpos := hascending.1 g hg
    have hle := t.bounded g (List.mem_cons_of_mem 0 hg)
    rw [t.generation] at hle
    rw [List.mem_range'_1]
    omega
  have hlength := (List.subperm_of_subset hnodup hsubset).length_le
  rwa [List.length_range'] at hlength

theorem puts_eq_nil_iff (t : Tally told h) : h.puts = [] ↔ h.cache.writing = none := by
  rw [t.puts]
  cases h.cache.writing <;> simp

end Tally

/-! ## Exclusive writes -/

/-- A clean history is not written. -/
theorem step_attempt_of_clean (hnone : h.cache.writing = none) (hclean : h.cache.isDirty = false) :
    h.step .attempt = ([.attempted .clean], h) := by
  rw [SharedHistory.step, SchemaHistory.beginWrite, hnone, hclean]
  rfl

/-- A dirty history is written as it is now. -/
theorem step_attempt_of_dirty (hnone : h.cache.writing = none) (hdirty : h.cache.isDirty = true) :
    h.step .attempt =
      ([.attempted (.started ⟨h.cache.generation, h.cache.tables⟩)],
        ⟨{ h.cache with writing := some ⟨h.cache.generation, h.cache.tables⟩ },
          h.puts ++ [⟨h.cache.generation, h.cache.tables⟩]⟩) := by
  rw [SharedHistory.step, SchemaHistory.beginWrite, hnone, hdirty]
  rfl

theorem step_attempt_of_put (hput : h.cache.writing ≠ none) :
    h.step .attempt = ([.attempted .inFlight], h) := by
  rw [SharedHistory.step, SchemaHistory.beginWrite, if_pos (Option.isSome_iff_ne_none.2 hput)]

/-- A put that fails changes nothing but that it is under way. -/
theorem step_endPut_false (h : SharedHistory) (index : Nat) :
    ∃ writing, (h.step (.endPut index false)).2.cache = { h.cache with writing } := by
  rw [SharedHistory.step]
  cases h.puts[index]? with
  | none => exact ⟨h.cache.writing, rfl⟩
  | some _ =>
    unfold SchemaHistory.endWrite
    cases hwriting : h.cache.writing with
    | none => exact ⟨none, by simp [← hwriting]⟩
    | some _ => exact ⟨none, rfl⟩

/-- How a history is written whose tasks were told `told`. -/
structure HasExclusiveWrites (told : List HistoryNotice) (h : SharedHistory) : Prop where
  one_put : h.puts.length ≤ 1
  /-- Whoever tries while a put is under way is sent away. -/
  in_flight : h.puts ≠ [] → h.step .attempt = ([.attempted .inFlight], h)
  /-- Nothing is put that is clean. -/
  clean : h.puts = [] → h.cache.isDirty = false → h.step .attempt = ([.attempted .clean], h)
  /-- What is dirty is put as it is. -/
  dirty : h.puts = [] → h.cache.isDirty = true →
    (h.step .attempt).1 = [.attempted (.started ⟨h.cache.generation, h.cache.tables⟩)] ∧
      (h.step .attempt).2.puts = [⟨h.cache.generation, h.cache.tables⟩]
  ascending : (written told).Pairwise (· < ·)
  bounded : (written told).length ≤ changes told
  /-- A put that fails ends, and that is all. -/
  failed : ∀ index, (h.step (.endPut index false)).2.cache.tables = h.cache.tables ∧
    (h.step (.endPut index false)).2.cache.generation = h.cache.generation ∧
    (h.step (.endPut index false)).2.cache.saved = h.cache.saved ∧
    (h.step (.endPut index false)).2.cache.isDirty = h.cache.isDirty

/-- **Writes are exclusive**, whatever the tasks do and however long their puts take: there is one
put at a time, the generations that are written ascend, so there are no more of them than changes,
and a put that fails leaves everything to the next one. -/
theorem writes_are_exclusive (events : List HistoryEvent) :
    HasExclusiveWrites (SharedHistory.empty.run events).1 (SharedHistory.empty.run events).2 := by
  -- The run starts with nothing told, and the tally at its end is what was to be shown.
  have t := Tally.empty.run events
  rw [List.nil_append] at t
  exact {
    one_put := by
      rw [t.puts]
      exact Option.length_toList_le
    in_flight := fun hputs => step_attempt_of_put (mt t.puts_eq_nil_iff.2 hputs)
    clean := fun hputs => step_attempt_of_clean (t.puts_eq_nil_iff.1 hputs)
    dirty := by
      intro hputs hdirty
      rw [step_attempt_of_dirty (t.puts_eq_nil_iff.1 hputs) hdirty, hputs]
      exact ⟨rfl, rfl⟩
    ascending := (List.pairwise_cons.1 t.ascending).2
    bounded := t.length_written_le
    failed := by
      intro index
      obtain ⟨writing, hcache⟩ := step_endPut_false _ index
      rw [hcache]
      exact ⟨rfl, rfl, rfl, rfl⟩
  }

end SharedHistory

end ChangeFeed

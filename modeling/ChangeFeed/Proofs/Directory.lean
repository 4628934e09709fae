import ChangeFeed.Directory
import ChangeFeed.Proofs.SortedMap

/-!
# Directories: What steps do

Whether a step can be taken depends on the names it is about and on what stands under them, and
nothing else in the directory is touched by it.
-/

namespace ChangeFeed.Directory

variable {d : Directory} {name target : String}

/-- Why no file can be put under a name, if none can. -/
def blocked (d : Directory) (name : String) : Option FileFault :=
  match checkName name with
  | .error fault => some fault
  | .ok _ => if d.get? name = some .directory then some .isDirectory else none

theorem checkName_of_blocked (h : d.blocked name = none) : checkName name = .ok () := by
  unfold blocked at h
  split at h
  next => cases h
  next hcheck => exact hcheck

theorem ne_directory_of_blocked (h : d.blocked name = none) : d.get? name ≠ some .directory := by
  unfold blocked at h
  split at h
  next => cases h
  next =>
    split at h
    next => cases h
    next hne => exact hne

/-- Only what stands under the name counts, and only if it is a directory. -/
theorem blocked_congr {d' : Directory}
    (h : d.get? name = some .directory ↔ d'.get? name = some .directory) :
    d.blocked name = d'.blocked name := by
  simp only [blocked, h]

/-! ## Steps -/

theorem find_of_checkName (h : checkName name = .ok ()) : d.find name = .ok (d.get? name) := by
  simp only [find, h, bind, Except.bind]
  rfl

theorem take_truncate (d : Directory) (name : String) :
    d.take (.truncate name) =
      match d.blocked name with
      | some fault => .error fault
      | none => .ok (d.insert name (.file [])) := by
  -- A name that cannot be used, a directory of that name, or a file that is made empty.
  unfold blocked
  cases hcheck : checkName name with
  | error fault => simp only [take, find, hcheck, bind, Except.bind]
  | ok _ =>
    simp only [take, find_of_checkName hcheck, bind, Except.bind]
    cases hentry : d.get? name with
    | none => rfl
    | some entry => cases entry <;> rfl

theorem take_append (hcheck : checkName name = .ok ()) {before : List UInt8}
    (h : d.get? name = some (.file before)) (content : List UInt8) :
    d.take (.append name content) = .ok (d.insert name (.file (before ++ content))) := by
  simp only [take, find_of_checkName hcheck, h, bind, Except.bind]
  rfl

/-- Nothing is written where there is no file. -/
theorem eq_insert_of_take_append {d' : Directory} {content : List UInt8}
    (h : d.take (.append name content) = .ok d') :
    ∃ before, d.get? name = some (.file before) ∧
      d' = d.insert name (.file (before ++ content)) := by
  -- Only a file can be added to, and it has to be there.
  cases hcheck : checkName name with
  | error fault =>
    simp only [take, find, hcheck, bind, Except.bind] at h
    cases h
  | ok _ =>
    simp only [take, find_of_checkName hcheck, bind, Except.bind] at h
    cases hentry : d.get? name with
    | none =>
      rw [hentry] at h
      cases h
    | some entry =>
      rw [hentry] at h
      cases entry with
      | directory => cases h
      | file before => exact ⟨before, rfl, (Except.ok.inj h).symm⟩

theorem take_move (hcheck : checkName name = .ok ()) {content : List UInt8}
    (h : d.get? name = some (.file content)) (target : String) :
    d.take (.move name target) =
      match d.blocked target with
      | some fault => .error fault
      | none => .ok ((d.erase name).insert target (.file content)) := by
  -- The place of the target must be free, or that of a file that goes.
  unfold blocked
  cases htarget : checkName target with
  | error fault =>
    simp only [take, find, hcheck, htarget, bind, Except.bind]
    rfl
  | ok _ =>
    simp only [take, find_of_checkName hcheck, find_of_checkName htarget, h, bind, Except.bind]
    cases hentry : d.get? target with
    | none => rfl
    | some entry => cases entry <;> rfl

theorem take_unlink (hcheck : checkName name = .ok ()) {entry : DirectoryEntry}
    (h : d.get? name = some entry) :
    d.take (.unlink name) =
      if entry = .directory then .error .isDirectory else .ok (d.erase name) := by
  simp only [take, find_of_checkName hcheck, h, bind, Except.bind]
  cases entry <;> rfl

end ChangeFeed.Directory

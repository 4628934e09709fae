import ChangeFeed.Proofs.Json.Fields
import ChangeFeed.Schema.Codec

/-!
# Schema changes: JSON: Round trip

A change of a table is decoded as what it was. The members of a column are the same wherever they
stand: in an object of their own, behind the kind of a change, or in a list.
-/

namespace ChangeFeed.Schema

open Json (Decodes Fits)
open Json.Fields (builds_pure)

/-! ## Kinds of statements -/

/-- A kind is told by its name, and no two kinds have the same. -/
theorem ChangeKind.decodes (k : ChangeKind) :
    Decodes (Json.decodeAlternative ChangeKind.names) (.string k.name) k := by
  refine Json.decodes_alternative ?_
  cases k <;> rfl

/-! ## Columns -/

namespace ColumnSpec

/-- The default value is left out where there is none, and never null where there is one. -/
theorem decodes_members (c : ColumnSpec) : Decodes decode (.object c.members) c := by
  refine Json.Fields.Builds.decodes ?_ _
  exact builds_pure ColumnSpec.mk
    |>.present rfl (Json.decodes_string c.name)
    |>.present rfl (Json.decodes_string c.typeName)
    |>.present rfl (Json.decodes_bool c.nullable)
    |>.present rfl (Json.decodes_bool c.primaryKey)
    |>.optional rfl c.defaultValue fun d _ => ⟨Json.decodes_string d, nofun⟩

/-- A column holds plain values only. -/
theorem fits_members (c : ColumnSpec) : ∀ m ∈ c.members, m.2.Fits 0 := by
  cases hdefault : c.defaultValue <;> simp [members, hdefault]

theorem fits (c : ColumnSpec) : c.toJson.Fits 1 := Json.fits_object c.fits_members

/-- No member of a column is called like the kind of a change. -/
theorem ne_type_of_mem_members (c : ColumnSpec) : ∀ m ∈ c.members, m.1 ≠ "type" := by
  cases hdefault : c.defaultValue <;> simp [members, hdefault]

end ColumnSpec

/-! ## Changes -/

namespace Operation

/-- A change is decoded by the reader of its kind, from the members behind the kind. -/
theorem decodes (op : Operation) : Decodes decode op.toJson op := by
  -- The operations that carry a whole column share its members; the others have a few of their own.
  cases op with
  | createTable columns =>
    refine Json.decodes_within rfl (by simp) (Json.Fields.Builds.decodes ?_ _)
    exact (builds_pure createTable).present rfl (.list fun c _ => c.decodes_members)
  | dropTable => exact Json.decodes_within rfl (by simp) (Json.decodes_unit _ _ _)
  | truncateTable => exact Json.decodes_within rfl (by simp) (Json.decodes_unit _ _ _)
  | renameTable target =>
    refine Json.decodes_within rfl (by simp) (Json.Fields.Builds.decodes ?_ _)
    exact (builds_pure renameTable).present rfl (Json.decodes_string target)
  | addColumn c =>
    exact Json.decodes_within rfl c.ne_type_of_mem_members (c.decodes_members.as addColumn)
  | dropColumn name =>
    refine Json.decodes_within rfl (by simp) (Json.Fields.Builds.decodes ?_ _)
    exact (builds_pure dropColumn).present rfl (Json.decodes_string name)
  | modifyColumn c =>
    exact Json.decodes_within rfl c.ne_type_of_mem_members (c.decodes_members.as modifyColumn)
  | renameColumn old new definition =>
    refine Json.decodes_within rfl ?_ (Json.Fields.Builds.decodes ?_ _)
    · cases definition <;> simp
    · exact builds_pure renameColumn
        |>.present rfl (Json.decodes_string old)
        |>.present rfl (Json.decodes_string new)
        |>.optional rfl definition fun c _ => ⟨c.decodes_members, nofun⟩
  | raw kind ddl =>
    refine Json.decodes_within rfl (by simp) (Json.Fields.Builds.decodes ?_ _)
    exact builds_pure raw
      |>.present rfl kind.decodes
      |>.present rfl (Json.decodes_string ddl)

/-- A change holds at most a list of columns. -/
theorem fits (op : Operation) : op.toJson.Fits 3 := by
  -- A column stands two levels deep, in a list of them or beside the kind.
  have hcolumn (c : ColumnSpec) (kind : String) :
      ∀ m ∈ ("type", Json.string kind) :: c.members, m.2.Fits 2 :=
    List.forall_mem_cons.2
      ⟨Json.fits_string 2 kind, fun m hm => (c.fits_members m hm).mono (by decide)⟩
  have hcolumns (columns : List ColumnSpec) :
      (Json.array (columns.map ColumnSpec.toJson)).Fits 2 := by
    refine Json.fits_array fun v hv => ?_
    obtain ⟨c, -, rfl⟩ := List.mem_map.1 hv
    exact c.fits
  cases op with
  | addColumn c | modifyColumn c => exact Json.fits_object (hcolumn c _)
  | createTable columns => exact Json.fits_object (by simp [hcolumns])
  | renameColumn old new definition =>
    refine Json.fits_object ?_
    cases definition with
    | none => simp
    | some c => simp [c.fits.mono]
  | _ => exact Json.fits_object (by simp)

end Operation

end ChangeFeed.Schema

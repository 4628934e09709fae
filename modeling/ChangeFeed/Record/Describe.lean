import ChangeFeed.Record
import ChangeFeed.Row.Describe

/-!
# Records of the log: Text for diagnosis
-/

namespace ChangeFeed

def RowChange.describe (c : RowChange) : String :=
  Text.fields "DmlRecord"
    [("op", Text.quoted c.code), ("table", Text.quoted c.table),
     ("before", Text.optional (c.before.map LoggedRow.describe)),
     ("after", Text.optional (c.after.map LoggedRow.describe)),
     ("reference_time", toString c.referenceTime.toInt)]

end ChangeFeed

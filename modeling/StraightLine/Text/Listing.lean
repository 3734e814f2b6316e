/-!
# Listings

Reports are listings: texts one below the other, each ended by a line feed.
-/

namespace StraightLine.Text

/-- The entries in order, each ended by a line feed. -/
def listing (entries : List String) : String :=
  String.join (entries.map (· ++ "\n"))

end StraightLine.Text

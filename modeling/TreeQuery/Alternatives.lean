import TreeQuery.Text.Basic

/-!
# Alternatives

A query is given one selector or several alternative ones, which are tried in order.

## Main definitions

* `TreeQuery.Alternatives` — selectors in order.
* `TreeQuery.Alternatives.joined` — all of them as the text of one selector list.
-/

namespace TreeQuery

/-- Alternative selectors in the order in which they are tried. -/
abbrev Alternatives := List Text

namespace Alternatives

/-- A single selector. -/
def single (s : Text) : Alternatives := [s]

/-- The alternatives as the text of one selector list. -/
def joined (alternatives : Alternatives) : Text := List.intercalate [',', ' '] alternatives

end Alternatives

end TreeQuery

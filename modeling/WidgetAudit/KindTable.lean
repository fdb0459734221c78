import WidgetAudit.NameTable

/-!
# Kinds of roles

A kind stands for a list of roles. A selector of a kind picks the nodes with one of these
roles.
-/

namespace WidgetAudit

/-- The roles of each kind. -/
abbrev KindTable := NameTable (List String)

namespace KindTable

/-- The kinds that are known without being given: what takes input, and what acts when it is
pressed. -/
def standard : KindTable :=
  .ofList [("input", ["textField", "slider", "switchRole"]), ("action", ["button", "toggle"])]

/-- Whether a kind covers a role. -/
def covers (table : KindTable) (kind role : String) : Bool :=
  match table.find? kind with
  | some roles => roles.contains role
  | none => false

end KindTable

end WidgetAudit

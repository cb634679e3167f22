/-!
# Entries by key

Entries are pairs of a key and a value in the order of their writing.  Where a
key is written twice, the later entry counts.
-/

namespace PrivilegeGraph.Yaml

/-- The entries that no later entry with the same key replaces. -/
def latest
    {κ α : Type}
    [DecidableEq κ] :
    List (κ × α) → List (κ × α)
  | [] => []
  | entry :: rest =>
      if rest.any fun later => later.1 = entry.1 then latest rest
      else entry :: latest rest

end PrivilegeGraph.Yaml

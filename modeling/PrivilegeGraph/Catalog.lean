import PrivilegeGraph.Generation
import PrivilegeGraph.Privilege.Table
import PrivilegeGraph.Text.Split

/-!
# The catalog

The catalog lists, for a kind of resource and a server generation, what can be
held there: each privilege of the table that applies to the kind, followed by
its variant with the right to pass it on when it has one.
-/

namespace PrivilegeGraph.Catalog

/-- A privilege, alone or together with the right to pass it on. -/
structure Entry where
  privilege : Privilege
  withOption : Bool
  deriving DecidableEq, Repr

namespace Entry

/-- The id of an entry. -/
def id (entry : Entry) : String :=
  if entry.withOption then entry.privilege.id ++ Privilege.grantOptionSuffix
  else entry.privilege.id

/-- The name of an entry. -/
def displayName (entry : Entry) : String :=
  if entry.withOption then "Grant " ++ entry.privilege.displayName
  else entry.privilege.displayName

/-- The privilege of an entry as statements write it. -/
def keyword (entry : Entry) : String :=
  if entry.privilege.id = Privilege.grantId then "GRANT OPTION"
  else if entry.privilege.dynamic then Text.uppered entry.privilege.id
  else Text.uppered (Text.exchanged '_' ' ' entry.privilege.id)

end Entry

/-- Whether a server of some generation has a privilege. -/
def available
    (generation : Generation)
    (privilege : Privilege) :
    Bool :=
  generation.isModern || !privilege.modernOnly

/-- The entries of one privilege. -/
def variants (privilege : Privilege) : List Entry :=
  if privilege.grantable then [⟨privilege, false⟩, ⟨privilege, true⟩]
  else [⟨privilege, false⟩]

/-- The entries for a kind of resource, in listing order. -/
def entries
    (kind : Kind)
    (generation : Generation) :
    List Entry :=
  (Privilege.table.filter fun privilege =>
    kind ∈ privilege.kinds && available generation privilege).flatMap variants

/-- The entry with an id, for a kind of resource. -/
def lookup?
    (kind : Kind)
    (id : String)
    (generation : Generation) :
    Option Entry :=
  (entries kind generation).find? (·.id == id)

/-- What is found has the id that was asked for and is listed for the kind. -/
theorem mem_entries_of_lookup?
    {kind : Kind}
    {id : String}
    {generation : Generation}
    {entry : Entry}
    (found : lookup? kind id generation = some entry) :
    entry ∈ entries kind generation ∧ entry.id = id := by
  refine ⟨List.mem_of_find?_eq_some found, ?_⟩
  simpa using List.find?_some found

end PrivilegeGraph.Catalog

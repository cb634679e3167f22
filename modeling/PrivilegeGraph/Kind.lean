/-!
# Kinds of resources

Every resource of a database server is of one of seven kinds.  The kind's name
is the first part of the resource's id.
-/

namespace PrivilegeGraph

/-- The kinds of resources, in the order in which resources are sorted. -/
inductive Kind
  | server
  | database
  | table
  | column
  | routine
  | user
  | role
  deriving DecidableEq, Repr

namespace Kind

/-- The name of a kind in ids and messages. -/
def name : Kind → String
  | server => "server"
  | database => "database"
  | table => "table"
  | column => "column"
  | routine => "routine"
  | user => "user"
  | role => "role"

/-- Every kind once, in order. -/
def all : List Kind :=
  [server, database, table, column, routine, user, role]

/-- The kind of a name. -/
def ofName? (text : String) : Option Kind :=
  all.find? (·.name == text)

/-- The position of a kind in the order of kinds. -/
def rank : Kind → Nat
  | server => 0
  | database => 1
  | table => 2
  | column => 3
  | routine => 4
  | user => 5
  | role => 6

theorem mem_all (kind : Kind) : kind ∈ all := by
  cases kind <;> decide

theorem name_injective
    {first second : Kind}
    (same : first.name = second.name) :
    first = second := by
  cases first <;> cases second <;> simp_all [name]

theorem rank_injective
    {first second : Kind}
    (same : first.rank = second.rank) :
    first = second := by
  cases first <;> cases second <;> simp_all [rank]

@[simp]
theorem ofName?_name (kind : Kind) : ofName? kind.name = some kind := by
  cases kind <;> decide

/-- A name is read as a kind exactly when it is that kind's name. -/
theorem ofName?_eq_some_iff
    {text : String}
    {kind : Kind} :
    ofName? text = some kind ↔ text = kind.name := by
  constructor
  · intro found
    have sameName : kind.name = text := by
      simpa using List.find?_some found
    exact sameName.symm
  · rintro rfl
    exact ofName?_name kind

end Kind

end PrivilegeGraph

import PrivilegeGraph.Text.Blank

/-!
# Accounts

An account is a login name together with the host it may come from.  Accounts
that share a name can be shown as one whose host field lists several hosts
between commas; such an account expands to one account for each listed host.
-/

namespace PrivilegeGraph

/-- A login name and its host or comma list of hosts. -/
structure Account where
  name : String
  host : String
  deriving DecidableEq, Repr

namespace Account

/-- The written form `name@host`. -/
def text (account : Account) : String :=
  account.name ++ "@" ++ account.host

/-- Read `name@host`.  Hosts never hold an at sign, so the last one divides the
text; the host must not be empty. -/
def ofText? (text : String) : Option Account :=
  match Text.cutLast? '@' text with
  | some (name, host) => if host = "" then none else some ⟨name, host⟩
  | none => none

/-- The hosts that an account stands for. -/
def hosts (account : Account) : List String :=
  Text.entries account.host

/-- Whether an account stands for more than one host. -/
def isCollapsed (account : Account) : Bool :=
  1 < account.hosts.length

/-- The single-host accounts behind an account. -/
def expanded (account : Account) : List Account :=
  account.hosts.map fun host => ⟨account.name, host⟩

/-- A text is an account's exactly when it is the account's written form and the
host is neither empty nor divided by an at sign. -/
theorem ofText?_eq_some_iff
    {text : String}
    {account : Account} :
    ofText? text = some account ↔
      text = account.text ∧ account.host ≠ "" ∧ '@' ∉ account.host.toList := by
  constructor
  · intro read
    unfold ofText? at read
    split at read
    · next name host cut =>
      split at read
      · simp at read
      · next present =>
        simp only [Option.some.injEq] at read
        subst read
        have divided := Text.cutLast?_eq_some_iff.1 cut
        exact ⟨divided.1, present, divided.2⟩
    · simp at read
  · rintro ⟨rfl, present, free⟩
    have cut :
        Text.cutLast? '@' account.text = some (account.name, account.host) :=
      Text.cutLast?_eq_some_iff.2 ⟨rfl, free⟩
    unfold ofText?
    simp [cut, present]

end Account

end PrivilegeGraph

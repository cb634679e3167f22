import PrivilegeGraph.Account
import PrivilegeGraph.Proofs.Text.Pieces

/-!
# Hosts of accounts

A plain host can be written between commas and after an at sign and be read
again.  An account whose host field lists plain hosts stands for exactly these
hosts, and its written form is read back.
-/

namespace PrivilegeGraph

/-- Whether a text can be listed among other hosts without being taken for
something else. -/
structure IsPlainHost (host : String) : Prop where
  present : host ≠ ""
  noComma : ',' ∉ host.toList
  noAt : '@' ∉ host.toList
  bare : Text.trimmed host = host

instance (host : String) : Decidable (IsPlainHost host) :=
  decidable_of_iff
    (host ≠ "" ∧ ',' ∉ host.toList ∧ '@' ∉ host.toList ∧
      Text.trimmed host = host)
    ⟨fun ⟨present, noComma, noAt, bare⟩ => ⟨present, noComma, noAt, bare⟩,
      fun plain => ⟨plain.present, plain.noComma, plain.noAt, plain.bare⟩⟩

namespace Account

/-- A comma list of plain hosts is read as these hosts. -/
theorem entries_joined_hosts
    {hosts : List String}
    (present : hosts ≠ [])
    (plain : ∀ host ∈ hosts, IsPlainHost host) :
    Text.entries (Text.joined ',' hosts) = hosts := by
  have cut : Text.pieces ',' (Text.joined ',' hosts) = hosts :=
    Text.pieces_joined ',' hosts
      (fun host member => (plain host member).noComma) present
  have bare : hosts.map Text.trimmed = hosts :=
    (List.map_congr_left fun host member => (plain host member).bare).trans
      (List.map_id hosts)
  have filled : ∀ host ∈ hosts, (host != "") = true := by
    intro host member
    exact bne_iff_ne.2 (plain host member).present
  rw [Text.entries, cut, bare, List.filter_eq_self.2 filled]

/-- A comma list of hosts that can each be read back from an id can be read
back itself. -/
theorem readable_joined_hosts
    {hosts : List String}
    (present : hosts ≠ [])
    (each : ∀ host ∈ hosts, host ≠ "" ∧ '@' ∉ host.toList) :
    Text.joined ',' hosts ≠ "" ∧
      '@' ∉ (Text.joined ',' hosts).toList := by
  refine ⟨?_, ?_⟩
  · exact Text.joined_ne_empty present fun member => (each "" member).1 rfl
  · intro member
    rcases Text.mem_joined member with isComma | ⟨host, among, holds⟩
    · cases isComma
    · exact (each host among).2 holds

/-- An account on one plain host stands for itself. -/
theorem expanded_of_isPlainHost
    {account : Account}
    (plain : IsPlainHost account.host) :
    account.expanded = [account] := by
  have listed :=
    entries_joined_hosts (List.cons_ne_nil account.host [])
      (by simpa using plain)
  rw [Text.joined_singleton] at listed
  rw [expanded, hosts, listed]
  rfl

/-- Accounts whose hosts hold no at sign are told apart by their written
forms. -/
theorem eq_of_text_eq
    {account other : Account}
    (free : '@' ∉ account.host.toList)
    (free' : '@' ∉ other.host.toList)
    (same : account.text = other.text) :
    account = other := by
  have cut :
      Text.cutLast? '@' account.text = some (account.name, account.host) :=
    Text.cutLast?_eq_some_iff.2 ⟨rfl, free⟩
  have cut' :
      Text.cutLast? '@' other.text = some (other.name, other.host) :=
    Text.cutLast?_eq_some_iff.2 ⟨rfl, free'⟩
  rw [same, cut'] at cut
  cases account
  cases other
  cases cut
  rfl

end Account

end PrivilegeGraph

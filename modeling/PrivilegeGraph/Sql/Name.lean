import PrivilegeGraph.Error

/-!
# Names in statements

Whatever is put into an administrative statement is first checked against an
allow-list and then quoted.  A checked name carries the proof that it passed, so
a statement can only be built from names that did.
-/

namespace PrivilegeGraph.Sql

/-- Whether a character may stand in the name of a database object. -/
def isIdentChar (c : Char) : Bool :=
  ('a' ≤ c && c ≤ 'z') || ('A' ≤ c && c ≤ 'Z') || ('0' ≤ c && c ≤ '9') ||
    c == '_'

/-- Whether a character may stand in the name of an account. -/
def isUserChar (c : Char) : Bool :=
  isIdentChar c || c == '%' || c == '.' || c == '-'

/-- Whether a character may stand in the host of an account.  A backslash
escapes a pattern character. -/
def isHostChar (c : Char) : Bool :=
  isUserChar c || c == '\\'

/-- Whether a text is not empty and made of allowed characters. -/
def isAllowed
    (allowed : Char → Bool)
    (text : String) :
    Bool :=
  text != "" && text.toList.all allowed

/-- A dotted name of a database object. -/
structure Path where
  parts : List String
  allowed : ∀ part ∈ parts, isAllowed isIdentChar part = true

/-- An account that may stand in a statement. -/
structure Grantee where
  account : Account
  name_allowed : isAllowed isUserChar account.name = true
  host_allowed : isAllowed isHostChar account.host = true

/-- Check a dotted name part by part.  A refusal names the whole text. -/
def Path.ofText (text : String) : Except Error Path :=
  if allowed :
      ∀ part ∈ Text.pieces '.' text, isAllowed isIdentChar part = true then
    .ok ⟨Text.pieces '.' text, allowed⟩
  else
    .error (.invalidIdentifier text)

/-- Check an account, its name before its host.  A refusal names the part. -/
def Grantee.ofAccount (account : Account) : Except Error Grantee :=
  if name_allowed : isAllowed isUserChar account.name = true then
    if host_allowed : isAllowed isHostChar account.host = true then
      .ok ⟨account, name_allowed, host_allowed⟩
    else
      .error (.invalidIdentifier account.host)
  else
    .error (.invalidIdentifier account.name)

/-- A name passes exactly when each of its parts does. -/
theorem Path.ofText_isOk_iff {text : String} :
    (Path.ofText text).isOk = true ↔
      ∀ part ∈ Text.pieces '.' text, isAllowed isIdentChar part = true := by
  unfold Path.ofText
  split
  · next allowed => simpa [Except.isOk, Except.toBool] using allowed
  · next refused => simpa [Except.isOk, Except.toBool] using refused

/-- An account passes exactly when its name and its host do. -/
theorem Grantee.ofAccount_isOk_iff {account : Account} :
    (Grantee.ofAccount account).isOk = true ↔
      isAllowed isUserChar account.name = true ∧
        isAllowed isHostChar account.host = true := by
  unfold Grantee.ofAccount
  split <;> rename_i name
  · split <;> rename_i host <;> simp [Except.isOk, Except.toBool, name, host]
  · simp [Except.isOk, Except.toBool, name]

end PrivilegeGraph.Sql

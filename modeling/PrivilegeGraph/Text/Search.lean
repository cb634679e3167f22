/-!
# Searching text
-/

namespace PrivilegeGraph.Text

/-- Whether some characters stand together, in order, somewhere in a list. -/
def occursIn (part : List Char) : List Char → Bool
  | [] => part.isEmpty
  | c :: rest => part.isPrefixOf (c :: rest) || occursIn part rest

/-- Whether a text occurs within another. -/
def occurs (part whole : String) : Bool :=
  occursIn part.toList whole.toList

theorem occursIn_iff {part whole : List Char} :
    occursIn part whole = true ↔ part <:+: whole := by
  induction whole with
  | nil => simp [occursIn]
  | cons c rest ih => simp [occursIn, ih, List.infix_cons_iff]

/-- A text occurs within another exactly when the other can be divided around
it. -/
theorem occurs_iff {part whole : String} :
    occurs part whole = true ↔ part.toList <:+: whole.toList :=
  occursIn_iff

end PrivilegeGraph.Text

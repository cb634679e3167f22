/-!
# Sorted lists without repetition

A finite set whose order is seen from outside is held as its strictly rising
list.  The two main statements are that insertion adds exactly the new member
and that it keeps the list strictly rising.
-/

namespace PrivilegeGraph.Sorted

/-- Every value is below all that follow it. -/
def Rising
    {α : Type}
    [Ord α]
    (values : List α) : Prop :=
  values.Pairwise fun first second => compare first second = .lt

/-- Put a value into its place, unless it is there already. -/
def insert
    {α : Type}
    [Ord α]
    (value : α) :
    List α → List α
  | [] => [value]
  | head :: rest =>
      match compare value head with
      | .lt => value :: head :: rest
      | .eq => head :: rest
      | .gt => head :: insert value rest

/-- The strictly rising list of the members of a list. -/
def ofList
    {α : Type}
    [Ord α]
    (values : List α) :
    List α :=
  values.foldr insert []

variable
    {α : Type}
    [Ord α]

@[simp]
theorem mem_insert
    [Std.LawfulEqOrd α]
    {value other : α}
    {values : List α} :
    other ∈ insert value values ↔ other = value ∨ other ∈ values := by
  induction values with
  | nil => simp [insert]
  | cons head rest ih =>
    unfold insert
    split
    · simp
    · next same =>
      have : value = head := Std.LawfulEqOrd.eq_of_compare same
      simp [this]
    · simp only [List.mem_cons, ih]
      exact or_left_comm

@[simp]
theorem mem_ofList
    [Std.LawfulEqOrd α]
    {other : α}
    {values : List α} :
    other ∈ ofList values ↔ other ∈ values := by
  induction values with
  | nil => simp [ofList]
  | cons head rest ih =>
    have step : ofList (head :: rest) = insert head (ofList rest) := rfl
    rw [step, mem_insert, ih, List.mem_cons]

theorem Rising.insert
    [Std.TransOrd α]
    [Std.LawfulEqOrd α]
    {value : α}
    {values : List α}
    (rising : Rising values) :
    Rising (Sorted.insert value values) := by
  induction values with
  | nil => simp [Sorted.insert, Rising]
  | cons head rest ih =>
    have above := (List.pairwise_cons.1 rising).1
    have tail : Rising rest := (List.pairwise_cons.1 rising).2
    unfold Sorted.insert
    split
    · next less =>
      refine List.pairwise_cons.2 ⟨?_, rising⟩
      intro other member
      rcases List.mem_cons.1 member with rfl | later
      · exact less
      · exact Std.TransCmp.lt_trans less (above other later)
    · exact rising
    · next greater =>
      refine List.pairwise_cons.2 ⟨?_, ih tail⟩
      intro other member
      rcases mem_insert.1 member with rfl | later
      · exact Std.OrientedCmp.lt_of_gt greater
      · exact above other later

/-- The list of a set is strictly rising. -/
theorem rising_ofList
    [Std.TransOrd α]
    [Std.LawfulEqOrd α]
    (values : List α) :
    Rising (ofList values) := by
  induction values with
  | nil => exact List.Pairwise.nil
  | cons head rest ih => exact ih.insert

/-- A strictly rising list holds nothing twice. -/
theorem Rising.nodup
    [Std.TransOrd α]
    {values : List α}
    (rising : Rising values) :
    values.Nodup := by
  apply List.Pairwise.imp _ rising
  rintro first second below rfl
  have same : compare first first = .eq := Std.ReflCmp.compare_self
  rw [same] at below
  cases below

theorem length_insert_le
    (value : α)
    (values : List α) :
    (insert value values).length ≤ values.length + 1 := by
  induction values with
  | nil => simp [insert]
  | cons head rest ih =>
    unfold insert
    split
    · simp
    · simp
    · simp only [List.length_cons]
      omega

/-- No list grows when it is sorted without repetition. -/
theorem length_ofList_le (values : List α) :
    (ofList values).length ≤ values.length := by
  induction values with
  | nil => simp [ofList]
  | cons head rest ih =>
    have step : ofList (head :: rest) = insert head (ofList rest) := rfl
    rw [step]
    exact Nat.le_trans (length_insert_le head _) (Nat.succ_le_succ ih)

end PrivilegeGraph.Sorted

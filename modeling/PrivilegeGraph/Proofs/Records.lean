import PrivilegeGraph.Event

/-!
# Records and what they are about

The records of one sort among the records of a run can be one for each of a
list of facts.  Such lists are put together as runs are, where events without a
record of that sort may stand anywhere between.
-/

namespace PrivilegeGraph

/-- Whether a record is a warning. -/
def Record.isWarning (record : Record) : Bool :=
  record.level == .warn

/-- Whether a record is a debug record with a message. -/
def Record.isDebug (message : String) (record : Record) : Bool :=
  record.level == .debug && record.message == message

variable
    {κ : Type}
    {wanted : Record → Bool}
    {image : κ → List (String × FieldValue)}
    {facts facts' : List κ}
    {events events' : List Event}

/-- Whether the wanted ones among the records of events are one for each fact,
in order and with the fields of the fact. -/
def LogsEach
    (wanted : Record → Bool)
    (image : κ → List (String × FieldValue))
    (facts : List κ)
    (events : List Event) : Prop :=
  ((events.map Event.record).filter wanted).map Record.fields =
    facts.map image

theorem LogsEach.append
    (first : LogsEach wanted image facts events)
    (second : LogsEach wanted image facts' events') :
    LogsEach wanted image (facts ++ facts') (events ++ events') := by
  unfold LogsEach at first second ⊢
  rw [List.map_append, List.filter_append, List.map_append, first, second,
    List.map_append]

/-- Events of which each is wanted and has the fields of its fact. -/
theorem logsEach_map
    {eventOf : κ → Event}
    (each :
      ∀ fact,
        wanted (eventOf fact).record = true ∧
          (eventOf fact).record.fields = image fact)
    (facts : List κ) :
    LogsEach wanted image facts (facts.map eventOf) := by
  induction facts with
  | nil => rfl
  | cons fact rest ih =>
      unfold LogsEach at ih ⊢
      rw [List.map_cons, List.map_cons, List.filter_cons_of_pos (each fact).1,
        List.map_cons, ih, (each fact).2, List.map_cons]

/-- Whether none of the records of events is wanted. -/
def Silent (wanted : Record → Bool) (events : List Event) : Prop :=
  ∀ event ∈ events, wanted event.record = false

theorem Silent.nil : Silent wanted [] :=
  fun _ member => absurd member List.not_mem_nil

theorem silent_singleton
    {event : Event}
    (quiet : wanted event.record = false) :
    Silent wanted [event] :=
  List.forall_mem_singleton.2 quiet

theorem Silent.append
    (first : Silent wanted events)
    (second : Silent wanted events') :
    Silent wanted (events ++ events') :=
  List.forall_mem_append.2 ⟨first, second⟩

theorem Silent.logsEach
    (silent : Silent wanted events) :
    LogsEach wanted image [] events := by
  have none : (events.map Event.record).filter wanted = [] := by
    simpa [List.filter_eq_nil_iff, Silent] using silent
  rw [LogsEach, none]
  rfl

theorem LogsEach.append_silent
    (first : LogsEach wanted image facts events)
    (silent : Silent wanted events') :
    LogsEach wanted image facts (events ++ events') := by
  have none : LogsEach wanted image [] events' := silent.logsEach
  have both := first.append none
  rwa [List.append_nil] at both

theorem Silent.append_logsEach
    (silent : Silent wanted events)
    (later : LogsEach wanted image facts events') :
    LogsEach wanted image facts (events ++ events') :=
  silent.logsEach.append later

end PrivilegeGraph

/-!
Contract: histories of anything that takes events one after the other.

Owns:
- what is answered to each event of a row, and the state after the row;
- how both are put together from parts of the row;
- what was the case before one of the events of a row, or before all of them;
- an event of a row that none of those after it undoes.

Does not own: what takes the events.
-/

namespace SocketGateway

variable {State Event Answer : Type}

/-- The answers to a row of events. -/
def answersTo (step : State → Event → Answer × State) : State → List Event → List Answer
  | _, [] => []
  | state, event :: rest => (step state event).1 :: answersTo step (step state event).2 rest

def stateAfter (step : State → Event → Answer × State) (start : State) (events : List Event) :
    State :=
  events.foldl (fun state event => (step state event).2) start

variable {step : State → Event → Answer × State} {start : State}

theorem stateAfter_append (first second : List Event) :
    stateAfter step start (first ++ second) =
      stateAfter step (stateAfter step start first) second :=
  List.foldl_append

theorem answersTo_append (first second : List Event) :
    answersTo step start (first ++ second) =
      answersTo step start first ++ answersTo step (stateAfter step start first) second := by
  induction first generalizing start with
  | nil => rfl
  | cons event rest inductionHypothesis =>
    rw [List.cons_append, answersTo, inductionHypothesis]
    rfl

theorem stateAfter_concat (events : List Event) (event : Event) :
    stateAfter step start (events ++ [event]) = (step (stateAfter step start events) event).2 :=
  stateAfter_append events [event]

theorem answersTo_concat (events : List Event) (event : Event) :
    answersTo step start (events ++ [event]) =
      answersTo step start events ++ [(step (stateAfter step start events) event).1] :=
  answersTo_append events [event]

/-- An answer was given to one of the events, in the state after the events before it. -/
theorem answersTo_split {events : List Event} {before after : List Answer} {answer : Answer}
    (split : answersTo step start events = before ++ answer :: after) :
    ∃ first event second, events = first ++ event :: second ∧ before = answersTo step start first ∧
      answer = (step (stateAfter step start first) event).1 ∧
      after = answersTo step (step (stateAfter step start first) event).2 second := by
  induction events generalizing start before with
  | nil => cases before <;> cases split
  | cons event rest inductionHypothesis =>
    cases before with
    | nil =>
      obtain ⟨isAnswer, isAfter⟩ := List.cons.inj split
      exact ⟨[], event, rest, rfl, rfl, isAnswer.symm, isAfter.symm⟩
    | cons earlier others =>
      obtain ⟨isEarlier, isOthers⟩ := List.cons.inj split
      obtain ⟨first, found, second, rfl, rfl, isAnswer, isAfter⟩ := inductionHypothesis isOthers
      exact ⟨event :: first, found, second, rfl, by rw [← isEarlier]; rfl, isAnswer, isAfter⟩

/-- An event of a longer row is the last one, or is among the others. -/
theorem before_concat {events before : List Event} {event last : Event} :
    before ++ [last] <+: events ++ [event] ↔
      before ++ [last] <+: events ∨ before = events ∧ last = event := by
  rw [List.prefix_concat_iff, List.append_singleton_inj, or_comm]

/-- Something was the case before an event of a longer row if it was so before an event of the
shorter one, or is so at the end. -/
theorem exists_before_concat {kind : List Event → Event → Prop} {events : List Event}
    {event : Event} :
    (∃ before last, before ++ [last] <+: events ++ [event] ∧ kind before last) ↔
      (∃ before last, before ++ [last] <+: events ∧ kind before last) ∨ kind events event := by
  constructor
  · rintro ⟨before, last, among, was⟩
    rcases before_concat.mp among with earlier | ⟨rfl, rfl⟩
    · exact Or.inl ⟨before, last, earlier, was⟩
    · exact Or.inr was
  · rintro (⟨before, last, among, was⟩ | is)
    · exact ⟨before, last, before_concat.mpr (Or.inl among), was⟩
    · exact ⟨events, event, List.prefix_rfl, is⟩

/-- It was the case before every event of a longer row if it was so before the events of the shorter
one and is so at the end. -/
theorem forall_before_concat {kind : List Event → Event → Prop} {events : List Event}
    {event : Event} :
    (∀ before last, before ++ [last] <+: events ++ [event] → kind before last) ↔
      (∀ before last, before ++ [last] <+: events → kind before last) ∧ kind events event := by
  constructor
  · intro always
    exact ⟨fun before last among => always before last (before_concat.mpr (Or.inl among)),
      always events event List.prefix_rfl⟩
  · rintro ⟨always, is⟩ before last among
    rcases before_concat.mp among with earlier | ⟨rfl, rfl⟩
    · exact always before last earlier
    · exact is

/-! ### What none has undone since -/

/-- After these earlier events of a row came one of the kind, and none after it undoes it. -/
def Since (kind : List Event → Event → Prop) (undoes : Event → Prop)
    (events earlier : List Event) : Prop :=
  ∃ event later, events = earlier ++ event :: later ∧ kind earlier event ∧
    ∀ other ∈ later, ¬ undoes other

section Since

variable {kind : List Event → Event → Prop} {undoes : Event → Prop} {events earlier : List Event}
  {event : Event}

theorem not_since_nil : ¬ Since kind undoes [] earlier := by
  rintro ⟨event, later, split, -⟩
  cases List.append_eq_nil_iff.mp split.symm |>.2

theorem Since.length_lt (since : Since kind undoes events earlier) :
    earlier.length < events.length := by
  obtain ⟨event, later, rfl, -⟩ := since
  simp

/-- No event that undoes it comes after. -/
theorem Since.le_of_undoes {before after : List Event} (since : Since kind undoes events earlier)
    (split : events = before ++ event :: after) (undone : undoes event) :
    before.length ≤ earlier.length := by
  obtain ⟨first, later, rfl, -, still⟩ := since
  rcases List.append_eq_append_iff.mp split with ⟨between, rfl, rest⟩ | ⟨between, rfl, -⟩
  · cases between with
    | nil => simp
    | cons other between =>
      obtain ⟨-, rfl⟩ := List.cons.inj rest
      exact absurd undone (still event (by simp))
  · simp

/-- In a longer row, the last event is of the kind, or an earlier one is and the last one does not
undo it. -/
theorem since_concat :
    Since kind undoes (events ++ [event]) earlier ↔
      (earlier = events ∧ kind events event) ∨
        (Since kind undoes events earlier ∧ ¬ undoes event) := by
  constructor
  · rintro ⟨first, later, split, is, still⟩
    rcases List.eq_nil_or_concat later with rfl | ⟨between, last, rfl⟩
    · obtain ⟨rfl, rfl⟩ := List.append_singleton_inj.mp split
      exact Or.inl ⟨rfl, is⟩
    · rw [List.concat_eq_append] at split still
      rw [← List.cons_append, ← List.append_assoc] at split
      obtain ⟨rfl, rfl⟩ := List.append_singleton_inj.mp split
      refine Or.inr ⟨⟨first, between, rfl, is, ?_⟩, still _ (by simp)⟩
      intro other among
      exact still other (List.mem_append_left _ among)
  · rintro (⟨rfl, is⟩ | ⟨⟨first, later, rfl, is, still⟩, spares⟩)
    · exact ⟨event, [], rfl, is, nofun⟩
    · refine ⟨first, later ++ [event], by simp, is, ?_⟩
      intro other among
      rcases List.mem_append.mp among with before | isLast
      · exact still other before
      · rw [List.mem_singleton.mp isLast]
        exact spares

/-- The same with the earlier events left open. -/
theorem exists_since_concat :
    (∃ earlier, Since kind undoes (events ++ [event]) earlier) ↔
      kind events event ∨ ((∃ earlier, Since kind undoes events earlier) ∧ ¬ undoes event) := by
  simp only [since_concat, exists_or, exists_eq_left, exists_and_right]

end Since

end SocketGateway

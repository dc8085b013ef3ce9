import ByteGrammar.Parser.Basic

/-!
# Laws of sequence

Sequences of parsers are associative, and a parser that succeeds without reading is neutral on both
sides. The laws are about answers as a whole, with both cursors of a failure. A sequence reports a
failure at the cursor it was given, so however deep the part that fails is nested, its report is
moved there in the end and its attempted cursor is left alone. That is why association changes nothing
(`Parser.bind_bind`), and why a neutral parser is not quite neutral: it leaves its mark on what a failure
reports (`Parser.succeed_bind`, `Parser.bind_succeed`).

Three equations say what a sequence comes to, one for each answer of its first part
(`Parser.bind_of_fault`, `Parser.bind_of_failure`, `Parser.bind_of_success`). All laws follow from them
by cases on that answer.

A function on values may have no result for a value, and a second part may be impossible to build. Both
are faults. A function of this kind is applied by `Parser.mapMaking`, of which `Parser.map` is the case
in which nothing can fail.
-/

set_option autoImplicit false

namespace ByteGrammar

namespace Parser

variable {α β γ : Type} {parser : Parser α} {cur : Cursor}

/-! ## What a sequence comes to -/

theorem bind_of_fault {fault : Fault} (run : parser cur = .error fault) (next : α → Parser β) :
    parser.bind next cur = .error fault := by
  simp only [bind, bindWith, bindMaking, run]

theorem bind_of_failure {reported attempted : Cursor}
    (run : parser cur = .ok (.failure reported attempted)) (next : α → Parser β) :
    parser.bind next cur = .ok (.failure cur attempted) := by
  simp only [bind, bindWith, bindMaking, run]

/-- Behind a success the sequence answers as its second part does, but a failure is reported in front
of the whole. -/
theorem bind_of_success {value : α} {middle : Cursor}
    (run : parser cur = .ok (.success value middle)) (next : α → Parser β) :
    parser.bind next cur = (next value middle).map (Outcome.reanchor · cur) := by
  simp only [bind, bindWith, bindMaking, run]
  rcases next value middle with fault | ⟨other, last⟩ | ⟨reported, attempted⟩ <;> rfl

/-! ## Association and neutral parsers -/

/-- **Sequences are associative**, with all cursors of all answers. -/
theorem bind_bind (parser : Parser α) (next : α → Parser β) (further : β → Parser γ) :
    (parser.bind next).bind further = parser.bind fun value => (next value).bind further := by
  funext cur
  rcases run : parser cur with fault | ⟨value, middle⟩ | ⟨reported, attempted⟩
  · rw [bind_of_fault (bind_of_fault run next), bind_of_fault run]
  · have first := bind_of_success run next
    rw [bind_of_success run]
    -- The second part decides whether the third one is reached.
    rcases runNext : next value middle with fault | ⟨other, last⟩ | ⟨reported, attempted⟩
    · rw [runNext] at first
      rw [bind_of_fault first, bind_of_fault runNext]
      rfl
    · rw [runNext] at first
      rw [bind_of_success first, bind_of_success runNext]
      -- The report is moved to the front at once on one side, and in two steps on the other.
      rcases further other last with fault | ⟨_, _⟩ | ⟨_, _⟩ <;> rfl
    · rw [runNext] at first
      rw [bind_of_failure first, bind_of_failure runNext]
      rfl
  · rw [bind_of_failure (bind_of_failure run next), bind_of_failure run]

theorem succeed_bind (value : α) (next : α → Parser β) (cur : Cursor) :
    (succeed value).bind next cur = (next value cur).map (Outcome.reanchor · cur) :=
  bind_of_success rfl next

theorem bind_succeed (parser : Parser α) (cur : Cursor) :
    parser.bind succeed cur = (parser cur).map (Outcome.reanchor · cur) := by
  rcases run : parser cur with fault | ⟨value, last⟩ | ⟨reported, attempted⟩
  · exact bind_of_fault run _
  · exact bind_of_success run _
  · exact bind_of_failure run _

/-! ## Functions on values -/

/-- Change the value of a success by a function that may have no result for it, which is a fault. -/
def mapMaking (parser : Parser α) (make : α → Except Fault β) : Parser β :=
  fun cur =>
    match parser cur with
    | .error fault => .error fault
    | .ok (.failure _ attemptedAt) => .ok (.failure cur attemptedAt)
    | .ok (.success value remainder) =>
      match make value with
      | .error fault => .error fault
      | .ok result => .ok (.success result remainder)

/-- A function that has a result for every value is the case in which nothing can fail. -/
theorem map_eq_mapMaking (parser : Parser α) (f : α → β) :
    parser.map f = parser.mapMaking fun value => .ok (f value) := by
  funext cur
  rw [map, mapMaking]
  rcases parser cur with fault | ⟨value, last⟩ | ⟨reported, attempted⟩ <;> rfl

/-- Joining the two values of a sequence is a change of the second one. -/
theorem bindMaking_eq_bind (parser : Parser α) (next : α → Parser β)
    (make : α → β → Except Fault γ) :
    parser.bindMaking next make = parser.bind fun value => (next value).mapMaking (make value) := by
  funext cur
  rw [bindMaking]
  rcases run : parser cur with fault | ⟨value, middle⟩ | ⟨reported, attempted⟩
  · rw [bind_of_fault run]
  · rw [bind_of_success run, mapMaking]
    dsimp only
    rcases next value middle with fault | ⟨other, last⟩ | ⟨reported, attempted⟩
    · rfl
    · dsimp only
      cases make value other <;> rfl
    · rfl
  · rw [bind_of_failure run]

/-- Changing a value is a sequence whose second part succeeds with the new value. It cannot be built if
there is none. -/
theorem mapMaking_eq_bind (parser : Parser α) (make : α → Except Fault β) :
    parser.mapMaking make = parser.bind fun value => deferred ((make value).map succeed) := by
  funext cur
  rw [mapMaking]
  rcases run : parser cur with fault | ⟨value, middle⟩ | ⟨reported, attempted⟩
  · rw [bind_of_fault run]
  · rw [bind_of_success run]
    dsimp only
    cases make value <;> rfl
  · rw [bind_of_failure run]

theorem mapMaking_mapMaking (parser : Parser α) (make : α → Except Fault β)
    (makeNext : β → Except Fault γ) :
    (parser.mapMaking make).mapMaking makeNext = parser.mapMaking fun value =>
      (make value).bind makeNext := by
  funext cur
  simp only [mapMaking]
  rcases parser cur with fault | ⟨value, last⟩ | ⟨reported, attempted⟩
  · rfl
  · dsimp only
    cases make value <;> rfl
  · rfl

/-! ### Functions with a result for every value -/

theorem bindWith_eq_bind (parser : Parser α) (next : α → Parser β) (join : α → β → γ) :
    parser.bindWith next join = parser.bind fun value => (next value).map (join value) := by
  simp only [map_eq_mapMaking]
  rw [bindWith, bindMaking_eq_bind]

theorem map_eq_bind (parser : Parser α) (f : α → β) :
    parser.map f = parser.bind fun value => succeed (f value) := by
  rw [map_eq_mapMaking, mapMaking_eq_bind]
  rfl

theorem map_map (parser : Parser α) (f : α → β) (g : β → γ) :
    (parser.map f).map g = parser.map (g ∘ f) := by
  simp only [map_eq_mapMaking, mapMaking_mapMaking]
  rfl

/-! ## Parts that cannot be built -/

/-- A part that cannot be built is met in the same way where a sequence begins with it. -/
theorem deferred_bind (built : Except Fault (Parser α)) (next : α → Parser β) :
    (deferred built).bind next = deferred (built.map fun part => part.bind next) := by
  cases built <;> rfl

theorem deferred_mapMaking (built : Except Fault (Parser α)) (make : α → Except Fault β) :
    (deferred built).mapMaking make = deferred (built.map fun part => part.mapMaking make) := by
  cases built <;> rfl

/-! ## All laws together -/

/-- **The laws of sequence hold for answers as a whole.** Sequences are associative. A parser that
succeeds without reading is neutral in front of a parser and behind one, except that a failure is
reported at the cursor of the whole. Joining two values is a change of the second one in the second part,
changing a value is a sequence that succeeds with the new one, and two changes in a row are one change.

Equal parsers have the same answers at every cursor, with both cursors of a failure and with their
faults. The parsers and second parts are arbitrary, so they may end in a fault, and a function on values
may have no result. The last two laws say that it makes no difference whether a second part cannot be
built or is put together from a part that cannot be built. -/
theorem laws_of_sequence :
    (∀ {α β γ : Type} (parser : Parser α) (next : α → Parser β) (further : β → Parser γ),
      (parser.bind next).bind further = parser.bind fun value => (next value).bind further) ∧
    ((∀ {α β : Type} (value : α) (next : α → Parser β) cur,
        (succeed value).bind next cur = (next value cur).map (Outcome.reanchor · cur)) ∧
      ∀ {α : Type} (parser : Parser α) cur,
        parser.bind succeed cur = (parser cur).map (Outcome.reanchor · cur)) ∧
    ((∀ {α β γ : Type} (parser : Parser α) (next : α → Parser β) (join : α → β → γ),
        parser.bindWith next join = parser.bind fun value => (next value).map (join value)) ∧
      ∀ {α β γ : Type} (parser : Parser α) (next : α → Parser β) (make : α → β → Except Fault γ),
        parser.bindMaking next make =
          parser.bind fun value => (next value).mapMaking (make value)) ∧
    ((∀ {α β : Type} (parser : Parser α) (f : α → β),
        parser.map f = parser.bind fun value => succeed (f value)) ∧
      ∀ {α β : Type} (parser : Parser α) (make : α → Except Fault β),
        parser.mapMaking make = parser.bind fun value => deferred ((make value).map succeed)) ∧
    ((∀ {α β γ : Type} (parser : Parser α) (f : α → β) (g : β → γ),
        (parser.map f).map g = parser.map (g ∘ f)) ∧
      ∀ {α β γ : Type} (parser : Parser α) (make : α → Except Fault β) (makeNext : β → Except Fault γ),
        (parser.mapMaking make).mapMaking makeNext =
          parser.mapMaking fun value => (make value).bind makeNext) ∧
    (∀ {α β : Type} (built : Except Fault (Parser α)) (next : α → Parser β),
      (deferred built).bind next = deferred (built.map fun part => part.bind next)) ∧
    ∀ {α β : Type} (built : Except Fault (Parser α)) (make : α → Except Fault β),
      (deferred built).mapMaking make = deferred (built.map fun part => part.mapMaking make) :=
  ⟨bind_bind, ⟨succeed_bind, bind_succeed⟩, ⟨bindWith_eq_bind, bindMaking_eq_bind⟩,
    ⟨map_eq_bind, mapMaking_eq_bind⟩, ⟨map_map, mapMaking_mapMaking⟩, deferred_bind,
    deferred_mapMaking⟩

end Parser

end ByteGrammar

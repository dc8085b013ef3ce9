import ByteGrammar.Proofs.Repetition

/-!
# The track of an open-ended repetition

An open-ended repetition follows the successes of its parser for as long as they move. The values it
reads on the way, each with the cursor behind it, are its track (`Parser.Track`). A track is a chain
in which the cursors between the first and the last one are kept (`Track.chain`,
`Chain.exists_track`).

The track that ends where the parser fails or does not move is the only one, since the parser has one
answer at each cursor. A parser that answers everywhere and does not go back has such a track from
every cursor, and the repetition returns its values and its end (`Onward.many_follows_track`).

Two readings of the loop follow. It can be read as a recursion that takes one step and repeats behind
it (`many_of_moved`), or any number of steps (`many_of_chain`). And a repetition that is repeated takes
its whole track in one step, behind which nothing is left for it (`many_many_of_chain`).
-/

set_option autoImplicit false

namespace ByteGrammar

namespace Parser

variable {α : Type} {parser : Parser α} {cur next last : Cursor} {value : α} {values : List α}
variable {steps others : List (α × Cursor)}

/-! ## Tracks -/

/-- Some successes of a parser, each at the cursor where the one before it stopped, and each of
them moving. Every value is kept with the cursor behind it. -/
inductive Track (parser : Parser α) : Cursor → List (α × Cursor) → Prop
  | nil (cur : Cursor) : Track parser cur []
  | cons {cur next : Cursor} {value : α} {steps : List (α × Cursor)}
      (run : parser cur = .ok (.success value next)) (moved : (next == cur) = false)
      (rest : Track parser next steps) : Track parser cur ((value, next) :: steps)

/-- The cursor behind the last one of some steps, which is the first cursor if there are none. -/
def reached (cur : Cursor) : List (α × Cursor) → Cursor
  | [] => cur
  | (_, next) :: steps => reached next steps

/-- The values of a track are a chain that ends where the track does. -/
theorem Track.chain (track : parser.Track cur steps) :
    parser.Chain cur (steps.map Prod.fst) (reached cur steps) := by
  induction track with
  | nil cur => exact .nil cur
  | cons run moved _ ih => exact .cons run moved ih

/-- Every chain has a track. -/
theorem Chain.exists_track (chain : parser.Chain cur values last) :
    ∃ steps, parser.Track cur steps ∧ steps.map Prod.fst = values ∧ reached cur steps = last := by
  induction chain with
  | nil cur => exact ⟨[], .nil cur, rfl, rfl⟩
  | cons run moved _ ih =>
    obtain ⟨steps, track, rfl, rfl⟩ := ih
    exact ⟨_, .cons run moved track, rfl, rfl⟩

/-- Tracks from one cursor differ in nothing but their lengths. -/
theorem Track.eq_of_length_eq (track : parser.Track cur steps) (other : parser.Track cur others)
    (lengths : steps.length = others.length) : steps = others := by
  induction track generalizing others with
  | nil cur => exact (List.length_eq_zero_iff.mp lengths.symm).symm
  | cons run _ _ ih =>
    cases other with
    | nil => cases lengths
    | cons run' _ rest' =>
      rw [run] at run'
      cases run'
      rw [ih rest' (Nat.succ.inj lengths)]

/-- **From one cursor there is at most one track that has come to its end**, with all cursors on
the way. -/
theorem Track.unique (track : parser.Track cur steps) (halts : parser.Halts (reached cur steps))
    (other : parser.Track cur others) (halts' : parser.Halts (reached cur others)) :
    steps = others := by
  have values := (track.chain.unique halts other.chain halts').1
  have lengths := congrArg List.length values
  rw [List.length_map, List.length_map] at lengths
  exact track.eq_of_length_eq other lengths

/-! ## The recursive reading -/

/-- Nothing is read where the parser fails or does not move. -/
theorem many_of_halts (halts : parser.Halts cur) : parser.many cur = .ok (.success [] cur) :=
  manyFrom_of_chain (.nil cur) halts (Nat.zero_le _)

/-- **A repetition is a step and the repetition behind it** where the parser moves. -/
theorem many_of_moved (onward : parser.Onward) (run : parser cur = .ok (.success value next))
    (moved : (next == cur) = false) :
    parser.many cur = (parser.many next).map (Outcome.map (value :: ·)) := by
  obtain ⟨values, last, chain, halts⟩ := exists_chain onward next
  have behind := (many_eq_success_iff onward).mpr ⟨chain, halts⟩
  have whole := (many_eq_success_iff onward).mpr ⟨chain.cons run moved, halts⟩
  rw [behind, whole]
  rfl

/-- **A repetition is a chain and the repetition behind it**, wherever the chain is broken off. -/
theorem many_of_chain (onward : parser.Onward) (chain : parser.Chain cur values last) :
    parser.many cur = (parser.many last).map (Outcome.map (values ++ ·)) := by
  -- What is in front of the repetition is put there value by value, as the chain is followed.
  have gathered : ∀ (value : α) (others : List α) (answer : Except Fault (Outcome (List α))),
      (answer.map (Outcome.map (others ++ ·))).map (Outcome.map (value :: ·)) =
        answer.map (Outcome.map (value :: others ++ ·)) := by
    intro value others answer
    rcases answer with fault | ⟨more, stop⟩ | ⟨reported, attempted⟩ <;> rfl
  induction chain with
  | nil cur => rcases parser.many cur with fault | ⟨more, stop⟩ | ⟨reported, attempted⟩ <;> rfl
  | cons run moved _ ih => rw [many_of_moved onward run moved, ih, gathered]

/-! ## A repetition that is repeated -/

/-- A chain with a value in it leads to another cursor, if it does not go back. -/
theorem Chain.moved (onward : parser.Onward) (chain : parser.Chain cur values last)
    (some : values ≠ []) : (last == cur) = false := by
  have further := (chain.length_le onward).2
  have positive := List.length_pos_iff.mpr some
  cases same : last == cur with
  | false => rfl
  | true =>
    have position := ((Cursor.beq_eq_true_iff last cur).mp same).2
    omega

/-- A repetition does not go back if its parser does not. -/
theorem Onward.many (onward : parser.Onward) : parser.many.Onward := by
  intro cur
  obtain ⟨values, last, chain, halts⟩ := exists_chain onward cur
  refine ⟨_, (many_eq_success_iff onward).mpr ⟨chain, halts⟩, ?_⟩
  rintro _ _ ⟨⟩
  exact (chain.length_le onward).1

/-- **A repetition that is repeated takes everything at once**, or nothing if there is nothing. -/
theorem many_many_of_chain (onward : parser.Onward) (chain : parser.Chain cur values last)
    (halts : parser.Halts last) :
    parser.many.many cur =
      .ok (if values = [] then .success [] cur else .success [values] last) := by
  have nothing : parser.many last = .ok (.success [] last) := many_of_halts halts
  have stops : parser.many.Halts last :=
    .stayed nothing ((Cursor.beq_eq_true_iff last last).mpr ⟨rfl, rfl⟩)
  split
  · next empty =>
    subst empty
    cases chain
    exact many_of_halts stops
  · next some =>
    have run := (many_eq_success_iff onward).mpr ⟨chain, halts⟩
    have once : parser.many.Chain cur [values] last :=
      .cons run (chain.moved onward some) (.nil last)
    exact (many_eq_success_iff onward.many).mpr ⟨once, stops⟩

/-! ## What the repetition returns -/

/-- **A repetition returns the one track of its parser that has come to its end.** Each step of the
track is a success that moves, and at its end the parser fails, or succeeds without moving and with
a value that is not kept. Repeated again at that end, it returns nothing.

So it is the recursion that takes a step and goes on behind it, as long as the parser moves. Repeated
itself, it returns all its values as one, or nothing if it has none. -/
theorem Onward.many_follows_track (onward : parser.Onward) (cur : Cursor) :
    ∃ steps : List (α × Cursor),
      (parser.Track cur steps ∧ parser.Halts (reached cur steps)) ∧
      (∀ others, parser.Track cur others → parser.Halts (reached cur others) → others = steps) ∧
      parser.many cur = .ok (.success (steps.map Prod.fst) (reached cur steps)) ∧
      ((parser.Halts cur → parser.many cur = .ok (.success [] cur)) ∧
        ∀ value next, parser cur = .ok (.success value next) → (next == cur) = false →
          parser.many cur = (parser.many next).map (Outcome.map (value :: ·))) ∧
      parser.many (reached cur steps) = .ok (.success [] (reached cur steps)) ∧
      (steps = [] → parser.many.many cur = .ok (.success [] cur)) ∧
      (steps ≠ [] →
        parser.many.many cur = .ok (.success [steps.map Prod.fst] (reached cur steps))) := by
  obtain ⟨values, last, chain, halts⟩ := exists_chain onward cur
  obtain ⟨steps, track, rfl, rfl⟩ := chain.exists_track
  have twice := many_many_of_chain onward chain halts
  simp only [List.map_eq_nil_iff] at twice
  refine ⟨steps, ⟨track, halts⟩, ?_, ?_, ⟨many_of_halts, ?_⟩, many_of_halts halts, ?_, ?_⟩
  · exact fun others other halts' => other.unique halts' track halts
  · exact (many_eq_success_iff onward).mpr ⟨chain, halts⟩
  · exact fun value next run moved => many_of_moved onward run moved
  · intro empty
    rw [twice, if_pos empty]
  · intro some
    rw [twice, if_neg some]

/-! ### A success that does not move

Behind the two letters the parser succeeds with a value of its own and stays where it is. That value
is not returned. -/

namespace Sample

/-- The cursor at a position of two letters and a mark. -/
def twoLetters (pos : Nat) (inside : pos ≤ 3) : Cursor :=
  ⟨.ofList [0x61, 0x62, 0x21], pos, inside⟩

/-- A letter, or a blank where there is none. -/
def letterOrBlank : Parser UInt8 :=
  alternate (byteMatching fun byte => 0x61 ≤ byte) (succeed 0x20)

theorem onward_letterOrBlank : letterOrBlank.Onward := by
  have letter : (byteMatching fun byte => 0x61 ≤ byte).Advances (fun _ => False) fun _ => True :=
    ((forward_byteMatching _).advances _).mono fun _ _ => trivial
  have blank : (succeed (0x20 : UInt8)).Advances (fun _ => False) fun _ => True :=
    fun cur => ⟨trivial, le_refl cur⟩
  exact (letter.firstOf (by simpa using blank)).forward.onward

theorem letterOrBlank_follows_track :
    letterOrBlank.Onward ∧
      letterOrBlank (twoLetters 2 (by decide)) =
        .ok (.success 0x20 (twoLetters 2 (by decide))) ∧
      letterOrBlank.many (twoLetters 0 (by decide)) =
        .ok (.success [0x61, 0x62] (twoLetters 2 (by decide))) ∧
      letterOrBlank.many (twoLetters 2 (by decide)) =
        .ok (.success [] (twoLetters 2 (by decide))) ∧
      letterOrBlank.many.many (twoLetters 0 (by decide)) =
        .ok (.success [[0x61, 0x62]] (twoLetters 2 (by decide))) := by
  obtain ⟨steps, ⟨track, halts⟩, only, run, _, again, _, twice⟩ :=
    onward_letterOrBlank.many_follows_track (twoLetters 0 (by decide))
  have blank : letterOrBlank (twoLetters 2 (by decide)) =
      .ok (.success 0x20 (twoLetters 2 (by decide))) := rfl
  have letters : letterOrBlank.Track (twoLetters 0 (by decide))
      [(0x61, twoLetters 1 (by decide)), (0x62, twoLetters 2 (by decide))] :=
    .cons rfl rfl (.cons rfl rfl (.nil _))
  obtain rfl := only _ letters (.stayed blank rfl)
  exact ⟨onward_letterOrBlank, blank, run, again, twice (List.cons_ne_nil _ _)⟩

end Sample

end Parser

end ByteGrammar

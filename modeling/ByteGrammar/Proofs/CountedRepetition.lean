import ByteGrammar.Proofs.Reporting

/-!
# Repetitions that are counted

A repetition of a fixed number answers by the successes of its parser in a row. It succeeds with
their values if there are as many as are wanted (`timesFrom_eq_success_iff`). If there are fewer, and
behind them the parser fails or ends in a fault, the repetition does so too
(`timesFrom_eq_failure_iff`, `timesFrom_eq_fault_iff`).

Successes in a row can be put behind each other and taken apart again (`successes_append_iff`), and
groups of them are the successes of a repetition (`successes_timesFrom_iff`). What a repetition of a
sum or of a product comes to follows from that without another look at the loop
(`times_splits_and_nests`).

A repetition of groups does not report what a plain repetition does. Where the parser fails inside a
group, the group fails as a whole, and what is reported is the cursor in front of it
(`Successes.exists_groups`).
-/

set_option autoImplicit false

namespace ByteGrammar

namespace Parser

variable {α : Type} {parser : Parser α} {cur middle last reported attempted : Cursor}
variable {values others : List α}

/-! ## Successes in a row -/

theorem Successes.append (start : parser.Successes cur values middle)
    (further : parser.Successes middle others last) :
    parser.Successes cur (values ++ others) last := by
  induction start with
  | nil cur => exact further
  | cons run _ ih => exact .cons run (ih further)

/-- Successes in a row are some of them and the others behind these. -/
theorem successes_append_iff :
    parser.Successes cur (values ++ others) last ↔
      ∃ middle, parser.Successes cur values middle ∧ parser.Successes middle others last := by
  constructor
  · intro whole
    induction values generalizing cur with
    | nil => exact ⟨cur, .nil cur, whole⟩
    | cons value values ih =>
      cases whole with
      | cons run rest =>
        obtain ⟨middle, start, further⟩ := ih rest
        exact ⟨middle, .cons run start, further⟩
  · rintro ⟨middle, start, further⟩
    exact start.append further

/-! ## What a repetition answers -/

/-- **A repetition succeeds with as many successes in a row as are wanted.** -/
theorem timesFrom_eq_success_iff {count : Nat} {before all : List α} :
    parser.timesFrom count before cur = .ok (.success all last) ↔
      ∃ values, parser.Successes cur values last ∧ values.length = count ∧
        all = before.reverse ++ values := by
  induction count generalizing cur before with
  | zero =>
    rw [timesFrom]
    constructor
    · rintro ⟨⟩
      exact ⟨[], .nil last, rfl, (List.append_nil _).symm⟩
    · rintro ⟨values, successes, none, rfl⟩
      obtain rfl := List.length_eq_zero_iff.mp none
      cases successes
      rw [List.append_nil]
  | succ count ih =>
    rw [timesFrom]
    constructor
    · intro run
      split at run
      · cases run
      · cases run
      · next value next step =>
        obtain ⟨values, successes, length, rfl⟩ := ih.mp run
        refine ⟨value :: values, .cons step successes, congrArg Nat.succ length, ?_⟩
        rw [List.reverse_cons, List.append_assoc, List.singleton_append]
    · rintro ⟨values, successes, length, rfl⟩
      cases successes with
      | nil => cases length
      | @cons _ _ _ value values step rest =>
        simp only [step]
        refine ih.mpr ⟨values, rest, Nat.succ.inj length, ?_⟩
        rw [List.reverse_cons, List.append_assoc, List.singleton_append]

/-- A repetition from its beginning succeeds with the values of the successes. -/
theorem timesFrom_nil_eq_success_iff {count : Nat} :
    parser.timesFrom count [] cur = .ok (.success values last) ↔
      parser.Successes cur values last ∧ values.length = count := by
  rw [timesFrom_eq_success_iff]
  constructor
  · rintro ⟨others, successes, length, rfl⟩
    exact ⟨successes, length⟩
  · rintro ⟨successes, length⟩
    exact ⟨values, successes, length, rfl⟩

/-- A repetition ends in a fault if its parser does, before there are as many successes as are
wanted. -/
theorem timesFrom_eq_fault_iff {count : Nat} {before : List α} {fault : Fault} :
    parser.timesFrom count before cur = .error fault ↔
      ∃ values behind, parser.Successes cur values behind ∧ values.length < count ∧
        parser behind = .error fault := by
  induction count generalizing cur before with
  | zero => simp [timesFrom]
  | succ count ih =>
    rw [timesFrom]
    constructor
    · intro met
      split at met
      · next cause run =>
        cases met
        exact ⟨[], cur, .nil cur, Nat.succ_pos count, run⟩
      · cases met
      · next value middle run =>
        obtain ⟨values, behind, successes, fewer, met⟩ := ih.mp met
        exact ⟨value :: values, behind, .cons run successes, Nat.succ_lt_succ fewer, met⟩
    · rintro ⟨values, behind, successes, fewer, met⟩
      cases successes with
      | nil => simp only [met]
      | cons run rest =>
        simp only [run]
        exact ih.mpr ⟨_, behind, rest, Nat.lt_of_succ_lt_succ fewer, met⟩

/-! ## Sums -/

/-- A repetition that does not succeed gives the answer of every longer one. -/
theorem timesFrom_add_of_not_success {count : Nat} (more : Nat)
    (stops : ∀ values middle, parser.timesFrom count [] cur ≠ .ok (.success values middle)) :
    parser.timesFrom (count + more) [] cur = parser.timesFrom count [] cur := by
  rcases run : parser.timesFrom count [] cur with fault | ⟨values, middle⟩ | ⟨reported, attempted⟩
  · obtain ⟨values, behind, successes, fewer, met⟩ := timesFrom_eq_fault_iff.mp run
    exact timesFrom_eq_fault_iff.mpr ⟨values, behind, successes, by omega, met⟩
  · exact absurd run (stops values middle)
  · obtain ⟨values, successes, fewer, fails⟩ := timesFrom_eq_failure_iff.mp run
    exact timesFrom_eq_failure_iff.mpr ⟨values, successes, by omega, fails⟩

/-- Behind a repetition that succeeds a longer one answers as the rest of it does. -/
theorem timesFrom_add_of_success {count : Nat} (more : Nat)
    (run : parser.timesFrom count [] cur = .ok (.success values middle)) :
    parser.timesFrom (count + more) [] cur =
      (parser.timesFrom more [] middle).map (Outcome.map (values ++ ·)) := by
  obtain ⟨start, length⟩ := timesFrom_nil_eq_success_iff.mp run
  rcases rest : parser.timesFrom more [] middle with fault | ⟨others, last⟩ | ⟨reported, attempted⟩
  · obtain ⟨others, behind, further, fewer, met⟩ := timesFrom_eq_fault_iff.mp rest
    refine timesFrom_eq_fault_iff.mpr ⟨_, behind, start.append further, ?_, met⟩
    rw [List.length_append]
    omega
  · obtain ⟨further, others⟩ := timesFrom_nil_eq_success_iff.mp rest
    refine timesFrom_nil_eq_success_iff.mpr ⟨start.append further, ?_⟩
    rw [List.length_append, length, others]
  · obtain ⟨others, further, fewer, fails⟩ := timesFrom_eq_failure_iff.mp rest
    refine timesFrom_eq_failure_iff.mpr ⟨_, start.append further, ?_, fails⟩
    rw [List.length_append]
    omega

/-! ## Groups -/

/-- Values in a number of groups of one size, in their order. -/
structure Grouped (size count : Nat) (values : List α) (groups : List (List α)) : Prop where
  flatten_eq : groups.flatten = values
  length_eq : groups.length = count
  size_eq : ∀ group ∈ groups, group.length = size

variable {size count : Nat} {groups : List (List α)}

/-- Groups of one size hold as many values as there are groups of that size. -/
theorem length_flatten_of_size (sizes : ∀ group ∈ groups, group.length = size) :
    groups.flatten.length = size * groups.length := by
  induction groups with
  | nil => rfl
  | cons group groups ih =>
    obtain ⟨here, there⟩ := List.forall_mem_cons.mp sizes
    rw [List.flatten_cons, List.length_append, here, ih there, List.length_cons, Nat.mul_succ,
      Nat.add_comm]

/-- As many values as the groups hold can be grouped. -/
theorem exists_grouped (length : values.length = size * count) :
    ∃ groups, Grouped size count values groups := by
  induction count generalizing values with
  | zero =>
    obtain rfl := List.length_eq_zero_iff.mp length
    exact ⟨[], rfl, rfl, by simp⟩
  | succ count ih =>
    rw [Nat.mul_succ] at length
    have behind : (values.drop size).length = size * count := by
      rw [List.length_drop]
      omega
    obtain ⟨groups, same, number, sizes⟩ := ih behind
    refine ⟨values.take size :: groups, ?_, congrArg Nat.succ number, ?_⟩
    · rw [List.flatten_cons, same, List.take_append_drop]
    · refine List.forall_mem_cons.mpr ⟨?_, sizes⟩
      rw [List.length_take]
      omega

/-- **Successes of a repetition are successes of its parser in groups.** -/
theorem successes_timesFrom_iff :
    Successes (parser.timesFrom size []) cur groups last ↔
      parser.Successes cur groups.flatten last ∧ ∀ group ∈ groups, group.length = size := by
  constructor
  · intro successes
    induction successes with
    | nil cur => exact ⟨.nil cur, by simp⟩
    | cons run _ ih =>
      obtain ⟨start, length⟩ := timesFrom_nil_eq_success_iff.mp run
      exact ⟨start.append ih.1, List.forall_mem_cons.mpr ⟨length, ih.2⟩⟩
  · rintro ⟨successes, sizes⟩
    induction groups generalizing cur with
    | nil =>
      cases successes
      exact .nil _
    | cons group groups ih =>
      obtain ⟨here, there⟩ := List.forall_mem_cons.mp sizes
      obtain ⟨middle, start, further⟩ := successes_append_iff.mp successes
      exact .cons (timesFrom_nil_eq_success_iff.mpr ⟨start, here⟩) (ih further there)

/-- Fewer successes than all groups hold are some whole groups, and the beginning of another. -/
theorem Successes.exists_groups (successes : parser.Successes cur values last)
    (few : values.length < size * count) :
    ∃ groups rest behind,
      (Successes (parser.timesFrom size []) cur groups behind ∧ groups.length < count) ∧
        (parser.Successes behind rest last ∧ rest.length < size) ∧
        parser.Successes cur (values.take (size * (values.length / size))) behind := by
  have positive : 0 < size := Nat.pos_of_mul_pos_right (Nat.zero_lt_of_lt few)
  have whole : size * (values.length / size) ≤ values.length := Nat.mul_div_le _ _
  have less : values.length / size < count := Nat.div_lt_of_lt_mul few
  have part : values.length - size * (values.length / size) < size := by
    rw [← Nat.mod_eq_sub]
    exact Nat.mod_lt _ positive
  rw [← List.take_append_drop (size * (values.length / size)) values] at successes
  obtain ⟨behind, start, further⟩ := successes_append_iff.mp successes
  obtain ⟨groups, same, number, sizes⟩ :=
    exists_grouped (List.length_take_of_le whole)
  refine ⟨groups, _, behind, ⟨?_, by omega⟩, ⟨further, by rwa [List.length_drop]⟩, start⟩
  rw [← same] at start
  exact successes_timesFrom_iff.mpr ⟨start, sizes⟩

/-- Some whole groups and the beginning of another are fewer successes than all groups hold. -/
theorem Successes.of_groups (successes : Successes (parser.timesFrom size []) cur groups middle)
    (fewer : groups.length < count) (further : parser.Successes middle values last)
    (less : values.length < size) :
    parser.Successes cur (groups.flatten ++ values) last ∧
      (groups.flatten ++ values).length < size * count := by
  obtain ⟨start, sizes⟩ := successes_timesFrom_iff.mp successes
  refine ⟨start.append further, ?_⟩
  have room : size * groups.length + size ≤ size * count := by
    rw [← Nat.mul_succ]
    exact Nat.mul_le_mul_left size fewer
  rw [List.length_append, length_flatten_of_size sizes]
  omega

/-! ## Products -/

/-- A repetition of a repetition ends in the same faults as a plain one. -/
theorem timesFrom_timesFrom_eq_fault_iff {fault : Fault} :
    timesFrom (parser.timesFrom size []) count [] cur = .error fault ↔
      parser.timesFrom (size * count) [] cur = .error fault := by
  simp only [timesFrom_eq_fault_iff]
  constructor
  · rintro ⟨groups, middle, successes, fewer, values, behind, further, less, met⟩
    obtain ⟨whole, few⟩ := successes.of_groups fewer further less
    exact ⟨_, behind, whole, few, met⟩
  · rintro ⟨values, behind, successes, few, met⟩
    obtain ⟨groups, rest, middle, ⟨whole, fewer⟩, ⟨further, less⟩, _⟩ := successes.exists_groups few
    exact ⟨groups, middle, whole, fewer, rest, behind, further, less, met⟩

/-- If a repetition of groups succeeds, so does the plain one, with the values of the groups. -/
theorem timesFrom_of_timesFrom_timesFrom_eq_success
    (run : timesFrom (parser.timesFrom size []) count [] cur = .ok (.success groups last)) :
    ∃ values, parser.timesFrom (size * count) [] cur = .ok (.success values last) ∧
      Grouped size count values groups := by
  obtain ⟨successes, number⟩ := timesFrom_nil_eq_success_iff.mp run
  obtain ⟨flat, sizes⟩ := successes_timesFrom_iff.mp successes
  have length : groups.flatten.length = size * count := by
    rw [length_flatten_of_size sizes, number]
  exact ⟨_, timesFrom_nil_eq_success_iff.mpr ⟨flat, length⟩, rfl, number, sizes⟩

/-- If a plain repetition succeeds, so does the one of groups, with the values in groups. -/
theorem timesFrom_timesFrom_of_timesFrom_eq_success
    (run : parser.timesFrom (size * count) [] cur = .ok (.success values last)) :
    ∃ groups, timesFrom (parser.timesFrom size []) count [] cur = .ok (.success groups last) ∧
      Grouped size count values groups := by
  obtain ⟨successes, length⟩ := timesFrom_nil_eq_success_iff.mp run
  obtain ⟨groups, grouped⟩ := exists_grouped length
  rw [← grouped.flatten_eq] at successes
  have whole := successes_timesFrom_iff.mpr ⟨successes, grouped.size_eq⟩
  exact ⟨groups, timesFrom_nil_eq_success_iff.mpr ⟨whole, grouped.length_eq⟩, grouped⟩

/-- If a repetition of groups fails, so does the plain one, at the same attempt. -/
theorem exists_failure_of_timesFrom_timesFrom
    (run : timesFrom (parser.timesFrom size []) count [] cur = .ok (.failure reported attempted)) :
    ∃ behind, parser.timesFrom (size * count) [] cur = .ok (.failure behind attempted) := by
  obtain ⟨groups, successes, fewer, before, fails⟩ := timesFrom_eq_failure_iff.mp run
  obtain ⟨values, further, less, failsThere⟩ := timesFrom_eq_failure_iff.mp fails
  obtain ⟨whole, few⟩ := successes.of_groups fewer further less
  exact ⟨before, timesFrom_eq_failure_iff.mpr ⟨_, whole, few, failsThere⟩⟩

/-- **If a plain repetition fails, so does the one of groups, and it reports the cursor behind the
last whole group.** -/
theorem timesFrom_timesFrom_of_timesFrom_eq_failure
    (run : parser.timesFrom (size * count) [] cur = .ok (.failure reported attempted)) :
    ∃ values behind,
      (parser.Successes cur values reported ∧ values.length < size * count ∧
        parser.FailsAt reported attempted) ∧
      parser.Successes cur (values.take (size * (values.length / size))) behind ∧
      timesFrom (parser.timesFrom size []) count [] cur = .ok (.failure behind attempted) := by
  obtain ⟨values, successes, few, fails⟩ := timesFrom_eq_failure_iff.mp run
  obtain ⟨groups, rest, behind, ⟨whole, fewer⟩, ⟨further, less⟩, front⟩ :=
    successes.exists_groups few
  have group : FailsAt (parser.timesFrom size []) behind attempted :=
    ⟨reported, timesFrom_eq_failure_iff.mpr ⟨rest, further, less, fails⟩⟩
  exact ⟨values, behind, ⟨successes, few, fails⟩, front,
    timesFrom_eq_failure_iff.mpr ⟨groups, whole, fewer, group⟩⟩

/-! ## Sums and products together -/

/-- **Counted repetitions split and nest.** A repetition `m + n` times answers as one of `m` times if
that does not succeed, with both cursors of a failure. Otherwise it answers as one of `n` times behind
it, with the values of both.

A repetition of `n` groups of `m` succeeds where a plain one of `m * n` times does, at the same cursor
and with the same values in groups, and it ends in the same faults. Where it fails, the plain one
fails as well, and the last attempt is the same. The plain one reports the cursor behind the last
success, and the one of groups the cursor behind as many of the successes as make whole groups. -/
theorem times_splits_and_nests (parser : Parser α) (m n : Nat) :
    ∃ first second whole nested flat,
      (parser.times m = .ok first ∧ parser.times n = .ok second ∧
        parser.times (m + n : Nat) = .ok whole ∧ first.times n = .ok nested ∧
        parser.times (m * n : Nat) = .ok flat) ∧
      ∀ cur,
        (((∀ values middle, first cur ≠ .ok (.success values middle)) → whole cur = first cur) ∧
          ∀ values middle, first cur = .ok (.success values middle) →
            whole cur = (second middle).map (Outcome.map (values ++ ·))) ∧
        ((∀ groups last, nested cur = .ok (.success groups last) →
            ∃ values, flat cur = .ok (.success values last) ∧ Grouped m n values groups) ∧
          ∀ values last, flat cur = .ok (.success values last) →
            ∃ groups, nested cur = .ok (.success groups last) ∧ Grouped m n values groups) ∧
        (∀ fault, nested cur = .error fault ↔ flat cur = .error fault) ∧
        (∀ behind attempted, nested cur = .ok (.failure behind attempted) →
          ∃ reported, flat cur = .ok (.failure reported attempted)) ∧
        ∀ reported attempted, flat cur = .ok (.failure reported attempted) →
          ∃ values behind,
            (parser.Successes cur values reported ∧ values.length < m * n ∧
              parser.FailsAt reported attempted) ∧
            parser.Successes cur (values.take (m * (values.length / m))) behind ∧
            nested cur = .ok (.failure behind attempted) := by
  refine ⟨_, _, _, _, _, ⟨times_natCast _ m, times_natCast _ n, times_natCast _ (m + n),
    times_natCast _ n, times_natCast _ (m * n)⟩, fun cur => ⟨⟨?_, ?_⟩, ⟨?_, ?_⟩, ?_, ?_, ?_⟩⟩
  · exact fun stops => timesFrom_add_of_not_success n stops
  · exact fun _ _ run => timesFrom_add_of_success n run
  · exact fun _ _ run => timesFrom_of_timesFrom_timesFrom_eq_success run
  · exact fun _ _ run => timesFrom_timesFrom_of_timesFrom_eq_success run
  · exact fun _ => timesFrom_timesFrom_eq_fault_iff
  · exact fun _ _ run => exists_failure_of_timesFrom_timesFrom run
  · exact fun _ _ run => timesFrom_timesFrom_of_timesFrom_eq_failure run

/-! ### Pairs of an odd number of bytes

Two pairs of bytes are read, and the byte that is left does not make a third. -/

namespace Sample

/-- The cursor at a position of five bytes. -/
def fiveBytes (pos : Nat) (inside : pos ≤ 5) : Cursor :=
  ⟨.ofList [0x01, 0x02, 0x03, 0x04, 0x05], pos, inside⟩

theorem pairs_split_and_nest :
    anyByte.times 2 = .ok (anyByte.timesFrom 2 []) ∧
      anyByte.timesFrom 2 [] (fiveBytes 0 (by decide)) =
        .ok (.success [0x01, 0x02] (fiveBytes 2 (by decide))) ∧
      anyByte.timesFrom 5 [] (fiveBytes 0 (by decide)) =
        .ok (.success [0x01, 0x02, 0x03, 0x04, 0x05] (fiveBytes 5 (by decide))) ∧
      timesFrom (anyByte.timesFrom 2 []) 3 [] (fiveBytes 0 (by decide)) =
        .ok (.failure (fiveBytes 4 (by decide)) (fiveBytes 5 (by decide))) ∧
      ∃ reported, anyByte.timesFrom 6 [] (fiveBytes 0 (by decide)) =
        .ok (.failure reported (fiveBytes 5 (by decide))) := by
  obtain ⟨_, _, _, _, _, ⟨⟨⟩, ⟨⟩, ⟨⟩, ⟨⟩, ⟨⟩⟩, answers⟩ := times_splits_and_nests anyByte 2 3
  obtain ⟨⟨_, split⟩, _, _, broken, _⟩ := answers (fiveBytes 0 (by decide))
  have pair : anyByte.timesFrom 2 [] (fiveBytes 0 (by decide)) =
      .ok (.success [0x01, 0x02] (fiveBytes 2 (by decide))) := rfl
  have groups : timesFrom (anyByte.timesFrom 2 []) 3 [] (fiveBytes 0 (by decide)) =
      .ok (.failure (fiveBytes 4 (by decide)) (fiveBytes 5 (by decide))) := rfl
  exact ⟨rfl, pair, split _ _ pair, groups, broken _ _ groups⟩

end Sample

end Parser

end ByteGrammar

import ByteGrammar.Files.Tree

/-!
# What writing a file changes

A file is written under a name in a folder (`FileTree.OpensAt`), where no folder stands before. So no
path that led somewhere loses its way (`FileTree.enter_put`, `FileTree.follow_put`): the path of the
file leads to the new bytes (`FileTree.load_of_save`), and at every other place stands what stood there
before (`FileTree.lookup_of_save`).
-/

set_option autoImplicit false

namespace ByteGrammar

namespace FileTree

variable {tree after : FileTree} {path : String} {place start finish : Place} {bytes : List UInt8}

/-! ## Where a file can be written -/

/-- A path ends in the name of a file in a folder. The file may be there or not. -/
structure OpensAt (tree : FileTree) (path : String) (folder : Place) (name : String) : Prop where
  noProblem : pathProblem? path = none
  leads : ∃ front, Path.names path = front ++ [name] ∧ tree.follow (tree.origin path) front = .ok folder
  plain : name ≠ "" ∧ name ≠ "." ∧ name ≠ ".."
  fits : ¬ maxNameSize < name.utf8ByteSize
  isFolder : tree.lookup folder = some .folder
  noFolder : tree.lookup (folder ++ [name]) ≠ some .folder

/-- If the last name is left when the empty names at the end are dropped, it is not empty. -/
theorem ne_empty_of_getLast?_core {names : List String} {name : String}
    (last : ((names.reverse.dropWhile (· == "")).reverse).getLast? = some name) : name ≠ "" := by
  rw [List.getLast?_reverse] at last
  have kept := List.head?_dropWhile_not (· == "") names.reverse
  rw [last] at kept
  simpa using kept

/-- Names that do not get fewer when the empty ones at the end are dropped stay the same. -/
theorem core_eq_of_length_le {names : List String}
    (whole : ¬ ((names.reverse.dropWhile (· == "")).reverse).length < names.length) :
    (names.reverse.dropWhile (· == "")).reverse = names := by
  have kept : names.reverse.dropWhile (· == "") = names.reverse := by
    apply List.IsSuffix.eq_of_length_le (List.dropWhile_suffix _)
    simpa using whole
  rw [kept, List.reverse_reverse]

theorem placeIn_eq_ok {folder : Place} {name : String}
    (found : tree.placeIn folder name = .ok place) :
    ¬ maxNameSize < name.utf8ByteSize ∧ tree.lookup (folder ++ [name]) ≠ some .folder ∧
      place = folder ++ [name] := by
  rw [placeIn] at found
  split at found
  · cases found
  · next fits =>
    split at found
    · cases found
    · next noFolder =>
      cases found
      exact ⟨fits, noFolder, rfl⟩

/-- **A path can be written only at the name of a file in a folder.** -/
theorem opensAt_of_writable (found : tree.writable path = .ok place) :
    ∃ folder name, tree.OpensAt path folder name ∧ place = folder ++ [name] := by
  rw [writable] at found
  split at found
  · cases found
  · next noProblem =>
    dsimp only at found
    split at found
    · cases found
    · next name last =>
      split at found
      · cases found
      · next folder led =>
        split at found
        · cases found
        · cases found
        · next isFolder =>
          split at found
          · cases found
          · next plain =>
            obtain ⟨noDot, noDots, whole⟩ := not_or.mp plain |>.imp_right not_or.mp
            have names := core_eq_of_length_le whole
            have nonempty := ne_empty_of_getLast?_core last
            rw [names] at last led
            obtain ⟨fits, noFolder, rfl⟩ := placeIn_eq_ok found
            obtain ⟨front, ends⟩ := List.getLast?_eq_some_iff.mp last
            rw [ends, List.dropLast_concat] at led
            exact ⟨folder, name, ⟨noProblem, ⟨front, ends, led⟩, ⟨nonempty, noDot, noDots⟩, fits,
              isFolder, noFolder⟩, rfl⟩

/-! ## Paths in the changed tree -/

/-- A folder is still there after a file was put where no folder was. -/
theorem lookup_put_of_folder (noFolder : tree.lookup place ≠ some .folder)
    (isFolder : tree.lookup start = some .folder) :
    (tree.put place (.file bytes)).lookup start = some .folder := by
  have isNotRoot : place ≠ [] := by
    rintro rfl
    exact noFolder rfl
  have elsewhere : start ≠ place := by
    rintro rfl
    exact noFolder isFolder
  rw [lookup_put tree _ isNotRoot, if_neg elsewhere, isFolder]

/-- Nothing disappears from a tree when something is put into it. -/
theorem isSome_lookup_put (noFolder : tree.lookup place ≠ some .folder)
    (there : (tree.lookup start).isSome = true) :
    ((tree.put place (.file bytes)).lookup start).isSome = true := by
  have isNotRoot : place ≠ [] := by
    rintro rfl
    exact noFolder rfl
  rw [lookup_put tree _ isNotRoot]
  split
  · rfl
  · exact there

/-- A name that leads somewhere still leads there. -/
theorem enter_put {name : String} (noFolder : tree.lookup place ≠ some .folder)
    (led : tree.enter start name = .ok finish) :
    (tree.put place (.file bytes)).enter start name = .ok finish := by
  rw [enter] at led ⊢
  split at led
  · cases led
  · cases led
  · next isFolder =>
    rw [lookup_put_of_folder noFolder isFolder]
    dsimp only
    split
    · next same => rwa [if_pos same] at led
    · next different =>
      rw [if_neg different] at led
      split
      · next above => rwa [if_pos above] at led
      · next below =>
        rw [if_neg below] at led
        split
        · next long =>
          rw [if_pos long] at led
          cases led
        · next fits =>
          rw [if_neg fits] at led
          split at led
          · next there =>
            rw [if_pos (isSome_lookup_put noFolder there), led]
          · cases led

/-- **Names that lead somewhere still lead there.** -/
theorem follow_put {names : List String} (noFolder : tree.lookup place ≠ some .folder)
    (led : tree.follow start names = .ok finish) :
    (tree.put place (.file bytes)).follow start names = .ok finish := by
  induction names generalizing start with
  | nil => exact led
  | cons name names ih =>
    rw [follow, List.foldlM_cons] at led ⊢
    cases entered : tree.enter start name with
    | error kind =>
      rw [entered] at led
      cases led
    | ok next =>
      rw [entered] at led
      rw [enter_put noFolder entered]
      exact ih led

/-! ## Saved files -/

theorem save_eq_ok (saved : tree.save path bytes = .ok after) :
    holdsNull path = false ∧ ∃ place, tree.writable path = .ok place ∧
      after = tree.put place (.file bytes) := by
  rw [save] at saved
  split at saved
  · cases saved
  · next noNull =>
    split at saved
    · next place found =>
      cases saved
      exact ⟨by simpa using noNull, place, found, rfl⟩
    · cases saved

/-- **Saving a file changes one place of the tree.** -/
theorem lookup_of_save (saved : tree.save path bytes = .ok after) :
    ∃ place, tree.writable path = .ok place ∧ ∀ other,
      after.lookup other = if other = place then some (.file bytes) else tree.lookup other := by
  obtain ⟨_, place, found, rfl⟩ := save_eq_ok saved
  obtain ⟨folder, name, _, rfl⟩ := opensAt_of_writable found
  exact ⟨_, found, lookup_put tree _ (List.append_ne_nil_of_right_ne_nil folder (List.cons_ne_nil _ _))⟩

/-- **The path of a file that was saved leads to its bytes.** -/
theorem load_of_save (saved : tree.save path bytes = .ok after) : after.load path = .ok bytes := by
  obtain ⟨noNull, place, found, rfl⟩ := save_eq_ok saved
  obtain ⟨folder, name, opens, rfl⟩ := opensAt_of_writable found
  obtain ⟨front, names, led⟩ := opens.leads
  have isNotRoot : folder ++ [name] ≠ [] :=
    List.append_ne_nil_of_right_ne_nil folder (List.cons_ne_nil _ _)
  have isFile : (tree.put (folder ++ [name]) (.file bytes)).lookup (folder ++ [name]) =
      some (.file bytes) := by
    rw [lookup_put tree _ isNotRoot, if_pos rfl]
  have entered : (tree.put (folder ++ [name]) (.file bytes)).enter folder name =
      .ok (folder ++ [name]) := by
    rw [enter, lookup_put_of_folder opens.noFolder opens.isFolder]
    dsimp only
    rw [if_neg (not_or.mpr ⟨opens.plain.1, opens.plain.2.1⟩), if_neg opens.plain.2.2,
      if_neg opens.fits, isFile, Option.isSome_some, if_pos rfl]
  have arrives : (tree.put (folder ++ [name]) (.file bytes)).follow (tree.origin path)
      (Path.names path) = .ok (folder ++ [name]) := by
    have through : (tree.put (folder ++ [name]) (.file bytes)).follow (tree.origin path) front =
        .ok folder := follow_put opens.noFolder led
    rw [follow] at through
    rw [names, follow, List.foldlM_append, through]
    simp only [List.foldlM_cons, List.foldlM_nil, bind, Except.bind, entered, pure, Except.pure]
  have origin : (tree.put (folder ++ [name]) (.file bytes)).origin path = tree.origin path := rfl
  rw [load, noNull, contents, opens.noProblem]
  simp only [Bool.false_eq_true, if_false, origin, arrives, isFile]

end FileTree

end ByteGrammar

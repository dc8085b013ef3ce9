import ByteGrammar.Text.Hexadecimal
import ByteGrammar.Text.Outline
import ByteGrammar.Text.Quoted
import Mathlib.Tactic.IntervalCases

/-!
# Texts that can be read in one way only

Numbers in text have no fixed width, so where one ends is only seen from what stands behind it. A run of
characters that pass a test is determined by a longer text, if the text goes on with a character that
does not pass it (`append_inj_of_stops`). With that the digits of a number, the name of a field, and in
the end all data that is written as indented JSON text can be cancelled from the front of a text: what
was written and what stands behind it are both determined.

Numbers are determined by their digits, in base sixteen (`Hexadecimal.digits_injective`) and with a sign
in base ten (`Outline.eq_of_toString_eq`). Lists and records are told apart from numbers by their first
character, and an item ends where a comma or a new line stands (`Outline.renderAt_append_inj`, by
recursion along the data). Names are written as they are, and so a double quote in a name could be taken
for its end. Data without such names is determined by its text (`Outline.eq_of_render_eq`).
-/

set_option autoImplicit false

namespace ByteGrammar

/-! ## Runs of characters -/

/-- A text does not go on with characters that pass a test. -/
def Stops (test : Char → Bool) (text : List Char) : Prop :=
  ∀ char, text.head? = some char → test char = false

theorem stops_cons {test : Char → Bool} {char : Char} (text : List Char) (fails : test char = false) :
    Stops test (char :: text) := by
  rintro _ ⟨⟩
  exact fails

theorem append_inj_of_stops {test : Char → Bool} {front back rest more : List Char}
    (passes : ∀ char ∈ front, test char = true) (passesToo : ∀ char ∈ back, test char = true)
    (stops : Stops test rest) (stopsToo : Stops test more) (same : front ++ rest = back ++ more) :
    front = back ∧ rest = more := by
  have ended : ∀ {text}, Stops test text → text.takeWhile test = [] := by
    intro text stops
    cases text with
    | nil => rfl
    | cons char text => simp [stops char rfl]
  have fronts := congrArg (List.takeWhile test) same
  rw [List.takeWhile_append_of_pos passes, List.takeWhile_append_of_pos passesToo, ended stops,
    ended stopsToo, List.append_nil, List.append_nil] at fronts
  exact ⟨fronts, List.append_cancel_left (fronts ▸ same)⟩

/-! ## Numbers in base sixteen -/

namespace Hexadecimal

theorem digitValue?_toUpper_digitChar {number : Nat} (small : number < 16) :
    digitValue? (Nat.digitChar number).toUpper = some number := by
  interval_cases number <;> rfl

theorem digits_of_lt {number : Nat} (small : number < 16) :
    digits number = [(Nat.digitChar number).toUpper] := by
  rw [digits, Nat.toDigits_of_lt_base small]
  rfl

theorem digits_of_le {number : Nat} (big : 16 ≤ number) :
    digits number = digits (number / 16) ++ [(Nat.digitChar (number % 16)).toUpper] := by
  rw [digits, Nat.toDigits_of_base_le (by decide) big, List.map_append]
  rfl

theorem digits_ne_nil (number : Nat) : digits number ≠ [] := by
  simp [digits, Nat.toDigits_ne_nil]

/-- Numbers are told apart by their digits. -/
theorem digits_injective : Function.Injective digits := by
  intro number
  induction number using Nat.strongRecOn with
  | ind number ih =>
    intro other same
    have last : ∀ {first second : Nat}, first < 16 → second < 16 →
        (Nat.digitChar first).toUpper = (Nat.digitChar second).toUpper → first = second := by
      intro first second small smallToo same
      have values := congrArg digitValue? same
      rw [digitValue?_toUpper_digitChar small, digitValue?_toUpper_digitChar smallToo] at values
      exact Option.some.inj values
    rcases Nat.lt_or_ge number 16 with small | big <;>
      rcases Nat.lt_or_ge other 16 with smallToo | bigToo
    · rw [digits_of_lt small, digits_of_lt smallToo] at same
      exact last small smallToo (List.cons.inj same).1
    · rw [digits_of_lt small, digits_of_le bigToo] at same
      have := congrArg List.length same
      simp [digits_ne_nil] at this
    · rw [digits_of_le big, digits_of_lt smallToo] at same
      have := congrArg List.length same
      simp [digits_ne_nil] at this
    · rw [digits_of_le big, digits_of_le bigToo] at same
      obtain ⟨front, back⟩ := List.append_inj' same rfl
      have high := ih (number / 16) (by omega) front
      have low := last (by omega) (by omega) (List.cons.inj back).1
      omega

theorem isSome_digitValue?_of_mem {number : Nat} {char : Char} (member : char ∈ digits number) :
    (digitValue? char).isSome = true := by
  induction number using Nat.strongRecOn with
  | ind number ih =>
    rcases Nat.lt_or_ge number 16 with small | big
    · rw [digits_of_lt small, List.mem_singleton] at member
      rw [member, digitValue?_toUpper_digitChar small]
      rfl
    · rw [digits_of_le big, List.mem_append, List.mem_singleton] at member
      rcases member with front | rfl
      · exact ih _ (by omega) front
      · rw [digitValue?_toUpper_digitChar (by omega)]
        rfl

end Hexadecimal

namespace Outline

/-! ## Numbers with a sign -/

/-- The characters that integers are written with. -/
def isNumeral (char : Char) : Bool :=
  char.isDigit || char == '-'

theorem toList_toString_of_nonneg {value : Int} (sign : 0 ≤ value) :
    (toString value).toList = Nat.toDigits 10 value.toNat := by
  rw [Int.toString_eq_repr, Int.repr_eq_if, if_pos sign, Nat.toList_repr]

theorem toList_toString_of_neg {value : Int} (sign : value < 0) :
    (toString value).toList = '-' :: Nat.toDigits 10 (-value).toNat := by
  rw [Int.toString_eq_repr, Int.repr_eq_if, if_neg (not_le.mpr sign), String.toList_append,
    Nat.toList_repr]
  rfl

theorem isDigit_of_mem_toDigits {number : Nat} {char : Char} (member : char ∈ Nat.toDigits 10 number) :
    char.isDigit = true :=
  Nat.isDigit_of_mem_toDigits (by decide) (by decide) member

theorem isNumeral_of_mem {value : Int} {char : Char} (member : char ∈ (toString value).toList) :
    isNumeral char = true := by
  rcases lt_or_ge value 0 with sign | sign
  · rw [toList_toString_of_neg sign, List.mem_cons] at member
    rcases member with rfl | digit
    · rfl
    · rw [isNumeral, isDigit_of_mem_toDigits digit, Bool.true_or]
  · rw [toList_toString_of_nonneg sign] at member
    rw [isNumeral, isDigit_of_mem_toDigits member, Bool.true_or]

theorem toString_ne_nil (value : Int) : (toString value).toList ≠ [] := by
  rcases lt_or_ge value 0 with sign | sign
  · rw [toList_toString_of_neg sign]
    exact List.cons_ne_nil _ _
  · rw [toList_toString_of_nonneg sign]
    exact Nat.toDigits_ne_nil

/-- Integers are told apart by their decimal digits and sign. -/
theorem eq_of_toString_eq {value other : Int}
    (same : (toString value).toList = (toString other).toList) : value = other := by
  have number : ∀ {first second : Nat}, Nat.toDigits 10 first = Nat.toDigits 10 second →
      first = second := by
    intro first second same
    rw [← Nat.ofDigitChars_ten_toDigits (n := first), same, Nat.ofDigitChars_ten_toDigits]
  have noSign : ∀ number, '-' ∉ Nat.toDigits 10 number :=
    fun _ member => absurd (isDigit_of_mem_toDigits member) (by decide)
  rcases lt_or_ge value 0 with sign | sign <;> rcases lt_or_ge other 0 with signToo | signToo
  · rw [toList_toString_of_neg sign, toList_toString_of_neg signToo] at same
    have := number (List.cons.inj same).2
    omega
  · rw [toList_toString_of_neg sign, toList_toString_of_nonneg signToo] at same
    exact absurd (same ▸ List.mem_cons_self) (noSign _)
  · rw [toList_toString_of_nonneg sign, toList_toString_of_neg signToo] at same
    exact absurd (same ▸ List.mem_cons_self) (noSign _)
  · rw [toList_toString_of_nonneg sign, toList_toString_of_nonneg signToo] at same
    have := number same
    omega

/-! ## Lists and records -/

mutual
/-- No field has a name with a double quote in it. -/
def Plain : Outline → Prop
  | .number _ => True
  | .list items => PlainItems items
  | .record fields => PlainFields fields

def PlainItems : List Outline → Prop
  | [] => True
  | item :: items => Plain item ∧ PlainItems items

def PlainFields : List (String × Outline) → Prop
  | [] => True
  | (name, item) :: fields => Quoted.doubleQuote ∉ name.toList ∧ Plain item ∧ PlainFields fields
end

theorem toList_lineAt (depth : Nat) :
    (lineAt depth).toList = '\n' :: List.replicate (2 * depth) ' ' := by
  simp [lineAt]

/-- A character that can stand at the front of data of one kind. -/
def Opens (char : Char) : Outline → Prop
  | .number _ => isNumeral char = true
  | .list _ => char = '['
  | .record _ => char = '\x7b'

/-- The first character tells of which kind the data is. -/
theorem exists_renderAt_eq_cons (depth : Nat) (outline : Outline) :
    ∃ char text, (renderAt depth outline).toList = char :: text ∧ outline.Opens char := by
  rcases outline with value | items | fields
  · obtain ⟨char, text, characters⟩ := List.exists_cons_of_ne_nil (toString_ne_nil value)
    refine ⟨char, text, ?_, isNumeral_of_mem (characters ▸ List.mem_cons_self)⟩
    rw [renderAt, characters]
  · cases items with
    | nil =>
      rw [renderAt]
      exact ⟨_, _, rfl, rfl⟩
    | cons item items =>
      simp only [renderAt, String.toList_append, List.append_assoc]
      exact ⟨_, _, rfl, rfl⟩
  · rcases fields with _ | ⟨⟨name, item⟩, fields⟩
    · rw [renderAt]
      exact ⟨_, _, rfl, rfl⟩
    · simp only [renderAt, String.toList_append, List.append_assoc]
      exact ⟨_, _, rfl, rfl⟩

theorem exists_opens {depth : Nat} {outline other : Outline} {rest more : List Char}
    (same : (renderAt depth outline).toList ++ rest = (renderAt depth other).toList ++ more) :
    ∃ char, outline.Opens char ∧ other.Opens char := by
  obtain ⟨char, text, front, opens⟩ := exists_renderAt_eq_cons depth outline
  obtain ⟨charToo, textToo, frontToo, opensToo⟩ := exists_renderAt_eq_cons depth other
  rw [front, frontToo] at same
  cases (List.cons.inj same).1
  exact ⟨char, opens, opensToo⟩

theorem stops_renderItems (items : List Outline) (depth : Nat) (rest : List Char) :
    Stops isNumeral ((renderItems depth items).toList ++ '\n' :: rest) := by
  cases items with
  | nil => exact stops_cons _ rfl
  | cons item items =>
    simp only [renderItems, String.toList_append, List.append_assoc]
    exact stops_cons _ rfl

theorem stops_renderFields (fields : List (String × Outline)) (depth : Nat) (rest : List Char) :
    Stops isNumeral ((renderFields depth fields).toList ++ '\n' :: rest) := by
  rcases fields with _ | ⟨⟨name, item⟩, fields⟩
  · exact stops_cons _ rfl
  · simp only [renderFields, String.toList_append, List.append_assoc]
    exact stops_cons _ rfl

theorem name_append_inj {name other : String} {rest more : List Char}
    (plain : Quoted.doubleQuote ∉ name.toList) (plainToo : Quoted.doubleQuote ∉ other.toList)
    (same : name.toList ++ ("\": ".toList ++ rest) = other.toList ++ ("\": ".toList ++ more)) :
    name = other ∧ rest = more := by
  have passes : ∀ {text : List Char}, Quoted.doubleQuote ∉ text →
      ∀ char ∈ text, (char != Quoted.doubleQuote) = true := by
    intro text absent char member
    rw [bne_iff_ne]
    rintro rfl
    exact absent member
  have stops : ∀ text, Stops (· != Quoted.doubleQuote) ("\": ".toList ++ text) :=
    fun _ => stops_cons _ rfl
  obtain ⟨names, behind⟩ := append_inj_of_stops (passes plain) (passes plainToo) (stops _) (stops _)
    same
  exact ⟨String.toList_inj.mp names, List.append_cancel_left behind⟩

mutual
/-- **Data can be cancelled from the front of a text**, if the text does not go on with a character of a
number. -/
theorem renderAt_append_inj {depth : Nat} {rest more : List Char} (stops : Stops isNumeral rest)
    (stopsToo : Stops isNumeral more) : (outline other : Outline) → outline.Plain → other.Plain →
    (renderAt depth outline).toList ++ rest = (renderAt depth other).toList ++ more →
      outline = other ∧ rest = more
  | .number value, other => fun _ _ same => by
    obtain ⟨char, opens, opensToo⟩ := exists_opens same
    cases other with
    | number another =>
      obtain ⟨texts, behind⟩ := append_inj_of_stops (fun _ => isNumeral_of_mem)
        (fun _ => isNumeral_of_mem) stops stopsToo same
      rw [eq_of_toString_eq texts]
      exact ⟨rfl, behind⟩
    | list others =>
      cases opensToo
      cases opens
    | record others =>
      cases opensToo
      cases opens
  | .list items, other => fun plain plainToo same => by
    obtain ⟨char, opens, opensToo⟩ := exists_opens same
    cases opens
    cases other with
    | number another => cases opensToo
    | record others => cases opensToo
    | list others =>
      obtain ⟨rfl, behind⟩ := renderList_append_inj items others plain plainToo same
      exact ⟨rfl, behind⟩
  | .record fields, other => fun plain plainToo same => by
    obtain ⟨char, opens, opensToo⟩ := exists_opens same
    cases opens
    cases other with
    | number another => cases opensToo
    | list others => cases opensToo
    | record others =>
      obtain ⟨rfl, behind⟩ := renderRecord_append_inj fields others plain plainToo same
      exact ⟨rfl, behind⟩
termination_by structural outline => outline

theorem renderList_append_inj {depth : Nat} {rest more : List Char} :
    (items others : List Outline) → PlainItems items → PlainItems others →
    (renderAt depth (.list items)).toList ++ rest = (renderAt depth (.list others)).toList ++ more →
      items = others ∧ rest = more
  | [], [] => fun _ _ same => ⟨rfl, List.append_cancel_left same⟩
  | [], _ :: _ => fun _ _ same => by simp [renderAt, lineAt] at same
  | _ :: _, [] => fun _ _ same => by simp [renderAt, lineAt] at same
  | item :: items, another :: others => fun plain plainToo same => by
    simp only [renderAt, String.toList_append, toList_lineAt, List.append_assoc,
      List.cons_append] at same
    have inner := List.append_cancel_left (List.cons.inj (List.append_cancel_left same)).2
    obtain ⟨rfl, behind⟩ := renderAt_append_inj (stops_renderItems items _ _)
      (stops_renderItems others _ _) item another plain.1 plainToo.1 inner
    obtain ⟨rfl, closing⟩ := renderItems_append_inj items others plain.2 plainToo.2 behind
    exact ⟨rfl, List.append_cancel_left (List.append_cancel_left closing)⟩
termination_by structural items => items

theorem renderRecord_append_inj {depth : Nat} {rest more : List Char} :
    (fields others : List (String × Outline)) → PlainFields fields → PlainFields others →
    (renderAt depth (.record fields)).toList ++ rest =
      (renderAt depth (.record others)).toList ++ more → fields = others ∧ rest = more
  | [], [] => fun _ _ same => ⟨rfl, List.append_cancel_left same⟩
  | [], _ :: _ => fun _ _ same => by simp [renderAt, lineAt] at same
  | _ :: _, [] => fun _ _ same => by simp [renderAt, lineAt] at same
  | (name, item) :: fields, (nameToo, another) :: others => fun plain plainToo same => by
    simp only [renderAt, String.toList_append, toList_lineAt, List.append_assoc,
      List.cons_append] at same
    have inner := List.append_cancel_left (List.append_cancel_left
      (List.cons.inj (List.append_cancel_left same)).2)
    obtain ⟨rfl, value⟩ := name_append_inj plain.1 plainToo.1 inner
    obtain ⟨rfl, behind⟩ := renderAt_append_inj (stops_renderFields fields _ _)
      (stops_renderFields others _ _) item another plain.2.1 plainToo.2.1 value
    obtain ⟨rfl, closing⟩ := renderFields_append_inj fields others plain.2.2 plainToo.2.2 behind
    exact ⟨rfl, List.append_cancel_left (List.append_cancel_left closing)⟩
termination_by structural fields => fields

/-- Behind the items of a list stands a new line, and more items would begin with a comma. -/
theorem renderItems_append_inj {depth : Nat} {rest more : List Char} :
    (items others : List Outline) → PlainItems items → PlainItems others →
    (renderItems depth items).toList ++ '\n' :: rest =
      (renderItems depth others).toList ++ '\n' :: more → items = others ∧ rest = more
  | [], [] => fun _ _ same => by simpa [renderItems] using same
  | [], _ :: _ => fun _ _ same => by simp [renderItems] at same
  | _ :: _, [] => fun _ _ same => by simp [renderItems] at same
  | item :: items, another :: others => fun plain plainToo same => by
    simp only [renderItems, String.toList_append, List.append_assoc] at same
    have inner := List.append_cancel_left (List.append_cancel_left same)
    obtain ⟨rfl, behind⟩ := renderAt_append_inj (stops_renderItems items _ _)
      (stops_renderItems others _ _) item another plain.1 plainToo.1 inner
    obtain ⟨rfl, tail⟩ := renderItems_append_inj items others plain.2 plainToo.2 behind
    exact ⟨rfl, tail⟩
termination_by structural items => items

theorem renderFields_append_inj {depth : Nat} {rest more : List Char} :
    (fields others : List (String × Outline)) → PlainFields fields → PlainFields others →
    (renderFields depth fields).toList ++ '\n' :: rest =
      (renderFields depth others).toList ++ '\n' :: more → fields = others ∧ rest = more
  | [], [] => fun _ _ same => by simpa [renderFields] using same
  | [], _ :: _ => fun _ _ same => by simp [renderFields] at same
  | _ :: _, [] => fun _ _ same => by simp [renderFields] at same
  | (name, item) :: fields, (nameToo, another) :: others => fun plain plainToo same => by
    simp only [renderFields, String.toList_append, List.append_assoc] at same
    have inner := List.append_cancel_left (List.append_cancel_left (List.append_cancel_left same))
    obtain ⟨rfl, value⟩ := name_append_inj plain.1 plainToo.1 inner
    obtain ⟨rfl, behind⟩ := renderAt_append_inj (stops_renderFields fields _ _)
      (stops_renderFields others _ _) item another plain.2.1 plainToo.2.1 value
    obtain ⟨rfl, tail⟩ := renderFields_append_inj fields others plain.2.2 plainToo.2.2 behind
    exact ⟨rfl, tail⟩
termination_by structural fields => fields
end

/-- **Data is determined by its text.** -/
theorem eq_of_render_eq {outline other : Outline} (plain : outline.Plain) (plainToo : other.Plain)
    (same : outline.render = other.render) : outline = other := by
  have texts : (renderAt 0 outline).toList ++ [] = (renderAt 0 other).toList ++ [] := by
    rw [← render, same, ← render]
  have nothing : Stops isNumeral [] := nofun
  exact (renderAt_append_inj nothing nothing outline other plain plainToo texts).1

end Outline

end ByteGrammar

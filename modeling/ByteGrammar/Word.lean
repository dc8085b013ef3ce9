/-!
# Words

A word is a 16-bit number stored as two bytes, the high one first. Two bytes are joined
to the natural number `256 * high + low`, which is always less than `2 ^ 16`
(`ofBytes_lt`), so it is the number of a word. Splitting a word and joining two bytes undo
each other in both directions (`ofBytes_high_low`, `high_ofNat_ofBytes`,
`low_ofNat_ofBytes`).
-/

set_option autoImplicit false

namespace ByteGrammar

namespace Word

/-- The number of the word whose high byte and low byte are given. -/
def ofBytes (high low : UInt8) : Nat :=
  256 * high.toNat + low.toNat

/-- The high byte of a word. -/
def high (word : UInt16) : UInt8 :=
  UInt8.ofNat (word.toNat / 256)

/-- The low byte of a word. -/
def low (word : UInt16) : UInt8 :=
  UInt8.ofNat (word.toNat % 256)

/-- The stored form of a word: its high byte, then its low byte. -/
def bytes (word : UInt16) : List UInt8 :=
  [high word, low word]

@[simp]
theorem length_bytes (word : UInt16) : (bytes word).length = 2 :=
  rfl

theorem length_bytes_append (word : UInt16) (rest : List UInt8) :
    (bytes word ++ rest).length = 2 + rest.length := by
  rw [List.length_append, length_bytes]

theorem toNat_high (word : UInt16) : (high word).toNat = word.toNat / 256 := by
  have := word.toNat_lt_size
  simp only [high, UInt8.toNat_ofNat']
  simp only [UInt16.size] at this
  omega

theorem toNat_low (word : UInt16) : (low word).toNat = word.toNat % 256 := by
  simp only [low, UInt8.toNat_ofNat']
  omega

theorem ofInt_natCast (number : Nat) : UInt16.ofInt number = UInt16.ofNat number := by
  apply UInt16.toNat_inj.mp
  simp [UInt16.ofInt]
  omega

theorem ofInt_toNat (word : UInt16) : UInt16.ofInt word.toNat = word := by
  rw [ofInt_natCast, UInt16.ofNat_toNat]

/-- Two bytes never join to more than the number of a word. -/
theorem ofBytes_lt (high low : UInt8) : ofBytes high low < 65536 := by
  have hHigh := high.toNat_lt_size
  have hLow := low.toNat_lt_size
  simp only [UInt8.size] at hHigh hLow
  simp only [ofBytes]
  omega

/-- Joining the two bytes of a word gives its number back. -/
@[simp]
theorem ofBytes_high_low (word : UInt16) : ofBytes (high word) (low word) = word.toNat := by
  rw [ofBytes, toNat_high, toNat_low]
  omega

theorem toNat_ofNat_ofBytes (first second : UInt8) :
    (UInt16.ofNat (ofBytes first second)).toNat = ofBytes first second := by
  have := ofBytes_lt first second
  rw [UInt16.toNat_ofNat']
  omega

/-- The high byte of a joined word is the first byte. -/
@[simp]
theorem high_ofNat_ofBytes (first second : UInt8) :
    high (UInt16.ofNat (ofBytes first second)) = first := by
  have hSecond := second.toNat_lt_size
  simp only [UInt8.size] at hSecond
  apply UInt8.toNat_inj.mp
  rw [toNat_high, toNat_ofNat_ofBytes, ofBytes]
  omega

/-- The low byte of a joined word is the second byte. -/
@[simp]
theorem low_ofNat_ofBytes (first second : UInt8) :
    low (UInt16.ofNat (ofBytes first second)) = second := by
  have hSecond := second.toNat_lt_size
  simp only [UInt8.size] at hSecond
  apply UInt8.toNat_inj.mp
  rw [toNat_low, toNat_ofNat_ofBytes, ofBytes]
  omega

/-- Bytes begin with at most one word. -/
theorem eq_of_bytes_append_eq {first second : UInt16} {rest others : List UInt8}
    (same : bytes first ++ rest = bytes second ++ others) : first = second := by
  obtain ⟨sameHigh, tail⟩ := List.cons.inj same
  have sameLow := (List.cons.inj tail).1
  apply UInt16.toNat_inj.mp
  rw [← ofBytes_high_low first, ← ofBytes_high_low second, sameHigh, sameLow]

end Word

end ByteGrammar

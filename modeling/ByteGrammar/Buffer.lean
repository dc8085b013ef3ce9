/-!
# Buffers

A buffer is a read-only run of bytes. Buffers are told apart by a label they get
when they are made and not by their contents, so two buffers that hold the same
bytes stay two buffers. Everything that reads bytes goes through a position in a
buffer (`ByteGrammar.Cursor`); nothing changes a buffer.

`toList` is the view in which statements about contents are made, while the array
behind it keeps access to a single byte cheap.
-/

set_option autoImplicit false

namespace ByteGrammar

/-- A read-only run of bytes, under the label it was made with. -/
structure Buffer where
  label : Nat
  bytes : Array UInt8

namespace Buffer

/-- The number of bytes in a buffer. -/
def size (buffer : Buffer) : Nat :=
  buffer.bytes.size

/-- The bytes of a buffer in order. -/
def toList (buffer : Buffer) : List UInt8 :=
  buffer.bytes.toList

/-- The buffer that holds the given bytes under the given label. -/
def ofList (bytes : List UInt8) (label : Nat := 0) : Buffer :=
  ⟨label, bytes.toArray⟩

@[simp]
theorem toList_ofList (bytes : List UInt8) (label : Nat) :
    (ofList bytes label).toList = bytes := by
  simp [ofList, toList]

@[simp]
theorem size_ofList (bytes : List UInt8) (label : Nat) :
    (ofList bytes label).size = bytes.length := by
  simp [ofList, size]

@[simp]
theorem length_toList (buffer : Buffer) : buffer.toList.length = buffer.size := by
  simp [toList, size]

end Buffer

end ByteGrammar

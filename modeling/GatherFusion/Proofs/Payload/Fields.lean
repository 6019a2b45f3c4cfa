import GatherFusion.Number.LittleEndian
import Mathlib.Data.Nat.Bitwise
import Mathlib.Data.List.Basic

/-!
# Fields of a run of bytes

A run of bytes spells one number, low byte first, and what is packed into the run without gaps are
the fields of that number: the element at `index`, of `bits` bits, begins at bit `bits * index`.
Words, bytes and nibbles are read by three different walks along the run; each of them returns the
fields of its width (`readWords_eq_fields`, `bytes_eq_fields`, `nibbles_eq_fields`), so a statement
about fields holds of all three. A field is settled by the bits it covers (`field_congr`).
-/
namespace GatherFusion.LittleEndian

/-- The element at a position of a run that packs elements of `bits` bits without gaps. -/
def field (bits : Nat) (bytes : List UInt8) (index : Nat) : Nat :=
  readWord bytes / 2 ^ (bits * index) % 2 ^ bits

/-- The first `count` elements of a run that packs elements of `bits` bits without gaps. -/
def fields (bits count : Nat) (bytes : List UInt8) : List Nat :=
  (List.range count).map (field bits bytes)

/-- As many elements are read as are asked for. -/
@[simp] theorem length_fields (bits count : Nat) (bytes : List UInt8) :
    (fields bits count bytes).length = count := by
  rw [fields, List.length_map, List.length_range]

/-- Every element fits its width. -/
theorem lt_of_mem_fields {bits count word : Nat} {bytes : List UInt8}
    (listed : word ∈ fields bits count bytes) : word < 2 ^ bits := by
  obtain ⟨index, -, rfl⟩ := List.mem_map.mp listed
  exact Nat.mod_lt _ (Nat.two_pow_pos bits)

/-- Fewer elements are the leading ones of more. -/
theorem take_fields {bits count total : Nat} (fewer : count ≤ total) (bytes : List UInt8) :
    (fields bits total bytes).take count = fields bits count bytes := by
  rw [fields, fields, ← List.map_take, List.take_range, Nat.min_eq_left fewer]

/-! ## Parts of a run -/

/-- The first byte of a run is the lowest digit of its number. -/
theorem readWord_cons_mod (byte : UInt8) (rest : List UInt8) :
    readWord (byte :: rest) % 256 = byte.toNat := by
  have bound := byte.toNat_lt
  rw [readWord]
  omega

/-- The other bytes of a run spell the number without its lowest digit. -/
theorem readWord_cons_div (byte : UInt8) (rest : List UInt8) :
    readWord (byte :: rest) / 256 = readWord rest := by
  have bound := byte.toNat_lt
  rw [readWord]
  omega

/-- One more byte makes room for 256 times as many numbers. -/
theorem two_pow_bytes_succ (width : Nat) : 2 ^ (8 * (width + 1)) = 256 * 2 ^ (8 * width) := by
  rw [Nat.mul_succ, Nat.add_comm, Nat.pow_add]

/-- The leading bytes of a run spell the low part of its number. -/
theorem readWord_take (width : Nat) (bytes : List UInt8) :
    readWord (bytes.take width) = readWord bytes % 2 ^ (8 * width) := by
  induction width generalizing bytes with
  | zero => simp [readWord, Nat.mod_one]
  | succ width ih =>
    cases bytes with
    | nil => simp [readWord]
    | cons byte rest =>
      rw [two_pow_bytes_succ, Nat.mod_mul, readWord_cons_mod, readWord_cons_div, ← ih,
        List.take_succ_cons, readWord]

/-- What is left after the leading bytes of a run spells the high part of its number. -/
theorem readWord_drop (width : Nat) (bytes : List UInt8) :
    readWord (bytes.drop width) = readWord bytes / 2 ^ (8 * width) := by
  induction width generalizing bytes with
  | zero => simp
  | succ width ih =>
    cases bytes with
    | nil => simp [readWord]
    | cons byte rest =>
      rw [two_pow_bytes_succ, ← Nat.div_div_eq_div_mul, readWord_cons_div, ← ih,
        List.drop_succ_cons]

/-- Behind leading bytes that hold whole fields, the fields move up by as many positions. -/
theorem field_drop {bits width skipped : Nat} (aligned : 8 * width = bits * skipped)
    (bytes : List UInt8) (index : Nat) :
    field bits (bytes.drop width) index = field bits bytes (index + skipped) := by
  rw [field, field, readWord_drop, Nat.div_div_eq_div_mul, aligned, ← Nat.pow_add, ← Nat.mul_add,
    Nat.add_comm skipped]

/-! ## The three walks -/

/-- Words read one after the other are the fields of their width. -/
theorem readWords_eq_fields (width count : Nat) (bytes : List UInt8) :
    readWords width count bytes = fields (8 * width) count bytes := by
  induction count generalizing bytes with
  | zero => rfl
  | succ count ih =>
    have first : readWord (bytes.take width) = field (8 * width) bytes 0 := by
      rw [readWord_take, field, Nat.mul_zero, Nat.pow_zero, Nat.div_one]
    have later : ∀ index,
        field (8 * width) (bytes.drop width) index = field (8 * width) bytes (index + 1) :=
      field_drop (Nat.mul_one _).symm bytes
    rw [readWords, ih, first, fields, fields, List.range_succ_eq_map, List.map_cons, List.map_map]
    exact congrArg _ (List.map_congr_left fun index _ => later index)

/-- The bytes of a run are its fields of eight bits. -/
theorem bytes_eq_fields (bytes : List UInt8) :
    bytes.map UInt8.toNat = fields 8 bytes.length bytes := by
  have single : readWords 1 bytes.length bytes = bytes.map UInt8.toNat := by
    induction bytes with
    | nil => rfl
    | cons byte rest ih => simpa [readWords, readWord] using ih
  rw [← single, readWords_eq_fields]

/-- The low nibble is the remainder by sixteen. -/
theorem toNat_lowNibble (byte : UInt8) : (lowNibble byte).toNat = byte.toNat % 16 :=
  Nat.and_two_pow_sub_one_eq_mod byte.toNat 4

/-- The high nibble is the quotient by sixteen. -/
theorem toNat_highNibble (byte : UInt8) : (highNibble byte).toNat = byte.toNat / 16 :=
  Nat.shiftRight_eq_div_pow byte.toNat 4

/-- The nibbles of a run are its fields of four bits. -/
theorem nibbles_eq_fields (bytes : List UInt8) :
    (nibbles bytes).map UInt8.toNat = fields 4 (2 * bytes.length) bytes := by
  induction bytes with
  | nil => rfl
  | cons byte rest ih =>
    have bound := byte.toNat_lt
    have low : (lowNibble byte).toNat = field 4 (byte :: rest) 0 := by
      rw [toNat_lowNibble, field, readWord]
      omega
    have high : (highNibble byte).toNat = field 4 (byte :: rest) 1 := by
      rw [toNat_highNibble, field, readWord]
      omega
    have later : ∀ index, field 4 rest index = field 4 (byte :: rest) (index + 2) :=
      field_drop (show 8 * 1 = 4 * 2 from rfl) (byte :: rest)
    have two : 2 * (byte :: rest).length = 2 * rest.length + 1 + 1 := by
      rw [List.length_cons]
      omega
    have split : nibbles (byte :: rest) = lowNibble byte :: highNibble byte :: nibbles rest := rfl
    rw [split, List.map_cons, List.map_cons, ih, fields, fields, two, List.range_succ_eq_map,
      List.range_succ_eq_map, low, high]
    simp [Function.comp_def, later]

/-- Leading bytes are the leading fields of eight bits. -/
theorem take_bytes_eq_fields {bytes : List UInt8} {count : Nat} (inside : count ≤ bytes.length) :
    (bytes.take count).map UInt8.toNat = fields 8 count bytes := by
  rw [List.map_take, bytes_eq_fields, take_fields inside]

/-- Leading nibbles are the leading fields of four bits. -/
theorem take_nibbles_eq_fields {bytes : List UInt8} {count : Nat}
    (inside : count ≤ 2 * bytes.length) :
    ((nibbles bytes).take count).map UInt8.toNat = fields 4 count bytes := by
  rw [List.map_take, nibbles_eq_fields, take_fields inside]

/-! ## Bits -/

/-- A bit of a run, counted from the low bit of the first byte; there are no ones past the end. -/
def bit (bytes : List UInt8) (position : Nat) : Bool :=
  (bytes.getD (position / 8) 0).toNat.testBit (position % 8)

/-- The bits of a run are the bits of the number it spells. -/
theorem testBit_readWord (bytes : List UInt8) (position : Nat) :
    (readWord bytes).testBit position = bit bytes position := by
  induction bytes generalizing position with
  | nil => simp [readWord, bit]
  | cons byte rest ih =>
    have split : readWord (byte :: rest) = 2 ^ 8 * readWord rest + byte.toNat :=
      Nat.add_comm _ _
    rw [split, Nat.testBit_two_pow_mul_add _ byte.toNat_lt]
    split
    next first =>
      have outer : position / 8 = 0 := by omega
      have inner : position % 8 = position := by omega
      rw [bit, outer, inner, List.getD_cons_zero]
    next later =>
      have outer : position / 8 = (position - 8) / 8 + 1 := by omega
      have inner : position % 8 = (position - 8) % 8 := by omega
      rw [ih, bit, bit, outer, inner, List.getD_cons_succ]

/-- A field is made of the bits it covers. -/
theorem testBit_field (bits : Nat) (bytes : List UInt8) (index offset : Nat) :
    (field bits bytes index).testBit offset =
      (decide (offset < bits) && bit bytes (bits * index + offset)) := by
  rw [field, Nat.testBit_mod_two_pow, Nat.testBit_div_two_pow, Nat.add_comm offset,
    testBit_readWord]

/-- A field is settled by the bits it covers. -/
theorem field_congr {bits index : Nat} {left right : List UInt8}
    (same : ∀ position < bits * (index + 1), bit left position = bit right position) :
    field bits left index = field bits right index := by
  refine Nat.eq_of_testBit_eq fun offset => ?_
  rw [testBit_field, testBit_field]
  by_cases inside : offset < bits
  · have covered : bits * index + offset < bits * (index + 1) := by
      rw [Nat.mul_succ]
      omega
    rw [same _ covered]
  · simp [inside]

/-- The first elements of a run are settled by the bits they cover together. -/
theorem fields_congr {bits count : Nat} {left right : List UInt8}
    (same : ∀ position < count * bits, bit left position = bit right position) :
    fields bits count left = fields bits count right := by
  refine List.map_congr_left fun index listed => field_congr fun position covered => ?_
  have covers : bits * (index + 1) ≤ bits * count :=
    Nat.mul_le_mul_left bits (List.mem_range.mp listed)
  exact same position (by rw [Nat.mul_comm]; omega)

/-- Leading bytes have the bits of the run they lead. -/
theorem bit_take {count position : Nat} (bytes : List UInt8) (inside : position < 8 * count) :
    bit (bytes.take count) position = bit bytes position := by
  have byte : position / 8 < count := by omega
  rw [bit, bit, List.getD_eq_getElem?_getD, List.getD_eq_getElem?_getD,
    List.getElem?_take_of_lt byte]

/-- Elements are read the same off the leading bytes that hold them. -/
theorem fields_take {bits count size : Nat} (bytes : List UInt8) (held : count * bits ≤ 8 * size) :
    fields bits count (bytes.take size) = fields bits count bytes :=
  fields_congr fun _ covered => bit_take bytes (by omega)

end GatherFusion.LittleEndian

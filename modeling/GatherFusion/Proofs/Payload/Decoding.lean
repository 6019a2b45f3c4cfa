import GatherFusion.Payload
import GatherFusion.Proofs.Payload.Fields
import GatherFusion.Proofs.Sequencing

/-!
# What decoding reads

The readers of a payload test its size once, in bits rounded up to bytes, and then reach into its
bytes in one of several ways: nibble by nibble, as a run of leading bytes, or as a run of leading
bytes cut into words of two, four or eight. `checkedWords` makes these accesses with nothing to fall
back on: one that reaches past the end is an `Overrun`. The test and the accesses ask for the same
number of bytes (`checkedWords_eq_ok_iff`), so the readers never overrun a payload and turn none
down that would do.

Whatever the access, what it delivers are the leading fields of the payload
(`integers?_eq_elements?`, `singles?_eq_elements?`). That settles which requests are answered, and
that an answer depends on no bit behind the elements asked for. Counts and sizes are unbounded numbers,
so a count times a width never overflows.
-/
namespace GatherFusion

variable {α : Type}

/-! ## Accesses that can overrun -/

namespace LittleEndian

/-- An access that reaches past the end of a run of bytes. -/
structure Overrun where
  /-- How many bytes the access needs. -/
  needed : Nat
  /-- How many bytes there are. -/
  size : Nat
  deriving DecidableEq, Repr

/-- The byte at a position that has to lie inside the run. -/
def byteAt (bytes : List UInt8) (position : Nat) : Except Overrun UInt8 :=
  match bytes[position]? with
  | some byte => .ok byte
  | none => .error ⟨position + 1, bytes.length⟩

/-- The nibble at a position, out of the byte that has to hold it. -/
def nibbleAt (bytes : List UInt8) (index : Nat) : Except Overrun UInt8 := do
  let byte ← byteAt bytes (index / 2)
  return if index % 2 = 0 then lowNibble byte else highNibble byte

/-- The leading bytes, which all have to lie inside the run. -/
def leading (bytes : List UInt8) (count : Nat) : Except Overrun (List UInt8) :=
  if count ≤ bytes.length then .ok (bytes.take count) else .error ⟨count, bytes.length⟩

/-- The words of `width` bytes in a run of leading bytes, as many as that run holds whole. -/
def chunks (width : Nat) (bytes : List UInt8) (count : Nat) : Except Overrun (List Nat) := do
  let run ← leading bytes (count * width)
  return readWords width (run.length / width) run

/-- The leading elements of a width by the accesses a reader makes for it: single nibbles, leading
bytes, or words cut out of leading bytes. -/
def checkedWords (bits : Nat) (bytes : List UInt8) (count : Nat) : Except Overrun (List Nat) :=
  match bits with
  | 4 => do
    let nibbles ← (List.range count).mapM (nibbleAt bytes)
    return nibbles.map UInt8.toNat
  | 8 => do
    let run ← leading bytes count
    return run.map UInt8.toNat
  | _ => chunks (bits / 8) bytes count

/-- The nibble at a position lies in the byte at half that position. -/
theorem getElem?_nibbles (bytes : List UInt8) (index : Nat) :
    (nibbles bytes)[index]? =
      bytes[index / 2]?.map fun byte =>
        if index % 2 = 0 then lowNibble byte else highNibble byte := by
  induction bytes generalizing index with
  | nil => rfl
  | cons byte rest ih =>
    have split : nibbles (byte :: rest) = lowNibble byte :: highNibble byte :: nibbles rest := rfl
    match index with
    | 0 => rfl
    | 1 => rfl
    | index + 2 =>
      have outer : (index + 2) / 2 = index / 2 + 1 := by omega
      have inner : (index + 2) % 2 = index % 2 := by omega
      rw [split, List.getElem?_cons_succ, List.getElem?_cons_succ, ih, outer, inner,
        List.getElem?_cons_succ]

/-- A nibble is taken exactly where there is one. -/
theorem nibbleAt_eq_ok_iff {bytes : List UInt8} {index : Nat} {nibble : UInt8} :
    nibbleAt bytes index = .ok nibble ↔ (nibbles bytes)[index]? = some nibble := by
  rw [getElem?_nibbles, nibbleAt, byteAt, bind_eq_ok_iff]
  cases bytes[index / 2]? <;> simp [pure, Except.pure]

/-- What is found at the positions below a bound, one after the other, is the head of the list. -/
theorem forall₂_range_iff {list values : List α} {count : Nat} :
    List.Forall₂ (fun index value => list[index]? = some value) (List.range count) values ↔
      count ≤ list.length ∧ values = list.take count := by
  simp only [List.forall₂_iff_get, List.length_range, List.get_eq_getElem, List.getElem_range]
  constructor
  · rintro ⟨length, each⟩
    have read : ∀ index < count, list[index]? = values[index]? := fun index below => by
      rw [each index below (length ▸ below), List.getElem?_eq_getElem]
    have inside : count ≤ list.length := by
      by_contra short
      -- The position right behind the end would hold something.
      have missing := read list.length (Nat.lt_of_not_le short)
      rw [List.getElem?_eq_none (Nat.le_refl _), eq_comm, List.getElem?_eq_none_iff] at missing
      omega
    refine ⟨inside, List.ext_getElem? fun index => ?_⟩
    by_cases below : index < count
    · rw [← read index below, List.getElem?_take_of_lt below]
    · rw [List.getElem?_eq_none (by omega), List.getElem?_take_eq_none (by omega)]
  · rintro ⟨inside, rfl⟩
    refine ⟨(List.length_take_of_le inside).symm, fun index below _ => ?_⟩
    rw [List.getElem_take, List.getElem?_eq_getElem]

/-- Nibbles are taken one by one exactly where there are enough of them. -/
theorem mapM_nibbleAt_eq_ok_iff {bytes : List UInt8} {count : Nat} {values : List UInt8} :
    (List.range count).mapM (nibbleAt bytes) = .ok values ↔
      count ≤ 2 * bytes.length ∧ values = (nibbles bytes).take count := by
  rw [← length_nibbles, mapM_eq_ok_iff, ← forall₂_range_iff]
  simp only [nibbleAt_eq_ok_iff]

/-- Leading bytes are taken exactly where there are enough of them. -/
theorem leading_eq_ok_iff {bytes run : List UInt8} {count : Nat} :
    leading bytes count = .ok run ↔ count ≤ bytes.length ∧ run = bytes.take count := by
  unfold leading
  split <;> simp_all [eq_comm]

/-- Words are cut out exactly where there are enough bytes, and as many as were asked for. -/
theorem chunks_eq_ok_iff {width : Nat} (positive : 0 < width) {bytes : List UInt8} {count : Nat}
    {words : List Nat} :
    chunks width bytes count = .ok words ↔
      count * (8 * width) ≤ 8 * bytes.length ∧ words = fields (8 * width) count bytes := by
  have bound : count * (8 * width) ≤ 8 * bytes.length ↔ count * width ≤ bytes.length := by
    rw [Nat.mul_left_comm]
    omega
  rw [chunks, bind_pure_eq_ok_iff fun _ => leading_eq_ok_iff, bound]
  refine and_congr_right fun inside => ?_
  have whole : (bytes.take (count * width)).length / width = count := by
    rw [List.length_take_of_le inside, Nat.mul_div_cancel _ positive]
  rw [whole, readWords_eq_fields, fields_take bytes (by rw [Nat.mul_left_comm])]

/-- The leading elements of a width are taken exactly where the run holds all their bits, and they
are the leading fields of that width. -/
theorem checkedWords_eq_ok_iff {bits : Nat} (known : bits ∈ [4, 8, 16, 32, 64])
    {bytes : List UInt8} {count : Nat} {words : List Nat} :
    checkedWords bits bytes count = .ok words ↔
      count * bits ≤ 8 * bytes.length ∧ words = fields bits count bytes := by
  simp only [List.mem_cons, List.not_mem_nil, or_false] at known
  obtain rfl | rfl | rfl | rfl | rfl := known
  · have bound : count * 4 ≤ 8 * bytes.length ↔ count ≤ 2 * bytes.length := by omega
    rw [checkedWords, bind_pure_eq_ok_iff fun _ => mapM_nibbleAt_eq_ok_iff, bound]
    exact and_congr_right fun inside => by rw [take_nibbles_eq_fields inside]
  · have bound : count * 8 ≤ 8 * bytes.length ↔ count ≤ bytes.length := by omega
    rw [checkedWords, bind_pure_eq_ok_iff fun _ => leading_eq_ok_iff, bound]
    exact and_congr_right fun inside => by rw [take_bytes_eq_fields inside]
  · exact chunks_eq_ok_iff (show 0 < 2 by decide)
  · exact chunks_eq_ok_iff (show 0 < 4 by decide)
  · exact chunks_eq_ok_iff (show 0 < 8 by decide)

end LittleEndian

/-! ## How types read the bits of an element -/

namespace ElementType

/-- How an integer type reads the bits of an element; other types hold no integers. -/
def integer? (element : ElementType) : Option (Nat → Int) :=
  match element.kind, element.bits with
  | .unsigned, 4 | .unsigned, 8 | .unsigned, 32 | .boolean, 8 => some Payload.unsigned
  | .signed, 4 | .signed, 8 | .signed, 32 | .signed, 64 => some (Payload.signed element.bits)
  | _, _ => none

/-- How a type reads the bits of an element in single precision. An integer is rounded to the
nearest value. -/
def single? (element : ElementType) : Option (Nat → Single) :=
  match element.kind, element.bits with
  | .float, 32 => some fun word => ⟨UInt32.ofNat word⟩
  | .float, 16 => some (Single.ofWord .half)
  | .brainFloat, 16 => some (Single.ofWord .brain)
  | _, _ => element.integer?.map fun value word => Single.ofInt (value word)

/-- The types that can be read as integers. -/
def integers : List ElementType := [u4, i4, u8, bool, i8, i32, u32, i64]

/-- The types that can be read in single precision. -/
def singles : List ElementType := [f32, f16, bf16] ++ integers

/-- The eight types that are read as integers. -/
theorem isSome_integer?_iff (element : ElementType) :
    element.integer?.isSome ↔ element ∈ integers := by
  obtain ⟨kind, bits⟩ := element
  unfold integer?
  split <;> simp_all [integers, u4, i4, u8, bool, i8, i32, u32, i64]

/-- The three types beside them that are read in single precision. -/
theorem isSome_single?_iff (element : ElementType) :
    element.single?.isSome ↔ element ∈ singles := by
  have others := isSome_integer?_iff element
  obtain ⟨kind, bits⟩ := element
  unfold single?
  split
  next => simp_all [singles, f32, f16, bf16]
  next => simp_all [singles, f32, f16, bf16]
  next => simp_all [singles, f32, f16, bf16]
  next wide narrow brain =>
    have plain : (⟨kind, bits⟩ : ElementType) ∉ [f32, f16, bf16] := by
      simp_all [f32, f16, bf16]
    rw [Option.isSome_map, others, singles, List.mem_append, or_iff_right plain]

/-- Every type that can be read has elements of one of five widths. -/
theorem bits_of_mem_singles {element : ElementType} (known : element ∈ singles) :
    element.bits ∈ [4, 8, 16, 32, 64] := by
  revert element
  decide

end ElementType

namespace Payload

/-! ## Readers as fields -/

/-- The leading elements of a payload as the types read them: nothing for a payload that is too
short, nothing for a type that cannot be read, and otherwise each field by itself. -/
def elements? (interpret : ElementType → Option (Nat → α)) (payload : Payload)
    (element : ElementType) (count : Nat) : Option (List α) :=
  if payload.size < element.byteLength count then none
  else (interpret element).map fun value =>
    (LittleEndian.fields element.bits count payload.bytes).map value

/-- A payload is long enough for some elements when it holds all their bits. -/
theorem byteLength_le_size_iff (payload : Payload) (element : ElementType) (count : Nat) :
    element.byteLength count ≤ payload.size ↔ count * element.bits ≤ 8 * payload.size := by
  unfold ElementType.byteLength
  omega

/-- Reading field by field succeeds on a payload that is long enough, for a type that is known. -/
theorem elements?_eq_some_iff {interpret : ElementType → Option (Nat → α)} {payload : Payload}
    {element : ElementType} {count : Nat} {values : List α} :
    elements? interpret payload element count = some values ↔
      element.byteLength count ≤ payload.size ∧ ∃ value, interpret element = some value ∧
        (LittleEndian.fields element.bits count payload.bytes).map value = values := by
  unfold elements?
  split
  next short => simp [Nat.not_le_of_lt short]
  next long => simp [Nat.le_of_not_lt long]

/-- Fewer elements need no more bytes. -/
theorem byteLength_mono (element : ElementType) {less count : Nat} (below : less ≤ count) :
    element.byteLength less ≤ element.byteLength count :=
  Nat.div_le_div_right (Nat.add_le_add_right (Nat.mul_le_mul_right element.bits below) 7)

/-- The nibbles of a payload that is long enough are its fields of four bits. -/
theorem leadingNibbles_eq_fields {payload : Payload} {count : Nat}
    (held : count * 4 ≤ 8 * payload.size) :
    payload.leadingNibbles count = LittleEndian.fields 4 count payload.bytes :=
  LittleEndian.take_nibbles_eq_fields (by unfold size at held; omega)

/-- The bytes of a payload that is long enough are its fields of eight bits. -/
theorem leadingBytes_eq_fields {payload : Payload} {count : Nat}
    (held : count * 8 ≤ 8 * payload.size) :
    payload.leadingBytes count = LittleEndian.fields 8 count payload.bytes :=
  LittleEndian.take_bytes_eq_fields (by unfold size at held; omega)

/-- Integers are read field by field. -/
theorem integers?_eq_elements? (payload : Payload) (element : ElementType) (count : Nat) :
    payload.integers? element count = elements? ElementType.integer? payload element count := by
  unfold integers? elements?
  split
  · rfl
  next long =>
    have held := (byteLength_le_size_iff payload element count).mp (Nat.le_of_not_lt long)
    obtain ⟨kind, bits⟩ := element
    unfold ElementType.integer?
    dsimp only at held ⊢
    split
    · rw [leadingNibbles_eq_fields held]; rfl
    · rw [leadingNibbles_eq_fields held]; rfl
    · rw [leadingBytes_eq_fields held]; rfl
    · rw [leadingBytes_eq_fields held]; rfl
    · rw [leadingBytes_eq_fields held]; rfl
    · rw [LittleEndian.readWords_eq_fields]; rfl
    · rw [LittleEndian.readWords_eq_fields]; rfl
    · rw [LittleEndian.readWords_eq_fields]; rfl
    · split <;> first | rfl | contradiction

/-- Single precision values are read field by field. -/
theorem singles?_eq_elements? (payload : Payload) (element : ElementType) (count : Nat) :
    payload.singles? element count = elements? ElementType.single? payload element count := by
  unfold singles? elements?
  split
  · rfl
  next long =>
    obtain ⟨kind, bits⟩ := element
    dsimp only at long ⊢
    split
    · rw [LittleEndian.readWords_eq_fields]; rfl
    · rw [LittleEndian.readWords_eq_fields]; rfl
    · rw [LittleEndian.readWords_eq_fields]; rfl
    · -- every other type is read as an integer first
      have rounded : ElementType.single? ⟨kind, bits⟩ =
          (ElementType.integer? ⟨kind, bits⟩).map fun value word => Single.ofInt (value word) := by
        unfold ElementType.single?
        split <;> simp_all
      rw [integers?_eq_elements?, elements?, if_neg long, rounded, Option.map_map, Option.map_map]
      simp only [Function.comp_def, List.map_map]

/-! ## The two readers -/

/-- The leading elements of a payload with the accesses that can overrun it. -/
def checkedElements? (interpret : ElementType → Option (Nat → α)) (payload : Payload)
    (element : ElementType) (count : Nat) : Except LittleEndian.Overrun (Option (List α)) :=
  if payload.size < element.byteLength count then .ok none
  else
    match interpret element with
    | none => .ok none
    | some value => do
      let words ← LittleEndian.checkedWords element.bits payload.bytes count
      return some (words.map value)

/-- What a reader promises about the types it knows. -/
structure Decodes (types : List ElementType) (interpret : ElementType → Option (Nat → α))
    (decode : Payload → ElementType → Nat → Option (List α)) : Prop where
  /-- It reads what the accesses deliver, and none of them reaches past the end of a payload. -/
  inRange : ∀ payload element count,
    checkedElements? interpret payload element count = .ok (decode payload element count)
  /-- For the types it knows its test is the weakest under which the accesses stay inside. -/
  guarded : ∀ (payload : Payload), ∀ element ∈ types, ∀ count,
    (∃ words, LittleEndian.checkedWords element.bits payload.bytes count = .ok words) ↔
      element.byteLength count ≤ payload.size
  /-- It answers exactly where it knows the type and the payload is long enough. -/
  answers : ∀ payload element count,
    (decode payload element count).isSome ↔
      element ∈ types ∧ element.byteLength count ≤ payload.size
  /-- An answer has the number of elements asked for. -/
  length : ∀ payload element count values,
    decode payload element count = some values → values.length = count
  /-- Bytes behind the elements asked for make no difference. -/
  leading : ∀ payload element count,
    decode ⟨payload.bytes.take (element.byteLength count)⟩ element count =
      decode payload element count
  /-- Bits behind the elements asked for make no difference, within the last byte either. -/
  covered : ∀ (left right : Payload) element count,
    element.byteLength count ≤ left.size → element.byteLength count ≤ right.size →
      (∀ position < count * element.bits,
        LittleEndian.bit left.bytes position = LittleEndian.bit right.bytes position) →
      decode left element count = decode right element count
  /-- Fewer elements are the leading ones of more. -/
  fewer : ∀ payload element count values,
    decode payload element count = some values →
      ∀ less ≤ count, decode payload element less = some (values.take less)

/-- A reader that reads field by field, of types with the five known widths, keeps its promises. -/
theorem Decodes.of_elements {types : List ElementType}
    {interpret : ElementType → Option (Nat → α)}
    {decode : Payload → ElementType → Nat → Option (List α)}
    (known : ∀ element, (interpret element).isSome ↔ element ∈ types)
    (widths : ∀ element ∈ types, element.bits ∈ [4, 8, 16, 32, 64])
    (fieldwise : ∀ payload element count,
      decode payload element count = elements? interpret payload element count) :
    Decodes types interpret decode where
  inRange payload element count := by
    rw [fieldwise, checkedElements?, elements?]
    split
    · rfl
    next long =>
      have held := (byteLength_le_size_iff payload element count).mp (Nat.le_of_not_lt long)
      cases typed : interpret element with
      | none => rfl
      | some value =>
        have member := (known element).mp (Option.isSome_of_mem typed)
        rw [(LittleEndian.checkedWords_eq_ok_iff (widths element member)).mpr ⟨held, rfl⟩]
        rfl
  guarded payload element typed count := by
    rw [byteLength_le_size_iff]
    simp only [LittleEndian.checkedWords_eq_ok_iff (widths element typed), exists_and_left,
      exists_eq, and_true, size]
  answers payload element count := by
    rw [fieldwise, Option.isSome_iff_exists, ← known, Option.isSome_iff_exists]
    simp only [elements?_eq_some_iff]
    constructor
    · rintro ⟨values, long, value, typed, -⟩
      exact ⟨⟨value, typed⟩, long⟩
    · rintro ⟨⟨value, typed⟩, long⟩
      exact ⟨_, long, value, typed, rfl⟩
  length payload element count values decoded := by
    rw [fieldwise, elements?_eq_some_iff] at decoded
    obtain ⟨-, value, -, rfl⟩ := decoded
    rw [List.length_map, LittleEndian.length_fields]
  leading payload element count := by
    have room := (element.byteLength_tight count).1
    have short : (Payload.mk (payload.bytes.take (element.byteLength count))).size <
        element.byteLength count ↔ payload.size < element.byteLength count := by
      simp only [size, List.length_take]
      omega
    rw [fieldwise, fieldwise, elements?, elements?, LittleEndian.fields_take payload.bytes room]
    simp only [short]
  covered left right element count longLeft longRight same := by
    rw [fieldwise, fieldwise, elements?, elements?, if_neg (Nat.not_lt.mpr longLeft),
      if_neg (Nat.not_lt.mpr longRight), LittleEndian.fields_congr same]
  fewer payload element count values decoded less below := by
    rw [fieldwise, elements?_eq_some_iff] at decoded ⊢
    obtain ⟨long, value, typed, rfl⟩ := decoded
    refine ⟨Nat.le_trans (byteLength_mono element below) long, value, typed, ?_⟩
    rw [← List.map_take, LittleEndian.take_fields below]

/-- The spare nibble behind an odd number of four-bit elements is not read. -/
example (spare : Fin 16) :
    integers? ⟨[0x21, 0x03 ||| UInt8.ofNat (16 * spare)]⟩ .i4 3 = some [1, 2, 3] := by
  decide +revert

end Payload
end GatherFusion

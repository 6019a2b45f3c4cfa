import GatherFusion.Proofs.Payload.Decoding

/-!
# Writing and reading payloads

A run of bytes packs a list of words when it is as long as their bits need, holds them as its fields
and leaves no bit set behind them (`Packs`). There is one such run for every list (`Packs.unique`).
Every writer packs the words of its values, whether it emits whole words or pairs of nibbles, and a
payload of the right size without set bits to spare packs the words that are read off it. So writing
and reading invert each other as soon as the two conversions between values and words do
(`Exact.of_packs`).
-/
namespace GatherFusion

namespace LittleEndian

/-! ## Packed runs -/

/-- A run of bytes holds words of `bits` bits without gaps, and nothing else. -/
structure Packs (bits : Nat) (bytes : List UInt8) (words : List Nat) : Prop where
  /-- There are as many bytes as the bits of the words need. -/
  length : bytes.length = (words.length * bits + 7) / 8
  /-- The words are the fields of the run. -/
  fields : fields bits words.length bytes = words
  /-- No bit is set behind the words. -/
  spare : ∀ position, words.length * bits ≤ position → bit bytes position = false

/-- No bit is set past the end of a run. -/
theorem bit_eq_false {bytes : List UInt8} {position : Nat} (past : 8 * bytes.length ≤ position) :
    bit bytes position = false := by
  rw [bit, List.getD_eq_default _ _ (by omega)]
  exact Nat.zero_testBit _

/-- The bits of a run behind its first byte. -/
theorem bit_cons_add (byte : UInt8) (rest : List UInt8) (position : Nat) :
    bit (byte :: rest) (position + 8) = bit rest position := by
  have outer : (position + 8) / 8 = position / 8 + 1 := by omega
  have inner : (position + 8) % 8 = position % 8 := by omega
  rw [bit, bit, outer, inner, List.getD_cons_succ]

/-- Runs of the same length with the same bits are equal. -/
theorem eq_of_bits {left right : List UInt8} (length : left.length = right.length)
    (same : ∀ position, bit left position = bit right position) : left = right := by
  have words : readWord left = readWord right :=
    Nat.eq_of_testBit_eq fun position => by rw [testBit_readWord, testBit_readWord, same]
  rw [← writeWord_readWord left, words, length, writeWord_readWord]

/-- A bit is a bit of the field that covers it. -/
theorem bit_eq_testBit_field {bits : Nat} (positive : 0 < bits) (bytes : List UInt8)
    (position : Nat) :
    bit bytes position = (field bits bytes (position / bits)).testBit (position % bits) := by
  rw [testBit_field, decide_eq_true (Nat.mod_lt position positive), Bool.true_and,
    Nat.div_add_mod]

/-- At most one run packs a list of words. -/
theorem Packs.unique {bits : Nat} (positive : 0 < bits) {left right : List UInt8}
    {words : List Nat} (first : Packs bits left words) (second : Packs bits right words) :
    left = right := by
  refine eq_of_bits (first.length.trans second.length.symm) fun position => ?_
  by_cases covered : position < words.length * bits
  · have listed : position / bits ∈ List.range words.length :=
      List.mem_range.mpr ((Nat.div_lt_iff_lt_mul positive).mpr covered)
    have same := List.map_inj_left.mp (first.fields.trans second.fields.symm) _ listed
    rw [bit_eq_testBit_field positive, same, ← bit_eq_testBit_field positive]
  · rw [first.spare _ (Nat.le_of_not_lt covered), second.spare _ (Nat.le_of_not_lt covered)]

/-- A run of the right size without set bits to spare packs the words that are read off it. -/
theorem packs_fields {bits count : Nat} {bytes : List UInt8}
    (length : bytes.length = (count * bits + 7) / 8)
    (spare : ∀ position, count * bits ≤ position → bit bytes position = false) :
    Packs bits bytes (fields bits count bytes) where
  length := by rw [length_fields, length]
  fields := by rw [length_fields]
  spare := by rwa [length_fields]

/-! ## Writers of whole words -/

/-- Words of a width take that many bytes each. -/
theorem length_flatMap_writeWord (width : Nat) (words : List Nat) :
    (words.flatMap (writeWord width)).length = words.length * width := by
  induction words with
  | nil => simp
  | cons word rest ih =>
    rw [List.flatMap_cons, List.length_append, length_writeWord, ih, List.length_cons,
      Nat.succ_mul, Nat.add_comm]

/-- Words written one after the other are read back, if each fits its width. -/
theorem readWords_flatMap_writeWord {width : Nat} {words : List Nat}
    (fit : ∀ word ∈ words, word < 2 ^ (8 * width)) :
    readWords width words.length (words.flatMap (writeWord width)) = words := by
  induction words with
  | nil => rfl
  | cons word rest ih =>
    have head : readWord (writeWord width word) = word := by
      rw [readWord_writeWord, Nat.one_shiftLeft, Nat.mod_eq_of_lt (fit word List.mem_cons_self)]
    rw [List.length_cons, List.flatMap_cons, readWords, List.take_left' (length_writeWord _ _),
      List.drop_left' (length_writeWord _ _), head,
      ih fun word later => fit word (List.mem_cons_of_mem _ later)]

/-- Words that fit their width are packed by writing them one after the other. -/
theorem packs_flatMap_writeWord {width : Nat} {words : List Nat}
    (fit : ∀ word ∈ words, word < 2 ^ (8 * width)) :
    Packs (8 * width) (words.flatMap (writeWord width)) words where
  length := by
    rw [length_flatMap_writeWord, Nat.mul_left_comm]
    omega
  fields := by rw [← readWords_eq_fields, readWords_flatMap_writeWord fit]
  spare position past := by
    refine bit_eq_false ?_
    rwa [length_flatMap_writeWord, Nat.mul_left_comm]

/-- Bytes pack themselves. -/
theorem packs_bytes (bytes : List UInt8) : Packs 8 bytes (bytes.map UInt8.toNat) where
  length := by
    rw [List.length_map]
    omega
  fields := by rw [List.length_map, bytes_eq_fields]
  spare position past := by
    rw [List.length_map] at past
    exact bit_eq_false (by omega)

/-! ## The writer of nibbles -/

/-- A nibble has four bits. -/
theorem testBit_of_lt_sixteen {nibble position : Nat} (small : nibble < 16) (high : 4 ≤ position) :
    nibble.testBit position = false :=
  Nat.testBit_lt_two_pow (Nat.lt_of_lt_of_le small (Nat.pow_le_pow_right Nat.two_pos high))

/-- A byte made of two nibbles has the first as its units and the second as its sixteens. -/
theorem toNat_pair (low high : UInt8) :
    (lowNibble low ||| lowNibble high <<< 4).toNat = low.toNat % 16 + 16 * (high.toNat % 16) := by
  have units : low.toNat % 16 < 2 ^ 4 := Nat.mod_lt _ (by decide)
  have sixteens : high.toNat % 16 < 2 ^ 4 := Nat.mod_lt _ (by decide)
  have byte : (high.toNat % 16) <<< 4 < 2 ^ 8 := by
    rw [Nat.shiftLeft_eq]
    omega
  have shifted : (lowNibble high <<< 4).toNat = (high.toNat % 16) <<< 4 := by
    rw [UInt8.toNat_shiftLeft, toNat_lowNibble]
    exact Nat.mod_eq_of_lt byte
  rw [UInt8.toNat_or, toNat_lowNibble, shifted, Nat.or_comm, ← Nat.shiftLeft_add_eq_or_of_lt units,
    Nat.shiftLeft_eq]
  omega

/-- Each pair of nibbles shares a byte. -/
theorem length_packNibbles (values : List UInt8) :
    (packNibbles values).length = (values.length + 1) / 2 := by
  fun_induction packNibbles values with
  | case1 => rfl
  | case2 => simp
  | case3 low high rest ih =>
    simp only [List.length_cons, ih]
    omega

/-- Packed nibbles are read back in order. -/
theorem take_nibbles_packNibbles (values : List UInt8) :
    ((nibbles (packNibbles values)).take values.length).map UInt8.toNat =
      values.map fun value => value.toNat % 16 := by
  fun_induction packNibbles values with
  | case1 => rfl
  | case2 last => simp [nibbles, toNat_lowNibble]
  | case3 low high rest ih =>
    have units : (low.toNat % 16 + 16 * (high.toNat % 16)) % 16 = low.toNat % 16 := by omega
    have sixteens : (low.toNat % 16 + 16 * (high.toNat % 16)) / 16 = high.toNat % 16 := by omega
    rw [nibbles] at ih
    simp only [nibbles, List.flatMap_cons, List.cons_append, List.nil_append, List.length_cons,
      List.take_succ_cons, List.map_cons, toNat_lowNibble, toNat_highNibble, toNat_pair, units,
      sixteens, ih]

/-- No bit is set behind packed nibbles. -/
theorem spare_packNibbles {values : List UInt8} {position : Nat}
    (past : values.length * 4 ≤ position) : bit (packNibbles values) position = false := by
  fun_induction packNibbles values generalizing position with
  | case1 => exact bit_eq_false (Nat.zero_le position)
  | case2 last =>
    simp only [List.length_singleton] at past
    by_cases inside : position < 8
    · rw [bit, Nat.div_eq_of_lt inside, Nat.mod_eq_of_lt inside, List.getD_cons_zero,
        toNat_lowNibble]
      exact testBit_of_lt_sixteen (Nat.mod_lt _ (by decide)) (by omega)
    · exact bit_eq_false (by simp only [List.length_singleton]; omega)
  | case3 low high rest ih =>
    simp only [List.length_cons] at past
    obtain ⟨later, rfl⟩ : ∃ later, position = later + 8 := ⟨position - 8, by omega⟩
    rw [bit_cons_add]
    exact ih (by omega)

/-- The nibbles of a list are packed by writing them in pairs. -/
theorem packs_packNibbles (values : List UInt8) :
    Packs 4 (packNibbles values) (values.map fun value => value.toNat % 16) where
  length := by
    rw [length_packNibbles, List.length_map]
    omega
  fields := by
    rw [List.length_map, ← take_nibbles_packNibbles, take_nibbles_eq_fields]
    rw [length_packNibbles]
    omega
  spare position past := spare_packNibbles (by rwa [List.length_map] at past)

end LittleEndian

namespace Payload

variable {α β : Type}

/-! ## Writers and readers -/

/-- The spare nibble behind an odd number of four-bit elements is zero. -/
def Padded (payload : Payload) (element : ElementType) (count : Nat) : Prop :=
  element.bits = 4 → count % 2 = 1 →
    ∀ last ∈ payload.bytes.getLast?, LittleEndian.highNibble last = 0

/-- No bit is set behind the elements of a padded payload of their size. -/
theorem Padded.spare {payload : Payload} {element : ElementType} {count : Nat}
    (known : element.bits ∈ [4, 8, 16, 32, 64]) (size : payload.size = element.byteLength count)
    (padded : payload.Padded element count) {position : Nat}
    (past : count * element.bits ≤ position) :
    LittleEndian.bit payload.bytes position = false := by
  by_cases inside : position < 8 * payload.bytes.length
  · -- only nibbles leave room in the last byte, and only an odd number of them
    have held : payload.bytes.length = (count * element.bits + 7) / 8 := size
    have nibbles : element.bits = 4 := by
      simp only [List.mem_cons, List.not_mem_nil, or_false] at known
      obtain four | whole | whole | whole | whole := known
      · exact four
      all_goals rw [whole] at held past; omega
    rw [nibbles] at held past
    have odd : count % 2 = 1 := by omega
    have final : position / 8 = payload.bytes.length - 1 := by omega
    rw [LittleEndian.bit, final, List.getD_eq_getElem?_getD, ← List.getLast?_eq_getElem?]
    cases found : payload.bytes.getLast? with
    | none => exact Nat.zero_testBit _
    | some last =>
      have zero := congrArg UInt8.toNat (padded nibbles odd last found)
      rw [LittleEndian.toNat_highNibble, UInt8.toNat_zero] at zero
      have small : last.toNat < 16 := by omega
      exact LittleEndian.testBit_of_lt_sixteen small (by omega)
  · exact LittleEndian.bit_eq_false (Nat.le_of_not_lt inside)

/-- A writer of an element type and a reader invert each other, up to what the type can hold of a
value and how a value is restored from what was read. -/
structure Exact (element : ElementType) (write : List β → Payload)
    (read? : Payload → ElementType → Nat → Option (List α)) (decoded : β → α)
    (restored : α → β) : Prop where
  /-- Values take the whole bytes their bits need. -/
  size : ∀ values, (write values).size = element.byteLength values.length
  /-- What was written is read back. -/
  returns : ∀ values, read? (write values) element values.length = some (values.map decoded)
  /-- A payload of the right size, padded with zeros, is what writing its elements gives. -/
  restores : ∀ payload count, payload.size = element.byteLength count →
    payload.Padded element count →
      ∃ values, read? payload element count = some values ∧ write (values.map restored) = payload

/-- A writer that packs the words of its values and a reader that reads field by field invert each
other when values and words do. -/
theorem Exact.of_packs {element : ElementType} {write : List β → Payload}
    {read? : Payload → ElementType → Nat → Option (List α)} {decoded : β → α} {restored : α → β}
    {interpret : ElementType → Option (Nat → α)} {value : Nat → α} (word : β → Nat)
    (fieldwise : ∀ payload element count,
      read? payload element count = elements? interpret payload element count)
    (typed : interpret element = some value) (known : element.bits ∈ [4, 8, 16, 32, 64])
    (packs : ∀ values,
      LittleEndian.Packs element.bits (write values).bytes (values.map word))
    (forth : ∀ written, value (word written) = decoded written)
    (back : ∀ stored < 2 ^ element.bits, word (restored (value stored)) = stored) :
    Exact element write read? decoded restored := by
  have size : ∀ values, (write values).size = element.byteLength values.length := fun values => by
    have length := (packs values).length
    rwa [List.length_map] at length
  refine ⟨size, fun values => ?_, fun payload count sized padded => ?_⟩
  · rw [fieldwise, elements?_eq_some_iff]
    have words := (packs values).fields
    rw [List.length_map] at words
    refine ⟨Nat.le_of_eq (size values).symm, value, typed, ?_⟩
    rw [words, List.map_map]
    exact List.map_congr_left fun written _ => forth written
  · let stored := LittleEndian.fields element.bits count payload.bytes
    refine ⟨stored.map value, ?_, ?_⟩
    · rw [fieldwise, elements?_eq_some_iff]
      exact ⟨Nat.le_of_eq sized.symm, value, typed, rfl⟩
    · have positive : 0 < element.bits :=
        (show ∀ bits ∈ [4, 8, 16, 32, 64], 0 < bits by decide) _ known
      have rewritten : ((stored.map value).map restored).map word = stored := by
        rw [List.map_map, List.map_map]
        exact (List.map_congr_left fun stored listed =>
          back stored (LittleEndian.lt_of_mem_fields listed)).trans (List.map_id _)
      have original := LittleEndian.packs_fields sized fun position past =>
        padded.spare known sized past
      have again := packs ((stored.map value).map restored)
      rw [rewritten] at again
      exact congrArg Payload.mk (again.unique positive original)

/-! ## The formats -/

/-- The two's complement of a word is the integer of its bits. -/
theorem signed_toNat {bits : Nat} (word : BitVec bits) : signed bits word.toNat = word.toInt := by
  rw [signed, BitVec.ofNat_toNat, BitVec.setWidth_eq]

/-- Reading the two's complement of a word and wrapping it back gives the word. -/
theorem toNat_ofInt_signed {bits word : Nat} (small : word < 2 ^ bits) :
    (BitVec.ofInt bits (signed bits word)).toNat = word := by
  rw [signed, BitVec.ofInt_toInt, BitVec.toNat_ofNat, Nat.mod_eq_of_lt small]

/-- The byte of a number below 256 is that number. -/
theorem toNat_ofInt_unsigned {word : Nat} (small : word < 2 ^ 8) :
    (UInt8.ofInt (unsigned word)).toNat = word := by
  have kept : (word : Int) % 2 ^ 8 = word :=
    Int.emod_eq_of_lt (Int.natCast_nonneg word) (by exact_mod_cast small)
  rw [UInt8.ofInt, unsigned, Int.ofNat_eq_natCast, kept, Int.toNat_natCast, UInt8.toNat_ofNat',
    Nat.mod_eq_of_lt small]

/-- The low four bits of a signed byte as two's complement are its value wrapped around at
sixteen. -/
theorem signed_lowNibble (value : Int8) :
    signed 4 (value.toUInt8.toNat % 16) = value.toInt.bmod 16 := by
  have whole : value.toInt = (value.toUInt8.toNat : Int).bmod (2 ^ 8) :=
    BitVec.toInt_eq_toNat_bmod value.toBitVec
  rw [whole, Int.bmod_bmod_of_dvd (by decide), signed, BitVec.toInt_ofNat', Int.natCast_mod]
  exact Int.emod_bmod _ 16

/-- Wrapping around at sixteen keeps what fits four bits and moves everything else by a multiple of
sixteen to where it fits. -/
theorem bmod_sixteen (value : Int) :
    -8 ≤ value.bmod 16 ∧ value.bmod 16 ≤ 7 ∧ 16 ∣ value - value.bmod 16 ∧
      (value.bmod 16 = value ↔ -8 ≤ value ∧ value ≤ 7) := by
  rw [Int.bmod_def]
  split <;> omega

/-- Values written as whole words are packed, if every value has a word of that width. -/
theorem packs_words (width : Nat) (word : β → Nat) (fit : ∀ value, word value < 2 ^ (8 * width))
    (values : List β) :
    LittleEndian.Packs (8 * width)
      (values.flatMap fun value => LittleEndian.writeWord width (word value))
      (values.map word) := by
  have fits : ∀ stored ∈ values.map word, stored < 2 ^ (8 * width) := fun stored listed => by
    obtain ⟨value, -, rfl⟩ := List.mem_map.mp listed
    exact fit value
  have packs := LittleEndian.packs_flatMap_writeWord fits
  rwa [List.flatMap_map] at packs

/-- Signed bytes are packed by reading them as unsigned ones. -/
theorem packs_int8s (values : List Int8) :
    LittleEndian.Packs 8 (ofInt8s values).bytes
      (values.map fun value => value.toUInt8.toNat) := by
  have packs := LittleEndian.packs_bytes (values.map Int8.toUInt8)
  rwa [List.map_map] at packs

/-- The low four bits of signed bytes are packed in pairs. -/
theorem packs_signedNibbles (values : List Int8) :
    LittleEndian.Packs 4 (ofSignedNibbles values).bytes
      (values.map fun value => value.toUInt8.toNat % 16) := by
  have packs := LittleEndian.packs_packNibbles (values.map Int8.toUInt8)
  rwa [List.map_map] at packs

/-- Unsigned bytes are written and read exactly. -/
theorem exact_u8 : Exact .u8 ofUInt8s integers? (fun value => (value.toNat : Int)) UInt8.ofInt :=
  .of_packs UInt8.toNat integers?_eq_elements? rfl (by decide) LittleEndian.packs_bytes
    (fun _ => rfl) fun _ => toNat_ofInt_unsigned

/-- Signed bytes are written and read exactly. -/
theorem exact_i8 : Exact .i8 ofInt8s integers? Int8.toInt Int8.ofInt :=
  .of_packs _ integers?_eq_elements? rfl (by decide) packs_int8s
    (fun value => signed_toNat value.toBitVec) fun _ => toNat_ofInt_signed

/-- Signed 32-bit integers are written and read exactly. -/
theorem exact_i32 : Exact .i32 ofInt32s integers? Int32.toInt Int32.ofInt :=
  .of_packs _ integers?_eq_elements? rfl (by decide)
    (packs_words 4 (fun value : Int32 => value.toBitVec.toNat) fun value => value.toBitVec.isLt)
    (fun value => signed_toNat value.toBitVec) fun _ => toNat_ofInt_signed

/-- Signed 64-bit integers are written and read exactly. -/
theorem exact_i64 : Exact .i64 ofInt64s integers? Int64.toInt Int64.ofInt :=
  .of_packs _ integers?_eq_elements? rfl (by decide)
    (packs_words 8 (fun value : Int64 => value.toBitVec.toNat) fun value => value.toBitVec.isLt)
    (fun value => signed_toNat value.toBitVec) fun _ => toNat_ofInt_signed

/-- Single precision values are written and read bit by bit. -/
theorem exact_f32 : Exact .f32 ofSingles singles? id id :=
  .of_packs _ singles?_eq_elements? rfl (by decide)
    (packs_words 4 (fun value : Single => value.word.toNat) fun value => value.word.toNat_lt)
    (fun value => congrArg Single.mk value.word.ofNat_toNat) fun _ => Nat.mod_eq_of_lt

/-- Unsigned nibbles are written and read exactly, four bits of every value. -/
theorem exact_u4 :
    Exact .u4 ofUnsignedNibbles integers? (fun value => ((value &&& 15).toNat : Int)) UInt8.ofInt :=
  .of_packs _ integers?_eq_elements? rfl (by decide) LittleEndian.packs_packNibbles
    (fun value => congrArg Int.ofNat (LittleEndian.toNat_lowNibble value).symm) (by decide)

/-- Signed nibbles are written and read exactly, every value wrapped around at sixteen. -/
theorem exact_i4 :
    Exact .i4 ofSignedNibbles integers? (fun value => value.toInt.bmod 16) Int8.ofInt :=
  .of_packs _ integers?_eq_elements? rfl (by decide) packs_signedNibbles signed_lowNibble
    (by decide)

/-- Writers and readers invert each other in both directions: what was written is read back, up to
the four bits that a packed nibble keeps of a value, and a payload of the right size is what writing
its elements gives. -/
theorem codecs_round_trip :
    Exact .u8 ofUInt8s integers? (fun value => (value.toNat : Int)) UInt8.ofInt ∧
      Exact .i8 ofInt8s integers? Int8.toInt Int8.ofInt ∧
      Exact .i32 ofInt32s integers? Int32.toInt Int32.ofInt ∧
      Exact .i64 ofInt64s integers? Int64.toInt Int64.ofInt ∧
      Exact .f32 ofSingles singles? id id ∧
      Exact .u4 ofUnsignedNibbles integers? (fun value => ((value &&& 15).toNat : Int))
        UInt8.ofInt ∧
      Exact .i4 ofSignedNibbles integers? (fun value => value.toInt.bmod 16) Int8.ofInt ∧
      ∀ value : Int8, -8 ≤ value.toInt.bmod 16 ∧ value.toInt.bmod 16 ≤ 7 ∧
        16 ∣ value.toInt - value.toInt.bmod 16 ∧
        (value.toInt.bmod 16 = value.toInt ↔ -8 ≤ value.toInt ∧ value.toInt ≤ 7) :=
  ⟨exact_u8, exact_i8, exact_i32, exact_i64, exact_f32, exact_u4, exact_i4,
    fun value => bmod_sixteen value.toInt⟩

/-- An odd number of signed nibbles, one of them out of range. -/
example : integers? (ofSignedNibbles [-3, 9, 7]) .i4 3 = some [-3, -7, 7] := by decide

end Payload

end GatherFusion

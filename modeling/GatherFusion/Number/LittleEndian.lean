/-!
# Little-endian words and packed nibbles

A word of `width` bytes is written low byte first. Four-bit values are packed two to a byte, the
low nibble first; an odd run leaves the last high nibble zero. Reading returns what was written
(`readWord_writeWord`) and writing restores what was read (`writeWord_readWord`).
-/
namespace GatherFusion.LittleEndian

/-- The `width` low bytes of a word, low byte first. -/
def writeWord : (width : Nat) → (word : Nat) → List UInt8
  | 0, _ => []
  | width + 1, word => UInt8.ofNat (word % 256) :: writeWord width (word / 256)

/-- The word a run of bytes spells, low byte first. -/
def readWord : List UInt8 → Nat
  | [] => 0
  | byte :: rest => byte.toNat + 256 * readWord rest

/-- Written words have the requested width. -/
@[simp] theorem length_writeWord (width word : Nat) : (writeWord width word).length = width := by
  induction width generalizing word with
  | zero => rfl
  | succ width ih => simp [writeWord, ih]

/-- Reading a written word returns it, modulo its width. -/
theorem readWord_writeWord (width word : Nat) :
    readWord (writeWord width word) = word % (1 <<< (8 * width)) := by
  induction width generalizing word with
  | zero => simp [writeWord, readWord, Nat.mod_one]
  | succ width ih =>
    have byte : (UInt8.ofNat (word % 256)).toNat = word % 256 := by
      simp only [UInt8.toNat_ofNat']
      omega
    have scale : 1 <<< (8 * (width + 1)) = 256 * 1 <<< (8 * width) := by
      rw [Nat.one_shiftLeft, Nat.one_shiftLeft, Nat.mul_succ, Nat.add_comm, Nat.pow_add]
    rw [writeWord, readWord, ih, byte, scale, Nat.mod_mul]

/-- A run of bytes is the writing of the word it spells. -/
theorem writeWord_readWord (bytes : List UInt8) :
    writeWord bytes.length (readWord bytes) = bytes := by
  induction bytes with
  | nil => rfl
  | cons byte rest ih =>
    have bound := byte.toNat_lt
    have low : (byte.toNat + 256 * readWord rest) % 256 = byte.toNat := by omega
    have high : (byte.toNat + 256 * readWord rest) / 256 = readWord rest := by omega
    simp only [List.length_cons, writeWord, readWord, low, high, ih, UInt8.ofNat_toNat]

/-- The first `count` words of a run of bytes, each of `width` bytes. -/
def readWords (width : Nat) : (count : Nat) → List UInt8 → List Nat
  | 0, _ => []
  | count + 1, bytes => readWord (bytes.take width) :: readWords width count (bytes.drop width)

/-- The low four bits of a byte. -/
def lowNibble (byte : UInt8) : UInt8 := byte &&& 0x0f

/-- The high four bits of a byte. -/
def highNibble (byte : UInt8) : UInt8 := byte >>> 4

/-- Pack the low nibbles of a run, two per byte, the earlier one low. -/
def packNibbles : List UInt8 → List UInt8
  | [] => []
  | [last] => [lowNibble last]
  | low :: high :: rest => (lowNibble low ||| lowNibble high <<< 4) :: packNibbles rest

/-- All nibbles of a run of bytes, the low one of each byte first. -/
def nibbles (bytes : List UInt8) : List UInt8 :=
  bytes.flatMap fun byte => [lowNibble byte, highNibble byte]

/-- Each byte holds two nibbles. -/
@[simp] theorem length_nibbles (bytes : List UInt8) :
    (nibbles bytes).length = 2 * bytes.length := by
  induction bytes with
  | nil => rfl
  | cons byte rest ih =>
    simp only [nibbles, List.flatMap_cons, List.length_append, List.length_cons,
      List.length_nil] at ih ⊢
    omega

end GatherFusion.LittleEndian

import TurboAccess.Gateway.ChecksumText

/-!
# The checksum header of a request

The client names the checksum of a request in base64, its bytes from the highest
to the lowest.  The base64 encoder is that of a library; of it only what the
standard says is used: its digits have the bits of the data, with fewer than six
zeros after them, and are padded to a multiple of four characters.
-/

namespace TurboAccess
namespace Client

open BitStrings Gateway

/-- A text is the base64 encoding of data. -/
structure EncodesBase64 (data text : Bytes) : Prop where
  digits : ∃ codes zeros padding,
    Spells codes (digitsOf text) ∧
      bitsOfCodes codes = bitsOfBytes data ++ List.replicate zeros false ∧
      zeros < 6 ∧
      text = digitsOf text ++ List.replicate padding paddingChar ∧
      padding < 4
  whole : text.length % 4 = 0

/-- The client's text of a checksum, for an encoder of the library. -/
def base64Crc32cBigEndian
    (base64Encode : Bytes → Bytes)
    (crc32c : UInt32) : Bytes :=
  base64Encode
    [((crc32c >>> 24) &&& 0xFF).toUInt8, ((crc32c >>> 16) &&& 0xFF).toUInt8,
      ((crc32c >>> 8) &&& 0xFF).toUInt8, (crc32c &&& 0xFF).toUInt8]

/-- The bytes that the client encodes have the bits of the checksum. -/
theorem bitsOfBytes_crc32c (crc32c : UInt32) :
    bitsOfBytes
        [((crc32c >>> 24) &&& 0xFF).toUInt8, ((crc32c >>> 16) &&& 0xFF).toUInt8,
          ((crc32c >>> 8) &&& 0xFF).toUInt8, (crc32c &&& 0xFF).toUInt8] =
      bitsOf 32 crc32c.toNat := by
  have last := bitsOf_taken (by decide : 0 < 32) crc32c
  have unshifted : crc32c >>> UInt32.ofNat 0 = crc32c := UInt32.shiftRight_zero
  rw [unshifted, bitsOf, List.append_nil] at last
  rw [← bitsOf_taken (by decide : 24 < 32), ← bitsOf_taken
    (by decide : 16 < 32), ← bitsOf_taken (by decide : 8 < 32), ← last]
  unfold bitsOfBytes
  simp only [List.flatMap_cons, List.flatMap_nil, List.append_nil]
  rfl

/-- The gateway reads what the client writes. -/
theorem parseBase64Crc32c_base64Crc32cBigEndian
    {base64Encode : Bytes → Bytes}
    (standard : ∀ data, EncodesBase64 data (base64Encode data))
    (crc32c : UInt32) :
    parseBase64Crc32c (base64Crc32cBigEndian base64Encode crc32c) =
      some crc32c := by
  obtain ⟨⟨codes, zeros, padding, spelled, bits, few, -⟩, -⟩ :=
    standard
      [((crc32c >>> 24) &&& 0xFF).toUInt8, ((crc32c >>> 16) &&& 0xFF).toUInt8,
        ((crc32c >>> 8) &&& 0xFF).toUInt8, (crc32c &&& 0xFF).toUInt8]
  rw [bitsOfBytes_crc32c] at bits
  have lengths := congrArg List.length bits
  rw [length_bitsOfCodes, List.length_append, length_bitsOf,
    List.length_replicate] at lengths
  obtain ⟨parsed, accepted, value⟩ :=
    parseBase64Crc32c_of_spells spelled (by omega)
  rw [bits, List.take_left' (length_bitsOf 32 _), numberOf_bitsOf,
    Nat.mod_eq_of_lt crc32c.toNat_lt] at value
  obtain rfl : parsed = crc32c := UInt32.toNat_inj.mp value
  exact accepted

/-- The gateway reads what the client writes, and accepts exactly the texts that
have at least six characters before the padding, all of the alphabet, as the
number that the first bits of their values denote. -/
theorem parseBase64Crc32c_inverts
    {base64Encode : Bytes → Bytes}
    (standard : ∀ data, EncodesBase64 data (base64Encode data)) :
    (∀ crc32c, parseBase64Crc32c (base64Crc32cBigEndian base64Encode crc32c) =
      some crc32c) ∧
      ∀ text,
        ((parseBase64Crc32c text).isSome ↔
          6 ≤ (digitsOf text).length ∧
            ∀ character ∈ digitsOf text, character ∈ base64Alphabet) ∧
        ∀ crc32c, parseBase64Crc32c text = some crc32c →
          ∃ codes, Spells codes (digitsOf text) ∧
            crc32c.toNat = numberOf ((bitsOfCodes codes).take 32) :=
  ⟨parseBase64Crc32c_base64Crc32cBigEndian standard,
    fun text => ⟨isSome_parseBase64Crc32c_iff text,
      fun _ parsed => toNat_of_parseBase64Crc32c parsed⟩⟩

/-! ## An encoder -/

/-- Values of the digits of data. -/
def codesOf : Bytes → List Nat
  | [] => []
  | [first] => [first.toNat / 4, first.toNat % 4 * 16]
  | [first, second] =>
      [first.toNat / 4, first.toNat % 4 * 16 + second.toNat / 16,
        second.toNat % 16 * 4]
  | first :: second :: third :: rest =>
      [first.toNat / 4, first.toNat % 4 * 16 + second.toNat / 16,
        second.toNat % 16 * 4 + third.toNat / 64, third.toNat % 64] ++
      codesOf rest

/-- Data in base64. -/
def base64Text (data : Bytes) : Bytes :=
  (codesOf data).map (fun code => base64Alphabet.getD code paddingChar) ++
    List.replicate ((3 - data.length % 3) % 3) paddingChar

/-- Number of zeros after the bits of data. -/
def trailingZeros (data : Bytes) : Nat :=
  if data.length % 3 = 1 then 4 else if data.length % 3 = 2 then 2 else 0

/-- The first byte is in two digits, the second with bits of the next byte. -/
theorem digits_of_first
    {next : Nat}
    (first : Nat)
    (small : next < 16) :
    bitsOf 6 (first / 4) ++ bitsOf 6 (first % 4 * 16 + next) =
      bitsOf 8 first ++ bitsOf 4 next :=
  @bitsOf_carry 2 4 next 6 first small

/-- What is left of the second byte is in a digit with bits of the next one. -/
theorem digits_of_second
    {next : Nat}
    (second : Nat)
    (small : next < 4) :
    bitsOf 4 (second / 16) ++ bitsOf 6 (second % 16 * 4 + next) =
      bitsOf 8 second ++ bitsOf 2 next :=
  @bitsOf_carry 4 2 next 4 second small

/-- What is left of the third byte is a digit. -/
theorem digits_of_third (third : Nat) :
    bitsOf 2 (third / 64) ++ bitsOf 6 (third % 64) = bitsOf 8 third := by
  rw [show (8 : Nat) = 2 + 6 from rfl, bitsOf_append 2 6]
  congr 1
  exact bitsOf_mod (le_refl 6) third

/-- The digits have the bits of the data, and zeros after them. -/
theorem bitsOfCodes_codesOf (data : Bytes) :
    bitsOfCodes (codesOf data) =
      bitsOfBytes data ++ List.replicate (trailingZeros data) false := by
  fun_induction codesOf data with
  | case1 => rfl
  | case2 first =>
      have digits := digits_of_first first.toNat (by decide : 0 < 16)
      simp only [bitsOfCodes, bitsOfBytes, List.flatMap_cons, List.flatMap_nil,
        List.append_nil]
      rw [Nat.add_zero] at digits
      rw [digits]
      rfl
  | case3 first second =>
      have small : second.toNat / 16 < 16 := by
        have := second.toNat_lt
        omega
      have digits := digits_of_first first.toNat small
      have rest := digits_of_second second.toNat (by decide : 0 < 4)
      simp only [bitsOfCodes, bitsOfBytes, List.flatMap_cons, List.flatMap_nil,
        List.append_nil]
      rw [← List.append_assoc, digits, List.append_assoc]
      rw [Nat.add_zero] at rest
      rw [rest, List.append_assoc]
      rfl
  | case4 first second third rest inductionHypothesis =>
      have small : second.toNat / 16 < 16 := by
        have := second.toNat_lt
        omega
      have smaller : third.toNat / 64 < 4 := by
        have := third.toNat_lt
        omega
      have zeros : trailingZeros (first :: second :: third :: rest) =
          trailingZeros rest := by
        unfold trailingZeros
        rw [List.length_cons, List.length_cons, List.length_cons,
          Nat.add_mod_right rest.length 3]
      have digits := digits_of_first first.toNat small
      have middle := digits_of_second second.toNat smaller
      rw [zeros, bitsOfCodes, List.flatMap_append]
      change _ ++ bitsOfCodes (codesOf rest) = _
      rw [inductionHypothesis, ← List.append_assoc]
      simp only [bitsOfBytes, List.flatMap_cons, List.flatMap_nil,
        List.append_nil]
      rw [← List.append_assoc, digits, List.append_assoc (bitsOf 8 _),
        ← List.append_assoc (bitsOf 4 _), middle, List.append_assoc
        (bitsOf 8 second.toNat), digits_of_third]
      simp only [List.append_assoc]

theorem codesOf_lt (data : Bytes) :
    ∀ code ∈ codesOf data, code < 64 := by
  fun_induction codesOf data with
  | case1 => exact fun _ member => absurd member List.not_mem_nil
  | case2 first =>
      have := first.toNat_lt
      simp only [List.forall_mem_cons]
      exact ⟨by omega, by omega, fun _ member => absurd member
        List.not_mem_nil⟩
  | case3 first second =>
      have := first.toNat_lt
      have := second.toNat_lt
      simp only [List.forall_mem_cons]
      exact ⟨by omega, by omega, by omega, fun _ member => absurd member
        List.not_mem_nil⟩
  | case4 first second third rest inductionHypothesis =>
      have := first.toNat_lt
      have := second.toNat_lt
      have := third.toNat_lt
      simp only [List.cons_append, List.nil_append, List.forall_mem_cons]
      exact ⟨by omega, by omega, by omega, by omega, inductionHypothesis⟩

theorem length_codesOf (data : Bytes) :
    ((codesOf data).length + (3 - data.length % 3) % 3) % 4 = 0 := by
  fun_induction codesOf data with
  | case1 => rfl
  | case2 => simp only [List.length_cons, List.length_nil]
  | case3 => simp only [List.length_cons, List.length_nil]
  | case4 first second third rest inductionHypothesis =>
      simp only [List.length_append, List.length_cons, List.length_nil]
      omega

/-- Values below 64 spell their characters, none of which is padding. -/
theorem spells_map
    {codes : List Nat}
    (small : ∀ code ∈ codes, code < 64) :
    Spells codes
        (codes.map fun code => base64Alphabet.getD code paddingChar) ∧
      ∀ character ∈
          codes.map fun code => base64Alphabet.getD code paddingChar,
        character ≠ paddingChar := by
  induction codes with
  | nil => exact ⟨List.Forall₂.nil, fun _ member => absurd member
      List.not_mem_nil⟩
  | cons code codes inductionHypothesis =>
      rw [List.forall_mem_cons] at small
      obtain ⟨character, listed, other, -⟩ :=
        base64Index_of_alphabet code small.1
      obtain ⟨spelled, others⟩ := inductionHypothesis small.2
      have named : base64Alphabet.getD code paddingChar = character := by
        rw [List.getD_eq_getElem?_getD, listed, Option.getD_some]
      rw [List.map_cons, named]
      exact ⟨List.Forall₂.cons listed spelled,
        List.forall_mem_cons.mpr ⟨other, others⟩⟩

/-- The encoder keeps to the standard. -/
theorem encodesBase64_base64Text (data : Bytes) :
    EncodesBase64 data (base64Text data) := by
  obtain ⟨spelled, others⟩ := spells_map (codesOf_lt data)
  have digits : digitsOf (base64Text data) =
      (codesOf data).map
        fun code => base64Alphabet.getD code paddingChar := by
    unfold digitsOf base64Text
    rw [List.takeWhile_append_of_pos (by simpa using others),
      List.takeWhile_replicate]
    simp
  have few : trailingZeros data < 6 := by
    unfold trailingZeros
    split
    · decide
    · split <;> decide
  constructor
  · refine ⟨codesOf data, trailingZeros data, (3 - data.length % 3) % 3, ?_,
      bitsOfCodes_codesOf data, few, ?_, by omega⟩
    · rw [digits]
      exact spelled
    · rw [digits]
      rfl
  · rw [base64Text, List.length_append, List.length_map, List.length_replicate]
    exact length_codesOf data

/-- The theorem at this encoder, for the checksum of the empty string. -/
theorem parseBase64Crc32c_inverts_zero :
    parseBase64Crc32c (base64Crc32cBigEndian base64Text 0) = some 0 :=
  (parseBase64Crc32c_inverts encodesBase64_base64Text).1 0

end Client
end TurboAccess

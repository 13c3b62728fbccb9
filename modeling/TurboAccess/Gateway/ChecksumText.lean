import TurboAccess.Gateway.Types
import TurboAccess.Lib.BitStrings
import Mathlib.Data.List.Forall2

/-!
# The text of a checksum

A request names its checksum in base64.  The gateway collects the six bits of
every character in a word of 32 bits and takes a byte out whenever eight are
pending.  The bits it has taken out, followed by the pending ones, are those of
the characters read; what is shifted out of the word was taken before.
-/

namespace TurboAccess
namespace Gateway

open BitStrings

/-! ## The decoder -/

/-- Value of a base64 character. -/
def base64Index (character : UInt8) : Option Nat :=
  if 65 ≤ character ∧ character ≤ 90 then some (character.toNat - 65)
  else if 97 ≤ character ∧ character ≤ 122 then
    some (character.toNat - 97 + 26)
  else if 48 ≤ character ∧ character ≤ 57 then
    some (character.toNat - 48 + 52)
  else if character = 43 then some 62
  else if character = 47 then some 63
  else none

/-- The character that ends the digits. -/
def paddingChar : UInt8 := 61

/-- What the decoder has written, its buffer, and how many of its lowest bits are
pending. -/
structure Decoder where
  out : Bytes
  buf : UInt32
  bits : Nat
  deriving DecidableEq

/-- A decoder that has read nothing. -/
def Decoder.new : Decoder := ⟨[], 0, 0⟩

/-- Take in the value of a character. -/
def Decoder.push (decoder : Decoder) (value : Nat) : Decoder :=
  let buf := (decoder.buf <<< 6) ||| UInt32.ofNat value
  let bits := decoder.bits + 6
  if 8 ≤ bits then
    ⟨decoder.out ++ [((buf >>> UInt32.ofNat (bits - 8)) &&& 0xFF).toUInt8], buf,
      bits - 8⟩
  else ⟨decoder.out, buf, bits⟩

/-- Read characters up to the padding. -/
def Decoder.run (decoder : Decoder) : Bytes → Option Decoder
  | [] => some decoder
  | character :: rest =>
      if character = paddingChar then some decoder
      else
        match base64Index character with
        | none => none
        | some value => (decoder.push value).run rest

/-- The word made of four bytes, the first of them the highest. -/
def wordOf (first second third fourth : UInt8) : UInt32 :=
  (first.toUInt32 <<< 24) ||| (second.toUInt32 <<< 16) |||
    (third.toUInt32 <<< 8) ||| fourth.toUInt32

/-- The checksum that a text names. -/
def parseBase64Crc32c (text : Bytes) : Option UInt32 :=
  if text = [] then none
  else
    match Decoder.new.run text with
    | none => none
    | some decoder =>
        match decoder.out with
        | first :: second :: third :: fourth :: _ =>
            some (wordOf first second third fourth)
        | _ => none

/-! ## Alphabet -/

/-- The base64 alphabet. -/
def base64Alphabet : Bytes :=
  ("ABCDEFGHIJKLMNOPQRSTUVWXYZ" ++ "abcdefghijklmnopqrstuvwxyz" ++
      "0123456789+/").toList.map fun character =>
    UInt8.ofNat character.toNat

/-- Values are places in the alphabet. -/
theorem base64Index_of_alphabet :
    ∀ code < 64, ∃ character, base64Alphabet[code]? = some character ∧
      character ≠ paddingChar ∧ base64Index character = some code := by
  have table : ∀ code < 64,
      (base64Alphabet[code]?.bind base64Index) = some code ∧
        base64Alphabet[code]? ≠ some paddingChar := by
    decide +kernel
  intro code below
  obtain ⟨found, other⟩ := table code below
  obtain ⟨character, listed, value⟩ := Option.bind_eq_some_iff.mp found
  refine ⟨character, listed, ?_, value⟩
  intro padding
  exact other (by rw [listed, padding])

theorem alphabet_of_base64Index (byte : Fin 256) :
    ∀ code ∈ base64Index (UInt8.ofFin byte),
      base64Alphabet[code]? = some (UInt8.ofFin byte) := by
  revert byte
  decide +kernel

theorem base64Index_eq_some_iff {character : UInt8} {code : Nat} :
    base64Index character = some code ↔
      base64Alphabet[code]? = some character := by
  constructor
  · exact alphabet_of_base64Index character.toFin code
  · intro listed
    have below : code < 64 := by
      have inside := (List.getElem?_eq_some_iff.mp listed).1
      exact inside
    obtain ⟨other, otherListed, -, value⟩ := base64Index_of_alphabet code below
    have same := otherListed.symm.trans listed
    rw [← Option.some.inj same]
    exact value

/-- A text is spelled by the values of its characters. -/
def Spells (codes : List Nat) (text : Bytes) : Prop :=
  List.Forall₂ (fun code character => base64Alphabet[code]? = some character)
    codes text

/-! ## What is read -/

/-- Bits of a byte string. -/
def bitsOfBytes (data : Bytes) : List Bool :=
  data.flatMap fun byte => bitsOf 8 byte.toNat

/-- Bits of base64 values. -/
def bitsOfCodes (codes : List Nat) : List Bool := codes.flatMap (bitsOf 6)

theorem length_bitsOfBytes (data : Bytes) :
    (bitsOfBytes data).length = 8 * data.length := by
  simp [bitsOfBytes, Nat.mul_comm]

theorem length_bitsOfCodes (codes : List Nat) :
    (bitsOfCodes codes).length = 6 * codes.length := by
  simp [bitsOfCodes, Nat.mul_comm]

/-- Bits that a decoder has read. -/
def Decoder.read (decoder : Decoder) : List Bool :=
  bitsOfBytes decoder.out ++ bitsOf decoder.bits decoder.buf.toNat

/-- The buffer after a value was shifted in, as far as it is used. -/
theorem bitsOf_buffer
    {bits value : Nat}
    (few : bits < 8)
    (buf : UInt32)
    (small : value < 64) :
    bitsOf (bits + 6) ((buf <<< 6) ||| UInt32.ofNat value).toNat =
      bitsOf bits buf.toNat ++ bitsOf 6 value := by
  have shifted : ((buf <<< 6) ||| UInt32.ofNat value).toNat =
      (buf.toNat * 2 ^ 6 + value) % 2 ^ 32 := by
    have fits : value % 2 ^ 32 = value := Nat.mod_eq_of_lt (by omega)
    rw [UInt32.toNat_or, UInt32.toNat_shiftLeft, UInt32.toNat_ofNat',
      ← Nat.or_mod_two_pow]
    change (buf.toNat <<< 6 ||| value) % 2 ^ 32 = _
    rw [← Nat.shiftLeft_add_eq_or_of_lt small, Nat.shiftLeft_eq]
  rw [shifted, bitsOf_mod (by omega), bitsOf_shift _ _ small]

/-- A byte that is taken out has the bits above the lowest ones. -/
theorem bitsOf_taken
    {rest : Nat}
    (inside : rest < 32)
    (buf : UInt32) :
    bitsOf 8 ((buf >>> UInt32.ofNat rest) &&& 0xFF).toUInt8.toNat ++
        bitsOf rest buf.toNat =
      bitsOf (8 + rest) buf.toNat := by
  have taken : ((buf >>> UInt32.ofNat rest) &&& 0xFF).toUInt8.toNat =
      buf.toNat / 2 ^ rest % 2 ^ 8 := by
    have place : (UInt32.ofNat rest).toNat % 32 = rest := by
      rw [UInt32.toNat_ofNat']
      omega
    rw [UInt32.toNat_toUInt8, UInt32.toNat_and, UInt32.toNat_shiftRight,
      place, Nat.shiftRight_eq_div_pow]
    change (_ &&& (2 ^ 8 - 1)) % 2 ^ 8 = _
    rw [Nat.and_two_pow_sub_one_eq_mod, Nat.mod_mod]
  rw [taken, bitsOf_mod (le_refl 8), bitsOf_append]

/-- Taking in a value adds its six bits to what was read. -/
theorem Decoder.read_push
    {decoder : Decoder}
    {value : Nat}
    (few : decoder.bits < 8)
    (small : value < 64) :
    (decoder.push value).bits < 8 ∧
      (decoder.push value).read = decoder.read ++ bitsOf 6 value := by
  have buffer := bitsOf_buffer few decoder.buf small
  unfold push
  dsimp only
  split
  case isTrue full =>
      refine ⟨by dsimp only; omega, ?_⟩
      have rest : decoder.bits + 6 - 8 < 32 := by omega
      have whole : 8 + (decoder.bits + 6 - 8) = decoder.bits + 6 := by omega
      unfold read bitsOfBytes
      rw [List.flatMap_append, List.flatMap_singleton, List.append_assoc,
        bitsOf_taken rest, whole, buffer, List.append_assoc]
  case isFalse notFull =>
      refine ⟨by dsimp only; omega, ?_⟩
      unfold read
      rw [buffer, List.append_assoc]

/-- The characters before the padding. -/
def digitsOf (text : Bytes) : Bytes := text.takeWhile (· ≠ paddingChar)

/-- A run that succeeds has read characters of the alphabet. -/
theorem Decoder.spells_of_run
    {text : Bytes}
    {decoder final : Decoder}
    (ran : decoder.run text = some final) :
    ∃ codes, Spells codes (digitsOf text) := by
  induction text generalizing decoder with
  | nil => exact ⟨[], List.Forall₂.nil⟩
  | cons character rest inductionHypothesis =>
      unfold run at ran
      unfold digitsOf
      by_cases padding : character = paddingChar
      · rw [List.takeWhile_cons_of_neg (by simpa using padding)]
        exact ⟨[], List.Forall₂.nil⟩
      · rw [if_neg padding] at ran
        rw [List.takeWhile_cons_of_pos (by simpa using padding)]
        cases value : base64Index character with
        | none =>
            rw [value] at ran
            cases ran
        | some code =>
            rw [value] at ran
            obtain ⟨codes, spelled⟩ := inductionHypothesis ran
            exact ⟨code :: codes,
              List.Forall₂.cons (base64Index_eq_some_iff.mp value) spelled⟩

/-- A run over characters of the alphabet reads all bits of their values. -/
theorem Decoder.run_of_spells
    {text : Bytes}
    {decoder : Decoder}
    {codes : List Nat}
    (few : decoder.bits < 8)
    (spelled : Spells codes (digitsOf text)) :
    ∃ final, decoder.run text = some final ∧ final.bits < 8 ∧
      final.read = decoder.read ++ bitsOfCodes codes := by
  induction text generalizing decoder codes with
  | nil =>
      cases spelled
      exact ⟨decoder, rfl, few, (List.append_nil _).symm⟩
  | cons character rest inductionHypothesis =>
      unfold run
      unfold digitsOf at spelled
      by_cases padding : character = paddingChar
      · rw [List.takeWhile_cons_of_neg (by simpa using padding)] at spelled
        rw [if_pos padding]
        cases spelled
        exact ⟨decoder, rfl, few, (List.append_nil _).symm⟩
      · rw [List.takeWhile_cons_of_pos (by simpa using padding)] at spelled
        rw [if_neg padding]
        cases spelled with
        | @cons code _ codes _ listed spelled =>
            have small : code < 64 := (List.getElem?_eq_some_iff.mp listed).1
            obtain ⟨fewer, read⟩ := read_push few small
            obtain ⟨final, ran, last, whole⟩ :=
              inductionHypothesis fewer spelled
            rw [base64Index_eq_some_iff.mpr listed]
            refine ⟨final, ran, last, ?_⟩
            rw [whole, read, List.append_assoc]
            rfl

/-! ## What is accepted -/

/-- A byte shifted up in a word. -/
theorem toNat_shifted
    {places : Nat}
    (inside : places ≤ 24)
    (byte : UInt8) :
    (byte.toUInt32 <<< UInt32.ofNat places).toNat = byte.toNat <<< places := by
  have small := byte.toNat_lt
  have place : (UInt32.ofNat places).toNat % 32 = places := by
    rw [UInt32.toNat_ofNat']
    omega
  have fits : byte.toNat * 2 ^ places < 2 ^ 32 := by
    calc
      byte.toNat * 2 ^ places < 2 ^ 8 * 2 ^ places :=
        Nat.mul_lt_mul_of_pos_right small (Nat.two_pow_pos places)
      _ ≤ 2 ^ 8 * 2 ^ 24 :=
        Nat.mul_le_mul_left _ (Nat.pow_le_pow_right (by decide) inside)
      _ = 2 ^ 32 := by decide
  rw [UInt32.toNat_shiftLeft, UInt8.toNat_toUInt32, place, Nat.shiftLeft_eq,
    Nat.mod_eq_of_lt fits]

theorem toNat_wordOf (first second third fourth : UInt8) :
    (wordOf first second third fourth).toNat =
      ((first.toNat * 2 ^ 8 + second.toNat) * 2 ^ 8 + third.toNat) * 2 ^ 8 +
        fourth.toNat := by
  have secondSmall := second.toNat_lt
  have thirdSmall := third.toNat_lt
  have fourthSmall := fourth.toNat_lt
  have low : third.toNat <<< 8 + fourth.toNat =
      third.toNat <<< 8 ||| fourth.toNat :=
    Nat.shiftLeft_add_eq_or_of_lt fourthSmall _
  have middle : second.toNat <<< 16 + (third.toNat <<< 8 + fourth.toNat) =
      second.toNat <<< 16 ||| (third.toNat <<< 8 + fourth.toNat) :=
    Nat.shiftLeft_add_eq_or_of_lt (by rw [Nat.shiftLeft_eq]; omega) _
  have high : first.toNat <<< 24 + (second.toNat <<< 16 +
        (third.toNat <<< 8 + fourth.toNat)) =
      first.toNat <<< 24 ||| (second.toNat <<< 16 +
        (third.toNat <<< 8 + fourth.toNat)) :=
    Nat.shiftLeft_add_eq_or_of_lt
      (by rw [Nat.shiftLeft_eq, Nat.shiftLeft_eq]; omega) _
  have shiftedFirst := toNat_shifted (le_refl 24) first
  have shiftedSecond := toNat_shifted (by decide : 16 ≤ 24) second
  have shiftedThird := toNat_shifted (by decide : 8 ≤ 24) third
  unfold wordOf
  rw [UInt32.toNat_or, UInt32.toNat_or, UInt32.toNat_or,
    UInt8.toNat_toUInt32]
  change ((first.toUInt32 <<< UInt32.ofNat 24).toNat |||
    (second.toUInt32 <<< UInt32.ofNat 16).toNat |||
      (third.toUInt32 <<< UInt32.ofNat 8).toNat) ||| fourth.toNat = _
  rw [shiftedFirst, shiftedSecond, shiftedThird, Nat.lor_assoc, Nat.lor_assoc,
    ← low, ← middle, ← high]
  simp only [Nat.shiftLeft_eq]
  omega

theorem bitsOf_wordOf (first second third fourth : UInt8) :
    bitsOf 32 (wordOf first second third fourth).toNat =
      bitsOfBytes [first, second, third, fourth] := by
  have highest := bitsOf_shift 8 first.toNat
    second.toNat_lt
  have higher := bitsOf_shift 16
    (first.toNat * 2 ^ 8 + second.toNat) third.toNat_lt
  have high := bitsOf_shift 24
    ((first.toNat * 2 ^ 8 + second.toNat) * 2 ^ 8 + third.toNat)
    fourth.toNat_lt
  rw [toNat_wordOf, high, higher, highest]
  simp [bitsOfBytes]

/-- The first bits that were read, once four bytes were taken out. -/
theorem Decoder.take_read
    {decoder : Decoder}
    {first second third fourth : UInt8}
    {rest : Bytes}
    (taken : decoder.out = first :: second :: third :: fourth :: rest) :
    decoder.read.take 32 =
      bitsOf 32 (wordOf first second third fourth).toNat := by
  have split : decoder.read = bitsOfBytes [first, second, third, fourth] ++
      (bitsOfBytes rest ++ bitsOf decoder.bits decoder.buf.toNat) := by
    rw [read, taken, ← List.append_assoc]
    simp [bitsOfBytes]
  rw [split, bitsOf_wordOf]
  exact List.take_left' (length_bitsOfBytes [first, second, third, fourth])

/-- The decoder takes out as many bytes as the bits it has read fill. -/
theorem Decoder.length_out
    {decoder : Decoder}
    {codes : List Nat}
    (read : decoder.read = bitsOfCodes codes) :
    8 * decoder.out.length + decoder.bits = 6 * codes.length := by
  have lengths := congrArg List.length read
  rw [Decoder.read, List.length_append, length_bitsOfBytes, length_bitsOf,
    length_bitsOfCodes] at lengths
  exact lengths

/-- A text of at least six digits is accepted, as the number that their first
bits denote. -/
theorem parseBase64Crc32c_of_spells
    {text : Bytes}
    {codes : List Nat}
    (spelled : Spells codes (digitsOf text))
    (enough : 6 ≤ codes.length) :
    ∃ crc, parseBase64Crc32c text = some crc ∧
      crc.toNat = numberOf ((bitsOfCodes codes).take 32) := by
  have started : Decoder.new.bits < 8 := by decide
  obtain ⟨final, ran, few, read⟩ := Decoder.run_of_spells started spelled
  have whole : final.read = bitsOfCodes codes := read
  have lengths := Decoder.length_out whole
  have nonempty : text ≠ [] := by
    rintro rfl
    cases spelled
    cases enough
  unfold parseBase64Crc32c
  rw [if_neg nonempty, ran]
  dsimp only
  split
  case h_1 first second third fourth rest taken =>
      refine ⟨_, rfl, ?_⟩
      rw [← whole, Decoder.take_read taken, numberOf_bitsOf,
        Nat.mod_eq_of_lt (wordOf first second third fourth).toNat_lt]
  case h_2 short =>
      match out : final.out with
      | first :: second :: third :: fourth :: rest =>
          exact absurd out (short first second third fourth rest)
      | [] | [_] | [_, _] | [_, _, _] =>
          simp only [out, List.length_cons, List.length_nil] at lengths
          omega

/-- What is accepted has at least six digits. -/
theorem spells_of_parseBase64Crc32c
    {text : Bytes}
    {crc : UInt32}
    (parsed : parseBase64Crc32c text = some crc) :
    ∃ codes, Spells codes (digitsOf text) ∧ 6 ≤ codes.length := by
  unfold parseBase64Crc32c at parsed
  split at parsed
  · cases parsed
  · split at parsed
    · cases parsed
    · next final ran =>
        obtain ⟨codes, spelled⟩ := Decoder.spells_of_run ran
        have started : Decoder.new.bits < 8 := by decide
        obtain ⟨other, otherRan, few, read⟩ :=
          Decoder.run_of_spells started spelled
        obtain rfl : final = other := Option.some.inj (ran.symm.trans otherRan)
        have whole : final.read = bitsOfCodes codes := read
        have lengths := Decoder.length_out whole
        refine ⟨codes, spelled, ?_⟩
        split at parsed
        · next out =>
            simp only [out, List.length_cons] at lengths
            omega
        · cases parsed

/-- A text is spelled by values if all its characters are of the alphabet. -/
theorem exists_spells_iff {text : Bytes} :
    (∃ codes, Spells codes text) ↔
      ∀ character ∈ text, character ∈ base64Alphabet := by
  constructor
  · rintro ⟨codes, spelled⟩
    induction spelled with
    | nil => exact fun _ member => absurd member List.not_mem_nil
    | cons listed _ inductionHypothesis =>
        exact List.forall_mem_cons.mpr
          ⟨List.mem_of_getElem? listed, inductionHypothesis⟩
  · intro listed
    induction text with
    | nil => exact ⟨[], List.Forall₂.nil⟩
    | cons character text inductionHypothesis =>
        obtain ⟨codes, spelled⟩ := inductionHypothesis
          fun other member => listed other (List.mem_cons_of_mem _ member)
        obtain ⟨code, found⟩ :=
          List.mem_iff_getElem?.mp (listed character List.mem_cons_self)
        exact ⟨code :: codes, List.Forall₂.cons found spelled⟩

/-- A text is accepted exactly if it has at least six characters before the
padding, all of the alphabet. -/
theorem isSome_parseBase64Crc32c_iff (text : Bytes) :
    (parseBase64Crc32c text).isSome ↔
      6 ≤ (digitsOf text).length ∧
        ∀ character ∈ digitsOf text, character ∈ base64Alphabet := by
  rw [Option.isSome_iff_exists, ← exists_spells_iff]
  constructor
  · rintro ⟨crc, parsed⟩
    obtain ⟨codes, spelled, enough⟩ := spells_of_parseBase64Crc32c parsed
    rw [← spelled.length_eq]
    exact ⟨enough, codes, spelled⟩
  · rintro ⟨enough, codes, spelled⟩
    rw [← spelled.length_eq] at enough
    obtain ⟨crc, parsed, -⟩ := parseBase64Crc32c_of_spells spelled enough
    exact ⟨crc, parsed⟩

/-- An accepted text names the number that the first bits of its values
denote. -/
theorem toNat_of_parseBase64Crc32c
    {text : Bytes}
    {crc : UInt32}
    (parsed : parseBase64Crc32c text = some crc) :
    ∃ codes, Spells codes (digitsOf text) ∧
      crc.toNat = numberOf ((bitsOfCodes codes).take 32) := by
  obtain ⟨codes, spelled, enough⟩ := spells_of_parseBase64Crc32c parsed
  obtain ⟨other, same, value⟩ := parseBase64Crc32c_of_spells spelled enough
  obtain rfl : crc = other := Option.some.inj (parsed.symm.trans same)
  exact ⟨codes, spelled, value⟩

end Gateway
end TurboAccess

import Mathlib.Data.List.Basic
import Mathlib.Data.Nat.Notation
import Mathlib.Tactic.IntervalCases

/-!
# Machine words, byte vectors and numerals

Unsigned 64-bit arithmetic on natural numbers, with the equations that hold
while nothing wraps, and arithmetic that is refused when it would wrap; the two
operations on byte vectors a store needs, resizing and overwriting a range; and
hexadecimal numerals, which are injective and contain no dash.
-/

namespace TurboAccess

/-! ## Unsigned 64-bit arithmetic -/

/-- Number of values of an unsigned 64-bit word. -/
abbrev wordModulus : Nat := 2 ^ 64

/-- Addition of unsigned 64-bit words. -/
def addWord (left right : Nat) : Nat := (left + right) % wordModulus

/-- Subtraction of unsigned 64-bit words. -/
def subWord (left right : Nat) : Nat :=
  (left + (wordModulus - right % wordModulus)) % wordModulus

theorem addWord_of_lt
    {left right : Nat}
    (bounded : left + right < wordModulus) :
    addWord left right = left + right :=
  Nat.mod_eq_of_lt bounded

theorem subWord_of_le
    {left right : Nat}
    (ordered : right ≤ left)
    (bounded : left < wordModulus) :
    subWord left right = left - right := by
  unfold subWord
  rw [Nat.mod_eq_of_lt (lt_of_le_of_lt ordered bounded)]
  have shifted : left + (wordModulus - right) =
      (left - right) + wordModulus := by omega
  rw [shifted, Nat.add_mod_right]
  exact Nat.mod_eq_of_lt (by omega)

/-! ## Checked arithmetic -/

/-- The sum of two words, unless it wraps. -/
def checkedAdd (left right : Nat) : Option Nat :=
  if left + right < wordModulus then some (left + right) else none

/-- The difference of two words, unless it wraps. -/
def checkedSub (left right : Nat) : Option Nat :=
  if right ≤ left then some (left - right) else none

/-- The product of two words, unless it wraps. -/
def checkedMul (left right : Nat) : Option Nat :=
  if left * right < wordModulus then some (left * right) else none

theorem checkedAdd_of_lt
    {left right : Nat}
    (bounded : left + right < wordModulus) :
    checkedAdd left right = some (left + right) :=
  if_pos bounded

theorem checkedSub_of_le
    {left right : Nat}
    (ordered : right ≤ left) :
    checkedSub left right = some (left - right) :=
  if_pos ordered

theorem checkedMul_of_lt
    {left right : Nat}
    (bounded : left * right < wordModulus) :
    checkedMul left right = some (left * right) :=
  if_pos bounded

/-! ## Byte vectors -/

/-- A vector of bytes. -/
abbrev Bytes := List UInt8

namespace Bytes

/-- Change the length of a vector, filling new positions with zero. -/
def resize (bytes : Bytes) (size : Nat) : Bytes :=
  bytes.take size ++ List.replicate (size - bytes.length) 0

@[simp] theorem length_resize (bytes : Bytes) (size : Nat) :
    (bytes.resize size).length = size := by
  simp only [resize, List.length_append, List.length_take,
    List.length_replicate]
  omega

/-- Overwrite the positions from `offset` on. -/
def overwrite (bytes : Bytes) (offset : Nat) (source : Bytes) : Bytes :=
  bytes.take offset ++ source ++ bytes.drop (offset + source.length)

/-- An overwrite within a vector keeps its length. -/
theorem length_overwrite
    {bytes source : Bytes}
    {offset : Nat}
    (inside : offset + source.length ≤ bytes.length) :
    (bytes.overwrite offset source).length = bytes.length := by
  simp only [overwrite, List.length_append, List.length_take,
    List.length_drop]
  omega

/-- Overwriting a whole vector leaves the source. -/
theorem overwrite_zero_of_length_le
    {bytes source : Bytes}
    (covers : bytes.length ≤ source.length) :
    bytes.overwrite 0 source = source := by
  simp [overwrite, List.drop_eq_nil_of_le covers]

/-- Overwriting with nothing changes nothing. -/
@[simp] theorem overwrite_nil (bytes : Bytes) (offset : Nat) :
    bytes.overwrite offset [] = bytes := by
  simp [overwrite]

end Bytes

/-! ## Hexadecimal numerals -/

/-- Lower-case hexadecimal digits of a number, without leading zeros. -/
def hexDigits (number : Nat) : List Char := Nat.toDigits 16 number

/-- Value of a hexadecimal digit. -/
private def hexValue (digit : Char) : Nat :=
  if digit.toNat < 58 then digit.toNat - 48 else digit.toNat - 87

private theorem hexValue_digitChar {digit : Nat} (bounded : digit < 16) :
    hexValue digit.digitChar = digit := by
  interval_cases digit <;> decide

private theorem digitChar_ne_dash {digit : Nat} (bounded : digit < 16) :
    digit.digitChar ≠ '-' := by
  interval_cases digit <;> decide

private theorem hexDigits_eq (number : Nat) :
    hexDigits number =
      if number < 16 then [number.digitChar]
      else hexDigits (number / 16) ++ [(number % 16).digitChar] :=
  Nat.toDigits_eq_if (by decide)

/-- Number denoted by a list of hexadecimal digits. -/
private def ofHexDigits (digits : List Char) : Nat :=
  digits.foldl (fun value digit => value * 16 + hexValue digit) 0

private theorem ofHexDigits_hexDigits (number : Nat) :
    ofHexDigits (hexDigits number) = number := by
  induction number using Nat.strongRecOn with
  | ind number inductionHypothesis =>
      rw [hexDigits_eq]
      by_cases small : number < 16
      · simp [small, ofHexDigits, hexValue_digitChar small]
      · have smaller : number / 16 < number := by omega
        have prior := inductionHypothesis _ smaller
        unfold ofHexDigits at prior
        rw [if_neg small]
        simp only [ofHexDigits, List.foldl_append, List.foldl_cons,
          List.foldl_nil, prior,
          hexValue_digitChar (Nat.mod_lt number (by decide))]
        omega

/-- Different numbers have different hexadecimal numerals. -/
theorem hexDigits_injective : Function.Injective hexDigits := by
  intro left right equal
  rw [← ofHexDigits_hexDigits left, equal, ofHexDigits_hexDigits]

/-- Zeros in front of hexadecimal numerals do not make them equal. -/
theorem replicate_append_hexDigits_inj
    {left right leftZeros rightZeros : Nat}
    (equal : List.replicate leftZeros '0' ++ hexDigits left =
      List.replicate rightZeros '0' ++ hexDigits right) :
    left = right := by
  have padded : ∀ zeros number,
      ofHexDigits (List.replicate zeros '0' ++ hexDigits number) = number := by
    intro zeros number
    induction zeros with
    | zero => exact ofHexDigits_hexDigits number
    | succ zeros inductionHypothesis =>
        rw [List.replicate_succ, List.cons_append]
        exact inductionHypothesis
  rw [← padded leftZeros left, equal, padded]

/-- A hexadecimal numeral contains no dash. -/
theorem dash_notMem_hexDigits (number : Nat) :
    '-' ∉ hexDigits number := by
  induction number using Nat.strongRecOn with
  | ind number inductionHypothesis =>
      rw [hexDigits_eq]
      by_cases small : number < 16
      · rw [if_pos small, List.mem_singleton]
        exact (digitChar_ne_dash small).symm
      · have smaller : number / 16 < number := by omega
        rw [if_neg small, List.mem_append, List.mem_singleton]
        rintro (inPrefix | atEnd)
        · exact inductionHypothesis _ smaller inPrefix
        · exact digitChar_ne_dash (Nat.mod_lt number (by decide)) atEnd.symm

/-- Two lists with the same separator after a prefix without it have the same
prefix and the same remainder. -/
theorem append_separator_inj
    {α : Type*}
    {separator : α}
    {left right leftRest rightRest : List α}
    (leftFree : separator ∉ left)
    (rightFree : separator ∉ right)
    (equal : left ++ separator :: leftRest =
      right ++ separator :: rightRest) :
    left = right ∧ leftRest = rightRest := by
  induction left generalizing right with
  | nil =>
      cases right with
      | nil => simpa using equal
      | cons head tail =>
          simp only [List.nil_append, List.cons_append, List.cons.injEq]
            at equal
          exact absurd (equal.1 ▸ List.mem_cons_self) rightFree
  | cons head tail inductionHypothesis =>
      cases right with
      | nil =>
          simp only [List.nil_append, List.cons_append, List.cons.injEq]
            at equal
          exact absurd (equal.1 ▸ List.mem_cons_self) leftFree
      | cons other rest =>
          simp only [List.cons_append, List.cons.injEq] at equal
          have tails := inductionHypothesis
            (fun member => leftFree (List.mem_cons_of_mem _ member))
            (fun member => rightFree (List.mem_cons_of_mem _ member))
            equal.2
          exact ⟨by rw [equal.1, tails.1], tails.2⟩

end TurboAccess

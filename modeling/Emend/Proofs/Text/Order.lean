import Mathlib.Algebra.Ring.Nat
import Mathlib.Data.List.Basic

/-!
# The order of texts

Texts are compared character by character. This is the order of their bytes (`Text.bytes_lt`). For
the code of a character starts with a byte that is the greater, the more bytes follow, and that holds
the greatest digits of the character; the other digits follow from the greater ones on. So the codes
of two characters differ first where the smaller character has the smaller byte
(`Text.encode_below`), and what comes after such a byte makes no difference
(`Text.Below.append`).
-/

namespace Emend.Text

/-- The bytes of a text. -/
def bytes (s : String) : List UInt8 := s.toUTF8.data.toList

theorem bytes_eq (s : String) : bytes s = s.toList.flatMap String.utf8EncodeChar := by
  rw [bytes, String.toUTF8_eq_toByteArray, ← String.utf8Encode_toList, List.utf8Encode]
  simp

/-! ### The first byte that differs -/

/-- Whether two lists of bytes differ at some place, and the first one has the smaller byte at the
first such place. -/
inductive Below : List UInt8 → List UInt8 → Prop
  | here {x y : UInt8} {u v : List UInt8} (h : x < y) : Below (x :: u) (y :: v)
  | later {x : UInt8} {u v : List UInt8} (h : Below u v) : Below (x :: u) (x :: v)

namespace Below

variable {u v : List UInt8} {m n : Nat}

theorem append (h : Below u v) (u' v' : List UInt8) : Below (u ++ u') (v ++ v') := by
  induction h with
  | here h => exact .here h
  | later _ ih => exact .later ih

theorem lt (h : Below u v) : u < v := by
  induction h with
  | here h => exact List.Lex.rel h
  | later _ ih => exact List.Lex.cons ih

theorem ofNat (h : m < n) (byte : n < 256) : Below (UInt8.ofNat m :: u) (UInt8.ofNat n :: v) := by
  refine .here ?_
  rw [UInt8.lt_iff_toNat_lt, UInt8.toNat_ofNat', UInt8.toNat_ofNat']
  omega

end Below

/-! ### The codes of characters -/

/-- The last digits of a number to the base 64, one in each byte. -/
def digits : (places : Nat) → Nat → List UInt8
  | 0, _ => []
  | places + 1, n => UInt8.ofNat (n / 64 ^ places % 64 + 128) :: digits places n

/-- The number of bytes that come after the first one. -/
def following (n : Nat) : Nat :=
  if n ≤ 127 then 0 else if n ≤ 2047 then 1 else if n ≤ 65535 then 2 else 3

/-- The first byte, which holds the digits that are left. -/
def lead (n : Nat) : Nat :=
  n / 64 ^ following n +
    if n ≤ 127 then 0 else if n ≤ 2047 then 192 else if n ≤ 65535 then 224 else 240

theorem toNat_lt (c : Char) : c.toNat < 0x110000 := by
  rcases c.valid with h | h
  · exact Nat.lt_trans h (by decide)
  · exact h.2

theorem encode_eq (c : Char) :
    String.utf8EncodeChar c =
      UInt8.ofNat (lead c.toNat) :: digits (following c.toNat) c.toNat := by
  have bound := toNat_lt c
  unfold String.utf8EncodeChar lead following
  generalize hn : c.toNat = n at bound
  have val : c.val.toNat = n := hn
  rw [val]
  dsimp only
  split
  · simp [digits]
  · split
    · have : n / 64 % 32 = n / 64 := by omega
      simp [digits, this]
    · split
      · have : n / 4096 % 16 = n / 4096 := by omega
        simp [digits, this]
      · have : n / 262144 % 8 = n / 262144 := by omega
        simp [digits, this]

variable {m n : Nat}

/-- Of two numbers the smaller one has the smaller digits. -/
theorem digits_below {places : Nat} (h : m % 64 ^ places < n % 64 ^ places) :
    Below (digits places m) (digits places n) := by
  induction places with
  | zero => omega
  | succ places ih =>
    rw [Nat.mod_pow_succ, Nat.mod_pow_succ] at h
    by_cases first : m / 64 ^ places % 64 < n / 64 ^ places % 64
    · exact .ofNat (by omega) (by omega)
    · -- If the first digits differed, the first number would be the greater one.
      have same : m / 64 ^ places % 64 = n / 64 ^ places % 64 := by
        have most : n % 64 ^ places < 64 ^ places := Nat.mod_lt _ (Nat.pow_pos (by decide))
        by_contra differ
        have more : 64 ^ places * (n / 64 ^ places % 64 + 1) ≤
            64 ^ places * (m / 64 ^ places % 64) := Nat.mul_le_mul_left _ (by omega)
        rw [Nat.mul_add_one] at more
        omega
      rw [same] at h
      rw [digits, digits, same]
      exact .later (ih (by omega))

/-- Of two characters the smaller one has the smaller first byte, or the smaller digits after it. -/
theorem lead_lt (h : m < n) (bound : n < 0x110000) :
    lead m < lead n ∨
      lead m = lead n ∧ following m = following n ∧
        m % 64 ^ following n < n % 64 ^ following n := by
  unfold lead following
  split_ifs <;> omega

/-- Of two characters the smaller one has the smaller code. -/
theorem encode_below {c d : Char} (h : c < d) :
    Below (String.utf8EncodeChar c) (String.utf8EncodeChar d) := by
  have bound := toNat_lt d
  rw [encode_eq, encode_eq]
  rcases lead_lt (m := c.toNat) (n := d.toNat) h bound with less | ⟨same, long, rest⟩
  · refine .ofNat less ?_
    unfold lead following
    split_ifs <;> omega
  · rw [same, long]
    exact .later (digits_below rest)

/-! ### Texts -/

/-- The order of texts is that of their bytes. -/
theorem bytes_lt {s t : String} (h : s < t) : bytes s < bytes t := by
  rw [String.lt_iff] at h
  rw [bytes_eq, bytes_eq]
  generalize s.toList = u at h
  generalize t.toList = v at h
  induction h with
  | @nil d v =>
    rw [List.flatMap_cons, encode_eq]
    exact List.Lex.nil
  | rel h =>
    rw [List.flatMap_cons, List.flatMap_cons]
    exact ((encode_below h).append _ _).lt
  | @cons c u v _ ih =>
    rw [List.flatMap_cons, List.flatMap_cons]
    exact List.append_left_lt ih

end Emend.Text

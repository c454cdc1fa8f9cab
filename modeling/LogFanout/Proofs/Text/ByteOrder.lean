import LogFanout.Text.Utf8
import Mathlib.Tactic.SplitIfs

/-!
# The order of texts and of their bytes

Texts are compared by code points. `utf8_lt` shows that this is the order of their UTF-8 bytes:
the encoding of a smaller character is smaller at the first byte where the two differ, and they do
differ before either of them ends.
-/

namespace LogFanout
namespace Text

/-- Two numbers are in order if their base-64 digits are, most significant digit first. -/
lemma digits_lt {m n : Nat} (h : m < n) :
    m / 262144 < n / 262144 ∨ m / 262144 = n / 262144 ∧
      (m / 4096 % 64 < n / 4096 % 64 ∨ m / 4096 % 64 = n / 4096 % 64 ∧
        (m / 64 % 64 < n / 64 % 64 ∨ m / 64 % 64 = n / 64 % 64 ∧ m % 64 < n % 64)) := by
  have m₁ : m / 4096 = m / 64 / 64 := by omega
  have n₁ : n / 4096 = n / 64 / 64 := by omega
  have m₂ : m / 262144 = m / 64 / 64 / 64 := by omega
  have n₂ : n / 262144 = n / 64 / 64 / 64 := by omega
  rw [m₁, n₁, m₂, n₂]
  omega

/-- Encodings in four bytes are in the order of the numbers that they encode. -/
lemma fourBytes_lt {m n : Nat} (h : m < n) (bound : n < 0x110000) (u v : Bytes) :
    UInt8.ofNat (m / 262144 % 8 + 240) :: UInt8.ofNat (m / 4096 % 64 + 128) ::
        UInt8.ofNat (m / 64 % 64 + 128) :: UInt8.ofNat (m % 64 + 128) :: u <
      UInt8.ofNat (n / 262144 % 8 + 240) :: UInt8.ofNat (n / 4096 % 64 + 128) ::
        UInt8.ofNat (n / 64 % 64 + 128) :: UInt8.ofNat (n % 64 + 128) :: v := by
  have digits := digits_lt h
  have top₁ : m / 262144 < 5 := by omega
  have top₂ : n / 262144 < 5 := by omega
  simp only [List.cons_lt_cons_iff, UInt8.lt_iff_toNat_lt, UInt8.toNat_ofNat', ← UInt8.toNat_inj]
  -- Only the digits matter from here on; as divisions of one number they would be too much at once.
  generalize m / 262144 = m₃, m / 4096 = m₂, m / 64 = m₁ at digits top₁ ⊢
  generalize n / 262144 = n₃, n / 4096 = n₂, n / 64 = n₁ at digits top₂ ⊢
  omega

/-- The encodings of characters are in the order of the characters, whatever follows them. -/
lemma utf8EncodeChar_append_lt {c d : Char} (h : c < d) (u v : Bytes) :
    String.utf8EncodeChar c ++ u < String.utf8EncodeChar d ++ v := by
  have lt : c.val.toNat < d.val.toNat := h
  have bound : d.val.toNat < 0x110000 := by
    rcases d.valid with low | high
    · exact Nat.lt_trans low (by decide)
    · exact high.2
  simp only [String.utf8EncodeChar]
  generalize c.val.toNat = m at lt
  generalize d.val.toNat = n at lt bound
  by_cases four : 65535 < m
  · simp only [show ¬ m ≤ 127 by omega, show ¬ m ≤ 2047 by omega, show ¬ m ≤ 65535 by omega,
      show ¬ n ≤ 127 by omega, show ¬ n ≤ 2047 by omega, show ¬ n ≤ 65535 by omega, if_false]
    exact fourBytes_lt lt bound u v
  · -- One case for each pair of lengths: the longer encoding is that of the larger number.
    split_ifs <;>
      simp only [List.cons_append, List.nil_append, List.cons_lt_cons_iff, UInt8.lt_iff_toNat_lt,
        UInt8.toNat_ofNat', ← UInt8.toNat_inj] <;>
      omega

lemma utf8EncodeChar_append_ne_nil (c : Char) (u : Bytes) : String.utf8EncodeChar c ++ u ≠ [] := by
  simp only [String.utf8EncodeChar]
  split_ifs <;> simp

/-- A text before another one has the smaller bytes. -/
lemma flatMap_utf8EncodeChar_lt {cs ds : List Char} (h : cs < ds) :
    cs.flatMap String.utf8EncodeChar < ds.flatMap String.utf8EncodeChar := by
  induction cs generalizing ds with
  | nil =>
    cases ds with
    | nil => exact absurd h (List.lt_irrefl [])
    | cons d ds =>
      rw [List.flatMap_nil, List.flatMap_cons]
      cases bytes : String.utf8EncodeChar d ++ ds.flatMap String.utf8EncodeChar with
      | nil => exact absurd bytes (utf8EncodeChar_append_ne_nil d _)
      | cons byte rest => exact List.nil_lt_cons byte rest
  | cons c cs ih =>
    cases ds with
    | nil => exact absurd h (List.not_lt_nil _)
    | cons d ds =>
      rw [List.flatMap_cons, List.flatMap_cons]
      rcases List.cons_lt_cons_iff.mp h with lt | ⟨eq, lt⟩
      · exact utf8EncodeChar_append_lt lt _ _
      · subst eq
        exact List.append_left_lt (ih lt)

/-- The bytes of texts are in the order of the texts. -/
lemma utf8_lt {s t : String} (h : s < t) : utf8 s < utf8 t :=
  flatMap_utf8EncodeChar_lt (String.lt_iff.mp h)

/-- Texts that differ have different bytes. -/
lemma utf8_inj {s t : String} : utf8 s = utf8 t ↔ s = t := by
  refine ⟨fun eq => ?_, congrArg utf8⟩
  have least : ∀ {s t : String}, utf8 s = utf8 t → ¬s < t := fun eq lt =>
    List.lt_irrefl _ (eq ▸ utf8_lt lt)
  exact String.le_antisymm (String.not_lt.mp (least eq.symm)) (String.not_lt.mp (least eq))

end Text
end LogFanout

import SeviriScene.Text.Integer
import SeviriScene.Proofs.TextField
import Mathlib.Tactic.SplitIfs

/-!
# 整数の十進表記の読み戻し

32 ビットに収まる整数 `i` の十進表記 `toString i` は、`parseInt32` で読むと `i` に戻る
（`parseInt32_toString`）。数字の列を左から読むと、途中の値は最後の値の上位の桁で、最後の値より
0 に近いので、範囲の確かめに引っかからない（`readDigits_toDigits`）。

十進表記は数字と負号だけからなる 11 文字以下の文字列なので、文字の欄にそのまま読み戻せる
（`plainText_toString`）。
-/

namespace SeviriScene.Text

/-! ## 数字の列 -/

theorem readDigits_append (negative : Bool) (acc : Int) (xs ys : List Char) :
    readDigits negative acc (xs ++ ys) = (readDigits negative acc xs).bind (readDigits negative · ys) := by
  induction xs generalizing acc with
  | nil => rfl
  | cons c xs ih =>
    simp only [List.cons_append, readDigits]
    split_ifs <;> simp [ih, Except.bind]

/-- 符号 `negative` の下での `n` の値。 -/
def signed (negative : Bool) (n : Nat) : Int :=
  if negative then -(n : Int) else n

/-- 最後の数字を読むと、その前の値の 10 倍にその数字を足した（負なら引いた）値になる。 -/
theorem readDigits_lastDigit (negative : Bool) (n : Nat)
    (h : int32Min ≤ signed negative n ∧ signed negative n ≤ int32Max) :
    readDigits negative (signed negative (n / 10)) [Nat.digitChar (n % 10)] = .ok (signed negative n) := by
  have hv := Nat.toNat_digitChar_of_lt_ten (Nat.mod_lt n (by decide : 10 > 0))
  have h0 : '0' ≤ Nat.digitChar (n % 10) := by
    show 48 ≤ (Nat.digitChar (n % 10)).toNat
    omega
  have h9 : Nat.digitChar (n % 10) ≤ '9' := by
    show (Nat.digitChar (n % 10)).toNat ≤ 57
    omega
  have hnext : (if negative then signed negative (n / 10) * 10 - ((Nat.digitChar (n % 10)).toNat - 48 : Int)
      else signed negative (n / 10) * 10 + ((Nat.digitChar (n % 10)).toNat - 48 : Int)) =
      signed negative n := by
    rw [hv]
    cases negative <;> simp [signed] <;> omega
  simp only [readDigits, h0, h9, and_self, if_true, hnext]
  rw [if_neg (by omega), if_neg (by omega)]

/-- 範囲に収まる数の十進の数字の列は、その値に読める。 -/
theorem readDigits_toDigits (negative : Bool) (n : Nat)
    (h : int32Min ≤ signed negative n ∧ signed negative n ≤ int32Max) :
    readDigits negative 0 (Nat.toDigits 10 n) = .ok (signed negative n) := by
  induction n using Nat.strongRecOn with
  | ind n ih =>
    by_cases hn : n < 10
    · have h1 := readDigits_lastDigit negative n h
      have h0 : signed negative (n / 10) = 0 := by
        simp [signed, Nat.div_eq_of_lt hn]
      rwa [h0, Nat.mod_eq_of_lt hn, ← Nat.toDigits_of_lt_base hn] at h1
    · -- 先頭の数字の列は n / 10 を表し、その値も範囲に収まる
      have hq : int32Min ≤ signed negative (n / 10) ∧ signed negative (n / 10) ≤ int32Max := by
        cases negative <;> simp [signed, int32Min, int32Max] at h ⊢ <;> omega
      rw [Nat.toDigits_of_base_le (by decide) (by omega), readDigits_append,
        ih (n / 10) (by omega) hq]
      exact readDigits_lastDigit negative n h

/-! ## 十進表記 -/

theorem not_mem_toDigits {c : Char} (hc : c.isDigit = false) (n : Nat) : c ∉ Nat.toDigits 10 n :=
  fun h => by simp [Nat.isDigit_of_mem_toDigits (by decide) (by decide) h] at hc

/-- 32 ビットに収まる整数の十進表記は、読むと元の整数に戻る。 -/
theorem parseInt32_toString {i : Int} (h1 : int32Min ≤ i) (h2 : i ≤ int32Max) :
    parseInt32 (toString i) = .ok i := by
  rw [Int.toString_eq_repr, Int.repr_eq_if]
  split
  · rename_i hi
    have hd := readDigits_toDigits false i.toNat (by simp [signed]; omega)
    simp only [signed, Bool.false_eq_true, if_false, Int.toNat_of_nonneg hi] at hd
    simp only [parseInt32, Nat.toList_repr]
    split
    · exact absurd ‹_› Nat.toDigits_ne_nil
    · exact absurd (‹_› ▸ List.mem_singleton_self _) (not_mem_toDigits (by decide) _)
    · exact absurd (‹_› ▸ List.mem_singleton_self _) (not_mem_toDigits (by decide) _)
    · exact absurd (‹_› ▸ List.mem_cons_self) (not_mem_toDigits (by decide) _)
    · exact absurd (‹_› ▸ List.mem_cons_self) (not_mem_toDigits (by decide) _)
    · exact hd
  · rename_i hi
    have hd := readDigits_toDigits true (-i).toNat (by simp [signed]; omega)
    simp only [signed, if_true] at hd
    rw [Int.toNat_of_nonneg (by omega), Int.neg_neg] at hd
    have hl : ("-" ++ (-i).toNat.repr).toList = '-' :: Nat.toDigits 10 (-i).toNat := by
      rw [String.toList_append, Nat.toList_repr]
      rfl
    simp only [parseInt32, hl]
    -- 先頭は '-' で、そのあとの数字の列は空でない
    split
    · simp_all
    · simp_all
    · simp_all
    · simp_all
    · simp_all
    · rename_i h
      exact absurd rfl (h _)

theorem isDigit_toNat {c : Char} (h : c.isDigit = true) : 48 ≤ c.toNat ∧ c.toNat ≤ 57 := by
  simp only [Char.isDigit, Bool.and_eq_true, decide_eq_true_eq] at h
  exact ⟨h.1, h.2⟩

theorem isPad_of_isDigit {c : Char} (h : c.isDigit = true) : isPad c = false := by
  have hn := isDigit_toNat h
  have h0 : c ≠ '\x00' := by
    rintro rfl
    simp at hn
  simp [isPad, isBlank, h0]
  omega

theorem toList_toString (i : Int) :
    (toString i).toList = (if i < 0 then ['-'] else []) ++ Nat.toDigits 10 i.natAbs := by
  rw [Int.toString_eq_repr, Int.repr_eq_if]
  split
  · rw [if_neg (by omega), List.nil_append, Nat.toList_repr]
    congr 1
    omega
  · rw [if_pos (by omega), String.toList_append, Nat.toList_repr]
    congr 2
    omega

/-- 32 ビットに収まる整数の十進表記は、欄にそのまま読み戻せる 11 文字以下の文字列である。 -/
theorem plainText_toString {i : Int} (h1 : int32Min ≤ i) (h2 : i ≤ int32Max) :
    PlainText (toString i) ∧ (toString i).toList.length ≤ 11 := by
  have hd : ∀ c ∈ Nat.toDigits 10 i.natAbs, c.isDigit = true :=
    fun c hc => Nat.isDigit_of_mem_toDigits (by decide) (by decide) hc
  have hlen : (Nat.toDigits 10 i.natAbs).length ≤ 10 := by
    rw [Nat.length_toDigits_le_iff (by decide) (by decide)]
    simp only [int32Min, int32Max] at h1 h2
    omega
  obtain ⟨c, cs, hcs⟩ := List.exists_cons_of_ne_nil (@Nat.toDigits_ne_nil i.natAbs 10)
  unfold PlainText
  rw [toList_toString]
  refine ⟨⟨?_, ?_, ?_⟩, ?_⟩
  · intro x hx
    simp only [List.mem_append] at hx
    rcases hx with hx | hx
    · split at hx <;> simp_all
    · have := isDigit_toNat (hd x hx)
      omega
  · split
    · simp; decide
    · rw [hcs]
      simpa using isPad_of_isDigit (hd c (by simp [hcs]))
  · intro x hx
    -- 最後の文字は数字の列の最後の文字
    rw [List.getLast?_append] at hx
    rcases hy : (Nat.toDigits 10 i.natAbs).getLast? with _ | y
    · simp [hcs] at hy
    · rw [hy] at hx
      rw [Option.some_or, Option.mem_some_iff] at hx
      subst hx
      exact isPad_of_isDigit (hd _ (List.mem_of_getLast? hy))
  · split <;> simp <;> omega

end SeviriScene.Text

import SeviriScene.Sample.Packing
import Mathlib

/-!
# 10 ビットの標本の開き方と詰め方

組を 16 ビットのシフトとマスクで開くことは、組を 40 ビットの語として読み、10 ビットずつ
取り出すことに等しい（`unpackGroup_eq_splitWord`）。以下はこの語の側で考える。

5 バイトの組は 4 つの標本に開く（`length_unpackGroups`）。4 つの標本を詰めた 5 バイトを開くと、
各標本の下位 10 ビットが戻る（`splitWord_joinWord`）。したがって個数が 4 の倍数の標本の列は、
詰めて開くと各標本を 1024 で割った余りの列になる（`unpackGroups_packGroups`）。

読み取りは受け皿の長さを確かめる `unpackInto` を使う。本体の長さが列数に合っていれば、
それは確かめのない `unpack` と同じ値を返す（`unpackInto_eq_unpack`）。
-/

namespace SeviriScene.Sample

/-! ## シフトとマスクによる開き方 -/

/-- `k` ビットに収まる値との論理和は、`k` ビット上げた値への加算。 -/
theorem shiftLeft_or_eq_add {a b k : Nat} (hb : b < 2 ^ k) : a <<< k ||| b = a * 2 ^ k + b := by
  rw [← Nat.shiftLeft_add_eq_or_of_lt hb, Nat.shiftLeft_eq]

/-- 各標本を 2 バイトから組み立てることは、40 ビットの語から 10 ビットずつ取り出すことに等しい。 -/
theorem unpackGroup_eq_splitWord (b0 b1 b2 b3 b4 : UInt8) :
    unpackGroup b0 b1 b2 b3 b4 = splitWord (Bytes.toNat [b0, b1, b2, b3, b4]) := by
  have h0 := b0.toNat_lt
  have h1 := b1.toNat_lt
  have h2 := b2.toNat_lt
  have h3 := b3.toNat_lt
  have h4 := b4.toNat_lt
  have hw : Bytes.toNat [b0, b1, b2, b3, b4] =
      (((b0.toNat * 256 + b1.toNat) * 256 + b2.toNat) * 256 + b3.toNat) * 256 + b4.toNat := by
    simp [Bytes.toNat]
  -- マスクは下位ビットを残す余り
  have m6 := Nat.and_two_pow_sub_one_eq_mod b1.toNat 6
  have m4 := Nat.and_two_pow_sub_one_eq_mod b2.toNat 4
  have m2 := Nat.and_two_pow_sub_one_eq_mod b3.toNat 2
  simp only [unpackGroup, splitWord, hw, List.cons.injEq, and_true]
  refine ⟨?_, ?_, ?_, ?_⟩ <;> apply UInt16.toNat_inj.mp <;>
    simp only [UInt16.toNat_or, UInt16.toNat_and, UInt16.toNat_shiftLeft, UInt16.toNat_shiftRight,
      UInt8.toNat_toUInt16, UInt16.toNat_ofNat, Nat.reduceMod, Nat.reducePow, Nat.reduceSub] at m6 m4 m2 ⊢
  -- どの標本でも、上げた部分は 16 ビットに収まり、下ろした部分は上げた幅に収まるので、
  -- 論理和は和になる
  all_goals
    simp only [Nat.shiftRight_eq_div_pow, UInt16.toNat_ofNat', Nat.pow_eq, m6, m4, m2]
    rw [Nat.mod_eq_of_lt (by rw [Nat.shiftLeft_eq]; omega), shiftLeft_or_eq_add (by omega)]
    omega

/-! ## 組の数 -/

theorem length_unpackGroups (bs : List UInt8) : (unpackGroups bs).length = bs.length / 5 * 4 := by
  fun_induction unpackGroups bs with
  | case1 b0 b1 b2 b3 b4 rest ih =>
    simp only [List.length_append, ih, unpackGroup, List.length_cons, List.length_nil]
    omega
  | case2 bs h =>
    -- 5 バイトに満たない残りは組にならない
    match bs, h with
    | [], _ | [_], _ | [_, _], _ | [_, _, _], _ | [_, _, _, _], _ => simp
    | _ :: _ :: _ :: _ :: _ :: _, h => exact absurd rfl (h _ _ _ _ _ _)

theorem length_packGroups (s : List UInt16) : (packGroups s).length = s.length / 4 * 5 := by
  fun_induction packGroups s with
  | case1 a b c d rest ih =>
    simp only [List.length_append, Bytes.length_ofNat, ih, List.length_cons]
    omega
  | case2 s h =>
    match s, h with
    | [], _ | [_], _ | [_, _], _ | [_, _, _], _ => simp
    | _ :: _ :: _ :: _ :: _, h => exact absurd rfl (h _ _ _ _ _)

/-- 先頭の 5 バイトが何であっても、一つの組として開かれる。 -/
theorem unpackGroups_append {xs : List UInt8} (ys : List UInt8) (h : xs.length = 5) :
    unpackGroups (xs ++ ys) = splitWord (Bytes.toNat xs) ++ unpackGroups ys := by
  match xs, h with
  | [b0, b1, b2, b3, b4], _ =>
    show unpackGroup b0 b1 b2 b3 b4 ++ unpackGroups ys = _
    rw [unpackGroup_eq_splitWord]

/-! ## 組の中の標本 -/

theorem toUInt16_mod (a : UInt16) : (a.toNat % 1024).toUInt16 = a % 1024 := by
  apply UInt16.toNat_inj.mp
  have h : a.toNat % 1024 < 65536 := by omega
  simp [UInt16.toNat_mod, Nat.mod_eq_of_lt h]

/-- 4 つの標本を詰めた 40 ビットの語を開くと、各標本の下位 10 ビットが戻る。 -/
theorem splitWord_joinWord (a b c d : UInt16) :
    splitWord (joinWord a b c d % Nat.pow 256 5) = [a % 1024, b % 1024, c % 1024, d % 1024] := by
  have h5 : Nat.pow 256 5 = 1099511627776 := rfl
  have h30 : Nat.pow 2 30 = 1073741824 := rfl
  have h20 : Nat.pow 2 20 = 1048576 := rfl
  have h10 : Nat.pow 2 10 = 1024 := rfl
  have ha := Nat.mod_lt a.toNat (show 0 < 1024 by decide)
  have hb := Nat.mod_lt b.toNat (show 0 < 1024 by decide)
  have hc := Nat.mod_lt c.toNat (show 0 < 1024 by decide)
  have hd := Nat.mod_lt d.toNat (show 0 < 1024 by decide)
  simp only [splitWord, joinWord, h5, h30, h20, h10, ← toUInt16_mod]
  generalize a.toNat % 1024 = A at ha ⊢
  generalize b.toNat % 1024 = B at hb ⊢
  generalize c.toNat % 1024 = C at hc ⊢
  generalize d.toNat % 1024 = D at hd ⊢
  -- 語は 2^40 未満なので、2^40 での余りは語そのもので、各桁はそれぞれの標本である
  have e1 : (((A * 1024 + B) * 1024 + C) * 1024 + D) % 1099511627776 / 1073741824 % 1024 = A := by
    omega
  have e2 : (((A * 1024 + B) * 1024 + C) * 1024 + D) % 1099511627776 / 1048576 % 1024 = B := by
    omega
  have e3 : (((A * 1024 + B) * 1024 + C) * 1024 + D) % 1099511627776 / 1024 % 1024 = C := by
    omega
  have e4 : (((A * 1024 + B) * 1024 + C) * 1024 + D) % 1099511627776 % 1024 = D := by
    omega
  rw [e1, e2, e3, e4]

/-- 個数が 4 の倍数の標本は、詰めて開くと下位 10 ビットだけが戻る。 -/
theorem unpackGroups_packGroups {s : List UInt16} (h : s.length % 4 = 0) :
    unpackGroups (packGroups s) = s.map (· % 1024) := by
  fun_induction packGroups s with
  | case1 a b c d rest ih =>
    have hrest : rest.length % 4 = 0 := by
      simp only [List.length_cons] at h
      omega
    rw [unpackGroups_append _ (Bytes.length_ofNat 5 _), Bytes.toNat_ofNat, splitWord_joinWord,
      ih hrest]
    rfl
  | case2 s hs =>
    match s, hs with
    | [], _ => rfl
    | [_], _ | [_, _], _ | [_, _, _], _ => simp at h
    | _ :: _ :: _ :: _ :: _, hs => exact absurd rfl (hs _ _ _ _ _)

/-! ## 長さの確かめ -/

theorem unpack_of_mod {bs : List UInt8} (h : bs.length % 5 = 0) :
    unpack bs = .ok (unpackGroups bs) := by
  simp [unpack, h]

/-- 本体の長さが 4 の倍数の列数に合っていれば、受け皿への展開は確かめのない展開に等しい。 -/
theorem unpackInto_eq_unpack {bs : List UInt8} {columns : Nat} (hc : columns % 4 = 0)
    (h : bs.length = columns / 4 * 5) : unpackInto bs columns = unpack bs := by
  have h5 : bs.length % 5 = 0 := by omega
  have hs : columns = bs.length / 5 * 4 := by omega
  simp [unpackInto, unpack, h5, hs]

end SeviriScene.Sample

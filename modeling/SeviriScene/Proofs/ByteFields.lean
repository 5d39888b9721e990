import SeviriScene.Bytes.BigEndian
import Mathlib

/-!
# 固定長の欄の読み戻し

ファイルのどの部分も、決まった幅の欄をつないで書き、決まった位置の窓を開いて読む。ここでは
二つのことを示す。一つは窓の位置の計算で、つないだ列の窓は、前の部分の中に収まればその部分の
窓、前の部分より後ろなら位置をずらした後ろの部分の窓である（`window_append_of_add_le`、
`window_append_of_le`）。同じ長さの塊を並べた列の窓は、その位置の塊の窓である（`window_flatMap`）。
もう一つは値の読み戻しで、符号なしの整数、2 の補数の整数、単精度と倍精度の浮動小数点数の
ビット列は、その幅で書いた欄の先頭から読むと元の値に戻る。

バイト配列は `ByteArray.toList` でバイト列に直して読む。これは配列の中身の列に等しい
（`byteArray_toList`）。
-/

namespace SeviriScene.Bytes

/-! ## バイト配列とバイト列 -/

theorem toList_loop (bs : ByteArray) (i : Nat) (r : List UInt8) :
    ByteArray.toList.loop bs i r = r.reverse ++ bs.data.toList.drop i := by
  fun_induction ByteArray.toList.loop bs i r with
  | case1 i r h ih =>
    have hi : i < bs.data.toList.length := by simpa using h
    rw [ih, List.drop_eq_getElem_cons hi, List.reverse_cons, List.append_assoc]
    simp [ByteArray.get!, getElem!_pos bs.data i (by simpa using h)]
  | case2 i r h =>
    have hle : bs.data.toList.length ≤ i := by
      rw [Array.length_toList]
      exact Nat.le_of_not_lt h
    rw [List.drop_eq_nil_of_le hle, List.append_nil]

@[simp] theorem byteArray_toList (bs : ByteArray) : bs.toList = bs.data.toList := by
  simp [ByteArray.toList, toList_loop]

@[simp] theorem length_byteArray_toList (bs : ByteArray) : bs.toList.length = bs.size := by
  rw [byteArray_toList, Array.length_toList]
  rfl

/-! ## 窓の位置 -/

section Window

variable {xs ys : List UInt8} {off len : Nat}

/-- 前の部分より後ろの窓は、後ろの部分の窓である。 -/
theorem window_append_of_le (h : xs.length ≤ off) :
    window (xs ++ ys) off len = window ys (off - xs.length) len := by
  simp only [window, List.drop_append, List.drop_eq_nil_of_le h, List.nil_append]

/-- 前の部分に収まる窓は、前の部分の窓である。 -/
theorem window_append_of_add_le (h : off + len ≤ xs.length) :
    window (xs ++ ys) off len = window xs off len := by
  simp only [window]
  rw [List.drop_append_of_le_length (by omega),
    List.take_append_of_le_length (by rw [List.length_drop]; omega)]

theorem window_length_append : window (xs ++ ys) 0 xs.length = xs := by
  simp [window]

theorem natAt_append_of_le (h : xs.length ≤ off) :
    natAt (xs ++ ys) off len = natAt ys (off - xs.length) len := by
  rw [natAt, window_append_of_le h, natAt]

theorem natAt_append_of_add_le (h : off + len ≤ xs.length) :
    natAt (xs ++ ys) off len = natAt xs off len := by
  rw [natAt, window_append_of_add_le h, natAt]

end Window

/-! ## 値の読み戻し -/

section Values

variable (ys : List UInt8)

/-- 幅 `w` で書いた欄を先頭から読むと、下位 `w` バイトの値が戻る。 -/
theorem natAt_ofNat_append (w n : Nat) : natAt (ofNat w n ++ ys) 0 w = n % Nat.pow 256 w := by
  have h := @window_length_append (ofNat w n) ys
  rw [length_ofNat] at h
  rw [natAt, h, toNat_ofNat]

theorem natAt_cons (b : UInt8) : natAt (b :: ys) 0 1 = b.toNat := by
  simp [natAt, window, toNat]

theorem toUInt8_natAt (x : UInt8) : (natAt (x :: ys) 0 1).toUInt8 = x := by
  rw [natAt_cons, Nat.toUInt8_eq, UInt8.ofNat_toNat]

theorem toUInt16_natAt (x : UInt16) : (natAt (ofNat 2 x.toNat ++ ys) 0 2).toUInt16 = x := by
  rw [natAt_ofNat_append, Nat.mod_eq_of_lt (UInt16.toNat_lt_size x), Nat.toUInt16_eq,
    UInt16.ofNat_toNat]

theorem toUInt32_natAt (x : UInt32) : (natAt (ofNat 4 x.toNat ++ ys) 0 4).toUInt32 = x := by
  rw [natAt_ofNat_append, Nat.mod_eq_of_lt (UInt32.toNat_lt_size x), Nat.toUInt32_eq,
    UInt32.ofNat_toNat]

/-- 幅に収まる 0 以上の整数の 2 の補数の表記は、符号なしの表記に等しい。 -/
theorem ofInt_of_nonneg {w : Nat} {v : Int} (h0 : 0 ≤ v) (h1 : v < (Nat.pow 256 w : Nat)) :
    ofInt w v = ofNat w v.toNat := by
  have hp : Nat.pow 2 (8 * w) = Nat.pow 256 w := by
    show 2 ^ (8 * w) = 256 ^ w
    rw [Nat.pow_mul]
  rw [ofInt, hp, Int.emod_eq_of_lt h0 h1]

/-- 4 バイトの 2 の補数で書いた 32 ビットの整数は、読むと元に戻る。 -/
theorem intAt_ofInt_append (x : Int32) : Int32.ofInt (intAt (ofInt 4 x.toInt ++ ys) 0 4) = x := by
  have hw : Nat.pow 256 4 = 4294967296 := rfl
  have hh : Nat.pow 2 (8 * 4 - 1) = 2147483648 := rfl
  have hlo := x.le_toInt
  have hhi := x.toInt_lt
  have hv : intAt (ofInt 4 x.toInt ++ ys) 0 4 = x.toInt := by
    simp only [intAt, ofInt, natAt_ofNat_append, hw, hh]
    split <;> omega
  rw [hv, Int32.ofInt_toInt]

theorem toUInt64_natAt (x : UInt64) : (natAt (ofNat 8 x.toNat ++ ys) 0 8).toUInt64 = x := by
  rw [natAt_ofNat_append, Nat.mod_eq_of_lt (UInt64.toNat_lt_size x), Nat.toUInt64_eq,
    UInt64.ofNat_toNat]

/-- 単精度の値のビット列は、読むとビット単位で元に戻る。 -/
theorem binary32At_ofBinary32 (x : Binary32) : binary32At (ofBinary32 x ++ ys) 0 = x := by
  rw [binary32At, ofBinary32, toUInt32_natAt]

/-- 倍精度の値のビット列は、読むとビット単位で元に戻る。 -/
theorem binary64At_ofBinary64 (x : Binary64) : binary64At (ofBinary64 x ++ ys) 0 = x := by
  rw [binary64At, ofBinary64, toUInt64_natAt]

end Values

/-! ## 前の部分を飛ばす読み取り -/

section Skip

variable {xs ys : List UInt8} {off : Nat}

theorem drop_append_of_le (h : xs.length ≤ off) : (xs ++ ys).drop off = ys.drop (off - xs.length) := by
  rw [List.drop_append, List.drop_eq_nil_of_le h, List.nil_append]

theorem intAt_append_of_le {w : Nat} (h : xs.length ≤ off) :
    intAt (xs ++ ys) off w = intAt ys (off - xs.length) w := by
  simp only [intAt, natAt_append_of_le h]

theorem binary32At_append_of_le (h : xs.length ≤ off) :
    binary32At (xs ++ ys) off = binary32At ys (off - xs.length) := by
  simp only [binary32At, natAt_append_of_le h]

theorem binary64At_append_of_le (h : xs.length ≤ off) :
    binary64At (xs ++ ys) off = binary64At ys (off - xs.length) := by
  simp only [binary64At, natAt_append_of_le h]

/-- 埋めた部分のあとは、埋めた長さの先から読む。 -/
theorem padTo_append (xs : List UInt8) (n : Nat) (ys : List UInt8) :
    padTo xs n ++ ys = xs ++ (List.replicate (n - xs.length) 0 ++ ys) := by
  rw [padTo, List.append_assoc]

/-- 長さ `n` に埋めた区画が `off` から始まるなら、次の区画は `off + n` から始まる。 -/
theorem drop_next_section {bs xs ys : List UInt8} {n : Nat} (hx : xs.length ≤ n)
    (hd : bs.drop off = padTo xs n ++ ys) : bs.drop (off + n) = ys := by
  rw [← List.drop_drop, hd, List.drop_left' (length_padTo xs n hx)]

theorem natAt_cons_of_pos {b : UInt8} {w : Nat} (h : 0 < off) :
    natAt (b :: ys) off w = natAt ys (off - 1) w := by
  have key := @natAt_append_of_le [b] ys off w h
  simpa using key

end Skip

/-! ## 先頭の部分だけを読む -/

section Prefix

variable {xs : List UInt8} {n off : Nat}

/-- 先頭 `n` バイトに収まる窓は、先頭 `n` バイトだけを見る。 -/
theorem window_take {len : Nat} (h : off + len ≤ n) : window (xs.take n) off len = window xs off len := by
  rw [window, window, List.drop_take, List.take_take, Nat.min_eq_left (by omega)]

theorem natAt_take {w : Nat} (h : off + w ≤ n) : natAt (xs.take n) off w = natAt xs off w := by
  rw [natAt, window_take h, natAt]

theorem intAt_take {w : Nat} (h : off + w ≤ n) : intAt (xs.take n) off w = intAt xs off w := by
  simp only [intAt, natAt_take h]

theorem binary32At_take (h : off + 4 ≤ n) : binary32At (xs.take n) off = binary32At xs off := by
  rw [binary32At, natAt_take h, binary32At]

theorem binary64At_take (h : off + 8 ≤ n) : binary64At (xs.take n) off = binary64At xs off := by
  rw [binary64At, natAt_take h, binary64At]

end Prefix

/-- バイト配列の `a` から `b` までは、バイト列の `a` から `b - a` バイト。 -/
theorem toList_extract (bs : ByteArray) (a b : Nat) :
    (bs.extract a b).toList = (bs.toList.drop a).take (b - a) := by
  simp [List.take_drop]

/-! ## 同じ長さの塊の並び -/

/-- 長さ `k` の塊を `n` 個並べた列の長さは `k * n`。 -/
theorem length_flatMap_of_length_eq {α : Type} {l : List α} {f : α → List UInt8} {k : Nat}
    (hk : ∀ a ∈ l, (f a).length = k) : (l.flatMap f).length = k * l.length := by
  induction l with
  | nil => rfl
  | cons a l ih =>
    rw [List.flatMap_cons, List.length_append, hk a List.mem_cons_self,
      ih fun b hb => hk b (List.mem_cons_of_mem a hb), List.length_cons, Nat.mul_succ]
    omega

/-- 長さ `k` の塊を並べた列の `k * i + j` からの窓は、`i` 番目の塊の `j` からの窓である。 -/
theorem window_flatMap {α : Type} {l : List α} {f : α → List UInt8} {k : Nat}
    (hk : ∀ a ∈ l, (f a).length = k) (rest : List UInt8) {i j len : Nat} (hi : i < l.length)
    (hj : j + len ≤ k) : window (l.flatMap f ++ rest) (k * i + j) len = window (f l[i]) j len := by
  induction l generalizing i with
  | nil => simp at hi
  | cons a l ih =>
    have ha := hk a List.mem_cons_self
    rw [List.flatMap_cons, List.append_assoc]
    cases i with
    | zero =>
      simp only [Nat.mul_zero, Nat.zero_add, List.getElem_cons_zero]
      exact window_append_of_add_le (by omega)
    | succ i =>
      rw [window_append_of_le (by rw [ha, Nat.mul_succ]; omega)]
      rw [show k * (i + 1) + j - (f a).length = k * i + j by rw [ha, Nat.mul_succ]; omega]
      exact ih (fun b hb => hk b (List.mem_cons_of_mem a hb)) (by simpa using hi)

theorem natAt_flatMap {α : Type} {l : List α} {f : α → List UInt8} {k : Nat}
    (hk : ∀ a ∈ l, (f a).length = k) (rest : List UInt8) {i j w : Nat} (hi : i < l.length)
    (hj : j + w ≤ k) : natAt (l.flatMap f ++ rest) (k * i + j) w = natAt (f l[i]) j w := by
  rw [natAt, window_flatMap hk rest hi hj, natAt]

theorem binary64At_flatMap {α : Type} {l : List α} {f : α → List UInt8} {k : Nat}
    (hk : ∀ a ∈ l, (f a).length = k) (rest : List UInt8) {i j : Nat} (hi : i < l.length)
    (hj : j + 8 ≤ k) : binary64At (l.flatMap f ++ rest) (k * i + j) = binary64At (f l[i]) j := by
  rw [binary64At, natAt_flatMap hk rest hi hj, binary64At]

/-- 列の `i` 番目のバイトを 1 バイトの欄として読むと、そのバイトの値。 -/
theorem natAt_getElem {xs : List UInt8} (ys : List UInt8) {i : Nat} (hi : i < xs.length) :
    natAt (xs ++ ys) i 1 = xs[i].toNat := by
  rw [natAt, window, List.drop_append_of_le_length (Nat.le_of_lt hi), List.drop_eq_getElem_cons hi,
    List.cons_append, List.take_succ_cons, List.take_zero]
  simp [toNat]

attribute [simp] length_ofNat

@[simp] theorem length_ofInt (w : Nat) (i : Int) : (ofInt w i).length = w := length_ofNat _ _

@[simp] theorem length_ofBinary32 (x : Binary32) : (ofBinary32 x).length = 4 := length_ofNat _ _

@[simp] theorem length_ofBinary64 (x : Binary64) : (ofBinary64 x).length = 8 := length_ofNat _ _

end SeviriScene.Bytes

import SeviriScene.Proofs.Packing
import SeviriScene.Proofs.CdsDomain
import SeviriScene.Proofs.Outcome

/-!
# 10 ビットの標本の符号：ビット列としての意味と逆写像

詰めたバイト列は、各バイトを上位のビットから並べてつないだ一本のビット列として読める。`p` 番目の
ビットはバイト `p / 8` の下から `7 - p % 8` 番目のビット（`bitAt`）で、標本 `j` はビット `10 j` から
`10 j + 9` を上位から読んだ数（`readBits`）である。

* 開いた標本はこのビット列の読み方にちょうど一致する（`unpack_reads_bitstream`）。鍵は、ビット列の
  位置を、列を大きい方から読んだ数のビットの位置に移す `bitAt_eq_testBit` と、そこから出る
  `readBits_eq`：列の中の幅 `w` の欄は、その数をずらして下位 `w` ビットを残したものである。
* 詰めることと開くことは、長さが 4 の倍数の標本の列（各標本の下位 10 ビット）と長さが 5 の倍数の
  バイト列の間で互いに逆である（`pack_unpack_inverse`）。
-/

namespace SeviriScene.Sample

open Bytes Outcome

/-! ## ビット列 -/

/-- 詰めた列を一本のビット列として見たときの `p` 番目のビット：バイト `p / 8` の下から
`7 - p % 8` 番目のビット。 -/
def bitAt (bs : List UInt8) (p : Nat) : Bool :=
  (bs.getD (p / 8) 0).toNat.testBit (7 - p % 8)

/-- ビット列の `start` から `width` ビットを、先のビットを上位として読んだ数。 -/
def readBits (bs : List UInt8) (start : Nat) : Nat → Nat
  | 0 => 0
  | width + 1 => 2 * readBits bs start width + (bitAt bs (start + width)).toNat

/-- 先頭のビットは標本 0 の最上位、最後のビットは標本 3 の最下位。 -/
example : readBits [0x80, 0, 0, 0, 1] 0 10 = 512 ∧ readBits [0x80, 0, 0, 0, 1] 30 10 = 1 := by decide

theorem bitAt_append_left {xs : List UInt8} (ys : List UInt8) {p : Nat} (h : p < 8 * xs.length) :
    bitAt (xs ++ ys) p = bitAt xs p := by
  rw [bitAt, bitAt, List.getD_append _ _ _ _ (by omega)]

theorem bitAt_append_right (xs ys : List UInt8) (q : Nat) :
    bitAt (xs ++ ys) (8 * xs.length + q) = bitAt ys q := by
  have hd : (8 * xs.length + q) / 8 = xs.length + q / 8 := by omega
  have hm : (8 * xs.length + q) % 8 = q % 8 := by omega
  rw [bitAt, bitAt, hd, hm, List.getD_append_right _ _ _ _ (by omega), Nat.add_sub_cancel_left]

theorem readBits_append_left {xs : List UInt8} (ys : List UInt8) {start : Nat} :
    ∀ {w : Nat}, start + w ≤ 8 * xs.length → readBits (xs ++ ys) start w = readBits xs start w
  | 0, _ => rfl
  | w + 1, h => by
    rw [readBits, readBits, readBits_append_left ys (by omega), bitAt_append_left ys (by omega)]

theorem readBits_append_right (xs ys : List UInt8) (start : Nat) :
    ∀ w, readBits (xs ++ ys) (8 * xs.length + start) w = readBits ys start w
  | 0 => rfl
  | w + 1 => by
    rw [readBits, readBits, readBits_append_right xs ys start w, Nat.add_assoc, bitAt_append_right]

/-! ## ビットの位置と数の桁 -/

theorem pow_256_eq (n : Nat) : Nat.pow 256 n = 2 ^ (8 * n) := by
  rw [Nat.pow_mul]
  rfl

/-- ビット列の `p` 番目のビットは、列を大きい方から読んだ数の、下から `8 * 長さ - 1 - p` 番目のビット。 -/
theorem bitAt_eq_testBit {bs : List UInt8} {p : Nat} (h : p < 8 * bs.length) :
    bitAt bs p = (toNat bs).testBit (8 * bs.length - 1 - p) := by
  induction bs generalizing p with
  | nil => simp at h
  | cons b bs ih =>
    rw [List.length_cons] at h
    have hr : toNat bs < 2 ^ (8 * bs.length) := pow_256_eq bs.length ▸ toNat_lt bs
    rw [toNat_cons, pow_256_eq, Nat.mul_comm, Nat.testBit_two_pow_mul_add _ hr, List.length_cons]
    by_cases hp : p < 8
    · -- 先頭のバイトのビット
      have hd : p / 8 = 0 := by omega
      have hm : p % 8 = p := by omega
      rw [if_neg (by omega), bitAt, hd, hm, List.getD_cons_zero]
      congr 1
      omega
    · -- 残りの列のビット
      have hq : bitAt (b :: bs) p = bitAt bs (p - 8) := by
        have e := bitAt_append_right [b] bs (p - 8)
        rwa [List.singleton_append, List.length_singleton, Nat.mul_one, Nat.add_sub_cancel' (by omega)] at e
      have hi : 8 * (bs.length + 1) - 1 - p = 8 * bs.length - 1 - (p - 8) := by omega
      rw [if_pos (by omega), hq, ih (by omega), hi]

/-- 列の中の幅 `w` の欄は、列を大きい方から読んだ数を欄のあとのビットの数だけ右にずらし、
下位 `w` ビットを残したもの。 -/
theorem readBits_eq {bs : List UInt8} {start : Nat} :
    ∀ {w : Nat}, start + w ≤ 8 * bs.length →
      readBits bs start w = toNat bs / 2 ^ (8 * bs.length - (start + w)) % 2 ^ w
  | 0, _ => by rw [readBits, pow_zero, Nat.mod_one]
  | w + 1, h => by
    rw [readBits, readBits_eq (by omega), bitAt_eq_testBit (by omega),
      Nat.testBit_eq_decide_div_mod_eq]
    -- 欄の最後のビットの位置 `e` から見て、前の `w` ビットは一つ上にある
    obtain ⟨e, he⟩ : ∃ e, 8 * bs.length - (start + (w + 1)) = e := ⟨_, rfl⟩
    have h1 : 8 * bs.length - (start + w) = e + 1 := by omega
    have h2 : 8 * bs.length - 1 - (start + w) = e := by omega
    rw [he, h1, h2, pow_succ, ← Nat.div_div_eq_div_mul, pow_succ', Nat.mod_mul]
    generalize toNat bs / 2 ^ e = M
    rcases Nat.mod_two_eq_zero_or_one M with hM | hM
    · simp [hM]
    · simp [hM, Nat.add_comm]

/-! ## 組ごとの標本 -/

/-- 10 ビットの値は 16 ビットの語にそのまま収まる。 -/
theorem toNat_toUInt16_mod (x : Nat) : (x % 1024).toUInt16.toNat = x % 1024 := by
  have h := Nat.mod_lt x (show 0 < 1024 by decide)
  simp
  omega

theorem toUInt16_mod_lt (x : Nat) : (x % 1024).toUInt16 < 1024 :=
  UInt16.lt_iff_toNat_lt.mpr (by rw [toNat_toUInt16_mod]; exact Nat.mod_lt _ (by decide))

theorem map_toNat_splitWord (w : Nat) :
    (splitWord w).map UInt16.toNat =
      [w / Nat.pow 2 30 % 1024, w / Nat.pow 2 20 % 1024, w / Nat.pow 2 10 % 1024, w % 1024] := by
  simp only [splitWord, List.map_cons, List.map_nil, toNat_toUInt16_mod]

/-- 5 バイトの組を開いた 4 つの標本は、組のビット列の 10 ビットずつの欄である。 -/
theorem map_toNat_splitWord_eq_readBits {g : List UInt8} (hg : g.length = 5) :
    (splitWord (toNat g)).map UInt16.toNat = (List.range 4).map fun k => readBits g (10 * k) 10 := by
  rw [map_toNat_splitWord]
  show _ = [readBits g 0 10, readBits g 10 10, readBits g 20 10, readBits g 30 10]
  rw [readBits_eq (by omega), readBits_eq (by omega), readBits_eq (by omega), readBits_eq (by omega), hg]
  simp only [Nat.pow_eq]
  norm_num

/-- 5 バイトの組で始まらない列は 5 バイトに満たない。 -/
theorem length_lt_of_no_group {bs : List UInt8}
    (h : ∀ b0 b1 b2 b3 b4 rest, bs ≠ b0 :: b1 :: b2 :: b3 :: b4 :: rest) : bs.length < 5 := by
  rcases bs with _ | ⟨b0, _ | ⟨b1, _ | ⟨b2, _ | ⟨b3, _ | ⟨b4, rest⟩⟩⟩⟩⟩ <;> simp
  exact absurd rfl (h b0 b1 b2 b3 b4 rest)

/-- 開いた標本の列は、ビット列を先頭から 10 ビットずつ読んだ数の列。 -/
theorem map_toNat_unpackGroups (bs : List UInt8) :
    (unpackGroups bs).map UInt16.toNat = (List.range (bs.length / 5 * 4)).map fun j => readBits bs (10 * j) 10 := by
  fun_induction unpackGroups bs with
  | case1 b0 b1 b2 b3 b4 rest ih =>
    have hg : [b0, b1, b2, b3, b4].length = 5 := rfl
    have hlen : (b0 :: b1 :: b2 :: b3 :: b4 :: rest).length / 5 * 4 = 4 + rest.length / 5 * 4 := by
      simp only [List.length_cons]
      omega
    rw [List.map_append, unpackGroup_eq_splitWord, map_toNat_splitWord_eq_readBits hg, ih, hlen,
      show List.range (4 + rest.length / 5 * 4) = _ from List.range_add, List.map_append, List.map_map]
    -- 初めの 4 つの標本は組の中に、残りは後ろの列の中にある
    refine congrArg₂ (· ++ ·) (List.map_congr_left fun k hk => ?_) (List.map_congr_left fun j _ => ?_)
    · have hk4 : k < 4 := List.mem_range.mp hk
      exact (@readBits_append_left [b0, b1, b2, b3, b4] rest (10 * k) 10 (by simp; omega)).symm
    · have hpos : 10 * (4 + j) = 8 * [b0, b1, b2, b3, b4].length + 10 * j := by simp; omega
      simp only [Function.comp_apply, hpos]
      exact (readBits_append_right [b0, b1, b2, b3, b4] rest (10 * j) 10).symm
  | case2 bs h =>
    -- 5 バイトに満たない列からは標本が出ない
    have hn : bs.length / 5 * 4 = 0 := by
      have := length_lt_of_no_group h
      omega
    rw [hn]
    rfl

/-- 詰めた列の長さが 5 の倍数でなければ形式の誤り、そうでなければ長さの 4/5 の標本が出て、
標本 `j` はビット列のビット `10 j` から `10 j + 9` を上位から読んだ数である。受け皿に開くときは、
長さの誤りが先で、次に受け皿の長さが 4/5 でなければ処理の誤り、合っていれば同じ標本が出る。 -/
theorem unpack_reads_bitstream (b : List UInt8) :
    ((∃ e, unpack b = .error e ∧ e.kind = .invalidFormat) ↔ b.length % 5 ≠ 0) ∧
      (b.length % 5 = 0 → ∃ s, unpack b = .ok s ∧ s.length = 4 * b.length / 5 ∧
        s.map UInt16.toNat = (List.range (4 * b.length / 5)).map fun j => readBits b (10 * j) 10) ∧
      (∀ slots, b.length % 5 ≠ 0 → unpackInto b slots = unpack b) ∧
      (∀ slots, b.length % 5 = 0 →
        ((∃ e, unpackInto b slots = .error e ∧ e.kind = .processing) ↔ slots ≠ 4 * b.length / 5)) ∧
      (∀ slots, slots = 4 * b.length / 5 → unpackInto b slots = unpack b) := by
  refine ⟨?_, ?_, ?_, ?_, ?_⟩
  · by_cases h : b.length % 5 = 0 <;> simp [unpack, h, Fault.kind]
  · intro h
    refine ⟨unpackGroups b, unpack_of_mod h, ?_, ?_⟩
    · rw [length_unpackGroups]
      omega
    · rw [map_toNat_unpackGroups]
      congr 2
      omega
  · intro slots h
    simp [unpackInto, unpack, h]
  · intro slots h
    have hs : b.length / 5 * 4 = 4 * b.length / 5 := by omega
    by_cases hsl : slots = 4 * b.length / 5 <;> simp [unpackInto, h, hs, hsl, Fault.kind]
  · rintro slots rfl
    by_cases h : b.length % 5 = 0
    · have hs : 4 * b.length / 5 = b.length / 5 * 4 := by omega
      simp [unpackInto, unpack, h, hs]
    · simp [unpackInto, unpack, h]

/-! ## 詰めることと開くことは互いに逆 -/

/-- 下位 10 ビットを残すことは、1024 で割った余りをとることに等しい。 -/
theorem mod_1024_eq_and (v : UInt16) : v % 1024 = v &&& 0x3ff := by
  apply UInt16.toNat_inj.mp
  rw [UInt16.toNat_mod, UInt16.toNat_and]
  exact (Nat.and_two_pow_sub_one_eq_mod v.toNat 10).symm

theorem unpackGroups_lt (bs : List UInt8) : ∀ v ∈ unpackGroups bs, v < 1024 := by
  fun_induction unpackGroups bs with
  | case1 b0 b1 b2 b3 b4 rest ih =>
    intro v hv
    rcases List.mem_append.mp hv with hv | hv
    · -- 組の標本はどれも 1024 で割った余り
      simp only [unpackGroup_eq_splitWord, splitWord, List.mem_cons, List.not_mem_nil, or_false] at hv
      rcases hv with rfl | rfl | rfl | rfl <;> exact toUInt16_mod_lt _
    · exact ih v hv
  | case2 => simp

/-- 40 ビットに収まる語を開いて詰め直すと、同じ語の 5 バイトに戻る。 -/
theorem packGroups_splitWord_append {w : Nat} (hw : w < Nat.pow 256 5) (rest : List UInt16) :
    packGroups (splitWord w ++ rest) = ofNat 5 w ++ packGroups rest := by
  have hw' : w < 1099511627776 := hw
  have hj : joinWord (w / Nat.pow 2 30 % 1024).toUInt16 (w / Nat.pow 2 20 % 1024).toUInt16
      (w / Nat.pow 2 10 % 1024).toUInt16 (w % 1024).toUInt16 = w := by
    simp only [joinWord, toNat_toUInt16_mod]
    have h30 : Nat.pow 2 30 = 1073741824 := rfl
    have h20 : Nat.pow 2 20 = 1048576 := rfl
    have h10 : Nat.pow 2 10 = 1024 := rfl
    rw [h30, h20, h10]
    omega
  simp only [splitWord, List.cons_append, List.nil_append, packGroups, hj]

/-- 長さが 5 の倍数のバイト列は、開いて詰め直すともとに戻る。 -/
theorem packGroups_unpackGroups {bs : List UInt8} (h : bs.length % 5 = 0) : packGroups (unpackGroups bs) = bs := by
  fun_induction unpackGroups bs with
  | case1 b0 b1 b2 b3 b4 rest ih =>
    have hrest : rest.length % 5 = 0 := by
      simp only [List.length_cons] at h
      omega
    rw [unpackGroup_eq_splitWord, packGroups_splitWord_append (toNat_lt [b0, b1, b2, b3, b4]), ih hrest]
    exact congrArg (· ++ rest) (ofNat_toNat [b0, b1, b2, b3, b4])
  | case2 bs hs =>
    have hl := length_lt_of_no_group hs
    obtain rfl : bs = [] := List.eq_nil_of_length_eq_zero (by omega)
    rfl

/-- 長さが 4 の倍数の標本の列は `5|s|/4` バイトに詰まり、開くと各標本の下位 10 ビットが戻る。
長さが 5 の倍数のバイト列を開いた標本はどれも 1024 未満で、詰め直すともとのバイト列に戻る。
詰めるのは、標本の数が 4 の倍数でないときに限って処理の誤りで失敗する。 -/
theorem pack_unpack_inverse :
    (∀ s : List UInt16, s.length % 4 = 0 → ∃ b, pack s = .ok b ∧ b.length = 5 * s.length / 4 ∧
        unpack b = .ok (s.map (· &&& 0x3ff))) ∧
      (∀ b : List UInt8, b.length % 5 = 0 →
        ∃ s, unpack b = .ok s ∧ (∀ v ∈ s, v < 1024) ∧ pack s = .ok b) ∧
      (∀ s : List UInt16, (∃ e, pack s = .error e ∧ e.kind = .processing) ↔ s.length % 4 ≠ 0) := by
  refine ⟨fun s hs => ?_, fun b hb => ?_, fun s => ?_⟩
  · have hlen := length_packGroups s
    refine ⟨packGroups s, by simp [pack, hs], by omega, ?_⟩
    rw [unpack_of_mod (by omega), unpackGroups_packGroups hs]
    simp only [mod_1024_eq_and]
  · have hlen := length_unpackGroups b
    refine ⟨unpackGroups b, unpack_of_mod hb, unpackGroups_lt b, ?_⟩
    simp only [pack, show (unpackGroups b).length % 4 = 0 by omega, if_true, packGroups_unpackGroups hb]
  · by_cases h : s.length % 4 = 0 <;> simp [pack, h, Fault.kind]

end SeviriScene.Sample

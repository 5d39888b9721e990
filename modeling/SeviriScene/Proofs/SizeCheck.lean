import SeviriScene.Proofs.Layout
import SeviriScene.Proofs.Packing
import Mathlib

/-!
# 大きさの計算の確かめ

`checkedTrailerOffset` が通るのは大きさの計算の途中の値がすべて 64 ビットに収まるとき
（`SizesFit`）に限り、そのときの値は末尾の始まりの式そのものである
（`checkedTrailerOffset_eq_ok_iff`、`trailerOffset_eq_formula`）。

確かめのない `usize` の計算（`recordSizeWord` など）は、加法と乗法については自然数の計算を
2^64 で割った余りにいつも等しく、割り算を含む詰めたバイト数だけが例外になる
（`packedWidthWord_ofNat`）。確かめが通った配置では、どの値も 2^64 未満なので余りを取っても
変わらず、`usize` の計算は自然数の値に一致する（`checkedTrailerOffset_exact`）。

VIS/IR の列数は 4 の倍数に切り上げてから詰めるので、行の本体は 5 バイトの組のちょうど整数個になり、
開くと切り上げた列数の標本が返る（`paddedRows_unpack_whole_groups`）。
-/

namespace SeviriScene.LineLayout

/-- 詰めたバイト数は 10 ビットの標本のビット数を 8 で割って切り上げたもの。 -/
theorem packedWidth_eq_ceilDiv (c : Nat) : packedWidth c = 10 * c ⌈/⌉ 8 := by
  rw [Nat.ceilDiv_eq_add_pred_div, packedWidth]
  omega

theorem trailerOffset_eq_formula (l : LineLayout) :
    l.trailerOffset = 2912 + l.numberOfLines * (l.visirChannels * (65 + 10 * l.visirColumns ⌈/⌉ 8) +
      (if l.hasHrv then 3 * (65 + 10 * l.hrvColumns ⌈/⌉ 8) else 0)) := by
  simp only [trailerOffset, dataSize, recordSize, visirSubrecordSize, hrvSubrecordSize, visirPackedWidth,
    hrvPackedWidth, packedWidth_eq_ceilDiv, headerSize, linePrefixSize, packetHeaderSize, lineMetadataSize,
    hrvSublines, Nat.mul_comm l.numberOfLines]

/-! ## `usize` での計算 -/

theorem packedWidthWord_ofNat {c : Nat} (h : c * 10 + 7 < wordLimit) :
    packedWidthWord (UInt64.ofNat c) = UInt64.ofNat (packedWidth c) := by
  rw [packedWidth, UInt64.ofNat_div h (by decide), UInt64.ofNat_add, UInt64.ofNat_mul]
  rfl

section Words

variable {l : LineLayout}

theorem visirSubrecordSizeWord_eq (h : l.visirColumns * 10 + 7 < wordLimit) :
    l.visirSubrecordSizeWord = UInt64.ofNat l.visirSubrecordSize := by
  rw [visirSubrecordSizeWord, packedWidthWord_ofNat h, visirSubrecordSize, visirPackedWidth,
    UInt64.ofNat_add]

theorem hrvSubrecordSizeWord_eq (h : l.hrvColumns * 10 + 7 < wordLimit) :
    l.hrvSubrecordSizeWord = UInt64.ofNat l.hrvSubrecordSize := by
  rw [hrvSubrecordSizeWord, packedWidthWord_ofNat h, hrvSubrecordSize, hrvPackedWidth,
    UInt64.ofNat_add]

theorem recordSizeWord_eq (hf : l.SizesFit) : l.recordSizeWord = UInt64.ofNat l.recordSize := by
  rw [recordSizeWord, recordSize, visirSubrecordSizeWord_eq hf.visirPacked]
  cases hh : l.hasHrv
  · simp
  · simp [hrvSubrecordSizeWord_eq (hf.hrvPacked hh), UInt64.ofNat_add, UInt64.ofNat_mul]

theorem dataSizeWord_eq (hf : l.SizesFit) : l.dataSizeWord = UInt64.ofNat l.dataSize := by
  rw [dataSizeWord, recordSizeWord_eq hf, dataSize, UInt64.ofNat_mul]

theorem trailerOffsetWord_eq (hf : l.SizesFit) : l.trailerOffsetWord = UInt64.ofNat l.trailerOffset := by
  rw [trailerOffsetWord, dataSizeWord_eq hf, trailerOffset, UInt64.ofNat_add]

theorem visirSubrecordOffsetWord_eq (hf : l.SizesFit) (slot : Nat) :
    l.visirSubrecordOffsetWord slot = UInt64.ofNat (l.visirSubrecordOffset slot) := by
  rw [visirSubrecordOffsetWord, visirSubrecordSizeWord_eq hf.visirPacked, visirSubrecordOffset,
    UInt64.ofNat_mul]

theorem hrvSubrecordOffsetWord_eq (hf : l.SizesFit) (hh : l.hasHrv) (k : Nat) :
    l.hrvSubrecordOffsetWord k = UInt64.ofNat (l.hrvSubrecordOffset k) := by
  rw [hrvSubrecordOffsetWord, visirSubrecordSizeWord_eq hf.visirPacked,
    hrvSubrecordSizeWord_eq (hf.hrvPacked hh), hrvSubrecordOffset, UInt64.ofNat_add, UInt64.ofNat_mul,
    UInt64.ofNat_mul]

/-- 行の中のある記録の始まりは、どれも一行の記録の長さを超えない。 -/
theorem visirSubrecordOffset_le {slot : Nat} (h : slot ≤ l.visirChannels) :
    l.visirSubrecordOffset slot ≤ l.recordSize := by
  have := Nat.mul_le_mul_right l.visirSubrecordSize h
  simp only [visirSubrecordOffset, recordSize]
  omega

theorem hrvSubrecordOffset_le (hh : l.hasHrv) {k : Nat} (h : k ≤ hrvSublines) :
    l.hrvSubrecordOffset k ≤ l.recordSize := by
  have := Nat.mul_le_mul_right l.hrvSubrecordSize h
  simp only [hrvSubrecordOffset, recordSize, hh, if_true]
  omega

end Words

/-- 確かめが通るのは途中の値がどれも 64 ビットに収まるときに限り、値は末尾の始まりの式に等しい。
通れば、確かめのない `usize` の計算はどれも巻き戻らず、自然数の値に一致する。 -/
theorem checkedTrailerOffset_exact (l : LineLayout) (n : Nat) :
    (l.checkedTrailerOffset = .ok n ↔ l.SizesFit ∧
      n = 2912 + l.numberOfLines * (l.visirChannels * (65 + 10 * l.visirColumns ⌈/⌉ 8) +
        (if l.hasHrv then 3 * (65 + 10 * l.hrvColumns ⌈/⌉ 8) else 0))) ∧
    (l.checkedTrailerOffset = .ok n →
      l.recordSizeWord.toNat = l.recordSize ∧ l.dataSizeWord.toNat = l.dataSize ∧
      l.trailerOffsetWord.toNat = l.trailerOffset ∧ l.trailerOffset = n ∧
      (∀ slot ≤ l.visirChannels, (l.visirSubrecordOffsetWord slot).toNat = l.visirSubrecordOffset slot) ∧
      (l.hasHrv → ∀ k ≤ 3, (l.hrvSubrecordOffsetWord k).toNat = l.hrvSubrecordOffset k)) := by
  refine ⟨by rw [checkedTrailerOffset_eq_ok_iff, trailerOffset_eq_formula], fun h => ?_⟩
  obtain ⟨hf, rfl⟩ := checkedTrailerOffset_eq_ok_iff.mp h
  have ht : l.trailerOffset < wordLimit := by
    rw [trailerOffset, Nat.add_comm]
    exact hf.trailer
  refine ⟨?_, ?_, ?_, rfl, fun slot hs => ?_, fun hh k hk => ?_⟩
  · rw [recordSizeWord_eq hf, UInt64.toNat_ofNat_of_lt' hf.record]
  · rw [dataSizeWord_eq hf, UInt64.toNat_ofNat_of_lt' hf.data]
  · rw [trailerOffsetWord_eq hf, UInt64.toNat_ofNat_of_lt' ht]
  · rw [visirSubrecordOffsetWord_eq hf,
      UInt64.toNat_ofNat_of_lt' (lt_of_le_of_lt (visirSubrecordOffset_le hs) hf.record)]
  · rw [hrvSubrecordOffsetWord_eq hf hh,
      UInt64.toNat_ofNat_of_lt' (lt_of_le_of_lt (hrvSubrecordOffset_le hh hk) hf.record)]

/-- VIS/IR の列数が `usize` の最大値の半分なら、10 倍した列数があふれて確かめは通らない。 -/
example : (LineLayout.mk 11 ((Nat.pow 2 64 - 1) / 2) 1 false 0 0 false).checkedTrailerOffset.toOption = none := by
  decide

/-! ## 4 の倍数への切り上げと 5 バイトの組 -/

theorem le_paddedColumns (c : Nat) : c ≤ paddedColumns c :=
  Nat.le_add_right _ _

/-- 切り上げは、`c` 以上の 4 の倍数のうち最小のもの。 -/
theorem paddedColumns_isLeast (c : Nat) : IsLeast {m | c ≤ m ∧ 4 ∣ m} (paddedColumns c) := by
  refine ⟨⟨le_paddedColumns c, Nat.dvd_of_mod_eq_zero (paddedColumns_mod c)⟩, ?_⟩
  rintro m ⟨hcm, hm⟩
  have := Nat.mod_eq_zero_of_dvd hm
  unfold paddedColumns
  omega

theorem paddedColumns_eq_self_iff {c : Nat} : paddedColumns c = c ↔ 4 ∣ c := by
  rw [Nat.dvd_iff_mod_eq_zero]
  unfold paddedColumns
  omega

/-- 切り上げで増えるのは 3 までなので、`usize` の最大値から 3 を引いたものより小さい列数では
あふれない。 -/
theorem paddedColumns_lt_wordLimit {c : Nat} (h : c < wordLimit - 3) : paddedColumns c < wordLimit := by
  unfold paddedColumns
  omega

theorem packedWidthWord_eq_ceilDiv {c : Nat} (h : c * 10 + 7 < wordLimit) :
    packedWidthWord (UInt64.ofNat c) = UInt64.ofNat (10 * c ⌈/⌉ 8) := by
  rw [packedWidthWord_ofNat h, packedWidth_eq_ceilDiv]

theorem packedWidth_of_dvd {c : Nat} (h : 4 ∣ c) : packedWidth c = 5 * c / 4 := by
  rw [packedWidth_of_mod (Nat.mod_eq_zero_of_dvd h)]
  omega

theorem unpack_padded_payload (c : Nat) {bytes : List UInt8}
    (h : bytes.length = packedWidth (paddedColumns c)) :
    Sample.unpack bytes = .ok (Sample.unpackGroups bytes) ∧
      (Sample.unpackGroups bytes).length = paddedColumns c := by
  have hp := paddedColumns_mod c
  rw [packedWidth_of_mod hp] at h
  refine ⟨Sample.unpack_of_mod (by omega), ?_⟩
  rw [Sample.length_unpackGroups, h]
  omega

/-- 列数の切り上げは `c` 以上で最小の 4 の倍数で、`2^64 - 3` 未満の列数ではあふれない。詰めたバイト数は
10 ビットの標本のビット数を 8 で割って切り上げたもので、列数が 4 の倍数なら列数の 5/4 倍である。
`10c + 7` が 64 ビットに収まれば `usize` の計算も同じ値になる。切り上げた列数の本体はどれも、長さの
確かめを通り、切り上げた列数の標本に開く。 -/
theorem paddedRows_unpack_whole_groups :
    (∀ c, c < wordLimit - 3 → paddedColumns c < wordLimit ∧
      IsLeast {m | c ≤ m ∧ 4 ∣ m} (paddedColumns c) ∧ (paddedColumns c = c ↔ 4 ∣ c)) ∧
    (∀ c, c * 10 + 7 < wordLimit → packedWidth c = 10 * c ⌈/⌉ 8 ∧
      packedWidthWord (UInt64.ofNat c) = UInt64.ofNat (10 * c ⌈/⌉ 8)) ∧
    (∀ c, 4 ∣ c → c * 10 + 7 < wordLimit → packedWidth c = 5 * c / 4 ∧
      packedWidthWord (UInt64.ofNat c) = UInt64.ofNat (5 * c / 4)) ∧
    (∀ (c : Nat) (bytes : List UInt8), bytes.length = packedWidth (paddedColumns c) →
      ∃ samples, Sample.unpack bytes = .ok samples ∧ samples.length = paddedColumns c) := by
  refine ⟨fun c h => ⟨paddedColumns_lt_wordLimit h, paddedColumns_isLeast c, paddedColumns_eq_self_iff⟩,
    fun c h => ⟨packedWidth_eq_ceilDiv c, packedWidthWord_eq_ceilDiv h⟩,
    fun c hd h => ⟨packedWidth_of_dvd hd, ?_⟩,
    fun c _ h => ⟨_, unpack_padded_payload c h⟩⟩
  rw [packedWidthWord_ofNat h, packedWidth_of_dvd hd]

end SeviriScene.LineLayout

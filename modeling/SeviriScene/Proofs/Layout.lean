import SeviriScene.File.Layout

/-!
# 配置の大きさの計算

`checkedTrailerOffset` は途中の値が 64 ビットに収まることを確かめながら末尾の始まりを求める。
確かめがすべて通るのは途中の値がどれも収まるとき（`SizesFit`）に限り、その値は確かめのない式
`trailerOffset` に等しい（`checkedTrailerOffset_eq_ok_iff`）。以後の証明は確かめのない式だけを使う。
-/

namespace SeviriScene.LineLayout

theorem fits_eq_some {n m : Nat} : fits n = some m ↔ n < wordLimit ∧ n = m := by
  unfold fits
  by_cases h : n < wordLimit <;> simp [h]

/-- 大きさの計算の途中の値がどれも 64 ビットに収まる。 -/
structure SizesFit (l : LineLayout) : Prop where
  visirPacked : l.visirColumns * 10 + 7 < wordLimit
  visirSubrecord : l.visirSubrecordSize < wordLimit
  hrvPacked : l.hasHrv → l.hrvColumns * 10 + 7 < wordLimit
  hrvSubrecord : l.hasHrv → l.hrvSubrecordSize < wordLimit
  hrvSublines : l.hasHrv → l.hrvSubrecordSize * hrvSublines < wordLimit
  visirPart : l.visirChannels * l.visirSubrecordSize < wordLimit
  record : l.recordSize < wordLimit
  data : l.dataSize < wordLimit
  trailer : l.dataSize + headerSize < wordLimit

theorem checkedPackedWidth_eq_some_iff {c w : Nat} :
    checkedPackedWidth c = some w ↔ c * 10 + 7 < wordLimit ∧ w = packedWidth c := by
  simp only [checkedPackedWidth, Option.bind_eq_bind, Option.bind_eq_some_iff, fits_eq_some,
    Option.pure_def, Option.some.injEq]
  constructor
  · rintro ⟨_, ⟨-, rfl⟩, _, ⟨h, rfl⟩, rfl⟩
    exact ⟨h, rfl⟩
  · rintro ⟨h, rfl⟩
    exact ⟨_, ⟨by omega, rfl⟩, _, ⟨h, rfl⟩, rfl⟩

theorem checkedDataEnd_eq_some_iff {l : LineLayout} {n : Nat} :
    l.checkedDataEnd = some n ↔ l.SizesFit ∧ n = l.trailerOffset := by
  have hv : packedWidth l.visirColumns + linePrefixSize = l.visirSubrecordSize := Nat.add_comm _ _
  have hh' : packedWidth l.hrvColumns + linePrefixSize = l.hrvSubrecordSize := Nat.add_comm _ _
  have ht : l.trailerOffset = l.dataSize + headerSize := Nat.add_comm _ _
  -- 確かめの連なりを、途中の値の上限の連言に開く。HRV がなければその三つの値は現れない
  cases hh : l.hasHrv
  · have hr : l.visirChannels * l.visirSubrecordSize = l.recordSize := by simp [recordSize, hh]
    simp only [checkedDataEnd, hh, Option.bind_eq_bind, Option.bind_eq_some_iff, fits_eq_some,
      Option.pure_def, Bool.false_eq_true, ↓reduceIte, Option.bind_some, checkedPackedWidth_eq_some_iff,
      and_assoc, exists_and_left, exists_eq_left, exists_eq_left', Nat.add_zero, hv, hr]
    constructor
    · rintro ⟨h1, h2, h3, -, h4, h5, rfl⟩
      exact ⟨⟨h1, h2, by simp [hh], by simp [hh], by simp [hh], by rwa [hr], h3, h4, h5⟩, ht.symm⟩
    · rintro ⟨hf, rfl⟩
      exact ⟨hf.visirPacked, hf.visirSubrecord, hf.record, hf.record, hf.data, hf.trailer, ht.symm⟩
  · have hr : l.visirChannels * l.visirSubrecordSize + l.hrvSubrecordSize * hrvSublines = l.recordSize := by
      simp [recordSize, hh, Nat.mul_comm]
    simp only [checkedDataEnd, hh, Option.bind_eq_bind, Option.bind_eq_some_iff, fits_eq_some,
      ↓reduceIte, checkedPackedWidth_eq_some_iff, and_assoc, exists_and_left, exists_eq_left,
      exists_eq_left', hv, hh', hr]
    constructor
    · rintro ⟨h1, h2, h3, h4, h5, h6, h7, h8, h9, rfl⟩
      exact ⟨⟨h1, h2, fun _ => h3, fun _ => h4, fun _ => h5, h6, h7, h8, h9⟩, ht.symm⟩
    · rintro ⟨hf, rfl⟩
      exact ⟨hf.1, hf.2, hf.3 hh, hf.4 hh, hf.5 hh, hf.6, hf.7, hf.8, hf.9, ht.symm⟩

theorem checkedTrailerOffset_eq_ok_iff {l : LineLayout} {n : Nat} :
    l.checkedTrailerOffset = .ok n ↔ l.SizesFit ∧ n = l.trailerOffset := by
  rw [← checkedDataEnd_eq_some_iff]
  unfold checkedTrailerOffset
  split <;> simp_all

theorem checkedTrailerOffset_eq_ok {l : LineLayout} {n : Nat} (h : l.checkedTrailerOffset = .ok n) :
    n = l.trailerOffset :=
  (checkedTrailerOffset_eq_ok_iff.mp h).2

/-- 切り上げた列数は 4 の倍数。 -/
theorem paddedColumns_mod (c : Nat) : paddedColumns c % 4 = 0 := by
  unfold paddedColumns
  omega

/-- 列数が 4 の倍数なら、詰めたバイト数は 4 列ごとに 5 バイトで、端数の切り上げはない。 -/
theorem packedWidth_of_mod {c : Nat} (h : c % 4 = 0) : packedWidth c = c / 4 * 5 := by
  unfold packedWidth
  omega

/-- 記録の長さは前置き部と本体の和なので、本体の長さは記録の長さから前置き部を引いたもの。 -/
@[simp] theorem visirSubrecordSize_sub (l : LineLayout) :
    l.visirSubrecordSize - linePrefixSize = l.visirPackedWidth := by
  simp [visirSubrecordSize]

@[simp] theorem hrvSubrecordSize_sub (l : LineLayout) :
    l.hrvSubrecordSize - linePrefixSize = l.hrvPackedWidth := by
  simp [hrvSubrecordSize]

end SeviriScene.LineLayout

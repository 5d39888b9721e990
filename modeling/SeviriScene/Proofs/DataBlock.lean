import SeviriScene.File.DataBlock
import SeviriScene.Proofs.Layout
import SeviriScene.Proofs.Outcome
import SeviriScene.Proofs.ByteFields

/-!
# データ部の記録の位置

`DataBlock.ofFile` が通るのは、配置の大きさの計算が 64 ビットに収まり、ファイルが末尾の始まり
`trailerOffset` まで届いているときに限る（`ofFile_eq_ok`）。届いていれば（`Spans`）、データ部の
中の行の、行の中にある記録はどれもファイルに収まり（`subRecordSpan_add_le`、`recordStart_add_le`）、
記録の本体は配置の決める長さを持つ（`payload_length`）。
-/

namespace SeviriScene.DataBlock

/-- ファイルがデータ部の終わりまで届いている。 -/
def Spans (d : DataBlock) : Prop :=
  d.layout.trailerOffset ≤ d.file.size

/-! ## ファイルの長さの確かめ -/

theorem ofFile_eq_ok {path : String} {file : ByteArray} {l : LineLayout} {d : DataBlock} :
    ofFile path file l = .ok d ↔
      l.checkedTrailerOffset = .ok l.trailerOffset ∧ l.trailerOffset ≤ file.size ∧ d = ⟨l, file⟩ := by
  constructor
  · intro h
    simp only [ofFile, Outcome.bind_eq_ok] at h
    obtain ⟨n, hn, h⟩ := h
    have hn' := LineLayout.checkedTrailerOffset_eq_ok hn
    subst hn'
    by_cases hs : file.size < l.trailerOffset
    · simp [hs] at h
    · simp only [hs, if_false] at h
      exact ⟨hn, by omega, (Except.ok.inj h).symm⟩
  · rintro ⟨hn, hs, rfl⟩
    simp [ofFile, hn, Nat.not_lt.mpr hs]

/-! ## 記録の位置と長さ -/

theorem length_slice {d : DataBlock} {off len : Nat} (h : off + len ≤ d.file.size) :
    (d.slice off len).length = len := by
  simp [slice]
  omega

/-- 行の中の記録は行の記録に収まる。 -/
theorem subRecordSpan_add_le {l : LineLayout} {sub : SubRecord} {off len : Nat}
    (h : subRecordSpan l sub = some (off, len)) : off + len ≤ l.recordSize := by
  cases sub with
  | visir slot =>
    simp only [subRecordSpan] at h
    split at h
    · cases h
      have hm := Nat.mul_le_mul_right l.visirSubrecordSize (show slot + 1 ≤ l.visirChannels by omega)
      simp only [LineLayout.recordSize, LineLayout.visirSubrecordOffset, Nat.succ_mul] at hm ⊢
      omega
    · cases h
  | hrv k =>
    simp only [subRecordSpan] at h
    split at h
    · cases h
      rename_i hk
      have hm := Nat.mul_le_mul_right l.hrvSubrecordSize (show k + 1 ≤ hrvSublines from hk.2)
      simp only [LineLayout.recordSize, LineLayout.hrvSubrecordOffset, hk.1, if_true,
        Nat.succ_mul] at hm ⊢
      omega
    · cases h

/-- データ部の中の行の記録は、データ部が届いているファイルに収まる。 -/
theorem recordStart_add_le {d : DataBlock} (hs : d.Spans) {line off len : Nat}
    (hl : line < d.layout.numberOfLines) (h : off + len ≤ d.layout.recordSize) :
    d.recordStart line + off + len ≤ d.file.size := by
  have hm := Nat.mul_le_mul_right d.layout.recordSize (show line + 1 ≤ d.layout.numberOfLines from hl)
  simp only [Spans, LineLayout.trailerOffset, LineLayout.dataSize] at hs
  simp only [recordStart, Nat.succ_mul] at hm ⊢
  rw [Nat.mul_comm d.layout.recordSize] at hs
  omega

/-! ## 記録の本体 -/

theorem payload_eq_ok {d : DataBlock} {line off len : Nat} {sub : SubRecord}
    (hl : line < d.layout.numberOfLines) (h : subRecordSpan d.layout sub = some (off, len)) :
    d.payload line sub = .ok ((d.slice (d.recordStart line + off) len).drop linePrefixSize) := by
  simp [payload, subRecord, checkLine, hl, h]

theorem payload_eq_error {d : DataBlock} {line : Nat} {sub : SubRecord}
    (hl : line < d.layout.numberOfLines) (h : subRecordSpan d.layout sub = none) :
    d.payload line sub = .error (.subRecordAbsent sub) := by
  simp [payload, subRecord, checkLine, hl, h]

/-- データ部が届いていれば、行の中にある記録の本体は記録の長さから前置き部を除いた長さを持つ。 -/
theorem payload_length {d : DataBlock} (hs : d.Spans) {line off len : Nat} {sub : SubRecord}
    (hl : line < d.layout.numberOfLines) (h : subRecordSpan d.layout sub = some (off, len)) :
    ∃ p, d.payload line sub = .ok p ∧ p.length = len - linePrefixSize := by
  refine ⟨_, payload_eq_ok hl h, ?_⟩
  rw [List.length_drop, length_slice (by have := recordStart_add_le hs hl (subRecordSpan_add_le h); omega)]

end SeviriScene.DataBlock

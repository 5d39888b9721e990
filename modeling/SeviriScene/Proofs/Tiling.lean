import SeviriScene.File.Writer
import SeviriScene.Proofs.DataBlock

/-!
# データ部の記録の敷き詰め

データ部の行 `i` の記録 `s` は、データ部の `i * recordSize + (s の行の中の位置)` から記録の長さだけを
占める（`LineLayout.blockSpan`）。行の中にある記録（書き出しの順の `LineLayout.subRecords`）のこの範囲を行の順に
並べると、データ部 `[0, dataSize)` を前から順に、重ならず隙間なく埋める（`LineLayout.tiles_blockSpans`）。

これによりデータ部の読み取りは、行と記録が範囲の中にあれば、写した領域のちょうどその範囲を読み、
外を読むことはない。そうでなければ処理の誤りを返す（`DataBlock.ReadsWithinBlock`）。
-/

namespace SeviriScene

/-! ## 範囲の敷き詰め -/

/-- 範囲（始まりと長さ）の並びが `[lo, hi)` を順に埋める：最初の範囲は `lo` から始まり、
どの範囲も前の範囲の終わりから始まり、最後の範囲は `hi` で終わる。 -/
def Tiles : Nat → List (Nat × Nat) → Nat → Prop
  | lo, [], hi => lo = hi
  | lo, r :: rs, hi => r.1 = lo ∧ Tiles (lo + r.2) rs hi

namespace Tiles

theorem append : ∀ {lo mid hi : Nat} {xs ys : List (Nat × Nat)},
    Tiles lo xs mid → Tiles mid ys hi → Tiles lo (xs ++ ys) hi
  | _, _, _, [], _, rfl, h => h
  | _, _, _, _ :: _, _, ⟨h1, h2⟩, h => ⟨h1, append h2 h⟩

/-- 幅 `w` の区画ごとに敷き詰めた並びをつなぐと、区画を並べた全体を敷き詰める。 -/
theorem flatMap_range {f : Nat → List (Nat × Nat)} {lo w : Nat} :
    ∀ {n : Nat}, (∀ i < n, Tiles (lo + i * w) (f i) (lo + (i + 1) * w)) →
      Tiles lo ((List.range n).flatMap f) (lo + n * w)
  | 0, _ => by simp [Tiles]
  | n + 1, h => by
    rw [List.range_succ, List.flatMap_append, List.flatMap_singleton]
    exact append (flatMap_range fun i hi => h i (by omega)) (h n (by omega))

/-- 同じ長さ `w` の範囲を `lo` から `n` 個続けて並べると、`[lo, lo + n * w)` を敷き詰める。 -/
theorem uniform {f : Nat → Nat × Nat} {lo w n : Nat} (hf : ∀ k < n, f k = (lo + k * w, w)) :
    Tiles lo ((List.range n).map f) (lo + n * w) := by
  rw [List.map_eq_flatMap]
  exact flatMap_range fun k hk => by
    simp only [Tiles, hf k hk, true_and]
    ring

/-- 敷き詰めの範囲はどれも `[lo, hi)` に収まる。 -/
theorem bounds : ∀ {lo hi : Nat} {rs : List (Nat × Nat)}, Tiles lo rs hi →
    ∀ r ∈ rs, lo ≤ r.1 ∧ r.1 + r.2 ≤ hi
  | _, _, [], _, _, hr => absurd hr List.not_mem_nil
  | lo, hi, r :: rs, ⟨h1, h2⟩, q, hq => by
    have hrest := bounds h2
    have hr : lo + r.2 ≤ hi := by
      cases rs with
      | nil => exact le_of_eq h2
      | cons r' rs' =>
        have := hrest r' List.mem_cons_self
        omega
    rcases List.mem_cons.mp hq with rfl | hq
    · omega
    · have := hrest q hq
      omega

/-- 敷き詰めの範囲は、どれも後のどの範囲の始まりより前に終わる。 -/
theorem pairwise : ∀ {lo hi : Nat} {rs : List (Nat × Nat)}, Tiles lo rs hi →
    rs.Pairwise (fun r s => r.1 + r.2 ≤ s.1)
  | _, _, [], _ => List.Pairwise.nil
  | _, _, _ :: _, ⟨h1, h2⟩ =>
    List.Pairwise.cons (fun s hs => by have := bounds h2 s hs; omega) (pairwise h2)

/-- `[lo, hi)` のどの位置も、敷き詰めのある範囲に入る。 -/
theorem cover : ∀ {lo hi : Nat} {rs : List (Nat × Nat)}, Tiles lo rs hi →
    ∀ x, lo ≤ x → x < hi → ∃ r ∈ rs, r.1 ≤ x ∧ x < r.1 + r.2
  | _, _, [], h, x, hx, hxh => by simp only [Tiles] at h; omega
  | lo, hi, r :: rs, ⟨h1, h2⟩, x, hx, hxh => by
    by_cases hlt : x < lo + r.2
    · exact ⟨r, List.mem_cons_self, by omega, by omega⟩
    · obtain ⟨q, hq, hq1, hq2⟩ := cover h2 x (by omega) hxh
      exact ⟨q, List.mem_cons_of_mem r hq, hq1, hq2⟩

end Tiles

namespace LineLayout

/-! ## 行の中の記録 -/

/-- 行の中の記録の位置と長さ。 -/
def lineSpan (l : LineLayout) : SubRecord → Nat × Nat
  | .visir k => (l.visirSubrecordOffset k, l.visirSubrecordSize)
  | .hrv k => (l.hrvSubrecordOffset k, l.hrvSubrecordSize)

/-- 行 `i` の記録 `s` がデータ部の中で占める範囲。 -/
def blockSpan (l : LineLayout) (i : Nat) (s : SubRecord) : Nat × Nat :=
  (i * l.recordSize + (l.lineSpan s).1, (l.lineSpan s).2)

/-- データ部の記録の範囲を、行の順、行の中では並びの順に並べたもの。 -/
def blockSpans (l : LineLayout) : List (Nat × Nat) :=
  (List.range l.numberOfLines).flatMap fun i => l.subRecords.map (l.blockSpan i)

variable {l : LineLayout}

@[simp] theorem visir_mem_subRecords {k : Nat} : .visir k ∈ l.subRecords ↔ k < l.visirChannels := by
  simp [subRecords]

@[simp] theorem hrv_mem_subRecords {k : Nat} : .hrv k ∈ l.subRecords ↔ l.hasHrv ∧ k < hrvSublines := by
  cases hh : l.hasHrv <;> simp [subRecords, hh]

theorem subRecordSpan_eq (l : LineLayout) (s : SubRecord) :
    DataBlock.subRecordSpan l s = if s ∈ l.subRecords then some (l.lineSpan s) else none := by
  cases s <;> simp [DataBlock.subRecordSpan, lineSpan]

/-- 一行の記録は行の記録の範囲を敷き詰める。 -/
theorem tiles_line (l : LineLayout) (i : Nat) :
    Tiles (i * l.recordSize) (l.subRecords.map (l.blockSpan i)) ((i + 1) * l.recordSize) := by
  -- VIS/IR の記録が行の始まりから、HRV の記録がそのあとに、それぞれ同じ長さで続く
  have hv : Tiles (i * l.recordSize) ((List.range l.visirChannels).map (l.blockSpan i ∘ .visir))
      (i * l.recordSize + l.visirChannels * l.visirSubrecordSize) :=
    Tiles.uniform fun k _ => by simp [blockSpan, lineSpan, visirSubrecordOffset]
  cases hh : l.hasHrv
  · have he : (i + 1) * l.recordSize = i * l.recordSize + l.visirChannels * l.visirSubrecordSize := by
      simp [recordSize, hh, Nat.succ_mul]
    simpa [subRecords, hh, he] using hv
  · have hr : Tiles (i * l.recordSize + l.visirChannels * l.visirSubrecordSize)
        ((List.range hrvSublines).map (l.blockSpan i ∘ .hrv))
        (i * l.recordSize + l.visirChannels * l.visirSubrecordSize + hrvSublines * l.hrvSubrecordSize) :=
      Tiles.uniform fun k _ => by simp [blockSpan, lineSpan, hrvSubrecordOffset, Nat.add_assoc]
    have he : (i + 1) * l.recordSize =
        i * l.recordSize + l.visirChannels * l.visirSubrecordSize + hrvSublines * l.hrvSubrecordSize := by
      simp only [recordSize, hh, if_true, Nat.succ_mul]
      ring
    simpa [subRecords, hh, he] using Tiles.append hv hr

/-- 3 つの VIS/IR のチャンネルと HRV の配置では、行の中の記録は 0、80、160 から 80 バイト、
240、345、450 から 105 バイト。 -/
example :
    (LineLayout.mk 3 12 8 true 32 24 false).subRecords.map (LineLayout.mk 3 12 8 true 32 24 false).lineSpan =
      [(0, 80), (80, 80), (160, 80), (240, 105), (345, 105), (450, 105)] := by
  decide

/-! ## データ部 -/

theorem tiles_blockSpans (l : LineLayout) : Tiles 0 l.blockSpans l.dataSize := by
  have h := @Tiles.flatMap_range (fun i => l.subRecords.map (l.blockSpan i)) 0 l.recordSize
    l.numberOfLines fun i _ => by simpa using l.tiles_line i
  simpa [blockSpans, dataSize, Nat.mul_comm] using h

theorem blockSpan_mem {i : Nat} {s : SubRecord} (hi : i < l.numberOfLines) (hs : s ∈ l.subRecords) :
    l.blockSpan i s ∈ l.blockSpans :=
  List.mem_flatMap.mpr ⟨i, List.mem_range.mpr hi, List.mem_map_of_mem hs⟩

theorem blockSpan_end_le {i : Nat} {s : SubRecord} (hi : i < l.numberOfLines) (hs : s ∈ l.subRecords) :
    (l.blockSpan i s).1 + (l.blockSpan i s).2 ≤ l.dataSize :=
  (l.tiles_blockSpans.bounds _ (blockSpan_mem hi hs)).2

theorem record_end_le {i : Nat} (hi : i < l.numberOfLines) : (i + 1) * l.recordSize ≤ l.dataSize := by
  rw [dataSize, Nat.mul_comm l.recordSize]
  exact Nat.mul_le_mul_right l.recordSize hi

end LineLayout

namespace DataBlock

open Bytes LineLayout

/-- 写したデータ部：ファイルのヘッダーのあとの `dataSize` バイト。 -/
def block (d : DataBlock) : List UInt8 :=
  d.slice headerSize d.layout.dataSize

variable {d : DataBlock}

theorem length_block (hs : d.Spans) : d.block.length = d.layout.dataSize :=
  length_slice hs

theorem slice_eq_window {off len : Nat} (h : off + len ≤ d.layout.dataSize) :
    d.slice (headerSize + off) len = window d.block off len := by
  simp only [slice, block, window, toList_extract, List.drop_take, List.drop_drop, List.take_take]
  congr 1
  omega

theorem record_eq (i : Nat) :
    d.record i =
      if i < d.layout.numberOfLines then .ok (window d.block (i * d.layout.recordSize) d.layout.recordSize)
      else .error (.lineOutOfRange i d.layout.numberOfLines) := by
  unfold record checkLine
  split_ifs with hi
  · have hend : i * d.layout.recordSize + d.layout.recordSize ≤ d.layout.dataSize := by
      rw [← Nat.succ_mul]
      exact record_end_le hi
    rw [recordStart, ← slice_eq_window hend]
    rfl
  · rfl

/-- 行 `i` の記録 `s` の範囲にあるデータ部のバイト。 -/
def spanBytes (d : DataBlock) (i : Nat) (s : SubRecord) : List UInt8 :=
  window d.block (d.layout.blockSpan i s).1 (d.layout.blockSpan i s).2

theorem subRecord_eq (i : Nat) (s : SubRecord) :
    d.subRecord i s =
      if i < d.layout.numberOfLines then
        if s ∈ d.layout.subRecords then .ok (d.spanBytes i s) else .error (.subRecordAbsent s)
      else .error (.lineOutOfRange i d.layout.numberOfLines) := by
  unfold subRecord checkLine
  split_ifs with hi hs
  · have hend := blockSpan_end_le hi hs
    rw [subRecordSpan_eq, if_pos hs, spanBytes]
    rcases hsp : d.layout.lineSpan s with ⟨off, len⟩
    simp only [blockSpan, hsp] at hend ⊢
    rw [← slice_eq_window hend, recordStart, Nat.add_assoc]
    rfl
  · rw [subRecordSpan_eq, if_neg hs]
    rfl
  · rfl

theorem payload_eq (i : Nat) (s : SubRecord) :
    d.payload i s =
      if i < d.layout.numberOfLines then
        if s ∈ d.layout.subRecords then .ok ((d.spanBytes i s).drop linePrefixSize)
        else .error (.subRecordAbsent s)
      else .error (.lineOutOfRange i d.layout.numberOfLines) := by
  rw [payload, subRecord_eq]
  split_ifs <;> rfl

theorem lineHeader_eq (i : Nat) (s : SubRecord) :
    d.lineHeader i s =
      if i < d.layout.numberOfLines then
        if s ∈ d.layout.subRecords then LineHeader.decode (d.spanBytes i s) else .error (.subRecordAbsent s)
      else .error (.lineOutOfRange i d.layout.numberOfLines) := by
  rw [lineHeader, subRecord_eq]
  split_ifs <;> rfl

/-- データ部の読み取りは写した領域の中にとどまる：行が範囲の中で記録が行の中にあれば、どの読み取りも
データ部のその範囲のバイトを返し（本体は前置き部を除く）、そうでなければ処理の誤りを返す。 -/
structure ReadsWithinBlock (d : DataBlock) : Prop where
  length_block : d.block.length = d.layout.dataSize
  record_end : ∀ i < d.layout.numberOfLines, (i + 1) * d.layout.recordSize ≤ d.layout.dataSize
  span_end : ∀ i < d.layout.numberOfLines, ∀ s ∈ d.layout.subRecords,
    (d.layout.blockSpan i s).1 + (d.layout.blockSpan i s).2 ≤ d.layout.dataSize
  record : ∀ i, d.record i =
    if i < d.layout.numberOfLines then .ok (window d.block (i * d.layout.recordSize) d.layout.recordSize)
    else .error (.lineOutOfRange i d.layout.numberOfLines)
  payload : ∀ i s, d.payload i s =
    if i < d.layout.numberOfLines then
      if s ∈ d.layout.subRecords then .ok ((d.spanBytes i s).drop linePrefixSize)
      else .error (.subRecordAbsent s)
    else .error (.lineOutOfRange i d.layout.numberOfLines)
  lineHeader : ∀ i s, d.lineHeader i s =
    if i < d.layout.numberOfLines then
      if s ∈ d.layout.subRecords then LineHeader.decode (d.spanBytes i s) else .error (.subRecordAbsent s)
    else .error (.lineOutOfRange i d.layout.numberOfLines)

theorem readsWithinBlock_of_spans (hs : d.Spans) : d.ReadsWithinBlock :=
  ⟨length_block hs, fun _ => record_end_le, fun _ hi _ => blockSpan_end_le hi, record_eq, payload_eq,
    lineHeader_eq⟩

end DataBlock

/-- 大きさの計算が通る配置では、行の中の記録はデータ部を順に重ならず隙間なく埋め、データ部は
ヘッダーのすぐあとから末尾の始まりまでを占める。そのファイルを開いて得たデータ部の読み取りは、
どれも写した領域の中のちょうどその記録の範囲を読む。 -/
theorem subRecords_tile_dataBlock (l : LineLayout) (n : Nat) (hn : l.checkedTrailerOffset = .ok n) :
    Tiles 0 l.blockSpans l.dataSize ∧ l.blockSpans.Pairwise (fun r s => r.1 + r.2 ≤ s.1) ∧
    (∀ x < l.dataSize, ∃ r ∈ l.blockSpans, r.1 ≤ x ∧ x < r.1 + r.2) ∧ headerSize + l.dataSize = n ∧
    ∀ path file d, DataBlock.ofFile path file l = .ok d → d.ReadsWithinBlock := by
  have ht := l.tiles_blockSpans
  refine ⟨ht, ht.pairwise, fun x hx => ht.cover x (Nat.zero_le x) hx,
    (LineLayout.checkedTrailerOffset_eq_ok hn).symm, fun path file d hd => ?_⟩
  obtain ⟨-, hsize, rfl⟩ := DataBlock.ofFile_eq_ok.mp hd
  exact DataBlock.readsWithinBlock_of_spans hsize

/-- 3 つの VIS/IR のチャンネルと HRV、8 行の配置では、記録は 4440 バイトのデータ部を埋める。 -/
theorem subRecords_tile_dataBlock_roi :
    (LineLayout.mk 3 12 8 true 32 24 false).checkedTrailerOffset = .ok 7352 ∧
      Tiles 0 (LineLayout.mk 3 12 8 true 32 24 false).blockSpans 4440 := by
  have h := subRecords_tile_dataBlock (LineLayout.mk 3 12 8 true 32 24 false) 7352 rfl
  exact ⟨rfl, h.1⟩

end SeviriScene

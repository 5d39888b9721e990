import SeviriScene.File.Writer
import SeviriScene.Proofs.ChunkedRead
import SeviriScene.Proofs.OpenFile
import SeviriScene.Proofs.ChannelSelection

/-!
# 書いたファイルを開いて読む

データ部の書き手 `encodeDataBlock` は行を外側に回し、各行の中で、ある VIS/IR のチャンネルの記録を
表の順に、HRV があればその 3 本の副走査線の記録を続けて書く。ここではこの並びが、読み手の位置の
計算（`DataBlock.subRecordSpan` と `LineLayout.trailerOffset`）と一致することを示す。

書いたデータ部の中の行 `i` の記録 `s` の窓は、その記録として書いたバイト列である（`window_dataBytes`）。
ヘッダー、データ部、末尾をつないだファイル `sceneBytes` は、ヘッダーの時刻が CDS で表せ、帯域の
選択が欄からそのまま読み戻せる限り開け、各チャンネルの画像として、書いた標本の下位 10 ビットを
返す（`load_sceneBytes`）。

帯域の選択への条件は外せない。先頭が NUL の 12 文字の選択は書けるが、欄から読むときに NUL が
取り除かれて 11 文字になり、ファイルは開けない（`load_sceneBytes_nulSelection`）。
-/

namespace SeviriScene

open Bytes

/-! ## バイト配列とバイト列 -/

theorem toList_byteArray_append (a b : ByteArray) : (a ++ b).toList = a.toList ++ b.toList := by
  simp [ByteArray.data_append]

theorem toList_ofList (l : List UInt8) : (ByteArray.mk l.toArray).toList = l := by
  simp

theorem toList_foldl {α : Type} (g : ByteArray → α → ByteArray) (f : α → List UInt8)
    (hg : ∀ acc x, (g acc x).toList = acc.toList ++ f x) (l : List α) (acc : ByteArray) :
    (l.foldl g acc).toList = acc.toList ++ l.flatMap f := by
  induction l generalizing acc with
  | nil => simp
  | cons x l ih => rw [List.foldl_cons, ih, hg, List.flatMap_cons, List.append_assoc]

/-! ## 記録の前置き部と本体 -/

namespace LineHeader

theorem length_flatMap_words {n : Nat} (v : Vector UInt16 n) :
    (v.toList.flatMap fun w => ofNat 2 w.toNat).length = 2 * n := by
  rw [length_flatMap_of_length_eq fun w _ => length_ofNat 2 w.toNat, Vector.length_toList]

@[simp] theorem length_encode (h : LineHeader) : h.encode.length = linePrefixSize := by
  simp only [encode, List.length_append, List.length_replicate, List.length_cons, List.length_nil,
    length_ofNat, length_flatMap_words]
  rfl

end LineHeader

theorem length_packRow (samples : List UInt16) (width : Nat) : (packRow samples width).length = width := by
  simp [packRow, length_padTo _ _ (List.length_take_le _ _)]

theorem packRow_of_length {samples : List UInt16} {c : Nat} (hl : samples.length = c) (hc : c % 4 = 0) :
    packRow samples (packedWidth c) = Sample.packGroups samples := by
  have hp : (Sample.packGroups samples).length = packedWidth c := by
    rw [Sample.length_packGroups, LineLayout.packedWidth_of_mod hc, hl]
  have hz : (4 - samples.length % 4) % 4 = 0 := by rw [hl, hc]
  simp only [packRow, hz, List.replicate_zero, List.append_nil]
  rw [List.take_of_length_le (Nat.le_of_eq hp), padTo, hp, Nat.sub_self, List.replicate_zero, List.append_nil]

/-- 詰めた本体は、開くと標本の下位 10 ビットに戻る。 -/
theorem unpack_packRow {samples : List UInt16} {c : Nat} (hl : samples.length = c) (hc : c % 4 = 0) :
    Sample.unpack (packRow samples (packedWidth c)) = .ok (samples.map (· % 1024)) := by
  have h4 : samples.length % 4 = 0 := by rw [hl]; exact hc
  have h5 : (Sample.packGroups samples).length % 5 = 0 := by
    rw [Sample.length_packGroups]
    exact Nat.mul_mod_left _ _
  rw [packRow_of_length hl hc, Sample.unpack_of_mod h5, Sample.unpackGroups_packGroups h4]

/-! ## データ部の並び -/

section Writer

variable (l : LineLayout) (header : Nat → SubRecord → LineHeader) (row : Nat → SubRecord → List UInt16)

/-- 行 `i` の記録 `s` として書くバイト列：前置き部と、標本を詰めた本体。 -/
def subRecordBytes (i : Nat) (s : SubRecord) : List UInt8 :=
  (header i s).encode ++ packRow (row i s) (l.payloadWidth s)

/-- 行 `i` として書くバイト列。 -/
def lineBytes (i : Nat) : List UInt8 :=
  l.subRecords.flatMap (subRecordBytes l header row i)

theorem toList_encodeDataBlock :
    (encodeDataBlock l header row).toList = (List.range l.numberOfLines).flatMap (lineBytes l header row) := by
  rw [encodeDataBlock, toList_foldl _ (lineBytes l header row), ByteArray.toList_empty, List.nil_append]
  intro acc i
  rw [toList_foldl _ (subRecordBytes l header row i)]
  · rfl
  · intro acc s
    rw [toList_byteArray_append, toList_ofList ((header i s).encode ++ packRow (row i s) (l.payloadWidth s))]
    rfl

theorem length_subRecordBytes_visir (i k : Nat) :
    (subRecordBytes l header row i (.visir k)).length = l.visirSubrecordSize := by
  rw [subRecordBytes, List.length_append, LineHeader.length_encode, length_packRow]
  rfl

theorem length_subRecordBytes_hrv (i k : Nat) :
    (subRecordBytes l header row i (.hrv k)).length = l.hrvSubrecordSize := by
  rw [subRecordBytes, List.length_append, LineHeader.length_encode, length_packRow]
  rfl

theorem length_lineBytes (i : Nat) : (lineBytes l header row i).length = l.recordSize := by
  rw [lineBytes, LineLayout.subRecords, List.flatMap_append, List.flatMap_map, List.length_append,
    length_flatMap_of_length_eq fun k _ => length_subRecordBytes_visir l header row i k, List.length_range,
    LineLayout.recordSize]
  cases l.hasHrv with
  | false => simp [Nat.mul_comm]
  | true =>
    rw [if_pos rfl, if_pos rfl, List.flatMap_map,
      length_flatMap_of_length_eq fun k _ => length_subRecordBytes_hrv l header row i k, List.length_range,
      Nat.mul_comm l.visirSubrecordSize, Nat.mul_comm l.hrvSubrecordSize]

theorem length_dataBytes :
    ((List.range l.numberOfLines).flatMap (lineBytes l header row)).length = l.dataSize := by
  rw [length_flatMap_of_length_eq fun i _ => length_lineBytes l header row i, List.length_range]
  rfl

theorem window_lineBytes {i off len : Nat} {s : SubRecord} (h : DataBlock.subRecordSpan l s = some (off, len)) :
    window (lineBytes l header row i) off len = subRecordBytes l header row i s := by
  have hv : ∀ k ∈ List.range l.visirChannels,
      (subRecordBytes l header row i (.visir k)).length = l.visirSubrecordSize :=
    fun k _ => length_subRecordBytes_visir l header row i k
  have hh : ∀ k ∈ List.range hrvSublines,
      (subRecordBytes l header row i (.hrv k)).length = l.hrvSubrecordSize :=
    fun k _ => length_subRecordBytes_hrv l header row i k
  rw [lineBytes, LineLayout.subRecords, List.flatMap_append, List.flatMap_map]
  cases s with
  | visir slot =>
    simp only [DataBlock.subRecordSpan] at h
    split at h
    · rename_i hslot
      cases h
      -- VIS/IR の部分の中の、`slot` 番目の塊
      rw [window_append_of_add_le (by
          rw [length_flatMap_of_length_eq hv, List.length_range, LineLayout.visirSubrecordOffset,
            Nat.mul_comm l.visirSubrecordSize]
          have := Nat.mul_le_mul_right l.visirSubrecordSize (show slot + 1 ≤ l.visirChannels from hslot)
          rw [Nat.succ_mul] at this
          omega),
        LineLayout.visirSubrecordOffset, Nat.mul_comm, ← Nat.add_zero (l.visirSubrecordSize * slot),
        ← List.append_nil ((List.range l.visirChannels).flatMap _),
        window_flatMap hv [] (by simpa using hslot) (by omega), List.getElem_range]
      rw [window, List.drop_zero, List.take_of_length_le (Nat.le_of_eq (hv slot (by simpa using hslot)))]
    · cases h
  | hrv k =>
    simp only [DataBlock.subRecordSpan] at h
    split at h
    · rename_i hk
      cases h
      rw [if_pos hk.1, List.flatMap_map]
      -- VIS/IR の部分を飛ばした、HRV の部分の `k` 番目の塊
      rw [window_append_of_le (by
          rw [length_flatMap_of_length_eq hv, List.length_range, LineLayout.hrvSubrecordOffset,
            Nat.mul_comm]
          omega),
        length_flatMap_of_length_eq hv, List.length_range, LineLayout.hrvSubrecordOffset,
        Nat.mul_comm l.visirSubrecordSize, Nat.add_sub_cancel_left, Nat.mul_comm,
        ← Nat.add_zero (l.hrvSubrecordSize * k), ← List.append_nil ((List.range hrvSublines).flatMap _),
        window_flatMap hh [] (by simpa using hk.2) (by omega), List.getElem_range]
      rw [window, List.drop_zero, List.take_of_length_le (Nat.le_of_eq (hh k (by simpa using hk.2)))]
    · cases h

/-- データ部の中の行 `i` の記録 `s` の窓は、その記録として書いたバイト列である。 -/
theorem window_dataBytes {i off len : Nat} {s : SubRecord} (hi : i < l.numberOfLines)
    (h : DataBlock.subRecordSpan l s = some (off, len)) (rest : List UInt8) :
    window ((List.range l.numberOfLines).flatMap (lineBytes l header row) ++ rest) (i * l.recordSize + off) len =
      subRecordBytes l header row i s := by
  rw [Nat.mul_comm, window_flatMap (fun x _ => length_lineBytes l header row x) rest (by simpa using hi)
      (DataBlock.subRecordSpan_add_le h),
    List.getElem_range, window_lineBytes l header row h]

/-! ## ヘッダー、データ部、末尾をつないだファイル -/

/-- ヘッダーのバイト列 `hb`、配置 `l` に従って書いたデータ部、末尾のバイト列 `tb` をつないだファイル。 -/
def sceneBytes (hb : List UInt8) (tb : List UInt8) : ByteArray :=
  ⟨hb.toArray⟩ ++ encodeDataBlock l header row ++ ⟨tb.toArray⟩

variable {hb tb : List UInt8}

theorem toList_sceneBytes :
    (sceneBytes l header row hb tb).toList =
      hb ++ ((List.range l.numberOfLines).flatMap (lineBytes l header row) ++ tb) := by
  rw [sceneBytes, toList_byteArray_append, toList_byteArray_append, toList_ofList hb, toList_ofList tb,
    toList_encodeDataBlock, List.append_assoc]

theorem size_sceneBytes (hh : hb.length = headerSize) (ht : tb.length = trailerSize) :
    (sceneBytes l header row hb tb).size = l.trailerOffset + trailerSize := by
  rw [← length_byteArray_toList, toList_sceneBytes, List.length_append, List.length_append,
    length_dataBytes, hh, ht, LineLayout.trailerOffset, Nat.add_assoc]

theorem drop_trailerOffset_sceneBytes (hh : hb.length = headerSize) :
    (sceneBytes l header row hb tb).toList.drop l.trailerOffset = tb := by
  rw [toList_sceneBytes, LineLayout.trailerOffset, ← hh, ← List.drop_drop, List.drop_left' rfl,
    List.drop_left' (length_dataBytes l header row)]

theorem spans_sceneBytes (hh : hb.length = headerSize) (ht : tb.length = trailerSize) :
    (DataBlock.mk l (sceneBytes l header row hb tb)).Spans := by
  show l.trailerOffset ≤ (sceneBytes l header row hb tb).size
  rw [size_sceneBytes l header row hh ht]
  exact Nat.le_add_right _ _

theorem payload_sceneBytes (hh : hb.length = headerSize) {i off len : Nat} {s : SubRecord}
    (hi : i < l.numberOfLines) (h : DataBlock.subRecordSpan l s = some (off, len)) :
    (DataBlock.mk l (sceneBytes l header row hb tb)).payload i s = .ok (packRow (row i s) (l.payloadWidth s)) := by
  rw [DataBlock.payload_eq_ok hi h, DataBlock.slice, toList_extract, Nat.add_sub_cancel_left, toList_sceneBytes,
    ← window, window_append_of_le (by simp only [DataBlock.recordStart, hh]; omega)]
  simp only [DataBlock.recordStart, hh, Nat.add_assoc, Nat.add_sub_cancel_left]
  rw [window_dataBytes l header row hi h, subRecordBytes, List.drop_left' (LineHeader.length_encode _)]

/-- どの行の VIS/IR の記録にも、標本が VIS/IR の列数だけある。 -/
def VisirRowsFit : Prop :=
  ∀ i < l.numberOfLines, ∀ slot < l.visirChannels, (row i (.visir slot)).length = l.visirColumns

/-- どの行の HRV の副走査線の記録にも、標本が HRV の列数だけある。 -/
def HrvRowsFit : Prop :=
  ∀ i < l.numberOfLines, ∀ k < hrvSublines, (row i (.hrv k)).length = l.hrvColumns

/-- 書いたファイルから読んだ VIS/IR の `slot` 番目のチャンネルの画像は、各行に書いた標本の下位 10 ビット。 -/
theorem readVisir_sceneBytes (hh : hb.length = headerSize) (ht : tb.length = trailerSize)
    (hc : l.visirColumns % 4 = 0) (hfit : VisirRowsFit l row) {slot : Nat} (hslot : slot < l.visirChannels)
    (chunkLines : Nat) :
    (DataBlock.mk l (sceneBytes l header row hb tb)).readVisir slot chunkLines =
      .ok ((List.range l.numberOfLines).map fun i => (row i (.visir slot)).map (· % 1024)) := by
  rw [DataBlock.readVisir_eq (spans_sceneBytes l header row hh ht), if_neg (by simpa using hc),
    if_pos hslot, DataBlock.rowImage]
  apply Outcome.mapM_eq_ok_map
  intro i hi
  have hi' := List.mem_range.mp hi
  have hspan : DataBlock.subRecordSpan l (.visir slot) =
      some (l.visirSubrecordOffset slot, l.visirSubrecordSize) := by
    simp [DataBlock.subRecordSpan, hslot]
  rw [payload_sceneBytes l header row hh hi' hspan, Outcome.ok_bind]
  exact unpack_packRow (hfit i hi' slot hslot) hc

/-- 書いたファイルから読んだ HRV の画像は、行 `3i + k` が、行 `i` の `k` 本目の副走査線に書いた
標本の下位 10 ビット。 -/
theorem readHrv_sceneBytes (hh : hb.length = headerSize) (ht : tb.length = trailerSize)
    (hhrv : l.hasHrv = true) (hn : l.hrvNumberOfLines = l.numberOfLines * hrvSublines) (hc : l.hrvColumns % 4 = 0)
    (hrows : HrvRowsFit l row) (chunkLines : Nat) :
    (DataBlock.mk l (sceneBytes l header row hb tb)).readHrv chunkLines =
      .ok ((List.range (l.numberOfLines * hrvSublines)).map fun r =>
        (row (r / hrvSublines) (.hrv (r % hrvSublines))).map (· % 1024)) := by
  rw [DataBlock.readHrv_eq (spans_sceneBytes l header row hh ht)]
  simp only [hhrv, Bool.not_true, Bool.false_eq_true, if_false, hn, ne_eq, not_true_eq_false, hc]
  rw [DataBlock.rowImage]
  apply Outcome.mapM_eq_ok_map
  intro r hr
  have hr' := List.mem_range.mp hr
  have hsub : hrvSublines = 3 := rfl
  have hi : r / hrvSublines < l.numberOfLines := by
    rw [hsub] at hr' ⊢
    omega
  have hk : r % hrvSublines < hrvSublines := Nat.mod_lt _ (by decide)
  have hspan : DataBlock.subRecordSpan l (.hrv (r % hrvSublines)) =
      some (l.hrvSubrecordOffset (r % hrvSublines), l.hrvSubrecordSize) := by
    simp [DataBlock.subRecordSpan, hhrv, hk]
  rw [payload_sceneBytes l header row hh hi hspan, Outcome.ok_bind]
  exact unpack_packRow (hrows _ hi _ hk) hc

end Writer

/-! ## チャンネルの記録の位置 -/

/-- 集合にある VIS/IR のチャンネルは、行の中の VIS/IR の記録の数より小さい位置を持つ。 -/
theorem ChannelSet.exists_visirPosition {s : ChannelSet} {c : Channel} (hm : s.mem c = true)
    (hh : c.isHrv = false) : ∃ slot, s.visirPosition c = some slot ∧ slot < s.visirChannels.length := by
  have hslot := ChannelSet.visirPosition_eq_some_iff.mpr ⟨hm, hh, rfl⟩
  exact ⟨_, hslot, ChannelSet.visirPosition_lt_length hslot⟩

/-- 配置は型のついた欄だけから決まるので、読み戻したヘッダーからも同じ配置が決まる。 -/
theorem LineLayout.resolve_readBack (h : FileHeader) (cs : ChannelSet) :
    LineLayout.resolve h.readBack cs = LineLayout.resolve h cs := rfl

/-! ## 書いたファイルを開く -/

section Open

variable {h : FileHeader} {L : LineLayout} {header : Nat → SubRecord → LineHeader}
  {row : Nat → SubRecord → List UInt16} {hb tb : List UInt8}

theorem decode_sceneBytes (hh : h.TimesInCdsRange) (he : h.encode = .ok hb) :
    FileHeader.decode (sceneBytes L header row hb tb).toList = .ok h.readBack := by
  obtain ⟨hb', he', hbl, hd⟩ := FileHeader.decode_encode hh
  obtain rfl : hb = hb' := Except.ok.inj (he.symm.trans he')
  rw [← FileHeader.decode_take, toList_sceneBytes, List.take_left' hbl]
  exact hd

/-- 書いたヘッダーの帯域の選択が、欄から読み戻すと選択として読めなければ、そのファイルは開けず、
選択の誤りが返る。 -/
theorem load_sceneBytes_of_selection (hh : h.TimesInCdsRange) (he : h.encode = .ok hb) {e : Fault}
    (hsel : ChannelSet.ofSelection (Text.fieldValue h.selectedBandIds) = .error e) {config : ReaderConfig}
    (hc : 0 < config.chunkLines) (path : String) :
    Scene.load path (some (sceneBytes L header row hb tb)) config = .error e :=
  Scene.load_of_ofSelection_error hc (decode_sceneBytes hh he) hsel

end Open

/-- 時刻が CDS で表せ、帯域の選択が欄からそのまま読み戻せる文字列で、衛星番号が既知で配置 `L` が
決まるヘッダー `h` と、時刻が CDS で表せる末尾 `t` を書いたファイルは整っている。読み戻したヘッダーも
同じ集合と配置を与える。 -/
theorem consistent_sceneBytes {h : FileHeader} {t : Trailer} {cs : ChannelSet} {L : LineLayout}
    (hh : h.TimesInCdsRange) (hsel : Text.PlainText h.selectedBandIds)
    (hcs : ChannelSet.ofSelection h.selectedBandIds = .ok cs)
    (hsat : 321 ≤ h.satelliteId.toNat ∧ h.satelliteId.toNat ≤ 324) (hL : LineLayout.resolve h cs = .ok L)
    (ht : t.TimesInCdsRange) (header : Nat → SubRecord → LineHeader) (row : Nat → SubRecord → List UInt16)
    {hb tb : List UInt8} (he : h.encode = .ok hb) (hte : t.encode = .ok tb) :
    Scene.Consistent (sceneBytes L header row hb tb).toList h.readBack cs L := by
  obtain ⟨tb', hte', htl, -⟩ := Trailer.decode_encode ht
  obtain rfl : tb = tb' := Except.ok.inj (hte.symm.trans hte')
  -- 帯域の選択はそのまま読み戻せる文字列なので、読み戻したヘッダーも同じ集合と配置を与える
  have hfield : Text.fieldValue h.selectedBandIds = h.selectedBandIds :=
    Text.fieldValue_of_plainText hsel (by rw [ChannelSet.length_of_ofSelection hcs]; decide)
  have hcs' : ChannelSet.ofSelection h.readBack.selectedBandIds = .ok cs := by
    show ChannelSet.ofSelection (Text.fieldValue h.selectedBandIds) = _
    rw [hfield, hcs]
  have hL' : LineLayout.resolve h.readBack cs = .ok L := by
    rw [LineLayout.resolve_readBack]
    exact hL
  exact ⟨decode_sceneBytes hh he, hcs', hsat, hL', by
    rw [length_byteArray_toList, size_sceneBytes L header row (FileHeader.length_of_encode_eq_ok he) htl]⟩

/-- 時刻が CDS で表せ、帯域の選択が欄からそのまま読み戻せる文字列で、衛星番号が既知で配置 `L` が
決まるヘッダー `h` と、時刻が CDS で表せる末尾 `t` を、配置に合った標本の行とともに書いたファイルは
開ける。開いた場面のヘッダーと末尾は読み戻したもの、チャンネルの集合と配置は書いたときのもので、
各 VIS/IR のチャンネルの画像はその位置の記録に書いた標本の、HRV の画像は副走査線の順に並べた
標本の、下位 10 ビットである。 -/
theorem load_sceneBytes {h : FileHeader} {t : Trailer} {cs : ChannelSet} {L : LineLayout}
    (hh : h.TimesInCdsRange) (hsel : Text.PlainText h.selectedBandIds)
    (hcs : ChannelSet.ofSelection h.selectedBandIds = .ok cs)
    (hsat : 321 ≤ h.satelliteId.toNat ∧ h.satelliteId.toNat ≤ 324) (hL : LineLayout.resolve h cs = .ok L)
    (ht : t.TimesInCdsRange) (header : Nat → SubRecord → LineHeader) (row : Nat → SubRecord → List UInt16)
    (hfit : VisirRowsFit L row) {config : ReaderConfig} (hc : 0 < config.chunkLines) (path : String) :
    ∃ hb tb, h.encode = .ok hb ∧ t.encode = .ok tb ∧
      ∃ s, Scene.load path (some (sceneBytes L header row hb tb)) config = .ok s ∧
        s.header = h.readBack ∧ s.channels = cs ∧ s.layout = L ∧ s.trailer = t.readBack ∧
        (∀ c, cs.mem c = true → c.isHrv = false → ∃ slot, cs.visirPosition c = some slot ∧
          s.readCounts c = .ok ((List.range L.numberOfLines).map fun i => (row i (.visir slot)).map (· % 1024))) ∧
        (cs.hasHrv = true → L.hrvColumns % 4 = 0 → HrvRowsFit L row →
          L.hrvNumberOfLines = L.numberOfLines * hrvSublines → s.readCounts .hrv = .ok ((List.range (L.numberOfLines * hrvSublines)).map fun r =>
            (row (r / hrvSublines) (.hrv (r % hrvSublines))).map (· % 1024))) := by
  obtain ⟨hb, he, hbl, -⟩ := FileHeader.decode_encode hh
  obtain ⟨tb, hte, htl, htd⟩ := Trailer.decode_encode ht
  refine ⟨hb, tb, he, hte, ?_⟩
  have hcon := consistent_sceneBytes hh hsel hcs hsat hL ht header row he hte
  obtain ⟨s, hs, hsh, hsc, hsl, hsd, hst⟩ := @Scene.load_of_consistent path _ config hc _ _ _ hcon
  have htrail : s.trailer = t.readBack := by
    rw [drop_trailerOffset_sceneBytes L header row hbl, htd] at hst
    exact (Except.ok.inj hst).symm
  obtain ⟨columns, rows, lines, hrv, hLeq, -⟩ := LineLayout.exists_of_resolve hL
  refine ⟨s, hs, hsh, hsc, hsl, htrail, ?_, ?_⟩
  · -- VIS/IR のチャンネルは、その位置の記録から読まれる
    intro c hm hhrv
    obtain ⟨slot, hpos, hlt⟩ := ChannelSet.exists_visirPosition hm hhrv
    have hslot : slot < L.visirChannels := by
      rw [hLeq]
      exact hlt
    have hcol : L.visirColumns % 4 = 0 := by
      rw [hLeq]
      exact LineLayout.paddedColumns_mod _
    refine ⟨slot, hpos, ?_⟩
    simp only [Scene.readCounts, Scene.requireChannel, hsc, hsd, hm, if_true, Outcome.ok_bind, hhrv,
      Bool.false_eq_true, if_false, hpos]
    exact readVisir_sceneBytes L header row hbl htl hcol hfit hslot _
  · intro hhrv hhc hrows hn
    have hLh : L.hasHrv = true := by
      rw [hLeq]
      exact hhrv
    simp only [Scene.readCounts, Scene.requireChannel, hsc, hsd, show cs.mem .hrv = true from hhrv, if_true,
      Outcome.ok_bind, Channel.isHrv]
    exact readHrv_sceneBytes L header row hbl htl hLh hn hhc hrows _

/-- 見本のヘッダーを、走査線 1 本、東西 4 列の選択で、VIS006 と HRV があるファイルのものにしたもの。
HRV は 4 列で、3 本の副走査線を持つ。 -/
def FileHeader.singleLine : FileHeader :=
  { FileHeader.sample with
    selectedBandIds := "X__________X"
    northLineSelected := 1
    eastColumnSelected := 1
    southLineSelected := 1
    westColumnSelected := 4
    numberLinesVisir := 1
    numberColumnsVisir := 4
    numberLinesHrv := 3
    numberColumnsHrv := 4 }

/-- 見本の標本の行：VIS/IR の記録には 10 ビットを超える標本を一つ含む 4 標本、HRV の副走査線の記録には
4 標本。 -/
def singleLineRows : Nat → SubRecord → List UInt16
  | _, .visir _ => [1, 512, 1023, 1030]
  | _, .hrv k => [k.toUInt16, 7, 8, 9]

/-- 走査線 1 本の VIS006 と HRV のファイル。HRV の画像は 3 行になる。 -/
theorem load_sceneBytes_singleLine :
    FileHeader.singleLine.TimesInCdsRange ∧ Text.PlainText "X__________X" ∧
      ChannelSet.ofSelection "X__________X" = .ok ⟨fun c => "X__________X".toList[c.index]? == some 'X'⟩ ∧
      (321 ≤ FileHeader.singleLine.satelliteId.toNat ∧ FileHeader.singleLine.satelliteId.toNat ≤ 324) ∧
      LineLayout.resolve FileHeader.singleLine ⟨fun c => "X__________X".toList[c.index]? == some 'X'⟩ =
        .ok ⟨1, 4, 1, true, 4, 3, false⟩ ∧
      Trailer.sample.TimesInCdsRange ∧ VisirRowsFit ⟨1, 4, 1, true, 4, 3, false⟩ singleLineRows ∧
      0 < ({} : ReaderConfig).chunkLines ∧
      ∃ hb tb, FileHeader.singleLine.encode = .ok hb ∧ Trailer.sample.encode = .ok tb ∧
        ∃ s, Scene.load "scene.nat"
            (some (sceneBytes ⟨1, 4, 1, true, 4, 3, false⟩ (fun _ _ => {}) singleLineRows hb tb)) {} = .ok s ∧
          s.header = FileHeader.singleLine.readBack ∧
          s.channels = ⟨fun c => "X__________X".toList[c.index]? == some 'X'⟩ ∧
          s.layout = ⟨1, 4, 1, true, 4, 3, false⟩ ∧ s.trailer = Trailer.sample.readBack ∧
          (∀ c, (ChannelSet.mk fun c => "X__________X".toList[c.index]? == some 'X').mem c = true → c.isHrv = false →
            ∃ slot, (ChannelSet.mk fun c => "X__________X".toList[c.index]? == some 'X').visirPosition c = some slot ∧
              s.readCounts c = .ok ((List.range 1).map fun i => (singleLineRows i (.visir slot)).map (· % 1024))) ∧
          ((ChannelSet.mk fun c => "X__________X".toList[c.index]? == some 'X').hasHrv = true → 4 % 4 = 0 →
            HrvRowsFit ⟨1, 4, 1, true, 4, 3, false⟩ singleLineRows → 3 = 1 * hrvSublines →
            s.readCounts .hrv = .ok ((List.range (1 * hrvSublines)).map fun r =>
              (singleLineRows (r / hrvSublines) (.hrv (r % hrvSublines))).map (· % 1024))) := by
  have hh : FileHeader.singleLine.TimesInCdsRange := FileHeader.sample_timesInCdsRange
  have hfit : VisirRowsFit ⟨1, 4, 1, true, 4, 3, false⟩ singleLineRows := fun _ _ _ _ => rfl
  exact ⟨hh, by decide, rfl, by decide, rfl, Trailer.sample_timesInCdsRange, hfit, by decide,
    load_sceneBytes hh (by decide) rfl (by decide) rfl Trailer.sample_timesInCdsRange (fun _ _ => {}) _ hfit
      (by decide) "scene.nat"⟩

/-- 走査線 1 本の VIS006 と HRV のファイルは整っていて、開けるファイルの特徴づけがそのまま当てはまる。 -/
theorem load_ok_iff_consistent_singleLine :
    ∃ hb tb, FileHeader.singleLine.encode = .ok hb ∧ Trailer.sample.encode = .ok tb ∧
      (∃ h cs L, Scene.Consistent
        (sceneBytes ⟨1, 4, 1, true, 4, 3, false⟩ (fun _ _ => {}) singleLineRows hb tb).toList h cs L) ∧
      0 < ({} : ReaderConfig).chunkLines ∧
      ((∃ s, Scene.load "scene.nat"
          (some (sceneBytes ⟨1, 4, 1, true, 4, 3, false⟩ (fun _ _ => {}) singleLineRows hb tb)) {} = .ok s) ↔
        ∃ h cs L, Scene.Consistent
          (sceneBytes ⟨1, 4, 1, true, 4, 3, false⟩ (fun _ _ => {}) singleLineRows hb tb).toList h cs L) ∧
      (∀ s, Scene.load "scene.nat"
          (some (sceneBytes ⟨1, 4, 1, true, 4, 3, false⟩ (fun _ _ => {}) singleLineRows hb tb)) {} = .ok s →
        Scene.Consistent (sceneBytes ⟨1, 4, 1, true, 4, 3, false⟩ (fun _ _ => {}) singleLineRows hb tb).toList
            s.header s.channels s.layout ∧
          Trailer.decode ((sceneBytes ⟨1, 4, 1, true, 4, 3, false⟩ (fun _ _ => {}) singleLineRows hb tb).toList.drop
            s.layout.trailerOffset) = .ok s.trailer) ∧
      Outcome.FailsWith .invalidFormat (Scene.load "scene.nat"
        (some (sceneBytes ⟨1, 4, 1, true, 4, 3, false⟩ (fun _ _ => {}) singleLineRows hb tb)) {}) := by
  have hh : FileHeader.singleLine.TimesInCdsRange := FileHeader.sample_timesInCdsRange
  obtain ⟨hb, he, -, -⟩ := FileHeader.decode_encode hh
  obtain ⟨tb, hte, -, -⟩ := Trailer.decode_encode Trailer.sample_timesInCdsRange
  have hcon := consistent_sceneBytes hh (by decide) rfl (by decide) rfl Trailer.sample_timesInCdsRange
    (fun _ _ => {}) singleLineRows he hte
  exact ⟨hb, tb, he, hte, ⟨_, _, _, hcon⟩, by decide, Scene.load_ok_iff_consistent (by decide)⟩

/-- 衛星番号が 324、帯域の選択が `sel` で、ほかは紀元の空のヘッダー。 -/
def FileHeader.selecting (sel : String) : FileHeader :=
  { FileHeader.blankAt Time.cdsEpoch with satelliteId := 324, selectedBandIds := sel }

theorem FileHeader.selecting_timesInCdsRange (sel : String) : (FileHeader.selecting sel).TimesInCdsRange :=
  FileHeader.blankAt_timesInCdsRange Time.cdsEpoch_inCdsRange

/-- 先頭が NUL の選択は 12 文字の ASCII で両端に空白もなく、集合と配置を与え、ヘッダーに書くことも
できる。しかし欄から読み戻すと NUL が取り除かれて 11 文字になり、ファイルは開けない。 -/
theorem load_sceneBytes_nulSelection :
    (FileHeader.selecting "\x00X__________").TimesInCdsRange ∧
      "\x00X__________".toList.length = 12 ∧ ("\x00X__________".toList.all fun c => c.toNat < 128) = true ∧
      Text.trimBlank "\x00X__________" = "\x00X__________" ∧
      ChannelSet.ofSelection "\x00X__________" = .ok ⟨fun c => "\x00X__________".toList[c.index]? == some 'X'⟩ ∧
      (321 ≤ (FileHeader.selecting "\x00X__________").satelliteId.toNat ∧
        (FileHeader.selecting "\x00X__________").satelliteId.toNat ≤ 324) ∧
      LineLayout.resolve (FileHeader.selecting "\x00X__________")
        ⟨fun c => "\x00X__________".toList[c.index]? == some 'X'⟩ = .ok ⟨1, 4, 0, false, 0, 0, false⟩ ∧
      (Trailer.blankAt Time.cdsEpoch).TimesInCdsRange ∧
      ∃ hb tb, (FileHeader.selecting "\x00X__________").encode = .ok hb ∧
        (Trailer.blankAt Time.cdsEpoch).encode = .ok tb ∧
        Scene.load "scene.nat" (some (sceneBytes ⟨1, 4, 0, false, 0, 0, false⟩ (fun _ _ => {}) (fun _ _ => []) hb tb)) {} =
          .error (.selectionLength "X__________" 11) := by
  have hh := FileHeader.selecting_timesInCdsRange "\x00X__________"
  have ht := Trailer.blankAt_timesInCdsRange Time.cdsEpoch_inCdsRange
  obtain ⟨hb, hbe, -, -⟩ := FileHeader.decode_encode hh
  obtain ⟨tb, hte, -, -⟩ := Trailer.decode_encode ht
  -- 欄から読み戻した選択は、先頭の NUL を落とした 11 文字
  have hv : Text.fieldValue "\x00X__________" = "X__________" := by decide +kernel
  have hsel : ChannelSet.ofSelection (Text.fieldValue (FileHeader.selecting "\x00X__________").selectedBandIds) =
      .error (.selectionLength "X__________" 11) := by
    rw [show (FileHeader.selecting "\x00X__________").selectedBandIds = "\x00X__________" from rfl, hv]
    rfl
  exact ⟨hh, by decide, by decide, by decide, rfl, by decide, rfl, ht, hb, tb, hbe, hte,
    load_sceneBytes_of_selection hh hbe hsel (by decide) "scene.nat"⟩

end SeviriScene

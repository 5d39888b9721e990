import SeviriScene.Reader.Scene
import SeviriScene.Proofs.HeaderCodec
import SeviriScene.Proofs.DataBlock

/-!
# ファイルを開く

ファイルを開くときは、ヘッダー、帯域の選択、衛星番号、配置、ファイルの長さ、末尾の順に確かめる。
ここでは、開けるファイルをちょうど特徴づける（`Scene.load_ok_iff_consistent`）。走査線の数が 1 以上の
設定では、バイト列 `B` を開けるのは `B` が整っている（`Scene.Consistent`）ときに限り、開けたときの
ヘッダー、チャンネルの集合、配置は `B` から読んだものに、末尾は配置の決める位置から読んだものに等しい。
開けないときの誤りはどれも形式の誤りで、入出力の誤りや処理の誤りにはならない。

証明の道具は二つ。一つはヘッダーと末尾がそれぞれの先頭の決まった長さだけを読むこと
（`FileHeader.decode_take`、`Trailer.decode_take`）で、これにより切り出した部分を読むことと
ファイル全体を読むことが同じになる（`Scene.parts_of_load`）。集合、衛星、配置がヘッダーから決まった
ことは、開いたファイル自身が持つ。もう一つは誤りの種類の述語 `Outcome.FailsWith` で、
読み取りのどの段の誤りも形式の誤りであることを段ごとに示し、束縛でつなぐ。
-/

namespace SeviriScene

open Bytes Outcome

/-! ## 読み取りの誤りの種類 -/

namespace FileHeader

theorem textValue_failsWith (m : Text.RecordMap) (name : String) :
    FailsWith .invalidFormat (textValue m name) := by
  unfold textValue
  split <;> simp [Fault.kind]

theorem intValue_failsWith (m : Text.RecordMap) (name : String) :
    FailsWith .invalidFormat (intValue m name) := by
  simp only [intValue, failsWith_bind, textValue_failsWith, true_and]
  intro v _
  split <;> simp [Fault.kind]

/-- ヘッダーの読み取りの誤りはどれも形式の誤り。 -/
theorem decode_failsWith (bs : List UInt8) : FailsWith .invalidFormat (decode bs) := by
  simp [decode, textValue_failsWith, intValue_failsWith, Fault.kind]

end FileHeader

namespace Trailer

theorem decode_failsWith (bs : List UInt8) : FailsWith .invalidFormat (decode bs) := by
  unfold decode
  split <;> simp [Fault.kind]

end Trailer

theorem ChannelSet.ofSelection_failsWith (s : String) : FailsWith .invalidFormat (ChannelSet.ofSelection s) := by
  simp [ChannelSet.ofSelection, Fault.kind]

namespace LineLayout

theorem checkedTrailerOffset_failsWith (l : LineLayout) : FailsWith .invalidFormat l.checkedTrailerOffset := by
  unfold checkedTrailerOffset
  split <;> simp [Fault.kind]

theorem resolve_failsWith (h : FileHeader) (cs : ChannelSet) : FailsWith .invalidFormat (resolve h cs) := by
  simp [resolve, selectionExtent, nonNegative, hrvSize, checkedTrailerOffset_failsWith, Fault.kind]

/-- 決まった配置は、チャンネルの集合と選択矩形から作った配置で、大きさの計算が 64 ビットに収まる。 -/
theorem exists_of_resolve {h : FileHeader} {cs : ChannelSet} {L : LineLayout} (hr : resolve h cs = .ok L) :
    ∃ columns rows lines : Nat, ∃ hrv : Nat × Nat,
      L = { visirChannels := cs.visirChannels.length, visirColumns := paddedColumns columns,
            numberOfLines := lines, hasHrv := cs.hasHrv, hrvColumns := hrv.1, hrvNumberOfLines := hrv.2,
            isFullDisk := decide (rows ≥ visirFullSize ∧ columns ≥ visirFullSize) } ∧
        L.checkedTrailerOffset = .ok L.trailerOffset := by
  unfold resolve at hr
  obtain ⟨columns, -, hr⟩ := bind_eq_ok.mp hr
  obtain ⟨rows, -, hr⟩ := bind_eq_ok.mp hr
  obtain ⟨lines, -, hr⟩ := bind_eq_ok.mp hr
  dsimp only at hr
  -- どちらの枝でも、最後に返す配置そのものの大きさの計算を確かめている
  split at hr <;>
  · obtain ⟨⟨c, l⟩, -, hr⟩ := bind_eq_ok.mp hr
    obtain ⟨n, hn, hL⟩ := bind_eq_ok.mp hr
    cases hL
    refine ⟨columns, rows, lines, (c, l), rfl, ?_⟩
    rw [← checkedTrailerOffset_eq_ok hn]
    exact hn

theorem checkedTrailerOffset_of_resolve {h : FileHeader} {cs : ChannelSet} {L : LineLayout}
    (hr : resolve h cs = .ok L) : L.checkedTrailerOffset = .ok L.trailerOffset := by
  obtain ⟨_, _, _, _, -, hc⟩ := exists_of_resolve hr
  exact hc

end LineLayout

/-! ## 開く手順の各段 -/

theorem DataBlock.ofFile_failsWith (path : String) (file : ByteArray) (l : LineLayout) :
    FailsWith .invalidFormat (DataBlock.ofFile path file l) := by
  simp [DataBlock.ofFile, LineLayout.checkedTrailerOffset_failsWith, Fault.kind]

theorem Platform.ofSatelliteId?_ne_none {n : Nat} : Platform.ofSatelliteId? n ≠ none ↔ 321 ≤ n ∧ n ≤ 324 := by
  unfold Platform.ofSatelliteId?
  split <;> simp_all
  -- 四つの番号のどれでもない
  omega

/-- 末尾が読めるのは、128 バイト以上あるときに限る。 -/
theorem Trailer.decode_isOk {bs : List UInt8} : (∃ t, Trailer.decode bs = .ok t) ↔ trailerSize ≤ bs.length := by
  unfold Trailer.decode
  split <;> simp_all

namespace Scene

/-! ## 開けるファイル -/

/-- バイト列 `bs` が整ったファイルである：ヘッダー `h` が読め、帯域の選択が集合 `cs` を与え、
衛星番号が 321 から 324 のどれかで、配置 `L` が決まり、ファイルが配置の決める末尾の終わりまで届く。 -/
structure Consistent (bs : List UInt8) (h : FileHeader) (cs : ChannelSet) (L : LineLayout) : Prop where
  header : FileHeader.decode bs = .ok h
  channels : ChannelSet.ofSelection h.selectedBandIds = .ok cs
  satellite : 321 ≤ h.satelliteId.toNat ∧ h.satelliteId.toNat ≤ 324
  layout : LineLayout.resolve h cs = .ok L
  fits : L.trailerOffset + trailerSize ≤ bs.length

variable {path : String} {B : ByteArray} {config : ReaderConfig}

/-- 開けたファイルのヘッダーはファイルの先頭から読んだもの、データ部はファイル全体、末尾は配置の決める
位置から読んだもの。切り出したヘッダーと末尾を読むことは、ファイル全体をそれぞれの位置から読むことに
等しい。 -/
theorem parts_of_load {s : Scene} (hs : load path (some B) config = .ok s) :
    FileHeader.decode B.toList = .ok s.header ∧ DataBlock.ofFile path B s.layout = .ok s.data ∧
      Trailer.decode (B.toList.drop s.layout.trailerOffset) = .ok s.trailer := by
  simp only [load] at hs
  obtain ⟨-, -, hs⟩ := bind_eq_ok.mp hs
  obtain ⟨h, hh, hs⟩ := bind_eq_ok.mp hs
  rw [toList_extract, List.drop_zero, Nat.sub_zero, FileHeader.decode_take] at hh
  -- 集合、衛星、配置の三つの照合を順に開く。誤りの枝は成功しない
  split at hs
  · cases hs
  split at hs
  · cases hs
  split at hs
  · cases hs
  obtain ⟨d, hd, hs⟩ := bind_eq_ok.mp hs
  obtain ⟨t, ht, hs⟩ := bind_eq_ok.mp hs
  cases hs
  rw [toList_extract, Nat.add_sub_cancel_left, Trailer.decode_take] at ht
  exact ⟨hh, hd, ht⟩

theorem consistent_of_load {s : Scene} (hs : load path (some B) config = .ok s) :
    Consistent B.toList s.header s.channels s.layout ∧
      Trailer.decode (B.toList.drop s.layout.trailerOffset) = .ok s.trailer := by
  obtain ⟨hh, hd, ht⟩ := parts_of_load hs
  have hsat := Platform.ofSatelliteId?_ne_none.mp (by rw [s.platform_eq]; simp)
  -- 末尾が読めたので、末尾の始まりから 128 バイト以上ある
  have htl := Trailer.decode_isOk.mp ⟨_, ht⟩
  rw [List.length_drop] at htl
  have hle := (DataBlock.ofFile_eq_ok.mp hd).2.1
  have hsz := length_byteArray_toList B
  exact ⟨⟨hh, s.channels_eq, hsat, s.layout_eq, by omega⟩, ht⟩

/-- 整ったファイルは開け、開いたものはヘッダー、集合、配置、ファイル全体のデータ部、配置の決める位置
から読んだ末尾を持つ。 -/
theorem load_of_consistent (hc : 0 < config.chunkLines) {h : FileHeader} {cs : ChannelSet}
    {L : LineLayout} (hcon : Consistent B.toList h cs L) :
    ∃ s, load path (some B) config = .ok s ∧ s.header = h ∧ s.channels = cs ∧ s.layout = L ∧
      s.data = ⟨L, B⟩ ∧ Trailer.decode (B.toList.drop L.trailerOffset) = .ok s.trailer := by
  have hfits := hcon.fits
  obtain ⟨p, hp⟩ := Option.ne_none_iff_exists'.mp (Platform.ofSatelliteId?_ne_none.mpr hcon.satellite)
  obtain ⟨t, ht⟩ := Trailer.decode_isOk.mpr (show trailerSize ≤ (B.toList.drop L.trailerOffset).length by
    rw [List.length_drop]
    omega)
  have hd : DataBlock.ofFile path B L = .ok ⟨L, B⟩ :=
    DataBlock.ofFile_eq_ok.mpr ⟨LineLayout.checkedTrailerOffset_of_resolve hcon.layout, by
      have hsz := length_byteArray_toList B
      omega, rfl⟩
  refine ⟨⟨path, config, h, cs, p, L, ⟨L, B⟩, t, hcon.channels, hp, hcon.layout⟩, ?_, rfl, rfl, rfl, rfl, ht⟩
  simp only [load, ReaderConfig.validate, if_neg (Nat.pos_iff_ne_zero.mp hc), ok_bind, toList_extract,
    List.drop_zero, Nat.sub_zero, FileHeader.decode_take, hcon.header]
  -- 三つの照合は、整ったファイルの集合、衛星、配置の枝に進む
  split
  · rename_i he
    rw [hcon.channels] at he
    cases he
  rename_i hcs
  rw [hcon.channels] at hcs
  cases hcs
  split
  · rename_i he
    rw [hp] at he
    cases he
  rename_i hp'
  rw [hp] at hp'
  cases hp'
  split
  · rename_i he
    rw [hcon.layout] at he
    cases he
  rename_i hL
  rw [hcon.layout] at hL
  cases hL
  simp only [hd, ok_bind, Nat.add_sub_cancel_left, Trailer.decode_take, ht, pure_eq]

/-- ヘッダーが読めても帯域の選択が集合を与えなければ、開くとその選択の誤りが返る。 -/
theorem load_of_ofSelection_error (hc : 0 < config.chunkLines) {h : FileHeader} {e : Fault}
    (hh : FileHeader.decode B.toList = .ok h) (hsel : ChannelSet.ofSelection h.selectedBandIds = .error e) :
    load path (some B) config = .error e := by
  simp only [load, ReaderConfig.validate, if_neg (Nat.pos_iff_ne_zero.mp hc), ok_bind, toList_extract,
    List.drop_zero, Nat.sub_zero, FileHeader.decode_take, hh]
  split
  · rename_i he
    rw [hsel] at he
    cases he
    rfl
  · rename_i he
    rw [hsel] at he
    cases he

/-- 開くときの誤りはどれも形式の誤り。 -/
theorem load_failsWith (hc : 0 < config.chunkLines) : FailsWith .invalidFormat (load path (some B) config) := by
  simp only [load, ReaderConfig.validate, if_neg (Nat.pos_iff_ne_zero.mp hc), ok_bind, failsWith_bind,
    FileHeader.decode_failsWith, true_and]
  intro h _
  split
  · exact failsWith_error.mpr (ChannelSet.ofSelection_failsWith _ _ ‹_›)
  split
  · simp [Fault.kind]
  split
  · exact failsWith_error.mpr (LineLayout.resolve_failsWith _ _ _ ‹_›)
  simp [DataBlock.ofFile_failsWith, Trailer.decode_failsWith]

/-- 設定の走査線の数が 1 以上なら、ファイルのバイト列 `B` を開けるのは `B` が整ったファイルであるときに
限る。開けたなら、ヘッダー、チャンネルの集合、配置は `B` から読んだものであり、末尾はファイルの
終わりではなく配置が決める `trailerOffset` から読んだものである。開けなければ、誤りは形式の誤りである。 -/
theorem load_ok_iff_consistent (hc : 0 < config.chunkLines) :
    ((∃ s, load path (some B) config = .ok s) ↔ ∃ h cs L, Consistent B.toList h cs L) ∧
      (∀ s, load path (some B) config = .ok s →
        Consistent B.toList s.header s.channels s.layout ∧
          Trailer.decode (B.toList.drop s.layout.trailerOffset) = .ok s.trailer) ∧
      FailsWith .invalidFormat (load path (some B) config) :=
  ⟨⟨fun ⟨_, hs⟩ => ⟨_, _, _, (consistent_of_load hs).1⟩,
      fun ⟨_, _, _, hcon⟩ =>
        let ⟨s, hs, _⟩ := load_of_consistent hc hcon
        ⟨s, hs⟩⟩,
    fun _ hs => consistent_of_load hs, load_failsWith hc⟩

end Scene

end SeviriScene

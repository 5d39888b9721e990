import SeviriScene.File.Trailer
import SeviriScene.Proofs.CdsCodec
import SeviriScene.Proofs.DecimalText
import SeviriScene.Proofs.RecordTable
import SeviriScene.Proofs.Outcome

/-!
# ヘッダーと末尾の読み戻し

ヘッダー（2912 バイト）と末尾（128 バイト）は、決まった位置に決まった幅の欄を並べた固定長の記録で
ある。時刻が CDS で表せれば、どちらも書くことができ、ちょうどその長さになり、読むと元の記録が
戻る。ただし元に戻らないものが二つある。

* 文字の値は、欄に書いて読んだ値 `fieldValue` になる（先頭 50 バイト、両端の NUL と空白を除く）。
  ヘッダーの二つの表は、書いた記録の名前だけを持つ。副ヘッダーの型のついた九つの欄は、表の値に
  かかわらず型のついた欄の値（整数は十進表記）を持つ。
* 時刻は、時間軸の上で同じ位置にある閏秒でない時刻になる（`Time.Instant.normalize`）。CDS の欄は
  閏秒を表さない。

浮動小数点数の欄はビット列のまま読み書きするので、NaN も含めてビット単位で戻る。

証明は区画ごとに分ける。書いた列の各区画はその始まりから中身を並べ（`drop_sections`）、区画の中身に
何が続いても、区画の欄はその区画から読み戻せる（`readRecords`、`readStatus`、`readDescription`、
`readFloatTable_radiometricBytes`、`readGeometric`）。末尾も同じく、先頭の 4 バイトと三つの範囲を
それぞれ読み戻す（`readIdentity`、`readCoverages`）。
-/

namespace SeviriScene

open Bytes

/-! ## 走査範囲と基準格子 -/

namespace Coverage

theorem decode_append_of_le {xs ys : List UInt8} {off : Nat} (h : xs.length ≤ off) :
    decode (xs ++ ys) off = decode ys (off - xs.length) := by
  simp only [decode, intAt_append_of_le (show xs.length ≤ off + 4 by omega),
    intAt_append_of_le (show xs.length ≤ off + 8 by omega),
    intAt_append_of_le (show xs.length ≤ off + 12 by omega), intAt_append_of_le h]
  simp only [show off + 4 - xs.length = off - xs.length + 4 by omega,
    show off + 8 - xs.length = off - xs.length + 8 by omega,
    show off + 12 - xs.length = off - xs.length + 12 by omega]

theorem decode_take {bs : List UInt8} {n off : Nat} (h : off + 16 ≤ n) :
    decode (bs.take n) off = decode bs off := by
  simp (disch := omega) only [decode, intAt_take]

@[simp] theorem length_encode (c : Coverage) : c.encode.length = 16 := by
  simp [encode]

theorem decode_encode (c : Coverage) (rest : List UInt8) : decode (c.encode ++ rest) 0 = c := by
  simp (disch := simp) only [decode, encode, List.append_assoc, Nat.zero_add, intAt_append_of_le,
    length_ofInt, Nat.reduceSub, intAt_ofInt_append]

end Coverage

namespace ReferenceGrid

theorem decode_append_of_le {xs ys : List UInt8} {off : Nat} (h : xs.length ≤ off) :
    decode (xs ++ ys) off = decode ys (off - xs.length) := by
  simp only [decode, intAt_append_of_le (show xs.length ≤ off + 4 by omega), intAt_append_of_le h,
    binary32At_append_of_le (show xs.length ≤ off + 8 by omega),
    binary32At_append_of_le (show xs.length ≤ off + 12 by omega),
    natAt_append_of_le (show xs.length ≤ off + 16 by omega)]
  simp only [show off + 4 - xs.length = off - xs.length + 4 by omega,
    show off + 8 - xs.length = off - xs.length + 8 by omega,
    show off + 12 - xs.length = off - xs.length + 12 by omega,
    show off + 16 - xs.length = off - xs.length + 16 by omega]

theorem decode_take {bs : List UInt8} {n off : Nat} (h : off + size ≤ n) :
    decode (bs.take n) off = decode bs off := by
  have h' : off + 17 ≤ n := h
  simp (disch := omega) only [decode, intAt_take, binary32At_take, natAt_take]

@[simp] theorem length_encode (g : ReferenceGrid) : g.encode.length = size := by
  simp [encode, size]

theorem decode_encode (g : ReferenceGrid) (rest : List UInt8) : decode (g.encode ++ rest) 0 = g := by
  simp (disch := simp) only [decode, encode, List.append_assoc, Nat.zero_add, intAt_append_of_le,
    binary32At_append_of_le, natAt_append_of_le, length_ofInt, length_ofBinary32, Nat.reduceSub,
    intAt_ofInt_append, binary32At_ofBinary32, List.cons_append, List.nil_append, toUInt8_natAt]

end ReferenceGrid

/-! ## 末尾 -/

namespace Trailer

/-- 二つの時刻が CDS で表せる。 -/
def TimesInCdsRange (t : Trailer) : Prop :=
  t.forwardScanStart.InCdsRange ∧ t.forwardScanEnd.InCdsRange

/-- 書いて読み戻した末尾：時刻は時間軸の上の同じ位置の、閏秒でない時刻になる。 -/
def readBack (t : Trailer) : Trailer :=
  { t with
    forwardScanStart := t.forwardScanStart.normalize
    forwardScanEnd := t.forwardScanEnd.normalize }

theorem decode_take (bs : List UInt8) : decode (bs.take trailerSize) = decode bs := by
  by_cases hl : bs.length ≤ trailerSize
  · rw [List.take_of_length_le hl]
  · have hlen : (bs.take trailerSize).length = trailerSize := by
      rw [List.length_take]
      omega
    have h' : 128 = trailerSize := rfl
    rw [decode, decode, hlen, if_neg (Nat.lt_irrefl _), if_neg (by omega)]
    simp (disch := first | omega | (simp only [Time.cdsLength]; omega)) only [natAt_take, List.drop_take,
      Time.cdsDecode_take, Coverage.decode_take, ← h']

theorem flagByte_ne_zero (b : Bool) : ((flagByte b).toNat != 0) = b := by
  cases b <;> rfl

@[simp] theorem length_identityBytes (t : Trailer) : t.identityBytes.length = 4 := by
  simp [identityBytes]

@[simp] theorem length_coverageBytes (t : Trailer) : t.coverageBytes.length = 48 := by
  simp [coverageBytes]

/-- 先頭の 4 バイトからは、衛星番号と二つの旗が読み戻される。 -/
theorem readIdentity (t : Trailer) (rest : List UInt8) :
    (natAt (t.identityBytes ++ rest) 0 2).toUInt16 = t.satelliteId ∧
      (natAt (t.identityBytes ++ rest) 2 1 != 0) = t.nominalImageScanning ∧
      (natAt (t.identityBytes ++ rest) 3 1 != 0) = t.reducedScan := by
  refine ⟨by rw [identityBytes, List.append_assoc, toUInt16_natAt], ?_, ?_⟩
  -- 旗は衛星番号の 2 バイトのあと、1 バイトずつ
  all_goals
    rw [natAt_getElem _ (by simp)]
    simp [identityBytes, flagByte_ne_zero]

/-- 三つの範囲は、16 バイトおきに読み戻される。 -/
theorem readCoverages (t : Trailer) (rest : List UInt8) :
    Coverage.decode (t.coverageBytes ++ rest) 0 = t.coverageVisir ∧
      Coverage.decode (t.coverageBytes ++ rest) 16 = t.coverageHrvLower ∧
      Coverage.decode (t.coverageBytes ++ rest) 32 = t.coverageHrvUpper := by
  simp only [coverageBytes, List.append_assoc]
  -- 前の範囲を 16 バイトずつ飛ばし、範囲の先頭から読む
  simp (disch := simp) only [Coverage.decode_append_of_le, Coverage.length_encode, Nat.reduceSub,
    Coverage.decode_encode, and_self]

/-- 時刻が CDS で表せる末尾は 128 バイトに書け、読むと時刻だけが正規化されて戻る。 -/
theorem decode_encode {t : Trailer} (ht : t.TimesInCdsRange) :
    ∃ bs, t.encode = .ok bs ∧ bs.length = trailerSize ∧ decode bs = .ok t.readBack := by
  obtain ⟨b1, hb1, hl1, hr1⟩ := Time.cdsDecode_cdsEncode ht.1
  obtain ⟨b2, hb2, hl2, hr2⟩ := Time.cdsDecode_cdsEncode ht.2
  have hl1' : b1.length = 10 := hl1
  have hl2' : b2.length = 10 := hl2
  have hbody : (t.identityBytes ++ b1 ++ b2 ++ t.coverageBytes).length ≤ trailerSize := by
    simp [hl1', hl2', trailerSize]
  refine ⟨_, by simp only [encode, hb1, hb2]; rfl, length_padTo _ _ hbody, ?_⟩
  rw [decode, if_neg (by rw [length_padTo _ _ hbody]; decide), padTo]
  -- 埋めた 0 は範囲のあとに続くので、範囲の後ろの列 `z` として扱う
  generalize List.replicate (trailerSize - (t.identityBytes ++ b1 ++ b2 ++ t.coverageBytes).length) (0 : UInt8) = z
  simp only [List.append_assoc]
  obtain ⟨hid, hnom, hred⟩ := readIdentity t (b1 ++ (b2 ++ (t.coverageBytes ++ z)))
  obtain ⟨hv, hlo, hup⟩ := readCoverages t z
  -- 時刻と範囲は、前にある部分の長さだけ先から読む
  have hd1 : (t.identityBytes ++ (b1 ++ (b2 ++ (t.coverageBytes ++ z)))).drop 4 = b1 ++ (b2 ++ (t.coverageBytes ++ z)) :=
    List.drop_left' (length_identityBytes t)
  have hd2 : (t.identityBytes ++ (b1 ++ (b2 ++ (t.coverageBytes ++ z)))).drop 14 = b2 ++ (t.coverageBytes ++ z) := by
    rw [show 14 = 4 + 10 from rfl, ← List.drop_drop, hd1, List.drop_left' hl1']
  have hc : ∀ k, Coverage.decode (t.identityBytes ++ (b1 ++ (b2 ++ (t.coverageBytes ++ z)))) (24 + k) =
      Coverage.decode (t.coverageBytes ++ z) k := fun k => by
    rw [← List.append_assoc, ← List.append_assoc, Coverage.decode_append_of_le (by simp [hl1', hl2'])]
    simp [hl1', hl2']
  have c0 : Coverage.decode (t.identityBytes ++ (b1 ++ (b2 ++ (t.coverageBytes ++ z)))) 24 = _ := hc 0
  have c1 : Coverage.decode (t.identityBytes ++ (b1 ++ (b2 ++ (t.coverageBytes ++ z)))) 40 = _ := hc 16
  have c2 : Coverage.decode (t.identityBytes ++ (b1 ++ (b2 ++ (t.coverageBytes ++ z)))) 56 = _ := hc 32
  simp only [hid, hnom, hred, hd1, hd2, hr1, hr2, c0, c1, c2, hv, hlo, hup]
  rfl

end Trailer

namespace FileHeader

open Text

/-- 三つの時刻が CDS で表せる。 -/
def TimesInCdsRange (h : FileHeader) : Prop :=
  h.trueRepeatCycleStart.InCdsRange ∧ h.planForwardScanEnd.InCdsRange ∧
    h.plannedRepeatCycleEnd.InCdsRange

/-- 書いて読み戻したヘッダー。文字の値は欄に書いて読んだ値になり、表は記録の名前だけを持つ。
時刻は時間軸の上の同じ位置の、閏秒でない時刻になる。ほかの欄は変わらない。 -/
def readBack (h : FileHeader) : FileHeader :=
  { h with
    mainProductHeader :=
      RecordMap.ofPairs (mainRecordNames.map fun n => (n, fieldValue ((h.mainProductHeader.get? n).getD "")))
    secondaryProductHeader :=
      RecordMap.ofPairs (secondaryRecordNames.map fun n => (n, fieldValue (h.secondaryValue n)))
    selectedBandIds := fieldValue h.selectedBandIds
    trueRepeatCycleStart := h.trueRepeatCycleStart.normalize
    planForwardScanEnd := h.planForwardScanEnd.normalize
    plannedRepeatCycleEnd := h.plannedRepeatCycleEnd.normalize }

theorem readBack_mainProductHeader (h : FileHeader) :
    h.readBack.mainProductHeader =
      RecordMap.ofPairs (mainRecordNames.map fun n => (n, fieldValue ((h.mainProductHeader.get? n).getD ""))) := by
  rw [readBack]

theorem readBack_secondaryProductHeader (h : FileHeader) :
    h.readBack.secondaryProductHeader =
      RecordMap.ofPairs (secondaryRecordNames.map fun n => (n, fieldValue (h.secondaryValue n))) := by
  rw [readBack]

/-! ## 区画の長さ -/

@[simp] theorem length_mainRecordBytes (h : FileHeader) : h.mainRecordBytes.length = secondaryOffset :=
  length_flatMap_of_length_eq fun n _ => Text.length_writeRecord n _

@[simp] theorem length_secondaryRecordBytes (h : FileHeader) :
    h.secondaryRecordBytes.length = dataHeaderOffset - secondaryOffset :=
  length_flatMap_of_length_eq fun n _ => Text.length_writeRecord n _

@[simp] theorem length_statusBytes (h : FileHeader) : h.statusBytes.length = 6 := by
  simp [statusBytes]

@[simp] theorem length_descriptionBytes (h : FileHeader) : h.descriptionBytes.length = 51 := by
  simp [descriptionBytes, ReferenceGrid.size]

theorem length_interleaved (a b : Fin 12 → Binary64) :
    ((List.finRange 12).flatMap (fun i => ofBinary64 (a i) ++ ofBinary64 (b i))).length = 192 := by
  rw [@length_flatMap_of_length_eq _ _ _ 16 (by simp), List.length_finRange]

theorem length_flatMap_ofBinary64 (a : ChannelTable Binary64) : (a.toList.flatMap ofBinary64).length = 96 := by
  rw [@length_flatMap_of_length_eq _ _ _ 8 (by simp), Vector.length_toList]

@[simp] theorem length_radiometricBytes (h : FileHeader) : h.radiometricBytes.length = 384 := by
  rw [radiometricBytes, List.flatMap_append, List.length_append, List.length_append, length_interleaved,
    length_flatMap_ofBinary64, length_flatMap_ofBinary64]

@[simp] theorem length_geometricBytes (h : FileHeader) : h.geometricBytes.length = 25 := by
  simp [geometricBytes]

/-! ## 区画ごとの読み戻し -/

/-- 文字の部分からは、二つの表が読み戻される。記録の並びはちょうど区画の長さなので、埋める 0 はない。 -/
theorem readRecords (h : FileHeader) (rest : List UInt8) :
    readRecordMap (padTo h.mainRecordBytes secondaryOffset ++
        padTo h.secondaryRecordBytes (dataHeaderOffset - secondaryOffset) ++ rest) 0 mainRecordNames.length =
        h.readBack.mainProductHeader ∧
      readRecordMap (padTo h.mainRecordBytes secondaryOffset ++
        padTo h.secondaryRecordBytes (dataHeaderOffset - secondaryOffset) ++ rest) secondaryOffset
          secondaryRecordNames.length = h.readBack.secondaryProductHeader := by
  rw [padTo, length_mainRecordBytes, Nat.sub_self, List.replicate_zero, List.append_nil, padTo,
    length_secondaryRecordBytes, Nat.sub_self, List.replicate_zero, List.append_nil, List.append_assoc,
    readBack_mainProductHeader, readBack_secondaryProductHeader]
  refine ⟨readRecordMap_writeRecords mainRecordNames_plain (fun n => (h.mainProductHeader.get? n).getD "") _, ?_⟩
  rw [readRecordMap_append_of_le (Nat.le_of_eq (length_mainRecordBytes h)), length_mainRecordBytes, Nat.sub_self]
  exact readRecordMap_writeRecords secondaryRecordNames_plain h.secondaryValue _

theorem textValue_ofPairs_map {names : List String} {f : String → String} {name : String}
    (hn : name ∈ names) : textValue (RecordMap.ofPairs (names.map fun n => (n, f n))) name = .ok (f name) := by
  simp [textValue, RecordMap.get?_ofPairs_map, hn]

/-- 名前の値が 32 ビットの整数の十進表記を欄に書いて読んだものなら、整数の値として元の整数が引ける。 -/
theorem intValue_ofPairs_map {names : List String} {f : String → String} {name : String} {x : Int32}
    (hn : name ∈ names) (hv : f name = fieldValue (toString x.toInt)) :
    intValue (RecordMap.ofPairs (names.map fun n => (n, f n))) name = .ok x := by
  have h1 : int32Min ≤ x.toInt := by
    have := x.le_toInt
    unfold int32Min
    omega
  have h2 : x.toInt ≤ int32Max := by
    have := x.toInt_lt
    unfold int32Max
    omega
  obtain ⟨hp, hl⟩ := plainText_toString h1 h2
  have hfield : fieldValue (toString x.toInt) = toString x.toInt :=
    fieldValue_of_plainText hp (by unfold valueLength; omega)
  simp only [intValue, textValue_ofPairs_map hn, hv, hfield, trimBlank_of_plainText hp,
    parseInt32_toString h1 h2, Outcome.ok_bind, Int32.ofInt_toInt]
  rfl

/-- 読み戻した副ヘッダーの表では、型のついた欄は書いた整数として引ける。 -/
theorem intValue_readBack (h : FileHeader) {name : String} {x : Int32} (hn : name ∈ secondaryRecordNames)
    (hv : h.secondaryValue name = toString x.toInt) :
    intValue h.readBack.secondaryProductHeader name = .ok x := by
  rw [readBack_secondaryProductHeader]
  exact intValue_ofPairs_map hn (by rw [hv])

/-- 読み戻した副ヘッダーの表からは、型のついた九つの欄が引ける。帯域の選択は欄に書いて読んだ値、
ほかの八つは元の整数。 -/
theorem typedFields_readBack (h : FileHeader) :
    textValue h.readBack.secondaryProductHeader "SelectedBandIDs" = .ok (fieldValue h.selectedBandIds) ∧
      intValue h.readBack.secondaryProductHeader "NorthLineSelectedRectangle" = .ok h.northLineSelected ∧
      intValue h.readBack.secondaryProductHeader "EastColumnSelectedRectangle" = .ok h.eastColumnSelected ∧
      intValue h.readBack.secondaryProductHeader "SouthLineSelectedRectangle" = .ok h.southLineSelected ∧
      intValue h.readBack.secondaryProductHeader "WestColumnSelectedRectangle" = .ok h.westColumnSelected ∧
      intValue h.readBack.secondaryProductHeader "NumberLinesVISIR" = .ok h.numberLinesVisir ∧
      intValue h.readBack.secondaryProductHeader "NumberColumnsVISIR" = .ok h.numberColumnsVisir ∧
      intValue h.readBack.secondaryProductHeader "NumberLinesHRV" = .ok h.numberLinesHrv ∧
      intValue h.readBack.secondaryProductHeader "NumberColumnsHRV" = .ok h.numberColumnsHrv := by
  refine ⟨?_, intValue_readBack h (by decide) rfl, intValue_readBack h (by decide) rfl,
    intValue_readBack h (by decide) rfl, intValue_readBack h (by decide) rfl,
    intValue_readBack h (by decide) rfl, intValue_readBack h (by decide) rfl,
    intValue_readBack h (by decide) rfl, intValue_readBack h (by decide) rfl⟩
  rw [readBack_secondaryProductHeader, textValue_ofPairs_map (by decide)]
  rfl

/-- 衛星の状態の区画からは、衛星番号と公称の経度が読み戻される。 -/
theorem readStatus (h : FileHeader) (rest : List UInt8) :
    (natAt (h.statusBytes ++ rest) 0 2).toUInt16 = h.satelliteId ∧
      binary32At (h.statusBytes ++ rest) 2 = h.nominalLongitude := by
  simp only [statusBytes, List.append_assoc]
  refine ⟨toUInt16_natAt _ _, ?_⟩
  rw [binary32At_append_of_le (by simp), length_ofNat, Nat.sub_self, binary32At_ofBinary32]

/-- 画像の記述の区画からは、投影の種類、衛星直下点の経度、二つの基準格子、12 の処理の種類が読み戻
される。 -/
theorem readDescription (h : FileHeader) (rest : List UInt8) :
    (natAt (h.descriptionBytes ++ rest) 0 1).toUInt8 = h.typeOfProjection ∧
      binary32At (h.descriptionBytes ++ rest) 1 = h.longitudeOfSsp ∧
      ReferenceGrid.decode (h.descriptionBytes ++ rest) 5 = h.referenceGridVisir ∧
      ReferenceGrid.decode (h.descriptionBytes ++ rest) 22 = h.referenceGridHrv ∧
      (Vector.ofFn fun i : Fin 12 => (natAt (h.descriptionBytes ++ rest) (39 + i.val) 1).toUInt8) =
        h.plannedChanProcessing := by
  have hpre : ([h.typeOfProjection] ++ ofBinary32 h.longitudeOfSsp ++ h.referenceGridVisir.encode ++
      h.referenceGridHrv.encode).length = 39 := by
    simp [ReferenceGrid.size]
  refine ⟨?_, ?_, ?_, ?_, ?_⟩
  · rw [descriptionBytes, List.append_assoc, List.append_assoc, List.append_assoc, List.append_assoc,
      List.singleton_append, toUInt8_natAt]
  · simp only [descriptionBytes, List.append_assoc]
    rw [binary32At_append_of_le (by simp), List.length_singleton, Nat.sub_self, binary32At_ofBinary32]
  -- 二つの格子は、前の欄を飛ばして格子の先頭から読む
  · simp only [descriptionBytes, List.append_assoc]
    simp (disch := simp) only [ReferenceGrid.decode_append_of_le, List.length_singleton, length_ofBinary32,
      Nat.reduceSub, ReferenceGrid.decode_encode]
  · simp only [descriptionBytes, List.append_assoc]
    simp (disch := simp [ReferenceGrid.size]) only [ReferenceGrid.decode_append_of_le, List.length_singleton,
      length_ofBinary32, ReferenceGrid.length_encode, ReferenceGrid.size, Nat.reduceSub, ReferenceGrid.decode_encode]
  -- 処理の種類は、前の 39 バイトのあとに 1 バイトずつ
  · apply Vector.ext
    intro i hi
    rw [Vector.getElem_ofFn, descriptionBytes, List.append_assoc, natAt_append_of_le (by rw [hpre]; omega), hpre,
      Nat.add_sub_cancel_left, natAt_getElem _ (by simpa using hi), Nat.toUInt8_eq, UInt8.ofNat_toNat,
      Vector.getElem_toList]

theorem readFloatTable_append_of_le {xs ys : List UInt8} {off : Nat} (h : xs.length ≤ off) (stride : Nat) :
    readFloatTable (xs ++ ys) off stride = readFloatTable ys (off - xs.length) stride := by
  simp only [readFloatTable]
  apply Vector.ext
  intro i hi
  simp only [Vector.getElem_ofFn]
  rw [binary64At_append_of_le (by omega),
    show off + stride * i - xs.length = off - xs.length + stride * i by omega]

/-- 二つの表を組ごとに交互に書いた列から、それぞれの表が読み戻される。 -/
theorem readFloatTable_interleaved (a b : Fin 12 → Binary64) (rest : List UInt8) :
    readFloatTable ((List.finRange 12).flatMap (fun i => ofBinary64 (a i) ++ ofBinary64 (b i)) ++ rest) 0 16 =
        Vector.ofFn a ∧
      readFloatTable ((List.finRange 12).flatMap (fun i => ofBinary64 (a i) ++ ofBinary64 (b i)) ++ rest) 8 16 =
        Vector.ofFn b := by
  have hk : ∀ i ∈ List.finRange 12, (ofBinary64 (a i) ++ ofBinary64 (b i)).length = 16 := by simp
  constructor
  · apply Vector.ext
    intro i hi
    simp only [readFloatTable, Vector.getElem_ofFn, Nat.zero_add]
    rw [show 16 * i = 16 * i + 0 by rfl, binary64At_flatMap hk rest (by simpa using hi) (by decide),
      binary64At_ofBinary64]
    simp
  · apply Vector.ext
    intro i hi
    simp only [readFloatTable, Vector.getElem_ofFn]
    rw [show 8 + 16 * i = 16 * i + 8 by omega, binary64At_flatMap hk rest (by simpa using hi) (by decide),
      binary64At_append_of_le (by simp), length_ofBinary64, Nat.sub_self, ← List.append_nil (ofBinary64 _),
      binary64At_ofBinary64]
    simp

theorem readFloatTable_flatMap (a : ChannelTable Binary64) (rest : List UInt8) :
    readFloatTable (a.toList.flatMap ofBinary64 ++ rest) 0 8 = a := by
  have hk : ∀ x ∈ a.toList, (ofBinary64 x).length = 8 := by simp
  apply Vector.ext
  intro i hi
  simp only [readFloatTable, Vector.getElem_ofFn, Nat.zero_add]
  rw [show 8 * i = 8 * i + 0 by rfl, binary64At_flatMap hk rest (by simpa using hi) (by decide),
    ← List.append_nil (ofBinary64 _), binary64At_ofBinary64]
  simp

/-- 放射較正の区画からは、四つの表がそれぞれの位置で読み戻される。 -/
theorem readFloatTable_radiometricBytes (h : FileHeader) (rest : List UInt8) :
    readFloatTable (h.radiometricBytes ++ rest) 0 16 = h.calSlope ∧
      readFloatTable (h.radiometricBytes ++ rest) 8 16 = h.calOffset ∧
      readFloatTable (h.radiometricBytes ++ rest) 192 8 = h.gsicsCalCoeff ∧
      readFloatTable (h.radiometricBytes ++ rest) 288 8 = h.gsicsOffsetCount := by
  simp only [radiometricBytes, List.flatMap_append, List.append_assoc]
  obtain ⟨hs, ho⟩ := readFloatTable_interleaved (fun i => h.calSlope[i]) (fun i => h.calOffset[i])
    (h.gsicsCalCoeff.toList.flatMap ofBinary64 ++ (h.gsicsOffsetCount.toList.flatMap ofBinary64 ++ rest))
  simp only [Fin.getElem_fin, Vector.ofFn_getElem] at hs ho
  refine ⟨hs, ho, ?_, ?_⟩
  · simp (disch := simp only [length_interleaved, Nat.le_refl]) only [readFloatTable_append_of_le,
      length_interleaved, Nat.sub_self, readFloatTable_flatMap]
  · simp (disch := simp only [length_interleaved, length_flatMap_ofBinary64]; decide) only
      [readFloatTable_append_of_le, length_interleaved, length_flatMap_ofBinary64, Nat.reduceSub,
      readFloatTable_flatMap]

/-- 幾何処理の区画からは、地球の模型と三つの半径が読み戻される。 -/
theorem readGeometric (h : FileHeader) (rest : List UInt8) :
    (natAt (h.geometricBytes ++ rest) 0 1).toUInt8 = h.typeOfEarthModel ∧
      binary64At (h.geometricBytes ++ rest) 1 = h.equatorialRadius ∧
      binary64At (h.geometricBytes ++ rest) 9 = h.northPolarRadius ∧
      binary64At (h.geometricBytes ++ rest) 17 = h.southPolarRadius := by
  simp only [geometricBytes, List.append_assoc]
  refine ⟨by rw [List.singleton_append, toUInt8_natAt], ?_⟩
  simp (disch := simp) only [binary64At_append_of_le, List.length_singleton, length_ofBinary64, Nat.reduceSub,
    binary64At_ofBinary64, and_self]

theorem readFloatTable_take {bs : List UInt8} {n off stride : Nat} (h : off + stride * 11 + 8 ≤ n) :
    readFloatTable (bs.take n) off stride = readFloatTable bs off stride := by
  apply Vector.ext
  intro i hi
  have hs := Nat.mul_le_mul_left stride (show i ≤ 11 by omega)
  simp only [readFloatTable, Vector.getElem_ofFn]
  rw [binary64At_take (by omega)]

/-! ## 書いて読む -/

/-- 時刻が書ければ、ヘッダーは七つの区画をそれぞれの長さに埋めて並べたものになる。 -/
theorem encode_eq {h : FileHeader} {b1 b2 b3 : List UInt8} (hb1 : Time.cdsEncode h.trueRepeatCycleStart = .ok b1)
    (hb2 : Time.cdsEncode h.planForwardScanEnd = .ok b2) (hb3 : Time.cdsEncode h.plannedRepeatCycleEnd = .ok b3) :
    h.encode = .ok (padTo h.mainRecordBytes secondaryOffset ++
      padTo h.secondaryRecordBytes (dataHeaderOffset - secondaryOffset) ++ padTo h.statusBytes 64 ++
      padTo (b1 ++ b2 ++ b3) 64 ++ padTo h.descriptionBytes 128 ++ padTo h.radiometricBytes 512 ++
      padTo h.geometricBytes 64) := by
  simp only [encode, hb1, hb2, hb3, Outcome.ok_bind]
  rfl

theorem length_of_encode_eq_ok {h : FileHeader} {bs : List UInt8} (he : h.encode = .ok bs) :
    bs.length = headerSize := by
  simp only [encode] at he
  obtain ⟨b1, hb1, he⟩ := Outcome.bind_eq_ok.mp he
  obtain ⟨b2, hb2, he⟩ := Outcome.bind_eq_ok.mp he
  obtain ⟨b3, hb3, he⟩ := Outcome.bind_eq_ok.mp he
  have hl1 := Time.length_of_cdsEncode_eq_ok hb1
  have hl2 := Time.length_of_cdsEncode_eq_ok hb2
  have hl3 := Time.length_of_cdsEncode_eq_ok hb3
  rw [← Except.ok.inj he]
  -- 七つの区画はどれもその長さに埋まる
  simp (disch := simp [hl1, hl2, hl3, Time.cdsLength]) only [List.length_append, length_padTo]
  rfl

/-- 書いたヘッダーでは、二進の五つの区画がそれぞれの始まりから中身を並べる。画像の取得の区画には
三つの時刻が続けて並ぶ。 -/
theorem drop_sections {h : FileHeader} {b1 b2 b3 bs : List UInt8}
    (hb1 : Time.cdsEncode h.trueRepeatCycleStart = .ok b1) (hb2 : Time.cdsEncode h.planForwardScanEnd = .ok b2)
    (hb3 : Time.cdsEncode h.plannedRepeatCycleEnd = .ok b3) (he : h.encode = .ok bs) :
    (∃ r, bs.drop satelliteStatusOffset = h.statusBytes ++ r) ∧
      (∃ r, bs.drop imageAcquisitionOffset = b1 ++ b2 ++ b3 ++ r) ∧
      (∃ r, bs.drop imageDescriptionOffset = h.descriptionBytes ++ r) ∧
      (∃ r, bs.drop radiometricProcessingOffset = h.radiometricBytes ++ r) ∧
      ∃ r, bs.drop geometricProcessingOffset = h.geometricBytes ++ r := by
  have hl : (b1 ++ b2 ++ b3).length ≤ 64 := by
    simp [Time.length_of_cdsEncode_eq_ok hb1, Time.length_of_cdsEncode_eq_ok hb2,
      Time.length_of_cdsEncode_eq_ok hb3, Time.cdsLength]
  rw [encode_eq hb1 hb2 hb3] at he
  have d0 : bs.drop 0 = padTo h.mainRecordBytes secondaryOffset ++
      (padTo h.secondaryRecordBytes (dataHeaderOffset - secondaryOffset) ++ (padTo h.statusBytes 64 ++
        (padTo (b1 ++ b2 ++ b3) 64 ++ (padTo h.descriptionBytes 128 ++ (padTo h.radiometricBytes 512 ++
          padTo h.geometricBytes 64))))) := by
    rw [List.drop_zero, ← Except.ok.inj he]
    simp only [List.append_assoc]
  -- 区画を一つ飛ばすごとに、次の区画の始まりに進む
  have d1 := drop_next_section (le_of_eq (length_mainRecordBytes h)) d0
  have d2 := drop_next_section (le_of_eq (length_secondaryRecordBytes h)) d1
  have d3 := drop_next_section (by simp) d2
  have d4 := drop_next_section hl d3
  have d5 := drop_next_section (by simp) d4
  have d6 := drop_next_section (by simp) d5
  exact ⟨⟨_, d2.trans (padTo_append _ _ _)⟩, ⟨_, d3.trans (padTo_append _ _ _)⟩, ⟨_, d4.trans (padTo_append _ _ _)⟩,
    ⟨_, d5.trans (padTo_append _ _ _)⟩, ⟨_, d6⟩⟩

/-- ヘッダーの区画の始まりと、ヘッダーの長さ。 -/
theorem sectionOffsets : headerSize = 2912 ∧ secondaryOffset = 640 ∧ dataHeaderOffset = 2080 ∧
    satelliteStatusOffset = 2080 ∧ imageAcquisitionOffset = 2144 ∧ imageDescriptionOffset = 2208 ∧
    radiometricProcessingOffset = 2336 ∧ geometricProcessingOffset = 2848 :=
  ⟨rfl, rfl, rfl, rfl, rfl, rfl, rfl, rfl⟩

theorem decode_take (bs : List UInt8) : decode (bs.take headerSize) = decode bs := by
  by_cases hl : bs.length ≤ headerSize
  · rw [List.take_of_length_le hl]
  · have hlen : (bs.take headerSize).length = headerSize := by
      rw [List.length_take]
      omega
    rw [decode, decode, hlen, if_neg (Nat.lt_irrefl _), if_neg (by omega)]
    -- 読む欄はどれも 2912 バイトに収まる
    simp (disch := simp only [recordLength, Text.nameLength, Text.valueLength, mainRecordNames,
      secondaryRecordNames, sectionOffsets, ReferenceGrid.size, Time.cdsLength, List.length_cons,
      List.length_nil]; omega) only [readRecordMap_take, List.drop_take, natAt_take, binary32At_take,
      binary64At_take, Time.cdsDecode_take, ReferenceGrid.decode_take, readFloatTable_take]

/-- 読み戻した主ヘッダーの表は、ちょうど主ヘッダーの八つの名前を持ち、それぞれを元の表の値
（なければ空）を欄に書いて読んだ値に写す。 -/
theorem get?_readBack_main (h : FileHeader) (key : String) :
    h.readBack.mainProductHeader.get? key =
      if key ∈ mainRecordNames then some (fieldValue ((h.mainProductHeader.get? key).getD "")) else none := by
  simp only [readBack]
  rw [RecordMap.get?_ofPairs_map]

/-- 読み戻した副ヘッダーの表は、ちょうど副ヘッダーの十八の名前を持ち、それぞれを書いた値
`secondaryValue`（型のついた九つの欄はその欄の値、ほかは元の表の値か空）を欄に書いて読んだ値に写す。 -/
theorem get?_readBack_secondary (h : FileHeader) (key : String) :
    h.readBack.secondaryProductHeader.get? key =
      if key ∈ secondaryRecordNames then some (fieldValue (h.secondaryValue key)) else none := by
  simp only [readBack]
  rw [RecordMap.get?_ofPairs_map]

/-- 時刻が CDS で表せるヘッダーは 2912 バイトに書け、読むと `readBack` が戻る。証明は区画ごとの
読み戻しを組み合わせる。 -/
theorem decode_encode {h : FileHeader} (ht : h.TimesInCdsRange) :
    ∃ bs, h.encode = .ok bs ∧ bs.length = headerSize ∧ decode bs = .ok h.readBack := by
  obtain ⟨b1, hb1, hl1, hr1⟩ := Time.cdsDecode_cdsEncode ht.1
  obtain ⟨b2, hb2, hl2, hr2⟩ := Time.cdsDecode_cdsEncode ht.2.1
  obtain ⟨b3, hb3, -, hr3⟩ := Time.cdsDecode_cdsEncode ht.2.2
  have he := encode_eq hb1 hb2 hb3
  have hlen := length_of_encode_eq_ok he
  refine ⟨_, he, hlen, ?_⟩
  obtain ⟨⟨r0, e0⟩, ⟨r1, e1⟩, ⟨r2, e2⟩, ⟨r3, e3⟩, ⟨r4, e4⟩⟩ := drop_sections hb1 hb2 hb3 he
  -- 取得の区画の三つの時刻は 10 バイトおき
  have a1 : b1 ++ b2 ++ b3 ++ r1 = b1 ++ (b2 ++ (b3 ++ r1)) := by
    simp only [List.append_assoc]
  have a2 : (b1 ++ (b2 ++ (b3 ++ r1))).drop 10 = b2 ++ (b3 ++ r1) := List.drop_left' hl1
  have a3 : (b1 ++ (b2 ++ (b3 ++ r1))).drop 20 = b3 ++ r1 := by
    rw [show 20 = 10 + 10 from rfl, ← List.drop_drop, a2, List.drop_left' (show b2.length = 10 from hl2)]
  obtain ⟨m, s⟩ := readRecords h (padTo h.statusBytes 64 ++ padTo (b1 ++ b2 ++ b3) 64 ++
    padTo h.descriptionBytes 128 ++ padTo h.radiometricBytes 512 ++ padTo h.geometricBytes 64)
  obtain ⟨f1, f2, f3, f4, f5, f6, f7, f8, f9⟩ := typedFields_readBack h
  obtain ⟨s1, s2⟩ := readStatus h r0
  obtain ⟨d1, d2, d3, d4, d5⟩ := readDescription h r2
  obtain ⟨c1, c2, c3, c4⟩ := readFloatTable_radiometricBytes h r3
  obtain ⟨g1, g2, g3, g4⟩ := readGeometric h r4
  rw [decode, if_neg (by rw [hlen]; exact Nat.lt_irrefl _)]
  -- 二進の欄は区画ごとに、文字の欄は二つの表から読み戻す
  simp only [e0, e1, e2, e3, e4, a1, a2, a3, hr1, hr2, hr3, s1, s2, d1, d2, d3, d4, d5, c1, c2, c3, c4, g1, g2, g3,
    g4]
  simp only [List.append_assoc] at m s ⊢
  simp only [m, s, f1, f2, f3, f4, f5, f6, f7, f8, f9, Outcome.ok_bind, Outcome.pure_eq]
  rw [readBack_mainProductHeader, readBack_secondaryProductHeader]
  rfl

/-- 表が空で、数の欄がどれも 0 で、三つの時刻がどれも `t` のヘッダー。 -/
def blankAt (t : Time.Instant) : FileHeader where
  mainProductHeader := []
  secondaryProductHeader := []
  selectedBandIds := ""
  northLineSelected := 0
  eastColumnSelected := 0
  southLineSelected := 0
  westColumnSelected := 0
  numberLinesVisir := 0
  numberColumnsVisir := 0
  numberLinesHrv := 0
  numberColumnsHrv := 0
  satelliteId := 0
  nominalLongitude := ⟨0⟩
  trueRepeatCycleStart := t
  planForwardScanEnd := t
  plannedRepeatCycleEnd := t
  typeOfProjection := 0
  longitudeOfSsp := ⟨0⟩
  referenceGridVisir := ⟨0, 0, ⟨0⟩, ⟨0⟩, 0⟩
  referenceGridHrv := ⟨0, 0, ⟨0⟩, ⟨0⟩, 0⟩
  plannedChanProcessing := Vector.replicate 12 0
  calSlope := Vector.replicate 12 ⟨0⟩
  calOffset := Vector.replicate 12 ⟨0⟩
  gsicsCalCoeff := Vector.replicate 12 ⟨0⟩
  gsicsOffsetCount := Vector.replicate 12 ⟨0⟩
  typeOfEarthModel := 0
  equatorialRadius := ⟨0⟩
  northPolarRadius := ⟨0⟩
  southPolarRadius := ⟨0⟩

theorem blankAt_timesInCdsRange {t : Time.Instant} (h : t.InCdsRange) : (blankAt t).TimesInCdsRange :=
  ⟨h, h, h⟩

/-- 閏秒の中の時刻（2016-12-31T23:59:60.5Z）を持つヘッダーは、書けるが、読むと時刻が変わる。 -/
theorem leapSecond_not_readBack :
    (blankAt ⟨1483228799, 1500000000⟩).TimesInCdsRange ∧
      ∃ bs, (blankAt ⟨1483228799, 1500000000⟩).encode = .ok bs ∧
        ∃ h', decode bs = .ok h' ∧
          h'.trueRepeatCycleStart ≠ (blankAt ⟨1483228799, 1500000000⟩).trueRepeatCycleStart := by
  have hl : (⟨1483228799, 1500000000⟩ : Time.Instant).InCdsRange := by
    rw [Time.Instant.InCdsRange, Time.diff_cdsEpoch]
    decide
  have hh := blankAt_timesInCdsRange hl
  obtain ⟨bs, he, -, hd⟩ := decode_encode hh
  -- 読み戻した時刻は 2017-01-01T00:00:00.5Z
  exact ⟨hh, bs, he, _, hd, by decide⟩

/-- 全円盤の 12 チャンネルのファイルのヘッダーの見本。取得の開始は 2019-01-01T12:00:09Z、前進走査の
終わりはその 12 分後、繰り返しの終わりは 15 分後。浮動小数点数はビット列で与える：衛星直下点の経度
9.5°、格子の間隔 3.0004032 km と 1.0001344 km、較正の傾き 0.0235 と切片 -1.1985、GSICS の係数 0.2052 と
切片 -51.0、半径 6378.169 km と 6356.5838 km。 -/
def sample : FileHeader where
  mainProductHeader := [("FormatName", "NATIVE"), ("CreatingCentre", "EUMETSAT")]
  secondaryProductHeader := [("SMOD", "NOMINAL")]
  selectedBandIds := "XXXXXXXXXXXX"
  northLineSelected := 3712
  eastColumnSelected := 1
  southLineSelected := 1
  westColumnSelected := 3712
  numberLinesVisir := 3712
  numberColumnsVisir := 3712
  numberLinesHrv := 11136
  numberColumnsHrv := 11136
  satelliteId := 324
  nominalLongitude := ⟨0⟩
  trueRepeatCycleStart := ⟨1546344009, 0⟩
  planForwardScanEnd := ⟨1546344729, 0⟩
  plannedRepeatCycleEnd := ⟨1546344909, 0⟩
  typeOfProjection := 1
  longitudeOfSsp := ⟨0x41180000⟩
  referenceGridVisir := ⟨3712, 3712, ⟨0x4040069b⟩, ⟨0x4040069b⟩, 2⟩
  referenceGridHrv := ⟨11136, 11136, ⟨0x3f800467⟩, ⟨0x3f800467⟩, 2⟩
  plannedChanProcessing := ⟨#[0, 0, 0, 1, 1, 1, 1, 1, 1, 1, 1, 0], rfl⟩
  calSlope := Vector.replicate 12 ⟨0x3f9810624dd2f1aa⟩
  calOffset := Vector.replicate 12 ⟨0xbff32d0e56041893⟩
  gsicsCalCoeff := Vector.replicate 12 ⟨0x3fca43fe5c91d14e⟩
  gsicsOffsetCount := Vector.replicate 12 ⟨0xc049800000000000⟩
  typeOfEarthModel := 2
  equatorialRadius := ⟨0x40b8ea2b43958106⟩
  northPolarRadius := ⟨0x40b8d49573eab368⟩
  southPolarRadius := ⟨0x40b8d49573eab368⟩

theorem sample_timesInCdsRange : sample.TimesInCdsRange := by
  refine ⟨?_, ?_, ?_⟩ <;>
  · rw [Time.Instant.InCdsRange, Time.diff_cdsEpoch]
    decide

end FileHeader

namespace Trailer

/-- 範囲が空で、旗が偽で、二つの時刻がどれも `t` の末尾。 -/
def blankAt (t : Time.Instant) : Trailer :=
  ⟨0, false, false, t, t, ⟨0, 0, 0, 0⟩, ⟨0, 0, 0, 0⟩, ⟨0, 0, 0, 0⟩⟩

theorem blankAt_timesInCdsRange {t : Time.Instant} (h : t.InCdsRange) : (blankAt t).TimesInCdsRange :=
  ⟨h, h⟩

/-- 全円盤の走査の末尾の見本。前進走査は 2019-01-01T12:00:09Z からの 12 分で、HRV の窓は公称の二つ。 -/
def sample : Trailer :=
  ⟨324, true, false, ⟨1546344009, 0⟩, ⟨1546344729, 0⟩, ⟨1, 3712, 1, 3712⟩, ⟨1, 8064, 2064, 7631⟩,
   ⟨8065, 11136, 3992, 9559⟩⟩

theorem sample_timesInCdsRange : sample.TimesInCdsRange := by
  refine ⟨?_, ?_⟩ <;>
  · rw [Time.Instant.InCdsRange, Time.diff_cdsEpoch]
    decide

end Trailer

/-! ## 固定長の記録の読み戻し -/

/-- 時刻が CDS で表せるヘッダーと末尾は、それぞれ 2912 バイトと 128 バイトに書け、読むと
`readBack` が戻る。文字の値は欄に書いて読んだ値に、時刻は時間軸の上で同じ位置の閏秒でない時刻に
なり、ほかの欄はどれも変わらない。浮動小数点数の欄はビット列として変わらない。 -/
theorem fixedRecords_roundTrip {h : FileHeader} {t : Trailer} (hh : h.TimesInCdsRange)
    (ht : t.TimesInCdsRange) :
    (∃ bs, h.encode = .ok bs ∧ bs.length = headerSize ∧ FileHeader.decode bs = .ok h.readBack) ∧
      ∃ bs, t.encode = .ok bs ∧ bs.length = trailerSize ∧ Trailer.decode bs = .ok t.readBack :=
  ⟨FileHeader.decode_encode hh, Trailer.decode_encode ht⟩

theorem fixedRecords_roundTrip_sample :
    FileHeader.sample.TimesInCdsRange ∧ Trailer.sample.TimesInCdsRange ∧
      (∃ bs, FileHeader.sample.encode = .ok bs ∧ bs.length = headerSize ∧
          FileHeader.decode bs = .ok FileHeader.sample.readBack) ∧
        ∃ bs, Trailer.sample.encode = .ok bs ∧ bs.length = trailerSize ∧
          Trailer.decode bs = .ok Trailer.sample.readBack :=
  ⟨FileHeader.sample_timesInCdsRange, Trailer.sample_timesInCdsRange,
    fixedRecords_roundTrip FileHeader.sample_timesInCdsRange Trailer.sample_timesInCdsRange⟩

end SeviriScene

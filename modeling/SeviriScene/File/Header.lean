import SeviriScene.Bytes.BigEndian
import SeviriScene.Fault
import SeviriScene.Geo.Projection
import SeviriScene.Text.Blank
import SeviriScene.Text.Integer
import SeviriScene.Text.Record
import SeviriScene.Text.RecordMap
import SeviriScene.Time.Cds

/-!
# ファイルのヘッダー

ファイルの先頭 2912 バイト。前半は文字の記録で、主ヘッダーの 8 記録（0 から）と副ヘッダーの
18 記録（640 から）。後半（2080 から）は大きい方から並べた二進の欄で、衛星の状態、画像の取得時刻、
画像の記述、放射較正、幾何処理の五つの区画からなる。各区画は決まった位置から始まり、書くときは
中身のあとを 0 で埋める。浮動小数点数の欄はビット列のまま持つ。

副ヘッダーのうち帯域の選択、選択矩形の四辺、行数と列数の九つは型のついた欄として読み、
書くときはこの欄の値が表の値に優先する。
-/

namespace SeviriScene

/-- 主ヘッダーの記録の名前。書くときの順。 -/
def mainRecordNames : List String :=
  ["FormatName", "FormatDocumentName", "FormatDocumentMajorVersion",
   "FormatDocumentMinorVersion", "CreationDateTime", "CreatingCentre",
   "DataSetIdentification", "TotalFileSize"]

/-- 副ヘッダーの記録の名前。書くときの順。 -/
def secondaryRecordNames : List String :=
  ["ABID", "SMOD", "APXS", "AVPA", "LSCD", "LMAP", "QDLC", "QDLP", "QQAI",
   "SelectedBandIDs", "SouthLineSelectedRectangle", "NorthLineSelectedRectangle",
   "EastColumnSelectedRectangle", "WestColumnSelectedRectangle", "NumberLinesVISIR",
   "NumberColumnsVISIR", "NumberLinesHRV", "NumberColumnsHRV"]

/-- ヘッダーの長さ。 -/
def headerSize : Nat := 2912

/-- 副ヘッダーの始まり。 -/
def secondaryOffset : Nat := 640

/-- 二進の欄の始まり。 -/
def dataHeaderOffset : Nat := 2080

/-- 衛星の状態の区画（64 バイト）の始まり。 -/
def satelliteStatusOffset : Nat := dataHeaderOffset

/-- 画像の取得の区画（64 バイト）の始まり。 -/
def imageAcquisitionOffset : Nat := satelliteStatusOffset + 64

/-- 画像の記述の区画（128 バイト）の始まり。 -/
def imageDescriptionOffset : Nat := imageAcquisitionOffset + 64

/-- 放射較正の区画（512 バイト）の始まり。 -/
def radiometricProcessingOffset : Nat := imageDescriptionOffset + 128

/-- 幾何処理の区画（64 バイト）の始まり。 -/
def geometricProcessingOffset : Nat := radiometricProcessingOffset + 512

/-- 基準格子：全円盤の行数と列数、格子の間隔（km）、原点の隅。 -/
structure ReferenceGrid where
  numberOfLines : Int32
  numberOfColumns : Int32
  lineDirGridStep : Binary32
  columnDirGridStep : Binary32
  gridOrigin : UInt8

namespace ReferenceGrid

/-- 格子の長さ（バイト）。 -/
def size : Nat := 17

/-- `off` からの格子を読む。 -/
def decode (bs : List UInt8) (off : Nat) : ReferenceGrid :=
  ⟨Int32.ofInt (Bytes.intAt bs off 4), Int32.ofInt (Bytes.intAt bs (off + 4) 4),
   Bytes.binary32At bs (off + 8), Bytes.binary32At bs (off + 12),
   (Bytes.natAt bs (off + 16) 1).toUInt8⟩

/-- 格子を書く。 -/
def encode (g : ReferenceGrid) : List UInt8 :=
  Bytes.ofInt 4 g.numberOfLines.toInt ++ Bytes.ofInt 4 g.numberOfColumns.toInt ++
    Bytes.ofBinary32 g.lineDirGridStep ++ Bytes.ofBinary32 g.columnDirGridStep ++ [g.gridOrigin]

end ReferenceGrid

/-- 12 のチャンネルそれぞれに一つの値を持つ表。位置はチャンネルの表の順。 -/
abbrev ChannelTable (α : Type) := Vector α 12

/-- ファイルのヘッダー。 -/
structure FileHeader where
  mainProductHeader : Text.RecordMap
  secondaryProductHeader : Text.RecordMap
  selectedBandIds : String
  northLineSelected : Int32
  eastColumnSelected : Int32
  southLineSelected : Int32
  westColumnSelected : Int32
  numberLinesVisir : Int32
  numberColumnsVisir : Int32
  numberLinesHrv : Int32
  numberColumnsHrv : Int32
  satelliteId : UInt16
  nominalLongitude : Binary32
  trueRepeatCycleStart : Time.Instant
  planForwardScanEnd : Time.Instant
  plannedRepeatCycleEnd : Time.Instant
  typeOfProjection : UInt8
  longitudeOfSsp : Binary32
  referenceGridVisir : ReferenceGrid
  referenceGridHrv : ReferenceGrid
  plannedChanProcessing : ChannelTable UInt8
  calSlope : ChannelTable Binary64
  calOffset : ChannelTable Binary64
  gsicsCalCoeff : ChannelTable Binary64
  gsicsOffsetCount : ChannelTable Binary64
  typeOfEarthModel : UInt8
  equatorialRadius : Binary64
  northPolarRadius : Binary64
  southPolarRadius : Binary64

namespace FileHeader

/-- `off` から `count` 個の文字の記録を読み、表にする。同じ名前は後の記録が勝つ。 -/
def readRecordMap (bs : List UInt8) (off count : Nat) : Text.RecordMap :=
  (List.range count).foldl
    (fun m k =>
      let (name, value) := Text.decodeRecord (bs.drop (off + Text.recordLength * k))
      m.insert name value)
    []

/-- 表から文字の値を引く。なければ形式の誤り。 -/
def textValue (m : Text.RecordMap) (name : String) : Outcome String :=
  match m.get? name with
  | some v => .ok v
  | none => .error (.missingRecord name)

/-- 表から整数の値を引く。空白を除いて 32 ビットの整数として読み、誤りには元の値を添える。 -/
def intValue (m : Text.RecordMap) (name : String) : Outcome Int32 := do
  let v ← textValue m name
  match Text.parseInt32 (Text.trimBlank v) with
  | .ok i => pure (Int32.ofInt i)
  | .error e => throw (.badInteger v name e)

/-- `off` から 8 バイトずつ並んだ 12 の倍精度の値。間隔は `stride`。 -/
def readFloatTable (bs : List UInt8) (off stride : Nat) : ChannelTable Binary64 :=
  Vector.ofFn fun i => Bytes.binary64At bs (off + stride * i.val)

/-- ヘッダーを読む。2912 バイトに満たなければ形式の誤り。二進の欄は区画ごとに、区画の始まりからの
位置で読む。型のついた欄は、帯域の選択、北、東、南、西、VIS/IR の行数と列数、HRV の行数と列数の
順に引く。 -/
def decode (bs : List UInt8) : Outcome FileHeader := do
  if bs.length < headerSize then throw (.truncated "header" headerSize bs.length)
  let main := readRecordMap bs 0 mainRecordNames.length
  let sec := readRecordMap bs secondaryOffset secondaryRecordNames.length
  let status := bs.drop satelliteStatusOffset
  let acquisition := bs.drop imageAcquisitionOffset
  let description := bs.drop imageDescriptionOffset
  let radiometric := bs.drop radiometricProcessingOffset
  let geometric := bs.drop geometricProcessingOffset
  let selected ← textValue sec "SelectedBandIDs"
  let north ← intValue sec "NorthLineSelectedRectangle"
  let east ← intValue sec "EastColumnSelectedRectangle"
  let south ← intValue sec "SouthLineSelectedRectangle"
  let west ← intValue sec "WestColumnSelectedRectangle"
  let linesVisir ← intValue sec "NumberLinesVISIR"
  let columnsVisir ← intValue sec "NumberColumnsVISIR"
  let linesHrv ← intValue sec "NumberLinesHRV"
  let columnsHrv ← intValue sec "NumberColumnsHRV"
  pure {
    mainProductHeader := main
    secondaryProductHeader := sec
    selectedBandIds := selected
    northLineSelected := north
    eastColumnSelected := east
    southLineSelected := south
    westColumnSelected := west
    numberLinesVisir := linesVisir
    numberColumnsVisir := columnsVisir
    numberLinesHrv := linesHrv
    numberColumnsHrv := columnsHrv
    satelliteId := (Bytes.natAt status 0 2).toUInt16
    nominalLongitude := Bytes.binary32At status 2
    trueRepeatCycleStart := Time.cdsDecode acquisition
    planForwardScanEnd := Time.cdsDecode (acquisition.drop 10)
    plannedRepeatCycleEnd := Time.cdsDecode (acquisition.drop 20)
    typeOfProjection := (Bytes.natAt description 0 1).toUInt8
    longitudeOfSsp := Bytes.binary32At description 1
    referenceGridVisir := ReferenceGrid.decode description 5
    referenceGridHrv := ReferenceGrid.decode description 22
    plannedChanProcessing := Vector.ofFn fun i => (Bytes.natAt description (39 + i.val) 1).toUInt8
    calSlope := readFloatTable radiometric 0 16
    calOffset := readFloatTable radiometric 8 16
    gsicsCalCoeff := readFloatTable radiometric 192 8
    gsicsOffsetCount := readFloatTable radiometric 288 8
    typeOfEarthModel := (Bytes.natAt geometric 0 1).toUInt8
    equatorialRadius := Bytes.binary64At geometric 1
    northPolarRadius := Bytes.binary64At geometric 9
    southPolarRadius := Bytes.binary64At geometric 17
  }

/-- 副ヘッダーの記録 `name` に書く値。型のついた欄はその十進表記、ほかは表の値か空。 -/
def secondaryValue (h : FileHeader) : String → String
  | "SelectedBandIDs" => h.selectedBandIds
  | "NorthLineSelectedRectangle" => toString h.northLineSelected.toInt
  | "EastColumnSelectedRectangle" => toString h.eastColumnSelected.toInt
  | "SouthLineSelectedRectangle" => toString h.southLineSelected.toInt
  | "WestColumnSelectedRectangle" => toString h.westColumnSelected.toInt
  | "NumberLinesVISIR" => toString h.numberLinesVisir.toInt
  | "NumberColumnsVISIR" => toString h.numberColumnsVisir.toInt
  | "NumberLinesHRV" => toString h.numberLinesHrv.toInt
  | "NumberColumnsHRV" => toString h.numberColumnsHrv.toInt
  | other => (h.secondaryProductHeader.get? other).getD ""

/-- 主ヘッダーの中身：八つの記録を決まった順に書く。表にない記録の値は空。 -/
def mainRecordBytes (h : FileHeader) : List UInt8 :=
  mainRecordNames.flatMap fun n => Text.writeRecord n ((h.mainProductHeader.get? n).getD "")

/-- 副ヘッダーの中身：十八の記録を決まった順に、`secondaryValue` の値で書く。 -/
def secondaryRecordBytes (h : FileHeader) : List UInt8 :=
  secondaryRecordNames.flatMap fun n => Text.writeRecord n (h.secondaryValue n)

/-- 衛星の状態の区画の中身：衛星番号と公称の経度。 -/
def statusBytes (h : FileHeader) : List UInt8 :=
  Bytes.ofNat 2 h.satelliteId.toNat ++ Bytes.ofBinary32 h.nominalLongitude

/-- 画像の記述の区画の中身：投影の種類、衛星直下点の経度、二つの基準格子、チャンネルごとの処理の種類。 -/
def descriptionBytes (h : FileHeader) : List UInt8 :=
  [h.typeOfProjection] ++ Bytes.ofBinary32 h.longitudeOfSsp ++
    h.referenceGridVisir.encode ++ h.referenceGridHrv.encode ++ h.plannedChanProcessing.toList

/-- 放射較正の区画の中身：12 組の傾きと切片、12 の GSICS の係数、12 の GSICS の切片。 -/
def radiometricBytes (h : FileHeader) : List UInt8 :=
  (List.finRange 12).flatMap (fun i => Bytes.ofBinary64 h.calSlope[i] ++ Bytes.ofBinary64 h.calOffset[i]) ++
    (h.gsicsCalCoeff.toList ++ h.gsicsOffsetCount.toList).flatMap Bytes.ofBinary64

/-- 幾何処理の区画の中身：地球の模型と三つの半径。 -/
def geometricBytes (h : FileHeader) : List UInt8 :=
  [h.typeOfEarthModel] ++ Bytes.ofBinary64 h.equatorialRadius ++
    Bytes.ofBinary64 h.northPolarRadius ++ Bytes.ofBinary64 h.southPolarRadius

/-- ヘッダーを 2912 バイトに書く。時刻は取得開始、前進走査の終わり、繰り返しの終わりの順に書き、
最初に CDS で表せない時刻の誤りを返す。 -/
def encode (h : FileHeader) : Outcome (List UInt8) := do
  let t1 ← Time.cdsEncode h.trueRepeatCycleStart
  let t2 ← Time.cdsEncode h.planForwardScanEnd
  let t3 ← Time.cdsEncode h.plannedRepeatCycleEnd
  pure (Bytes.padTo h.mainRecordBytes secondaryOffset ++
    Bytes.padTo h.secondaryRecordBytes (dataHeaderOffset - secondaryOffset) ++
    Bytes.padTo h.statusBytes 64 ++ Bytes.padTo (t1 ++ t2 ++ t3) 64 ++ Bytes.padTo h.descriptionBytes 128 ++
    Bytes.padTo h.radiometricBytes 512 ++ Bytes.padTo h.geometricBytes 64)

/-- 投影の定数。半径は km から m に直し、極半径は南北の平均をとる。 -/
def projection (h : FileHeader) : Projection where
  a := h.equatorialRadius.toFloat * 1000.0
  b := (h.northPolarRadius.toFloat + h.southPolarRadius.toFloat) * 0.5 * 1000.0
  h := satelliteAltitude
  sspLongitude := h.longitudeOfSsp.toFloat32.toFloat

end FileHeader

end SeviriScene

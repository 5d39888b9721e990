import SeviriScene.Band.ChannelSet
import SeviriScene.File.Header
import SeviriScene.File.LineHeader

/-!
# データ部の配置

データ部は行の記録の並びで、一行の記録は、ある VIS/IR のチャンネルごとの記録（表の順）と、
HRV があればその 3 本の副走査線の記録からなる。各記録は 65 バイトの前置き部と、10 ビットの標本を
詰めた `packedWidth` バイトの本体を持つ。末尾はデータ部のすぐあと、`trailerOffset` から始まる。

配置は選択矩形とチャンネルの集合から決まる（`resolve`）。大きさの計算は 64 ビットに収まることを
確かめてから使う（`checkedTrailerOffset`）。
-/

namespace SeviriScene

/-- HRV の副走査線の数。 -/
def hrvSublines : Nat := 3

/-- 全円盤の VIS/IR の行数と列数。 -/
def visirFullSize : Nat := 3712

/-- 大きさの計算の上限。これ未満が 64 ビットに収まる。 -/
def wordLimit : Nat := Nat.pow 2 64

/-- 4 の倍数に切り上げた列数。 -/
def paddedColumns (columns : Nat) : Nat :=
  columns + (4 - columns % 4) % 4

/-- `columns` 個の 10 ビットの標本を詰めたバイト数（切り上げ）。 -/
def packedWidth (columns : Nat) : Nat :=
  (columns * 10 + 7) / 8

/-- データ部の配置。 -/
structure LineLayout where
  visirChannels : Nat
  visirColumns : Nat
  numberOfLines : Nat
  hasHrv : Bool
  hrvColumns : Nat
  hrvNumberOfLines : Nat
  isFullDisk : Bool
  deriving Repr, DecidableEq

namespace LineLayout

/-- VIS/IR の記録の本体の長さ。 -/
def visirPackedWidth (l : LineLayout) : Nat :=
  packedWidth l.visirColumns

/-- HRV の記録の本体の長さ。 -/
def hrvPackedWidth (l : LineLayout) : Nat :=
  packedWidth l.hrvColumns

/-- VIS/IR の記録の長さ。 -/
def visirSubrecordSize (l : LineLayout) : Nat :=
  linePrefixSize + l.visirPackedWidth

/-- HRV の記録の長さ。 -/
def hrvSubrecordSize (l : LineLayout) : Nat :=
  linePrefixSize + l.hrvPackedWidth

/-- 一行の記録の長さ。 -/
def recordSize (l : LineLayout) : Nat :=
  l.visirChannels * l.visirSubrecordSize + (if l.hasHrv then hrvSublines * l.hrvSubrecordSize else 0)

/-- データ部の長さ。 -/
def dataSize (l : LineLayout) : Nat :=
  l.recordSize * l.numberOfLines

/-- 末尾の始まり。 -/
def trailerOffset (l : LineLayout) : Nat :=
  headerSize + l.dataSize

/-- 行の中の `slot` 番目の VIS/IR の記録の始まり。 -/
def visirSubrecordOffset (l : LineLayout) (slot : Nat) : Nat :=
  slot * l.visirSubrecordSize

/-- 行の中の HRV の `subline` 本目の記録の始まり。 -/
def hrvSubrecordOffset (l : LineLayout) (subline : Nat) : Nat :=
  l.visirChannels * l.visirSubrecordSize + subline * l.hrvSubrecordSize

/-- 64 ビットに収まる値だけを通す。 -/
def fits (n : Nat) : Option Nat :=
  if n < wordLimit then some n else none

/-- 詰めたバイト数を、途中の値が 64 ビットに収まる限りで求める。 -/
def checkedPackedWidth (columns : Nat) : Option Nat := do
  let tenfold ← fits (columns * 10)
  let rounded ← fits (tenfold + 7)
  pure (rounded / 8)

/-- 末尾の始まりを、途中のすべての値が 64 ビットに収まる限りで求める。 -/
def checkedDataEnd (l : LineLayout) : Option Nat := do
  let visir ← fits ((← checkedPackedWidth l.visirColumns) + linePrefixSize)
  let hrv ←
    if l.hasHrv then do
      let one ← fits ((← checkedPackedWidth l.hrvColumns) + linePrefixSize)
      fits (one * hrvSublines)
    else pure 0
  let visirPart ← fits (l.visirChannels * visir)
  let record ← fits (visirPart + hrv)
  let data ← fits (record * l.numberOfLines)
  fits (data + headerSize)

/-- 末尾の始まり。64 ビットに収まらなければ形式の誤り。 -/
def checkedTrailerOffset (l : LineLayout) : Outcome Nat :=
  match l.checkedDataEnd with
  | some n => .ok n
  | none => .error (.sizeOverflow l.numberOfLines l.visirChannels l.visirColumns l.hrvColumns)

/-- 選択矩形の辺 `high` と `low` の間の数 `high - low + 1`。正でなければ形式の誤り。 -/
def selectionExtent (high low : Int32) (d : Dimension) : Outcome Nat :=
  let extent := high.toInt - low.toInt + 1
  if extent ≤ 0 then .error (.emptySelection extent d) else .ok extent.toNat

/-- ヘッダーの数が負でないことを確かめる。 -/
def nonNegative (value : Int32) (name : String) : Outcome Nat :=
  if value.toInt < 0 then .error (.negativeCount name value.toInt) else .ok value.toInt.toNat

/-- HRV の列数と行数。全幅のファイルでは HRV の列数は半分で、奇数なら形式の誤り。 -/
def hrvSize (h : FileHeader) (columns : Nat) : Outcome (Nat × Nat) := do
  let hdr ← nonNegative h.numberColumnsHrv "NumberColumnsHRV"
  let hrvColumns ←
    if columns < visirFullSize then pure hdr
    else if hdr % 2 ≠ 0 then throw (.oddHrvColumns h.numberColumnsHrv.toInt)
    else pure (hdr / 2)
  let hrvLines ← nonNegative h.numberLinesHrv "NumberLinesHRV"
  pure (hrvColumns, hrvLines)

/-- ヘッダーとチャンネルの集合から配置を決める。列数、行数、VIS/IR の行数、HRV の大きさ、
大きさの計算の順に確かめる。ヘッダーの VIS/IR の列数は使わない。 -/
def resolve (h : FileHeader) (channels : ChannelSet) : Outcome LineLayout := do
  let columns ← selectionExtent h.westColumnSelected h.eastColumnSelected .columns
  let rows ← selectionExtent h.northLineSelected h.southLineSelected .lines
  let lines ← nonNegative h.numberLinesVisir "NumberLinesVISIR"
  let (hrvColumns, hrvLines) ← if channels.hasHrv then hrvSize h columns else pure (0, 0)
  let layout : LineLayout := {
    visirChannels := channels.visirChannels.length
    visirColumns := paddedColumns columns
    numberOfLines := lines
    hasHrv := channels.hasHrv
    hrvColumns := hrvColumns
    hrvNumberOfLines := hrvLines
    isFullDisk := decide (rows ≥ visirFullSize ∧ columns ≥ visirFullSize)
  }
  let _ ← layout.checkedTrailerOffset
  pure layout

/-! ## `usize` での計算

プログラムは大きさと位置を 64 ビットの `usize` で計算し、あふれた値は 2^64 を法として巻き戻る。
上の大きさの関数は同じ式を自然数で計算したもので、読み取りはそちらを使う。次の関数は
プログラムの計算そのものである。
-/

/-- 64 ビットで計算した、`columns` 個の標本を詰めたバイト数。 -/
def packedWidthWord (columns : UInt64) : UInt64 :=
  (columns * 10 + 7) / 8

/-- 64 ビットで計算した VIS/IR の記録の長さ。 -/
def visirSubrecordSizeWord (l : LineLayout) : UInt64 :=
  UInt64.ofNat linePrefixSize + packedWidthWord (UInt64.ofNat l.visirColumns)

/-- 64 ビットで計算した HRV の記録の長さ。 -/
def hrvSubrecordSizeWord (l : LineLayout) : UInt64 :=
  UInt64.ofNat linePrefixSize + packedWidthWord (UInt64.ofNat l.hrvColumns)

/-- 64 ビットで計算した一行の記録の長さ。 -/
def recordSizeWord (l : LineLayout) : UInt64 :=
  UInt64.ofNat l.visirChannels * l.visirSubrecordSizeWord +
    (if l.hasHrv then UInt64.ofNat hrvSublines * l.hrvSubrecordSizeWord else 0)

/-- 64 ビットで計算したデータ部の長さ。 -/
def dataSizeWord (l : LineLayout) : UInt64 :=
  l.recordSizeWord * UInt64.ofNat l.numberOfLines

/-- 64 ビットで計算した末尾の始まり。 -/
def trailerOffsetWord (l : LineLayout) : UInt64 :=
  UInt64.ofNat headerSize + l.dataSizeWord

/-- 64 ビットで計算した、行の中の `slot` 番目の VIS/IR の記録の始まり。 -/
def visirSubrecordOffsetWord (l : LineLayout) (slot : Nat) : UInt64 :=
  UInt64.ofNat slot * l.visirSubrecordSizeWord

/-- 64 ビットで計算した、行の中の HRV の `subline` 本目の記録の始まり。 -/
def hrvSubrecordOffsetWord (l : LineLayout) (subline : Nat) : UInt64 :=
  UInt64.ofNat l.visirChannels * l.visirSubrecordSizeWord + UInt64.ofNat subline * l.hrvSubrecordSizeWord

end LineLayout

end SeviriScene

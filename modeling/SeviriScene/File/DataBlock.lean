import SeviriScene.File.Layout
import SeviriScene.Sample.Packing

/-!
# データ部の読み取り

ファイルのバイト列のうち、ヘッダーのあとの `dataSize` バイトを配置に従って読む。行 `i` の記録は
`headerSize + i * recordSize` から始まり、その中の各記録の位置は `LineLayout` の関数が決める。

画像は行を単位に読む。行を `chunkLines` 行ずつの塊に分けて順に読むが、結果は塊の大きさに
よらず、各行の記録の本体を開いたものを並べたものに等しい。
-/

namespace SeviriScene

/-- 行の並びとしての画像。 -/
abbrev Image (α : Type) := List (List α)

/-- ファイルのデータ部。 -/
structure DataBlock where
  layout : LineLayout
  file : ByteArray

namespace DataBlock

/-- ファイルがデータ部の終わりまで届くことを確かめる。届かなければ形式の誤り。 -/
def ofFile (path : String) (file : ByteArray) (layout : LineLayout) : Outcome DataBlock := do
  let required ← layout.checkedTrailerOffset
  if file.size < required then throw (.shortFile path file.size required)
  pure ⟨layout, file⟩

/-- ファイルの `off` から `len` バイト。 -/
def slice (d : DataBlock) (off len : Nat) : List UInt8 :=
  (d.file.extract off (off + len)).toList

/-- 行 `line` の記録の始まり（ファイルの中の位置）。 -/
def recordStart (d : DataBlock) (line : Nat) : Nat :=
  headerSize + line * d.layout.recordSize

/-- 行の番号を確かめる。範囲の外は処理の誤り。 -/
def checkLine (d : DataBlock) (line : Nat) : Outcome Unit :=
  if line < d.layout.numberOfLines then .ok ()
  else .error (.lineOutOfRange line d.layout.numberOfLines)

/-- 行 `line` の記録全体。 -/
def record (d : DataBlock) (line : Nat) : Outcome (List UInt8) := do
  d.checkLine line
  pure (d.slice (d.recordStart line) d.layout.recordSize)

/-- 行の中の記録の位置と長さ。行にない記録は `none`。 -/
def subRecordSpan (l : LineLayout) : SubRecord → Option (Nat × Nat)
  | .visir slot => if slot < l.visirChannels then some (l.visirSubrecordOffset slot, l.visirSubrecordSize) else none
  | .hrv k => if l.hasHrv ∧ k < hrvSublines then some (l.hrvSubrecordOffset k, l.hrvSubrecordSize) else none

/-- 行 `line` の中の記録。行の番号を先に確かめ、行にない記録は処理の誤り。 -/
def subRecord (d : DataBlock) (line : Nat) (sub : SubRecord) : Outcome (List UInt8) := do
  d.checkLine line
  match subRecordSpan d.layout sub with
  | some (off, len) => pure (d.slice (d.recordStart line + off) len)
  | none => throw (.subRecordAbsent sub)

/-- 記録の前置き部の付帯情報。 -/
def lineHeader (d : DataBlock) (line : Nat) (sub : SubRecord) : Outcome LineHeader := do
  LineHeader.decode (← d.subRecord line sub)

/-- 記録の本体。前置き部のあとのバイト。 -/
def payload (d : DataBlock) (line : Nat) (sub : SubRecord) : Outcome (List UInt8) := do
  pure ((← d.subRecord line sub).drop linePrefixSize)

/-- 画像の行 `row` を開く。`locate` が行の記録を指す。 -/
def readRow (d : DataBlock) (columns : Nat) (locate : Nat → Nat × SubRecord) (row : Nat) :
    Outcome (List UInt16) := do
  let (line, sub) := locate row
  Sample.unpackInto (← d.payload line sub) columns

/-- 行 `start` から `count` 行を順に開く。 -/
def readRange (d : DataBlock) (columns : Nat) (locate : Nat → Nat × SubRecord) (start count : Nat) :
    Outcome (Image UInt16) :=
  (List.range' start count).mapM (d.readRow columns locate)

/-- `rows` 行を `size` 行ずつの塊に分けたときの、各塊の始まりと行数。 -/
def chunks (rows size : Nat) : List (Nat × Nat) :=
  (List.range ((rows + size - 1) / size)).map fun k => (k * size, min size (rows - k * size))

/-- `rows` 行 `columns` 列の画像を、`chunkRows` 行ずつの塊で読む。列数が 4 の倍数でなければ
形式の誤り。行か列が 0 なら記録を見ずに空の画像を返す。 -/
def readRows (d : DataBlock) (rows columns chunkRows : Nat) (locate : Nat → Nat × SubRecord) :
    Outcome (Image UInt16) := do
  if columns % 4 ≠ 0 then throw (.partialGroups columns)
  if rows = 0 ∨ columns = 0 then return List.replicate rows []
  let size := max 1 (min chunkRows rows)
  let parts ← (chunks rows size).mapM fun (start, count) => d.readRange columns locate start count
  pure parts.flatten

/-- VIS/IR の `slot` 番目のチャンネルの画像。 -/
def readVisir (d : DataBlock) (slot chunkLines : Nat) : Outcome (Image UInt16) :=
  d.readRows d.layout.numberOfLines d.layout.visirColumns chunkLines fun row => (row, .visir slot)

/-- HRV の画像。行 `3i + k` は行の記録 `i` の `k` 本目の副走査線。HRV がなければ処理の誤り、
HRV の行数が記録の数の 3 倍でなければ形式の誤り。 -/
def readHrv (d : DataBlock) (chunkLines : Nat) : Outcome (Image UInt16) := do
  if !d.layout.hasHrv then throw .hrvAbsent
  let rows := d.layout.numberOfLines * hrvSublines
  if rows ≠ d.layout.hrvNumberOfLines then
    throw (.hrvLineMismatch d.layout.hrvNumberOfLines d.layout.numberOfLines rows)
  d.readRows rows d.layout.hrvColumns (chunkLines * hrvSublines)
    fun row => (row / hrvSublines, .hrv (row % hrvSublines))

end DataBlock

end SeviriScene

import SeviriScene.Band.Channel
import SeviriScene.Calibration.Level
import SeviriScene.File.SubRecord
import SeviriScene.Text.Integer
import SeviriScene.Time.Instant

/-!
# 失敗の原因

読み取りや計算が失敗した原因。原因ごとに構成子を一つ持ち、種類 `Fault.kind` と説明文
`Fault.message` はこの型の関数として一か所で決まる。種類は六つ：入出力、形式の誤り、
未実装、設定の誤り、ファイルにないチャンネル、処理の誤り。
-/

namespace SeviriScene

/-- 失敗の種類。 -/
inductive FaultKind where
  | io
  | invalidFormat
  | notImplemented
  | configuration
  | channelNotAvailable
  | processing
  deriving Repr, DecidableEq, BEq

/-- 種類の名前。 -/
def FaultKind.label : FaultKind → String
  | .io => "Io"
  | .invalidFormat => "InvalidFormat"
  | .notImplemented => "NotImplemented"
  | .configuration => "Configuration"
  | .channelNotAvailable => "ChannelNotAvailable"
  | .processing => "Processing"

/-- 矩形の向き。行か列か。 -/
inductive Dimension where
  | lines
  | columns
  deriving Repr, DecidableEq

/-- 向きの名前。 -/
def Dimension.word : Dimension → String
  | .lines => "lines"
  | .columns => "columns"

/-- 失敗の原因。 -/
inductive Fault where
  /-- ファイルがない。 -/
  | fileNotFound (path : String)
  /-- 決まった長さを読む前に入力が尽きた。 -/
  | shortRead
  /-- 詰めた 10 ビットの列の長さが 5 の倍数でない。 -/
  | raggedPacking (bytes : Nat)
  /-- 帯域の選択文字列の長さが 12 でない。 -/
  | selectionLength (selection : String) (count : Nat)
  /-- 行の前置き部が短い。 -/
  | shortLinePrefix (bytes : Nat)
  /-- ファイルがデータ部の終わりまで届かない。 -/
  | shortFile (path : String) (bytes required : Nat)
  /-- HRV の行数が記録の数と合わない。 -/
  | hrvLineMismatch (hrvLines lines rows : Nat)
  /-- 列数が 4 の倍数でなく、5 バイトの組に収まらない。 -/
  | partialGroups (columns : Nat)
  /-- ヘッダーに文字の記録がない。 -/
  | missingRecord (name : String)
  /-- ヘッダーの文字の記録が整数として読めない。 -/
  | badInteger (value name : String) (cause : Text.IntegerTextError)
  /-- 全幅のファイルで HRV の列数が奇数。 -/
  | oddHrvColumns (columns : Int)
  /-- 大きさの計算が 64 ビットを超える。 -/
  | sizeOverflow (lines visirChannels visirColumns hrvColumns : Nat)
  /-- 選択矩形の行数か列数が正でない。 -/
  | emptySelection (extent : Int) (dimension : Dimension)
  /-- ヘッダーの数が負。 -/
  | negativeCount (name : String) (value : Int)
  /-- 時刻が CDS の日数で表せない。 -/
  | notCdsDay (time : Time.Instant)
  /-- 固定長の部分が短い。 -/
  | truncated (part : String) (expected got : Nat)
  /-- 衛星番号が 321〜324 でない。 -/
  | unknownSatellite (id : Nat)
  /-- HRV の窓の行数か列数が負。 -/
  | negativeWindow (description : String) (value : Int) (dimension : Dimension)
  /-- 出力の標本の数が入力のバイト数に合わない。 -/
  | sampleCount (slots bytes expected : Nat)
  /-- 標本の数が 4 の倍数でない。 -/
  | raggedSamples (count : Nat)
  /-- 行の番号が範囲の外。 -/
  | lineOutOfRange (line lines : Nat)
  /-- 行の中にその記録がない。 -/
  | subRecordAbsent (sub : SubRecord)
  /-- 行に HRV の記録がない。 -/
  | hrvAbsent
  /-- 輝度温度の処理の種類が 1 でも 2 でもない。 -/
  | unknownCalibrationType (kind : Nat) (channel : Channel)
  /-- 地球の模型が 1 でも 2 でもない。 -/
  | unknownEarthModel (value : Nat)
  /-- 格子の原点が南東の隅でない。 -/
  | unsupportedGridOrigin (value : Nat)
  /-- チャンネルの名前を知らない。 -/
  | unknownChannel (text : String)
  /-- 較正の段階の名前を知らない。 -/
  | unknownCalibration (text : String)
  /-- 係数の出どころの名前を知らない。 -/
  | unknownMode (text : String)
  /-- 一度に読む行数が 0。 -/
  | zeroChunkLines
  /-- チャンネルがその段階の較正を持たない。 -/
  | levelNotOffered (level : CalibrationLevel) (channel : Channel)
  /-- 可視でないチャンネルの太陽放射照度を求めた。 -/
  | noSolarIrradiance (channel : Channel)
  /-- 可視のチャンネルの赤外の定数を求めた。 -/
  | noIrConstants (channel : Channel)
  /-- 輝度温度の二次式の係数がないチャンネル。 -/
  | noBrightnessFit (channel : Channel)
  /-- チャンネルがファイルにない。 -/
  | channelAbsent (channel : Channel)
  deriving Repr

namespace Fault

/-- 失敗の種類。 -/
def kind : Fault → FaultKind
  | .fileNotFound _ | .shortRead => .io
  | .sampleCount .. | .raggedSamples _ | .lineOutOfRange .. | .subRecordAbsent _
  | .hrvAbsent => .processing
  | .unknownCalibrationType .. | .unknownEarthModel _ | .unsupportedGridOrigin _ => .notImplemented
  | .unknownChannel _ | .unknownCalibration _ | .unknownMode _ | .zeroChunkLines
  | .levelNotOffered .. | .noSolarIrradiance _ | .noIrConstants _ | .noBrightnessFit _ => .configuration
  | .channelAbsent _ => .channelNotAvailable
  | _ => .invalidFormat

/-- 格子の原点の番号の名前。 -/
def gridOriginName : Nat → String
  | 0 => "NW"
  | 1 => "SW"
  | 2 => "SE"
  | 3 => "NE"
  | _ => "unknown"

/-- 種類の前置きを除いた説明文。 -/
def detail : Fault → String
  | .fileNotFound path => "File not found: " ++ path
  | .shortRead => "failed to fill whole buffer"
  | .raggedPacking n => s!"Packed 10-bit buffer of {n} bytes is not a multiple of 5"
  | .selectionLength s n => "Band selection '" ++ s ++ s!"' has {n} characters, expected 12"
  | .shortLinePrefix n => s!"Line prefix of {n} bytes, expected 65"
  | .shortFile path n required => "File " ++ path ++ s!" is {n} bytes, data block needs {required}"
  | .hrvLineMismatch h l r => s!"HRV has {h} lines but {l} line records hold {r}"
  | .partialGroups c => s!"{c} columns do not fill whole 5-byte groups per line"
  | .missingRecord name => "Missing header record " ++ name
  | .badInteger v name e => "Invalid value '" ++ v ++ "' for " ++ name ++ ": " ++ e.message
  | .oddHrvColumns c => s!"Odd HRV column count {c} for a full width file"
  | .sizeOverflow l vc vcols hcols =>
    s!"{l} line records of {vc} VISIR x {vcols} columns and {hcols} HRV columns overflow the file size"
  | .emptySelection n d => s!"Selected rectangle has {n} " ++ d.word
  | .negativeCount name v => "Negative " ++ name ++ s!": {v}"
  | .notCdsDay t => "Time " ++ t.display ++ " cannot be expressed as a CDS day count"
  | .truncated part e g => "Truncated " ++ part ++ s!": expected {e} bytes, got {g}"
  | .unknownSatellite id => s!"Unknown satellite id: {id}"
  | .negativeWindow desc v d => desc ++ s!" has {v} " ++ d.word
  | .sampleCount s b e => s!"Output buffer holds {s} samples, {b} bytes unpack to {e}"
  | .raggedSamples n => s!"{n} samples cannot be packed in groups of 4"
  | .lineOutOfRange l n => s!"Line {l} out of range (0..{n})"
  | .subRecordAbsent sub => "Sub-record " ++ sub.text ++ " not present in line records"
  | .hrvAbsent => "HRV sub-records not present in line records"
  | .unknownCalibrationType k c => s!"Unknown calibration type {k} for " ++ c.name
  | .unknownEarthModel v => s!"Unrecognised Earth model: {v}"
  | .unsupportedGridOrigin v =>
    s!"Grid origin not supported number: {v}, " ++ gridOriginName v ++ " corner"
  | .unknownChannel s => "Unknown channel: " ++ s
  | .unknownCalibration s => "Unknown calibration: " ++ s
  | .unknownMode s => "Unknown calibration mode: " ++ s
  | .zeroChunkLines => "chunk_lines must be greater than zero"
  | .levelNotOffered l c => "Calibration " ++ l.name ++ " not available for " ++ c.name
  | .noSolarIrradiance c => "No solar irradiance for " ++ c.name
  | .noIrConstants c => "No IR constants for " ++ c.name
  | .noBrightnessFit c => "No BT fit for " ++ c.name
  | .channelAbsent c => c.name

/-- 種類の前置きをつけた説明文。 -/
def message (f : Fault) : String :=
  match f.kind with
  | .io => "I/O error: " ++ f.detail
  | .invalidFormat => "Invalid data format: " ++ f.detail
  | .notImplemented => "Not implemented: " ++ f.detail
  | .configuration => "Configuration error: " ++ f.detail
  | .channelNotAvailable => "Channel " ++ f.detail ++ " not available in the file"
  | .processing => "Processing error: " ++ f.detail

end Fault

/-- 失敗しうる計算の結果。 -/
abbrev Outcome (α : Type) := Except Fault α

end SeviriScene

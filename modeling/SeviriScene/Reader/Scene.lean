import SeviriScene.Calibration.Radiometry
import SeviriScene.Geo.Area
import SeviriScene.Reader.Config

/-!
# 開いたファイル

ファイルのバイト列を開き、ヘッダー、チャンネルの集合、衛星、配置、データ部、末尾を読んだもの。
集合、衛星、配置はヘッダーから決まったものであることを、開いたファイル自身が持つ。開くときは、設定、ファイルの有無、ヘッダー、帯域の選択、衛星番号、配置、ファイルの長さ、
末尾の順に確かめ、最初の誤りを返す。末尾はファイルの終わりではなく、配置が決める
`trailerOffset` から読む。

開いたファイルからは、チャンネルの計数値、較正した画像とその属性、画像の範囲と領域の定義を得る。
-/

namespace SeviriScene

/-- 開いたファイル。チャンネルの集合、衛星、配置はヘッダーから決まったものである。 -/
structure Scene where
  path : String
  config : ReaderConfig
  header : FileHeader
  channels : ChannelSet
  platform : Platform
  layout : LineLayout
  data : DataBlock
  trailer : Trailer
  channels_eq : ChannelSet.ofSelection header.selectedBandIds = .ok channels
  platform_eq : Platform.ofSatelliteId? header.satelliteId.toNat = some platform
  layout_eq : LineLayout.resolve header channels = .ok layout

/-- 軌道の定数。 -/
structure OrbitalParameters where
  projectionLongitude : Float
  projectionLatitude : Float
  projectionAltitude : Float

/-- 較正した画像の属性。 -/
structure DatasetAttributes where
  units : String
  wavelength : List Float
  standardName : String
  platformName : String
  sensor : String
  orbitalParameters : OrbitalParameters

/-- 較正した画像。 -/
structure Dataset where
  channel : Channel
  calibration : CalibrationLevel
  data : Image Float32
  attrs : DatasetAttributes

namespace Scene

/-- ファイル `path` の中身 `file`（なければ `none`）を開く。 -/
def load (path : String) (file : Option ByteArray) (config : ReaderConfig) : Outcome Scene := do
  config.validate
  let some bytes := file | throw (.fileNotFound path)
  let header ← FileHeader.decode (bytes.extract 0 headerSize).toList
  match hcs : ChannelSet.ofSelection header.selectedBandIds with
  | .error e => throw e
  | .ok channels =>
    match hp : Platform.ofSatelliteId? header.satelliteId.toNat with
    | none => throw (.unknownSatellite header.satelliteId.toNat)
    | some platform =>
      match hL : LineLayout.resolve header channels with
      | .error e => throw e
      | .ok layout => do
        let data ← DataBlock.ofFile path bytes layout
        let start := layout.trailerOffset
        let trailer ← Trailer.decode (bytes.extract start (start + trailerSize)).toList
        pure ⟨path, config, header, channels, platform, layout, data, trailer, hcs, hp, hL⟩

/-- チャンネルがファイルにあることを確かめる。 -/
def requireChannel (s : Scene) (c : Channel) : Outcome Unit :=
  if s.channels.mem c then .ok () else .error (.channelAbsent c)

/-- チャンネルの計数値。HRV は 3 本の副走査線を行に並べる。 -/
def readCounts (s : Scene) (c : Channel) : Outcome (Image UInt16) := do
  s.requireChannel c
  if c.isHrv then s.data.readHrv s.config.chunkLines
  else
    match s.channels.visirPosition c with
    | some slot => s.data.readVisir slot s.config.chunkLines
    | none => throw (.channelAbsent c)

/-- 較正した画像の属性。 -/
def datasetAttributes (s : Scene) (c : Channel) (level : CalibrationLevel) : DatasetAttributes :=
  let p := s.header.projection
  ⟨level.units, c.wavelength, level.standardName, s.platform.name, "seviri",
   ⟨p.sspLongitude, 0.0, p.h⟩⟩

/-- 較正した画像。チャンネルの有無、段階の有無、計数値の読み取り、較正の準備、較正の順に確かめる。
輝度温度の定数は、開いたときに決めた衛星の逆変換から引く。 -/
def getDataset (s : Scene) (c : Channel) (level : CalibrationLevel) : Outcome Dataset := do
  s.requireChannel c
  if !(c.calibrations.contains level) then throw (.levelNotOffered level c)
  let counts ← s.readCounts c
  let k ← Calibrator.ofHeader s.header c s.config.calibMode
  let data ← k.applyWith ⟨s.platform⟩ (maskFill counts) level
  pure ⟨c, level, data, s.datasetAttributes c level⟩

/-- チャンネルの画像の範囲。チャンネルがファイルになくてもよい。 -/
def areaExtent (s : Scene) (c : Channel) : Outcome ExtentKind :=
  SeviriScene.areaExtent s.header s.trailer s.layout.isFullDisk c

/-- 窓の領域の定義。行数、列数の順に、負なら形式の誤り。 -/
def windowDefinition (c : Channel) (p : Projection) (description : String) (w : WindowExtent) :
    Outcome AreaDefinition := do
  if w.lines < 0 then throw (.negativeWindow description w.lines .lines)
  if w.columns < 0 then throw (.negativeWindow description w.columns .columns)
  pure (AreaDefinition.make c description p w.lines.toNat w.columns.toNat w.extent)

/-- チャンネルの領域。二つの窓は下、上の順に確かめて積み、空の窓を除く。 -/
def areaDefinition (s : Scene) (c : Channel) : Outcome Area := do
  s.requireChannel c
  let p := s.header.projection
  match ← s.areaExtent c with
  | .single e =>
    if c.isHrv then
      pure (.single (AreaDefinition.make c "SEVIRI high resolution channel area" p
        s.layout.hrvNumberOfLines s.layout.hrvColumns e))
    else
      pure (.single (AreaDefinition.make c "SEVIRI low resolution channel area" p
        s.layout.numberOfLines s.layout.visirColumns e))
  | .split upper lower =>
    let lo ← windowDefinition c p "SEVIRI high resolution channel, lower window" lower
    let up ← windowDefinition c p "SEVIRI high resolution channel, upper window" upper
    pure (Area.stacked [lo, up]).squeeze

end Scene

end SeviriScene

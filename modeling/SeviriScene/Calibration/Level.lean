import SeviriScene.Text.CaseMap

/-!
# 較正の段階

画素の値をどこまで物理量に直すか。計数値、放射輝度、反射率、輝度温度の四つがあり、
それぞれ名前、単位、CF の標準名を持つ。名前の読み取りは Unicode の小文字化のあとで照合する。
-/

namespace SeviriScene

/-- 較正の段階。 -/
inductive CalibrationLevel where
  | counts
  | radiance
  | reflectance
  | brightnessTemperature
  deriving Repr, DecidableEq, BEq

namespace CalibrationLevel

/-- すべての段階を表の順に並べたもの。 -/
def all : List CalibrationLevel :=
  [.counts, .radiance, .reflectance, .brightnessTemperature]

/-- 段階の名前。 -/
def name : CalibrationLevel → String
  | .counts => "counts"
  | .radiance => "radiance"
  | .reflectance => "reflectance"
  | .brightnessTemperature => "brightness_temperature"

/-- 段階の単位。 -/
def units : CalibrationLevel → String
  | .counts => "1"
  | .radiance => "mW m-2 sr-1 (cm-1)-1"
  | .reflectance => "%"
  | .brightnessTemperature => "K"

/-- 段階の CF の標準名。 -/
def standardName : CalibrationLevel → String
  | .counts => "counts"
  | .radiance => "toa_outgoing_radiance_per_unit_wavenumber"
  | .reflectance => "toa_bidirectional_reflectance"
  | .brightnessTemperature => "toa_brightness_temperature"

/-- 小文字化した名前が一致する段階。 -/
def ofName? (s : String) : Option CalibrationLevel :=
  all.find? fun l => Text.mapsTo Text.lowerAscii? s l.name

end CalibrationLevel

end SeviriScene

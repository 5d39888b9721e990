import SeviriScene.Calibration.Level
import SeviriScene.Text.CaseMap

/-!
# 観測チャンネル

放射計の 12 のチャンネル。表の順（番号 `index` が 0 から 11）は、ファイルでの帯域の選択文字列、
較正の表、行の中の記録の並びに共通である。可視のチャンネル（HRV、VIS006、VIS008、IR_016）は
反射率まで、ほかは輝度温度まで較正できる。
-/

namespace SeviriScene

/-- 観測チャンネル。構成子の順が表の順。 -/
inductive Channel where
  | vis006 | vis008 | ir016 | ir039 | wv062 | wv073
  | ir087 | ir097 | ir108 | ir120 | ir134 | hrv
  deriving Repr, DecidableEq, BEq

namespace Channel

/-- 表の順に並べたすべてのチャンネル。 -/
def all : List Channel :=
  [.vis006, .vis008, .ir016, .ir039, .wv062, .wv073,
   .ir087, .ir097, .ir108, .ir120, .ir134, .hrv]

/-- 表の中の位置（0 から 11）。 -/
def index : Channel → Nat
  | .vis006 => 0 | .vis008 => 1 | .ir016 => 2 | .ir039 => 3
  | .wv062 => 4 | .wv073 => 5 | .ir087 => 6 | .ir097 => 7
  | .ir108 => 8 | .ir120 => 9 | .ir134 => 10 | .hrv => 11

/-- チャンネルの名前。 -/
def name : Channel → String
  | .vis006 => "VIS006" | .vis008 => "VIS008" | .ir016 => "IR_016"
  | .ir039 => "IR_039" | .wv062 => "WV_062" | .wv073 => "WV_073"
  | .ir087 => "IR_087" | .ir097 => "IR_097" | .ir108 => "IR_108"
  | .ir120 => "IR_120" | .ir134 => "IR_134" | .hrv => "HRV"

/-- 表の位置からチャンネルを引く。 -/
def ofIndex? (i : Nat) : Option Channel :=
  all[i]?

/-- 1 から数える帯域番号のチャンネル。 -/
def ofBand? (band : Nat) : Option Channel :=
  if band = 0 then none else ofIndex? (band - 1)

/-- 高分解能のチャンネルか。 -/
def isHrv (c : Channel) : Bool :=
  c == .hrv

/-- 可視のチャンネルか。反射率まで較正できるのはこれら。 -/
def isVisible : Channel → Bool
  | .hrv | .vis006 | .vis008 | .ir016 => true
  | _ => false

/-- 波長の下限、中心、上限（μm）。 -/
def wavelength : Channel → List Float
  | .vis006 => [0.56, 0.635, 0.71]
  | .vis008 => [0.74, 0.81, 0.88]
  | .ir016 => [1.5, 1.64, 1.78]
  | .ir039 => [3.48, 3.92, 4.36]
  | .wv062 => [5.35, 6.25, 7.15]
  | .wv073 => [6.85, 7.35, 7.85]
  | .ir087 => [8.3, 8.7, 9.1]
  | .ir097 => [9.38, 9.66, 9.94]
  | .ir108 => [9.8, 10.8, 11.8]
  | .ir120 => [11.0, 12.0, 13.0]
  | .ir134 => [12.4, 13.4, 14.4]
  | .hrv => [0.5, 0.7, 0.9]

/-- 較正できる段階。可視なら反射率、そうでなければ輝度温度が三つ目に来る。 -/
def calibrations (c : Channel) : List CalibrationLevel :=
  [.counts, .radiance, if c.isVisible then .reflectance else .brightnessTemperature]

/-- 名前を ASCII の大文字・小文字の区別なく照合する。 -/
def ofName? (s : String) : Option Channel :=
  all.find? fun c => Text.eqIgnoreAsciiCase c.name s

theorem ofName?_name (c : Channel) : ofName? c.name = some c := by
  cases c <;> rfl

theorem index_lt (c : Channel) : c.index < 12 := by
  cases c <;> decide

theorem ofIndex?_index (c : Channel) : ofIndex? c.index = some c := by
  cases c <;> rfl

end Channel

end SeviriScene

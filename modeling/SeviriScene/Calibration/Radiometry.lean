import SeviriScene.Calibration.Constants
import SeviriScene.Calibration.Mode
import SeviriScene.File.DataBlock
import SeviriScene.File.Header

/-!
# 放射の較正

計数値を物理量に直す。計算は倍精度で行い、各段の結果を単精度に丸める。

* 計数値 0 は欠測で NaN、ほかはその値（`maskFill`）。
* 放射輝度は `v * gain + offset`。係数は公称の表か、赤外のチャンネルに限り GSICS の表から取る。
* 反射率は `v * 100 / F`、`F` は太陽放射照度。
* 輝度温度は Planck 関数の逆 `T = C2 vc / ln(C1 vc³ / r + 1)` を帯域の定数で補正したもの。
  補正の仕方はヘッダーの処理の種類が決め、1 なら `(T - beta) / alpha`、2 なら二次式。
-/

namespace SeviriScene

/-- 第一放射定数 `2 h c²`（mW m⁻² sr⁻¹ (cm⁻¹)⁻⁴）。 -/
def planckC1 : Float := 1.19104273e-5

/-- 第二放射定数 `h c / k`（K cm）。 -/
def planckC2 : Float := 1.43877523

/-- 放射輝度への係数。 -/
structure Coefficients where
  gain : Float
  offset : Float

/-- チャンネルの係数を選ぶ。GSICS は赤外のチャンネルだけに使い、切片は計数の切片に利得を掛ける。 -/
def Coefficients.select (h : FileHeader) (c : Channel) (mode : CalibrationMode) : Coefficients :=
  let i : Fin 12 := ⟨c.index, c.index_lt⟩
  match mode with
  | .gsics =>
    if c.isVisible then ⟨h.calSlope[i].toFloat, h.calOffset[i].toFloat⟩
    else
      let gain := h.gsicsCalCoeff[i].toFloat
      ⟨gain, h.gsicsOffsetCount[i].toFloat * gain⟩
  | .nominal => ⟨h.calSlope[i].toFloat, h.calOffset[i].toFloat⟩

/-- 画像の各画素に `f` を施す。 -/
def Image.map {α β : Type} (f : α → β) (img : Image α) : Image β :=
  List.map (List.map f) img

/-- 計数値 0 を NaN に、ほかをその値にする。 -/
def maskFill (counts : Image UInt16) : Image Float32 :=
  Image.map (fun c => if c = 0 then (0.0 : Float32) / 0.0 else c.toNat.toFloat32) counts

/-- 放射輝度 `v * gain + offset` を単精度に丸める。 -/
def toRadiance (k : Coefficients) (data : Image Float32) : Image Float32 :=
  Image.map (fun v => (v.toFloat * k.gain + k.offset).toFloat32) data

/-- 反射率（%）`v * 100 / F` を単精度に丸める。 -/
def toReflectance (irradiance : Float) (data : Image Float32) : Image Float32 :=
  Image.map (fun v => (v.toFloat * 100.0 / irradiance).toFloat32) data

/-- 中心波数 `vc` での Planck 関数の逆。放射輝度 `r` の黒体の温度（K）。 -/
def planckTemperature (r vc : Float) : Float :=
  planckC2 * vc / Float.log (planckC1 * (vc * (vc * vc)) / r + 1.0)

/-- 輝度温度を単精度に丸める。赤外の定数を先に引き、処理の種類が 1 でも 2 でもなければ未実装。 -/
def toBrightnessTemperature (p : Platform) (c : Channel) (kind : Nat) (data : Image Float32) :
    Outcome (Image Float32) := do
  let k ← irConstants p c
  match kind with
  | 1 => pure (Image.map (fun v => ((planckTemperature v.toFloat k.vc - k.beta) / k.alpha).toFloat32) data)
  | 2 =>
    match brightnessFit? c with
    | some (a, b, cc) =>
      pure (Image.map (fun v =>
        let t := planckTemperature v.toFloat k.vc
        (a * t * t + b * t + cc).toFloat32) data)
    | none => throw (.noBrightnessFit c)
  | other => throw (.unknownCalibrationType other c)

/-- チャンネルの較正に要るもの：衛星、係数、輝度温度の処理の種類。 -/
structure Calibrator where
  channel : Channel
  platform : Platform
  coefficients : Coefficients
  processingType : Nat

/-- ヘッダーから較正の準備をする。衛星番号が 321〜324 でなければ形式の誤り。 -/
def Calibrator.ofHeader (h : FileHeader) (c : Channel) (mode : CalibrationMode) : Outcome Calibrator :=
  match Platform.ofSatelliteId? h.satelliteId.toNat with
  | some p => .ok ⟨c, p, Coefficients.select h c mode,
      (h.plannedChanProcessing[(⟨c.index, c.index_lt⟩ : Fin 12)]).toNat⟩
  | none => .error (.unknownSatellite h.satelliteId.toNat)

/-- 放射輝度を反射率と輝度温度に変える逆変換。一つの衛星の公表された帯域の定数を使う。 -/
structure Inversion where
  platform : Platform

/-- 画像を段階 `level` まで較正する。チャンネルがその段階を持たなければ設定の誤り。
計数値はそのまま、ほかは放射輝度を経て反射率か輝度温度にする。太陽放射照度は較正の準備の衛星から、
輝度温度の定数は逆変換 `inv` の衛星から引く。 -/
def Calibrator.applyWith (k : Calibrator) (inv : Inversion) (data : Image Float32) (level : CalibrationLevel) :
    Outcome (Image Float32) := do
  if !(k.channel.calibrations.contains level) then throw (.levelNotOffered level k.channel)
  match level with
  | .counts => pure data
  | .radiance => pure (toRadiance k.coefficients data)
  | .reflectance =>
    let f ← solarIrradiance k.platform k.channel
    pure (toReflectance f (toRadiance k.coefficients data))
  | .brightnessTemperature =>
    toBrightnessTemperature inv.platform k.channel k.processingType (toRadiance k.coefficients data)

/-- 較正の準備の衛星の逆変換で較正する。 -/
def Calibrator.apply (k : Calibrator) (data : Image Float32) (level : CalibrationLevel) :
    Outcome (Image Float32) :=
  k.applyWith ⟨k.platform⟩ data level

end SeviriScene

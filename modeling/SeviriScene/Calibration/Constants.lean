import SeviriScene.Band.Channel
import SeviriScene.Fault
import SeviriScene.Platform

/-!
# 較正の定数表

衛星ごとの定数。可視のチャンネル（HRV、VIS006、VIS008、IR_016）には大気上端の太陽放射照度、
赤外のチャンネル（IR_039 から IR_134）には Planck 関数を帯域で近似する定数 `vc`、`alpha`、`beta`
がある。輝度温度の二次式の当てはめ（BTFIT）の係数は衛星によらない。
-/

namespace SeviriScene

/-- 赤外のチャンネルの帯域の定数。中心波数 `vc`（cm⁻¹）と、温度の補正 `(T - beta) / alpha`。 -/
structure IrConstants where
  vc : Float
  alpha : Float
  beta : Float

/-- 可視のチャンネルの太陽放射照度の表の列。HRV、VIS006、VIS008、IR_016 の順。 -/
def Channel.visibleSlot? : Channel → Option Nat
  | .hrv => some 0
  | .vis006 => some 1
  | .vis008 => some 2
  | .ir016 => some 3
  | _ => none

/-- 赤外のチャンネルの定数表の列。IR_039 が 0、IR_134 が 7。 -/
def Channel.infraredSlot? (c : Channel) : Option Nat :=
  if c.isVisible then none else some (c.index - Channel.ir039.index)

/-- 太陽放射照度の表。行は衛星、列は `visibleSlot?`。 -/
def solarIrradianceTable : List (List Float) :=
  [[78.7599, 65.2296, 73.0127, 62.3715],
   [79.0113, 65.2065, 73.1869, 61.9923],
   [78.9416, 65.5148, 73.1807, 62.0208],
   [79.0035, 65.2656, 73.1692, 61.9416]]

/-- 赤外の定数表。行は衛星、列は `infraredSlot?`。 -/
def irConstantsTable : List (List IrConstants) :=
  [[⟨2567.330, 0.9956, 3.410⟩, ⟨1598.103, 0.9962, 2.218⟩, ⟨1362.081, 0.9991, 0.478⟩,
    ⟨1149.069, 0.9996, 0.179⟩, ⟨1034.343, 0.9999, 0.060⟩, ⟨930.647, 0.9983, 0.625⟩,
    ⟨839.660, 0.9988, 0.397⟩, ⟨752.387, 0.9981, 0.578⟩],
   [⟨2568.832, 0.9954, 3.438⟩, ⟨1600.548, 0.9963, 2.185⟩, ⟨1360.330, 0.9991, 0.470⟩,
    ⟨1148.620, 0.9996, 0.179⟩, ⟨1035.289, 0.9999, 0.056⟩, ⟨931.700, 0.9983, 0.640⟩,
    ⟨836.445, 0.9988, 0.408⟩, ⟨751.792, 0.9981, 0.561⟩],
   [⟨2547.771, 0.9915, 2.9002⟩, ⟨1595.621, 0.9960, 2.0337⟩, ⟨1360.337, 0.9991, 0.4340⟩,
    ⟨1148.130, 0.9996, 0.1714⟩, ⟨1034.715, 0.9999, 0.0527⟩, ⟨929.842, 0.9983, 0.6084⟩,
    ⟨838.659, 0.9988, 0.3882⟩, ⟨750.653, 0.9982, 0.5390⟩],
   [⟨2555.280, 0.9916, 2.9438⟩, ⟨1596.080, 0.9959, 2.0780⟩, ⟨1361.748, 0.9990, 0.4929⟩,
    ⟨1147.433, 0.9996, 0.1731⟩, ⟨1034.851, 0.9998, 0.0597⟩, ⟨931.122, 0.9983, 0.6256⟩,
    ⟨839.113, 0.9988, 0.4002⟩, ⟨748.585, 0.9981, 0.5635⟩]]

/-- 輝度温度の二次式 `a T² + b T + c` の係数。列は `infraredSlot?`。 -/
def brightnessFitTable : List (Float × Float × Float) :=
  [(0.0, 1.011751900, -3.550400),
   (0.00001805700, 1.000255533, -1.790930),
   (0.00000231818, 1.000668281, -0.456166),
   (-0.00002332000, 1.011803400, -1.507390),
   (-0.00002055330, 1.009370670, -1.030600),
   (-0.00007392770, 1.032889800, -3.296740),
   (-0.00007009840, 1.031314600, -3.181090),
   (-0.00007293450, 1.030424800, -2.645950)]

/-- 可視のチャンネルの太陽放射照度。ほかのチャンネルは設定の誤り。 -/
def solarIrradiance (p : Platform) (c : Channel) : Outcome Float :=
  match c.visibleSlot?.bind fun slot => (solarIrradianceTable[p.index]?).bind (·[slot]?) with
  | some f => .ok f
  | none => .error (.noSolarIrradiance c)

/-- 赤外のチャンネルの帯域の定数。可視のチャンネルは設定の誤り。 -/
def irConstants (p : Platform) (c : Channel) : Outcome IrConstants :=
  match c.infraredSlot?.bind fun slot => (irConstantsTable[p.index]?).bind (·[slot]?) with
  | some k => .ok k
  | none => .error (.noIrConstants c)

/-- 赤外のチャンネルの二次式の係数。 -/
def brightnessFit? (c : Channel) : Option (Float × Float × Float) :=
  c.infraredSlot?.bind fun slot => brightnessFitTable[slot]?

end SeviriScene

import SeviriScene.File.Header
import SeviriScene.File.Trailer

/-!
# 画像の範囲

画像の四隅を、静止衛星投影の平面の座標（m）で求める。格子の中心から数えた行と列の番号に、
格子の間隔（km を m に直したもの）を掛ける。地球の模型が古い（`offset`）ときは半画素
（HRV は 1.5 画素）ずらす。

HRV は全円盤か縮小走査のとき、末尾に書かれた窓を使う。縮小走査なら下の窓だけ、全円盤なら
下と上の二つの窓に分かれる。それ以外はヘッダーの選択矩形（HRV は 3 倍）を使う。
-/

namespace SeviriScene

/-- 範囲の左下と右上の座標。 -/
structure AreaExtent where
  llX : Float
  llY : Float
  urX : Float
  urY : Float

/-- 範囲の幅。 -/
def AreaExtent.width (e : AreaExtent) : Float :=
  e.urX - e.llX

/-- 範囲の高さ。 -/
def AreaExtent.height (e : AreaExtent) : Float :=
  e.urY - e.llY

/-- 地球の模型。1 は半画素ずれた古い模型、2 は補正済み。 -/
inductive EarthModel where
  | offset
  | corrected
  deriving Repr, DecidableEq

namespace EarthModel

/-- ヘッダーの値から。1 と 2 のほかは未実装。 -/
def ofValue (v : Nat) : Outcome EarthModel :=
  match v with
  | 1 => .ok .offset
  | 2 => .ok .corrected
  | other => .error (.unknownEarthModel other)

/-- 模型の名前。 -/
def name : EarthModel → String
  | .offset => "Offset"
  | .corrected => "Corrected"

/-- 南北と東西のずれ（画素）。 -/
def offsets : EarthModel → Channel → Float × Float
  | .corrected, _ => (0.0, 0.0)
  | .offset, c => if c.isHrv then (-1.5, 1.5) else (-0.5, 0.5)

end EarthModel

/-- 範囲の四辺の行と列の番号。 -/
structure Bounds where
  north : Float
  east : Float
  south : Float
  west : Float

/-- 走査範囲の四辺。 -/
def Bounds.ofCoverage (c : Coverage) : Bounds :=
  ⟨Float.ofInt c.northLine.toInt, Float.ofInt c.eastColumn.toInt,
   Float.ofInt c.southLine.toInt, Float.ofInt c.westColumn.toInt⟩

/-- 中心 `center` の格子で、四辺 `b` の範囲の座標。 -/
def calculateAreaExtent (center : Float) (b : Bounds) (weOffset nsOffset columnStep lineStep : Float) :
    AreaExtent where
  llX := (center - b.east + 0.5 + weOffset) * columnStep
  llY := (b.north - center + 0.5 + nsOffset) * lineStep
  urX := (center - b.west - 0.5 + weOffset) * columnStep
  urY := (b.south - center - 0.5 + nsOffset) * lineStep

/-- 窓の範囲と、その行数と列数。 -/
structure WindowExtent where
  extent : AreaExtent
  lines : Int
  columns : Int

/-- 一つの範囲か、下と上の二つの窓か。 -/
inductive ExtentKind where
  | single (extent : AreaExtent)
  | split (upper lower : WindowExtent)

/-- HRV の格子の中心の列。 -/
def hrvCenter : Float := 5566.0

/-- VIS/IR の格子の中心の列。 -/
def visirCenter : Float := 1856.0

/-- 走査範囲の窓。 -/
def windowOf (extent : Bounds → AreaExtent) (c : Coverage) : WindowExtent :=
  ⟨extent (Bounds.ofCoverage c), c.numberOfLines, c.numberOfColumns⟩

/-- チャンネルの画像の範囲。地球の模型、格子の原点の順に確かめる。 -/
def areaExtent (h : FileHeader) (t : Trailer) (isFullDisk : Bool) (c : Channel) : Outcome ExtentKind := do
  let model ← EarthModel.ofValue h.typeOfEarthModel.toNat
  let (ns, we) := model.offsets c
  let (grid, center, scale) :=
    if c.isHrv then (h.referenceGridHrv, hrvCenter, 3.0) else (h.referenceGridVisir, visirCenter, 1.0)
  if grid.gridOrigin ≠ 2 then throw (.unsupportedGridOrigin grid.gridOrigin.toNat)
  let columnStep := grid.columnDirGridStep.toFloat32.toFloat * 1000.0
  let lineStep := grid.lineDirGridStep.toFloat32.toFloat * 1000.0
  let extent := fun b => calculateAreaExtent center b we ns columnStep lineStep
  if c.isHrv && (isFullDisk || t.reducedScan) then
    let lower := windowOf extent t.coverageHrvLower
    if t.reducedScan then return .single lower.extent
    return .split (windowOf extent t.coverageHrvUpper) lower
  let scaled := fun (v : Int32) => scale * Float.ofInt v.toInt
  pure (.single (extent ⟨scaled h.northLineSelected, scaled h.eastColumnSelected,
    scaled h.southLineSelected, scaled h.westColumnSelected⟩))

end SeviriScene

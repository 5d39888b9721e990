import SeviriScene.Band.Channel
import SeviriScene.Geo.Extent
import SeviriScene.Geo.Projection

/-!
# 領域の定義

画像の領域：投影、行数と列数、範囲。HRV の全円盤のように窓が二つあるときは、定義を
下から順に積み重ねた `Area.stacked` で表す。`squeeze` は空の定義を除き、一つだけ残れば
単独の定義にする。
-/

namespace SeviriScene

/-- 画像の領域の定義。 -/
structure AreaDefinition where
  areaId : String
  description : String
  projId : String
  projection : Projection
  width : Nat
  height : Nat
  extent : AreaExtent

namespace AreaDefinition

/-- チャンネルの領域の定義。識別子は HRV かどうかで決まる。 -/
def make (c : Channel) (description : String) (projection : Projection) (height width : Nat)
    (extent : AreaExtent) : AreaDefinition :=
  if c.isHrv then ⟨"geos_seviri_hrv", description, "seviri_hrv", projection, width, height, extent⟩
  else ⟨"geos_seviri_visir", description, "seviri_visir", projection, width, height, extent⟩

/-- 領域の投影の PROJ の文字列。 -/
def projString (d : AreaDefinition) : String :=
  d.projection.projString

/-- 行数か列数が 0 か。 -/
def isEmpty (d : AreaDefinition) : Bool :=
  d.width == 0 || d.height == 0

/-- 列の方向の画素の大きさ。 -/
def pixelSizeX (d : AreaDefinition) : Float :=
  d.extent.width / d.width.toFloat

/-- 行の方向の画素の大きさ。 -/
def pixelSizeY (d : AreaDefinition) : Float :=
  d.extent.height / d.height.toFloat

end AreaDefinition

/-- 単独の定義か、積み重ねた定義か。 -/
inductive Area where
  | single (d : AreaDefinition)
  | stacked (ds : List AreaDefinition)

namespace Area

/-- 空の定義を除き、一つだけ残れば単独にする。単独の定義はそのまま。 -/
def squeeze : Area → Area
  | .single d => .single d
  | .stacked ds =>
    match ds.filter (fun d => !d.isEmpty) with
    | [d] => .single d
    | rest => .stacked rest

/-- 定義の並び。 -/
def definitions : Area → List AreaDefinition
  | .single d => [d]
  | .stacked ds => ds

/-- 行数の和と列数の最大。大きさは 64 ビットの語で数えるので、和は `2^64` を法として折り返す。 -/
def shape (a : Area) : Nat × Nat :=
  (a.definitions.foldl (fun acc d => (acc + d.height) % Nat.pow 2 64) 0,
   a.definitions.foldl (fun acc d => Nat.max acc d.width) 0)

end Area

end SeviriScene

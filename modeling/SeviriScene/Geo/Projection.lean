import SeviriScene.Decimal.Style

/-!
# 静止衛星投影の定数

静止衛星から見た投影を決める四つの数：地球の赤道半径 `a` と極半径 `b`（m）、
地心からではなく地表からの衛星の高さ `h`（m）、衛星直下点の経度。
-/

namespace SeviriScene

/-- 衛星の地表からの高さ（m）。 -/
def satelliteAltitude : Float := 35785831.0

/-- 静止衛星投影の定数。 -/
structure Projection where
  a : Float
  b : Float
  h : Float
  sspLongitude : Float

/-- PROJ の投影の文字列。数は指数を使わない最短の十進表記で、整数値に `.0` をつけない。 -/
def Projection.projString (p : Projection) : String :=
  let num := Decimal.render Decimal.Style.plain
  "+proj=geos +a=" ++ num p.a ++ " +b=" ++ num p.b ++ " +h=" ++ num p.h ++ " +lon_0=" ++
    num p.sspLongitude ++ " +units=m +no_defs"

end SeviriScene

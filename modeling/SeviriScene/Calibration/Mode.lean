import SeviriScene.Text.CaseMap

/-!
# 較正の係数の出どころ

係数をファイルの公称の表から取るか、GSICS の相互較正の表から取るか。名前の読み取りは
Unicode の大文字化のあとで `NOMINAL` / `GSICS` と照合する。
-/

namespace SeviriScene

/-- 較正の係数の出どころ。 -/
inductive CalibrationMode where
  | nominal
  | gsics
  deriving Repr, DecidableEq, BEq

namespace CalibrationMode

/-- 書き出すときの名前（小文字）。 -/
def name : CalibrationMode → String
  | .nominal => "nominal"
  | .gsics => "gsics"

/-- 大文字化した名前が `NOMINAL` か `GSICS` に一致する出どころ。 -/
def ofName? (s : String) : Option CalibrationMode :=
  if Text.mapsTo Text.upperAscii? s "NOMINAL" then some .nominal
  else if Text.mapsTo Text.upperAscii? s "GSICS" then some .gsics
  else none

end CalibrationMode

end SeviriScene

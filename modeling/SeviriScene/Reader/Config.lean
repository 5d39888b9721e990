import SeviriScene.Calibration.Mode
import SeviriScene.Fault

/-!
# 読み取りの設定

較正の係数の出どころと、画像を一度に読む行数。行数は 1 以上でなければならない。
-/

namespace SeviriScene

/-- 読み取りの設定。 -/
structure ReaderConfig where
  calibMode : CalibrationMode := .nominal
  chunkLines : Nat := 512

/-- 設定を確かめる。一度に読む行数が 0 なら設定の誤り。 -/
def ReaderConfig.validate (c : ReaderConfig) : Outcome Unit :=
  if c.chunkLines = 0 then .error .zeroChunkLines else .ok ()

end SeviriScene

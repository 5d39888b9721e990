/-!
# 衛星

第二世代の静止気象衛星 Meteosat-8 から Meteosat-11。ファイルには衛星番号 321 から 324 で書かれる。
較正の定数表は衛星ごとに一行を持ち、`index` がその行を選ぶ。
-/

namespace SeviriScene

/-- 衛星。構成子の順が定数表の行の順。 -/
inductive Platform where
  | meteosat8 | meteosat9 | meteosat10 | meteosat11
  deriving Repr, DecidableEq, BEq

namespace Platform

/-- 定数表の行（0 から 3）。 -/
def index : Platform → Nat
  | .meteosat8 => 0 | .meteosat9 => 1 | .meteosat10 => 2 | .meteosat11 => 3

/-- 衛星の通し番号（8 から 11）。 -/
def number (p : Platform) : Nat :=
  8 + p.index

/-- ファイルに書かれる衛星番号（321 から 324）。 -/
def satelliteId (p : Platform) : Nat :=
  321 + p.index

/-- 衛星の名前 `Meteosat-N`。 -/
def name (p : Platform) : String :=
  "Meteosat-" ++ toString p.number

/-- 衛星番号から衛星を引く。321 から 324 のほかは `none`。 -/
def ofSatelliteId? : Nat → Option Platform
  | 321 => some .meteosat8
  | 322 => some .meteosat9
  | 323 => some .meteosat10
  | 324 => some .meteosat11
  | _ => none

theorem ofSatelliteId?_satelliteId (p : Platform) : ofSatelliteId? p.satelliteId = some p := by
  cases p <;> rfl

end Platform

end SeviriScene

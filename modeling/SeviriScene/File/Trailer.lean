import SeviriScene.Bytes.BigEndian
import SeviriScene.Fault
import SeviriScene.Time.Cds

/-!
# ファイルの末尾

データ部のすぐあとの 128 バイト。衛星番号、公称の走査か、縮小走査か、前進走査の始まりと終わり、
そして実際に走査した範囲が三つ（VIS/IR、HRV の下の窓、HRV の上の窓）。残りは 0 で埋める。
-/

namespace SeviriScene

/-- 末尾の長さ。 -/
def trailerSize : Nat := 128

/-- 走査した範囲。南と北の行、東と西の列。 -/
structure Coverage where
  southLine : Int32
  northLine : Int32
  eastColumn : Int32
  westColumn : Int32

namespace Coverage

/-- 行数 `北 - 南 + 1`。負にもなる。 -/
def numberOfLines (c : Coverage) : Int :=
  c.northLine.toInt - c.southLine.toInt + 1

/-- 列数 `西 - 東 + 1`。負にもなる。 -/
def numberOfColumns (c : Coverage) : Int :=
  c.westColumn.toInt - c.eastColumn.toInt + 1

/-- `off` からの範囲を読む。 -/
def decode (bs : List UInt8) (off : Nat) : Coverage :=
  ⟨Int32.ofInt (Bytes.intAt bs off 4), Int32.ofInt (Bytes.intAt bs (off + 4) 4),
   Int32.ofInt (Bytes.intAt bs (off + 8) 4), Int32.ofInt (Bytes.intAt bs (off + 12) 4)⟩

/-- 範囲を書く。 -/
def encode (c : Coverage) : List UInt8 :=
  Bytes.ofInt 4 c.southLine.toInt ++ Bytes.ofInt 4 c.northLine.toInt ++
    Bytes.ofInt 4 c.eastColumn.toInt ++ Bytes.ofInt 4 c.westColumn.toInt

end Coverage

/-- ファイルの末尾。 -/
structure Trailer where
  satelliteId : UInt16
  nominalImageScanning : Bool
  reducedScan : Bool
  forwardScanStart : Time.Instant
  forwardScanEnd : Time.Instant
  coverageVisir : Coverage
  coverageHrvLower : Coverage
  coverageHrvUpper : Coverage

namespace Trailer

/-- 末尾を読む。128 バイトに満たなければ形式の誤り。旗は 0 でなければ真。 -/
def decode (bs : List UInt8) : Outcome Trailer :=
  if bs.length < trailerSize then .error (.truncated "trailer" trailerSize bs.length)
  else .ok {
    satelliteId := (Bytes.natAt bs 0 2).toUInt16
    nominalImageScanning := Bytes.natAt bs 2 1 != 0
    reducedScan := Bytes.natAt bs 3 1 != 0
    forwardScanStart := Time.cdsDecode (bs.drop 4)
    forwardScanEnd := Time.cdsDecode (bs.drop 14)
    coverageVisir := Coverage.decode bs 24
    coverageHrvLower := Coverage.decode bs 40
    coverageHrvUpper := Coverage.decode bs 56
  }

/-- 旗のバイト。 -/
def flagByte (b : Bool) : UInt8 :=
  if b then 1 else 0

/-- 末尾の先頭 4 バイト：衛星番号と二つの旗。 -/
def identityBytes (t : Trailer) : List UInt8 :=
  Bytes.ofNat 2 t.satelliteId.toNat ++ [flagByte t.nominalImageScanning, flagByte t.reducedScan]

/-- 走査した三つの範囲：VIS/IR、HRV の下の窓、HRV の上の窓の順。 -/
def coverageBytes (t : Trailer) : List UInt8 :=
  t.coverageVisir.encode ++ t.coverageHrvLower.encode ++ t.coverageHrvUpper.encode

/-- 末尾を 128 バイトに書く。時刻は始まり、終わりの順に CDS で書く。 -/
def encode (t : Trailer) : Outcome (List UInt8) := do
  let start ← Time.cdsEncode t.forwardScanStart
  let stop ← Time.cdsEncode t.forwardScanEnd
  pure (Bytes.padTo (t.identityBytes ++ start ++ stop ++ t.coverageBytes) trailerSize)

end Trailer

end SeviriScene

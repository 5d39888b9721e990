import SeviriScene.Bytes.BigEndian
import SeviriScene.Fault
import SeviriScene.Time.Instant

/-!
# CDS の時刻

CCSDS の日分割時刻（拡張形、10 バイト）。1958-01-01T00:00:00Z からの日数（16 ビット）、
その日のミリ秒（32 ビット）、マイクロ秒（16 ビット）、ナノ秒（16 ビット）を大きい方から並べる。

読むときは四つの欄をそのまま足すので、欄が名目の範囲を超えていてもよい。書くときは紀元からの
差を日、ミリ秒、マイクロ秒、ナノ秒に 0 の方へ切り捨てて分け、日数が 0〜65535 でなければ失敗する。
紀元の前 1 日未満の時刻は日数 0 で、負の欄は 2 の補数で書かれる。
-/

namespace SeviriScene.Time

/-- CDS の紀元 1958-01-01T00:00:00Z。 -/
def cdsEpoch : Instant :=
  Instant.ofUnix (-378691200) 0

/-- CDS の時刻の長さ（バイト）。 -/
def cdsLength : Nat := 10

/-- 10 バイト以上の列の先頭の CDS の時刻。 -/
def cdsDecode (bs : List UInt8) : Instant :=
  let days := Bytes.natAt bs 0 2
  let millis := Bytes.natAt bs 2 4
  let micros := Bytes.natAt bs 6 2
  let nanos := Bytes.natAt bs 8 2
  cdsEpoch.addNanos (days * nanosPerDay + millis * 1000000 + micros * 1000 + nanos)

/-- CDS の時刻を読む。10 バイトに満たなければ入出力の誤り。 -/
def cdsRead (bs : List UInt8) : Outcome Instant :=
  if bs.length < cdsLength then .error .shortRead else .ok (cdsDecode bs)

/-- 紀元からの差の日、ミリ秒、マイクロ秒、ナノ秒。どれも 0 の方へ切り捨てる。 -/
def cdsFields (t : Instant) : Int × Int × Int × Int :=
  let d := t.diff cdsEpoch
  let days := d.tdiv nanosPerDay
  let rest := d - days * nanosPerDay
  let millis := rest.tdiv 1000000
  let rest := rest - millis * 1000000
  let micros := rest.tdiv 1000
  (days, millis, micros, rest - micros * 1000)

/-- 時刻を CDS で書く。日数が 16 ビットに収まらなければ形式の誤り。 -/
def cdsEncode (t : Instant) : Outcome (List UInt8) :=
  let (days, millis, micros, nanos) := cdsFields t
  if 0 ≤ days ∧ days ≤ 65535 then
    .ok (Bytes.ofInt 2 days ++ Bytes.ofInt 4 millis ++ Bytes.ofInt 2 micros ++ Bytes.ofInt 2 nanos)
  else .error (.notCdsDay t)

end SeviriScene.Time

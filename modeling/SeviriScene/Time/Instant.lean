import SeviriScene.Time.Civil

/-!
# 時刻

協定世界時の時刻を、1970-01-01T00:00:00Z からの秒 `seconds` と、その秒の中のナノ秒 `nanos` で表す。
通常の時刻では `nanos` は 10 億未満である。閏秒（ある分の 59 秒に続く 60 秒目）の間の時刻は、
直前の 59 秒に 10 億以上 20 億未満の `nanos` を付けて表し、表記では 60 秒として書く。

* 時間軸の上の位置 `sinceUnixEpoch` は `seconds * 10^9 + nanos`。閏秒の中の時刻は、次の秒の始まりからの
  位置と重なる。
* 差 `diff` は、日付の差を 1 日 86400 秒で数え、その日の中の時刻の差を足したもの。閏秒が二つの時刻の
  間にあれば、その 1 秒も数える。
* `addNanos` の結果はいつも閏秒でない時刻である。

書き方は二つ。

* `rfc3339`: `YYYY-MM-DDTHH:MM:SS.nnnnnnnnnZ`。小数はいつも 9 桁。
* `display`: `YYYY-MM-DD HH:MM:SS UTC`。小数は 0 でないときだけ、3、6、9 桁のうち値を表せる最短の桁数。
-/

namespace SeviriScene.Time

/-- 1 秒のナノ秒数。 -/
def nanosPerSecond : Nat := 1000000000

/-- 1 日の秒数。 -/
def secondsPerDay : Nat := 86400

/-- 1 日のナノ秒数。 -/
def nanosPerDay : Nat := secondsPerDay * nanosPerSecond

/-- 表せる年の下限。 -/
def minYear : Int := -262143

/-- 表せる年の上限。 -/
def maxYear : Int := 262142

/-- 時刻。1970-01-01T00:00:00Z からの秒と、その秒の中のナノ秒（閏秒の間は 10 億以上）。 -/
structure Instant where
  seconds : Int
  nanos : Nat
  deriving Repr, DecidableEq

namespace Instant

/-- 閏秒の中の時刻か。 -/
def isLeap (t : Instant) : Bool :=
  decide (nanosPerSecond ≤ t.nanos)

/-- 時間軸の上の位置（ナノ秒）。 -/
def sinceUnixEpoch (t : Instant) : Int :=
  t.seconds * nanosPerSecond + t.nanos

/-- 1970-01-01T00:00:00Z から `n` ナノ秒の時刻。閏秒ではない。 -/
def ofNanos (n : Int) : Instant :=
  ⟨n / (nanosPerSecond : Int), (n % (nanosPerSecond : Int)).toNat⟩

/-- Unix 時刻の秒とナノ秒から。1 秒以上のナノ秒は秒に繰り上げる。 -/
def ofUnix (seconds : Int) (nanos : Nat) : Instant :=
  ofNanos (seconds * nanosPerSecond + nanos)

/-- `d` ナノ秒あとの時刻。閏秒の中から数えるときは、次の秒の始まりと重なる位置から数える。 -/
def addNanos (t : Instant) (d : Int) : Instant :=
  ofNanos (t.sinceUnixEpoch + d)

/-- 1970-01-01 からの日数（切り捨て）。 -/
def days (t : Instant) : Int :=
  t.seconds / (secondsPerDay : Int)

/-- その日の 0 時からの秒（0〜86399）。閏秒の間は直前の秒。 -/
def secondOfDay (t : Instant) : Nat :=
  (t.seconds % (secondsPerDay : Int)).toNat

/-- 日付。 -/
def date (t : Instant) : CivilDate :=
  CivilDate.ofDays t.days

/-- Unix 時刻の秒とナノ秒からの時刻。ナノ秒は 20 億未満で、10 億以上は分の 59 秒に続く閏秒にだけ
許す。年が `minYear` から `maxYear` の外なら表せない。 -/
def ofTimestamp? (seconds : Int) (nanos : Nat) : Option Instant :=
  let t : Instant := ⟨seconds, nanos⟩
  if 2 * nanosPerSecond ≤ nanos then none
  else if nanosPerSecond ≤ nanos ∧ seconds % 60 ≠ 59 then none
  else if t.date.year < minYear ∨ maxYear < t.date.year then none
  else some t

/-- `s` から `t` までの経過（ナノ秒）。`t` が先なら負。 -/
def diff (t s : Instant) : Int :=
  let a := t.secondOfDay
  let b := s.secondOfDay
  let leapBetween : Int :=
    if b < a ∧ s.isLeap then 1 else if a < b ∧ t.isLeap then -1 else 0
  (t.days - s.days) * (nanosPerDay : Int) + ((a : Int) - b + leapBetween) * nanosPerSecond +
    ((t.nanos : Int) - s.nanos)

/-- 表記の秒（閏秒は 60）と、秒未満のナノ秒。 -/
def shownSecond (t : Instant) : Nat × Nat :=
  if t.isLeap then (t.secondOfDay % 60 + 1, t.nanos - nanosPerSecond)
  else (t.secondOfDay % 60, t.nanos)

/-- 時分秒の表記 `HH:MM:SS`。 -/
def clockText (t : Instant) : String :=
  let s := t.secondOfDay
  padNat 2 (s / 3600) ++ ":" ++ padNat 2 (s / 60 % 60) ++ ":" ++ padNat 2 t.shownSecond.1

/-- 小数 9 桁の表記 `YYYY-MM-DDTHH:MM:SS.nnnnnnnnnZ`。 -/
def rfc3339 (t : Instant) : String :=
  t.date.text ++ "T" ++ t.clockText ++ "." ++ padNat 9 t.shownSecond.2 ++ "Z"

/-- 秒未満の表記。0 なら空、ミリ秒やマイクロ秒で割り切れればその桁数。 -/
def fractionText (nanos : Nat) : String :=
  if nanos = 0 then ""
  else if nanos % 1000000 = 0 then "." ++ padNat 3 (nanos / 1000000)
  else if nanos % 1000 = 0 then "." ++ padNat 6 (nanos / 1000)
  else "." ++ padNat 9 nanos

/-- 人の読む表記 `YYYY-MM-DD HH:MM:SS UTC`。 -/
def display (t : Instant) : String :=
  t.date.text ++ " " ++ t.clockText ++ fractionText t.shownSecond.2 ++ " UTC"

end Instant

end SeviriScene.Time

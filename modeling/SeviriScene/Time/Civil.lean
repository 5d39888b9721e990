/-!
# 暦

1970-01-01 からの日数を、先発グレゴリオ暦の年月日に直す。400 年（146097 日）の周期で
年を決め、3 月を年の初めとして月と日を決める。
-/

namespace SeviriScene.Time

/-- 年、月（1〜12）、日（1〜31）。 -/
structure CivilDate where
  year : Int
  month : Nat
  day : Nat
  deriving Repr, DecidableEq

/-- 3 月始まりの年の中の日（0〜365）から、月と日。 -/
def monthDayOfMarchDay (doy : Nat) : Nat × Nat :=
  let mp := (5 * doy + 2) / 153
  let d := doy - (153 * mp + 2) / 5 + 1
  let m := if mp < 10 then mp + 3 else mp - 9
  (m, d)

/-- 1970-01-01 からの日数 `z` の年月日。 -/
def CivilDate.ofDays (z : Int) : CivilDate :=
  let z := z + 719468
  let era := z / 146097
  let doe := (z % 146097).toNat
  let yoe := (doe - doe / 1460 + doe / 36524 - doe / 146096) / 365
  let doy := doe - (365 * yoe + yoe / 4 - yoe / 100)
  let (m, d) := monthDayOfMarchDay doy
  let y : Int := yoe + era * 400
  ⟨if m ≤ 2 then y + 1 else y, m, d⟩

/-- `n` を最低 `width` 桁になるよう 0 で埋めた十進表記。 -/
def padNat (width n : Nat) : String :=
  let s := toString n
  String.ofList (List.replicate (width - s.length) '0') ++ s

/-- 年の表記。0 から 9999 は 4 桁、その外は符号つきで最低 4 桁。 -/
def yearText (y : Int) : String :=
  if 0 ≤ y ∧ y ≤ 9999 then padNat 4 y.toNat
  else (if y < 0 then "-" else "+") ++ padNat 4 y.natAbs

/-- 年月日の表記 `YYYY-MM-DD`。 -/
def CivilDate.text (d : CivilDate) : String :=
  yearText d.year ++ "-" ++ padNat 2 d.month ++ "-" ++ padNat 2 d.day

end SeviriScene.Time

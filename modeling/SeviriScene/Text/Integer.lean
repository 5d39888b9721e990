/-!
# 整数の読み取り

十進の文字列を 32 ビットの符号つき整数として読む。先頭に `+` か `-` を一つ許し、続く文字は
すべて ASCII の数字でなければならない。左から一文字ずつ読み、最初に見つかった誤りを返す。
数字でない文字は、そこまでの値が範囲を超えそうでも、数字でないという誤りになる。
-/

namespace SeviriScene.Text

/-- 整数の読み取りの誤り。 -/
inductive IntegerTextError where
  | empty
  | invalidDigit
  | tooLarge
  | tooSmall
  deriving Repr, DecidableEq

/-- 誤りの説明文。 -/
def IntegerTextError.message : IntegerTextError → String
  | .empty => "cannot parse integer from empty string"
  | .invalidDigit => "invalid digit found in string"
  | .tooLarge => "number too large to fit in target type"
  | .tooSmall => "number too small to fit in target type"

/-- 32 ビットの符号つき整数の範囲。 -/
def int32Min : Int := -2147483648

/-- 32 ビットの符号つき整数の最大値。 -/
def int32Max : Int := 2147483647

/-- 符号のあとの数字の列を、これまでの値 `acc` に続けて読む。`negative` なら引いていく。 -/
def readDigits (negative : Bool) : Int → List Char → Except IntegerTextError Int
  | acc, [] => .ok acc
  | acc, c :: rest =>
    if '0' ≤ c ∧ c ≤ '9' then
      let d : Int := c.toNat - 48
      let next := if negative then acc * 10 - d else acc * 10 + d
      if next > int32Max then .error .tooLarge
      else if next < int32Min then .error .tooSmall
      else readDigits negative next rest
    else .error .invalidDigit

/-- 十進の文字列を 32 ビットの符号つき整数として読む。 -/
def parseInt32 (s : String) : Except IntegerTextError Int :=
  match s.toList with
  | [] => .error .empty
  | ['+'] | ['-'] => .error .invalidDigit
  | '+' :: rest => readDigits false 0 rest
  | '-' :: rest => readDigits true 0 rest
  | cs => readDigits false 0 cs

end SeviriScene.Text

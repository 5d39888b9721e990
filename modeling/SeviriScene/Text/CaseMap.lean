/-!
# 大文字と小文字の対応

名前の照合に使う大文字・小文字の写像。照合の相手はいつも ASCII の名前なので、Unicode の写像の
うち、像が ASCII だけからなる文字を表に持てば足りる。像に ASCII でない文字を含む文字は、どの
ASCII の名前とも一致しない。

* `lowerAscii?`: 小文字化の像が ASCII だけになる文字。ASCII と KELVIN SIGN（U+212A → `k`）。
* `upperAscii?`: 大文字化の像が ASCII だけになる文字。ASCII、点のない i（U+0131 → `I`）、
  長い s（U+017F → `S`）、エスツェット（U+00DF → `SS`）と合字 U+FB00〜U+FB06。
-/

namespace SeviriScene.Text

/-- 小文字化したときの像が ASCII だけからなるなら、その像。 -/
def lowerAscii? (c : Char) : Option String :=
  if 'A' ≤ c ∧ c ≤ 'Z' then some (Char.ofNat (c.toNat + 32)).toString
  else if c.toNat < 128 then some c.toString
  else if c.toNat = 0x212A then some "k"
  else none

/-- 大文字化したときの像が ASCII だけからなるなら、その像。 -/
def upperAscii? (c : Char) : Option String :=
  if 'a' ≤ c ∧ c ≤ 'z' then some (Char.ofNat (c.toNat - 32)).toString
  else if c.toNat < 128 then some c.toString
  else match c.toNat with
    | 0x0131 => some "I"
    | 0x017F => some "S"
    | 0x00DF => some "SS"
    | 0xFB00 => some "FF"
    | 0xFB01 => some "FI"
    | 0xFB02 => some "FL"
    | 0xFB03 => some "FFI"
    | 0xFB04 => some "FFL"
    | 0xFB05 => some "ST"
    | 0xFB06 => some "ST"
    | _ => none

/-- 文字ごとの写像 `f` で `s` を写した像が ASCII の `target` に等しいか。 -/
def mapsTo (f : Char → Option String) (s target : String) : Bool :=
  match s.toList.mapM f with
  | some parts => String.join parts == target
  | none => false

/-- ASCII の文字だけを大文字・小文字の区別なく比べる。ASCII でない文字はそのまま比べる。 -/
def eqIgnoreAsciiCase (a b : String) : Bool :=
  a.length == b.length &&
    (a.toList.zip b.toList).all fun (x, y) => x.toLower == y.toLower

end SeviriScene.Text

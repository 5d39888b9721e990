import SeviriScene.Bytes.BigEndian
import SeviriScene.Fault
import SeviriScene.Text.Blank
import SeviriScene.Text.Utf8

/-!
# 文字の記録

ヘッダーの文字の記録は、名前 30 バイトと値 50 バイトの組。書くときは UTF-8 のバイト列を
その長さで切り（文字の途中でも切る）、空白で埋める。読むときは UTF-8 として寛容に読み、
両端の NUL と空白を取り除く。
-/

namespace SeviriScene.Text

/-- 名前の欄の長さ。 -/
def nameLength : Nat := 30

/-- 値の欄の長さ。 -/
def valueLength : Nat := 50

/-- 記録の長さ。 -/
def recordLength : Nat := nameLength + valueLength

/-- 欄を読む。両端の NUL と空白を取り除く。 -/
def readField (bs : List UInt8) : String :=
  trimBy (fun c => c == '\x00' || isBlank c) (decodeLossy bs)

/-- 欄を書く。`len` バイトで切り、足りない分は空白で埋める。 -/
def writeField (s : String) (len : Nat) : List UInt8 :=
  let bs := (encodeUtf8 s).take len
  bs ++ List.replicate (len - bs.length) 0x20

/-- 80 バイト以上の列の先頭の記録。 -/
def decodeRecord (bs : List UInt8) : String × String :=
  (readField (Bytes.window bs 0 nameLength), readField (Bytes.window bs nameLength valueLength))

/-- 記録を読む。80 バイトに満たなければ入出力の誤り。 -/
def readRecord (bs : List UInt8) : Outcome (String × String) :=
  if bs.length < recordLength then .error .shortRead else .ok (decodeRecord bs)

/-- 記録を書く。 -/
def writeRecord (name value : String) : List UInt8 :=
  writeField name nameLength ++ writeField value valueLength

theorem length_writeField (s : String) (len : Nat) : (writeField s len).length = len := by
  simp only [writeField, List.length_append, List.length_take, List.length_replicate]
  omega

end SeviriScene.Text

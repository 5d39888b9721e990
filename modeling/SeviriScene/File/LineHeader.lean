import SeviriScene.Bytes.BigEndian
import SeviriScene.Fault

/-!
# 行の前置き部

データ部の各記録は 65 バイトの前置き部で始まる。はじめの 38 バイトはパケットの見出しで読まず、
続く 27 バイトに版、衛星番号、時刻の 5 語、行番号、チャンネル番号、取得時刻の 3 語、
行の有効性、放射と幾何の品質を大きい方から並べる。
-/

namespace SeviriScene

/-- パケットの見出しの長さ。 -/
def packetHeaderSize : Nat := 38

/-- 行の付帯情報の長さ。 -/
def lineMetadataSize : Nat := 27

/-- 前置き部の長さ。 -/
def linePrefixSize : Nat := packetHeaderSize + lineMetadataSize

/-- 行の前置き部の付帯情報。 -/
structure LineHeader where
  version : UInt8 := 0
  satelliteId : UInt16 := 0
  time : Vector UInt16 5 := Vector.replicate 5 0
  lineNumber : UInt32 := 0
  channelId : UInt8 := 0
  acquisitionTime : Vector UInt16 3 := Vector.replicate 3 0
  lineValidity : UInt8 := 0
  radiometricQuality : UInt8 := 0
  geometricQuality : UInt8 := 0

namespace LineHeader

/-- `off` から `count` 個の 16 ビットの語。 -/
def wordsAt (bs : List UInt8) (off count : Nat) : Vector UInt16 count :=
  Vector.ofFn fun k => (Bytes.natAt bs (off + 2 * k.val) 2).toUInt16

/-- 前置き部を読む。65 バイトに満たなければ形式の誤り。余りのバイトは見ない。 -/
def decode (bs : List UInt8) : Outcome LineHeader :=
  if bs.length < linePrefixSize then .error (.shortLinePrefix bs.length)
  else
    let o := packetHeaderSize
    .ok {
      version := (Bytes.natAt bs o 1).toUInt8
      satelliteId := (Bytes.natAt bs (o + 1) 2).toUInt16
      time := wordsAt bs (o + 3) 5
      lineNumber := (Bytes.natAt bs (o + 13) 4).toUInt32
      channelId := (Bytes.natAt bs (o + 17) 1).toUInt8
      acquisitionTime := wordsAt bs (o + 18) 3
      lineValidity := (Bytes.natAt bs (o + 24) 1).toUInt8
      radiometricQuality := (Bytes.natAt bs (o + 25) 1).toUInt8
      geometricQuality := (Bytes.natAt bs (o + 26) 1).toUInt8
    }

/-- 前置き部を書く。パケットの見出しは 0 で埋める。 -/
def encode (h : LineHeader) : List UInt8 :=
  List.replicate packetHeaderSize 0 ++ [h.version] ++ Bytes.ofNat 2 h.satelliteId.toNat ++
    h.time.toList.flatMap (fun w => Bytes.ofNat 2 w.toNat) ++ Bytes.ofNat 4 h.lineNumber.toNat ++
    [h.channelId] ++ h.acquisitionTime.toList.flatMap (fun w => Bytes.ofNat 2 w.toNat) ++
    [h.lineValidity, h.radiometricQuality, h.geometricQuality]

end LineHeader

end SeviriScene

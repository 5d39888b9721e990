import SeviriScene.File.Header
import SeviriScene.Proofs.TextField

/-!
# 記録の表の読み戻し

名前の表 `RecordMap` は、ある名前を入れるとその名前だけを新しい値に写す（`get?_insert`）。
名前ごとに値を入れて作った表は、ちょうどその名前を、それぞれの値に写す（`get?_ofPairs_map`）。

ヘッダーの文字の部分は、名前の表の順に記録を並べて書く。書いた記録を読んで作った表は、各名前を、
その値を欄に書いて読んだ値 `fieldValue` に写す（`readRecordMap_writeRecords`）。記録の名前は
どれも欄にそのまま読み戻せる（`mainRecordNames_plain`、`secondaryRecordNames_plain`）。
-/

namespace SeviriScene.Text.RecordMap

/-! ## 名前の表 -/

@[simp] theorem get?_cons (k v key : String) (m : RecordMap) :
    get? ((k, v) :: m) key = if key = k then some v else m.get? key := by
  by_cases h : key = k
  · simp [get?, List.lookup, h]
  · simp only [get?, List.lookup, beq_false_of_ne h, h, if_false]

/-- 名前 `k` を入れると、`k` はその値を引き、ほかの名前は元の表の値を引く。 -/
theorem get?_insert (m : RecordMap) (k v key : String) :
    (m.insert k v).get? key = if key = k then some v else m.get? key := by
  fun_induction insert m k v with
  | case1 k v => simp [get?]
  | case2 => simp
  | case3 =>
    -- 同じ名前の対は置き換わる
    split <;> simp_all
  | case4 k' v' rest k v hlt hne ih =>
    rw [get?_cons, ih, get?_cons]
    by_cases h1 : key = k <;> simp_all

/-- 名前ごとに値を入れた表は、入れた名前をその値に写し、ほかの名前は元の表の値に写す。
同じ名前が二度現れても値は名前だけで決まるので、順序は結果に影響しない。 -/
theorem get?_foldl_insert (names : List String) (f : String → String) (m : RecordMap) (key : String) :
    (names.foldl (fun m n => m.insert n (f n)) m).get? key =
      if key ∈ names then some (f key) else m.get? key := by
  induction names generalizing m with
  | nil => simp
  | cons n names ih =>
    rw [List.foldl_cons, ih, get?_insert]
    by_cases h1 : key ∈ names
    · simp [h1]
    · by_cases h2 : key = n
      · subst h2
        simp
      · simp [h1, h2]

/-- 名前ごとの値から作った表は、ちょうどその名前を、それぞれの値に写す。 -/
theorem get?_ofPairs_map (names : List String) (f : String → String) (key : String) :
    (ofPairs (names.map fun n => (n, f n))).get? key = if key ∈ names then some (f key) else none := by
  rw [ofPairs, List.foldl_map]
  exact get?_foldl_insert names f [] key

end SeviriScene.Text.RecordMap

namespace SeviriScene.Text

/-! ## 記録の並び -/

theorem length_writeRecord (name value : String) : (writeRecord name value).length = recordLength := by
  simp [writeRecord, length_writeField, recordLength]

/-- 書いた記録の先頭を読むと、名前と値の欄をそれぞれ読んだものが返る。 -/
theorem decodeRecord_writeRecord (name value : String) (rest : List UInt8) :
    decodeRecord (writeRecord name value ++ rest) =
      (readField (writeField name nameLength), readField (writeField value valueLength)) := by
  have h1 := length_writeField name nameLength
  have h2 := length_writeField value valueLength
  simp only [decodeRecord, writeRecord, List.append_assoc]
  rw [Bytes.window_append_of_add_le (by omega), Bytes.window_append_of_le (by omega),
    Bytes.window_append_of_add_le (by omega), h1, Nat.sub_self, Bytes.window, Bytes.window,
    List.drop_zero, List.drop_zero, List.take_of_length_le (Nat.le_of_eq h1),
    List.take_of_length_le (Nat.le_of_eq h2)]

/-- 記録は先頭 80 バイトだけを読む。 -/
theorem decodeRecord_take {bs : List UInt8} {n : Nat} (h : recordLength ≤ n) :
    decodeRecord (bs.take n) = decodeRecord bs := by
  have h' : nameLength + valueLength ≤ n := h
  rw [decodeRecord, Bytes.window_take (by omega), Bytes.window_take h', decodeRecord]

/-- 名前の列の順に書いた記録を順に読むと、各名前とその値を書いて読んだ対が並ぶ。 -/
theorem decodeRecord_flatMap (names : List String) (val : String → String) (rest : List UInt8) :
    (List.range names.length).map (fun k =>
        decodeRecord ((names.flatMap (fun n => writeRecord n (val n)) ++ rest).drop (recordLength * k))) =
      names.map fun n => (readField (writeField n nameLength), readField (writeField (val n) valueLength)) := by
  induction names with
  | nil => rfl
  | cons n names ih =>
    rw [List.length_cons, List.range_succ_eq_map, List.map_cons, List.map_map, List.map_cons,
      List.flatMap_cons, List.append_assoc, Nat.mul_zero, List.drop_zero, decodeRecord_writeRecord, ← ih]
    rw [List.cons.injEq]
    refine ⟨rfl, List.map_congr_left fun k _ => ?_⟩
    -- 先頭の記録を飛ばすと、残りの記録の k 番目が残りの列の k 番目の記録になる
    simp only [Function.comp]
    rw [Bytes.drop_append_of_le (by rw [length_writeRecord, Nat.mul_succ]; omega), length_writeRecord,
      Nat.mul_succ, Nat.add_sub_cancel]

end SeviriScene.Text

namespace SeviriScene.FileHeader

open Text

theorem readRecordMap_eq (bs : List UInt8) (off count : Nat) :
    readRecordMap bs off count =
      RecordMap.ofPairs ((List.range count).map fun k => decodeRecord (bs.drop (off + recordLength * k))) := by
  rw [readRecordMap, RecordMap.ofPairs, List.foldl_map]

/-- 前の部分を飛ばして記録を読む。 -/
theorem readRecordMap_append_of_le {xs ys : List UInt8} {off : Nat} (h : xs.length ≤ off) (count : Nat) :
    readRecordMap (xs ++ ys) off count = readRecordMap ys (off - xs.length) count := by
  simp only [readRecordMap_eq]
  refine congrArg RecordMap.ofPairs (List.map_congr_left fun k _ => ?_)
  rw [Bytes.drop_append_of_le (by omega), show off + recordLength * k - xs.length =
    off - xs.length + recordLength * k by omega]

/-- 記録の表は、`off` から `count` 個の記録の終わりまでだけを読む。 -/
theorem readRecordMap_take {bs : List UInt8} {n off count : Nat} (h : off + recordLength * count ≤ n) :
    readRecordMap (bs.take n) off count = readRecordMap bs off count := by
  simp only [readRecordMap_eq]
  refine congrArg RecordMap.ofPairs (List.map_congr_left fun k hk => ?_)
  -- k 番目の記録は、k + 1 個の記録の終わりまでに収まる
  have hm := Nat.mul_le_mul_left recordLength (show k + 1 ≤ count from List.mem_range.mp hk)
  rw [Nat.mul_succ] at hm
  rw [List.drop_take, decodeRecord_take (by omega)]

/-- そのまま読み戻せる名前の記録を並べて書くと、読んだ表は各名前を、その値を欄に書いて読んだ
値に写す。 -/
theorem readRecordMap_writeRecords {names : List String}
    (hn : ∀ n ∈ names, PlainText n ∧ n.toList.length ≤ nameLength) (val : String → String)
    (rest : List UInt8) :
    readRecordMap (names.flatMap (fun n => writeRecord n (val n)) ++ rest) 0 names.length =
      RecordMap.ofPairs (names.map fun n => (n, fieldValue (val n))) := by
  simp only [readRecordMap_eq, Nat.zero_add]
  rw [decodeRecord_flatMap]
  refine congrArg RecordMap.ofPairs (List.map_congr_left fun n hmem => ?_)
  obtain ⟨hp, hl⟩ := hn n hmem
  rw [readField_writeField_of_plainText hp hl, readField_writeField_value]

theorem mainRecordNames_plain : ∀ n ∈ mainRecordNames, PlainText n ∧ n.toList.length ≤ nameLength := by
  decide

theorem secondaryRecordNames_plain :
    ∀ n ∈ secondaryRecordNames, PlainText n ∧ n.toList.length ≤ nameLength := by
  decide

end SeviriScene.FileHeader

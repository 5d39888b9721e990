import SeviriScene.Proofs.DataBlock
import SeviriScene.Proofs.Packing

/-!
# 塊ごとの画像の読み取り

`readRows` は画像を `chunkRows` 行ずつの塊に分けて読む。塊をつなぐと全体の行の並びになる
（`flatMap_chunks`）ので、塊ごとの読み取りは、行を一つずつ開いて並べる読み取りに等しい
（`readRows_eq`）。どの行の記録もファイルの中にあれば、それは行ごとに記録の本体を開いた画像
`rowImage` に等しく（`readRows_eq_rowImage`）、画像は `rows` 行 `columns` 列で得られる
（`rowImage_shape`）。

VIS/IR と HRV の読み取りは、これを配置の決める行と記録に当てはめたものである
（`readVisir_eq`、`readHrv_eq`）。どちらの結果も塊の大きさによらない。ただし列数の確かめのあと
行か列が 0 なら記録を見ずに空の画像を返すので、行の中にない VIS/IR のチャンネルを読んでも、
行がなければ誤りにならない。
-/

namespace SeviriScene.DataBlock

/-! ## 塊の分け方 -/

/-- 塊を順につなぐと、全体の行の並びになる。 -/
theorem flatMap_chunks {rows size : Nat} (hs : 0 < size) :
    (chunks rows size).flatMap (fun x => List.range' x.1 x.2) = List.range rows := by
  -- 先頭の k 個の塊が覆うのは min rows (k * size) 行
  have key : ∀ k, ((List.range k).map fun k => (k * size, min size (rows - k * size))).flatMap
      (fun x => List.range' x.1 x.2) = List.range' 0 (min rows (k * size)) := by
    intro k
    induction k with
    | zero => simp
    | succ k ih =>
      rw [List.range_succ, List.map_append, List.flatMap_append, ih]
      simp only [List.map_cons, List.map_nil, List.flatMap_cons, List.flatMap_nil, List.append_nil]
      by_cases hk : k * size < rows
      · have happ := @List.range'_append_1 0 (k * size) (min size (rows - k * size))
        rw [Nat.zero_add] at happ
        rw [show min rows (k * size) = k * size by omega, happ, Nat.succ_mul]
        congr 1
        omega
      · rw [show min size (rows - k * size) = 0 by omega, List.range'_zero, List.append_nil,
          Nat.succ_mul]
        congr 1
        omega
  have hn := Nat.lt_div_mul_add (a := rows + size - 1) hs
  rw [chunks, key, List.range_eq_range']
  congr 1
  generalize (rows + size - 1) / size * size = m at hn
  omega

/-! ## 行ごとの読み取り -/

/-- 塊ごとの読み取りは、塊の大きさによらず、行を一つずつ開いて並べるのと同じ結果を返す。 -/
theorem readRows_eq (d : DataBlock) (rows columns chunkRows : Nat)
    (locate : Nat → Nat × SubRecord) :
    d.readRows rows columns chunkRows locate =
      if columns % 4 ≠ 0 then .error (.partialGroups columns)
      else if rows = 0 ∨ columns = 0 then .ok (List.replicate rows [])
      else (List.range rows).mapM (d.readRow columns locate) := by
  by_cases hc : columns % 4 = 0
  · by_cases he : rows = 0 ∨ columns = 0
    · simp [readRows, hc, he]
    · have hs : 0 < max 1 (min chunkRows rows) := by omega
      simp only [readRows, hc, he, ne_eq, not_true_eq_false, if_false]
      rw [← flatMap_chunks hs, ← Outcome.flatten_mapM_mapM]
      simp only [readRange, bind_pure_comp]
  · simp [readRows, hc]

/-- 行ごとに記録の本体を開いて並べた画像。行 `r` は `locate r` の指す記録の本体を開いたもの。 -/
def rowImage (d : DataBlock) (rows : Nat) (locate : Nat → Nat × SubRecord) : Outcome (Image UInt16) :=
  (List.range rows).mapM fun r => d.payload (locate r).1 (locate r).2 >>= Sample.unpack

/-- 画像のどの行の記録もファイルの中にあり、その本体が `columns` 列を詰めた長さを持つ。 -/
def RowsPresent (d : DataBlock) (rows columns : Nat) (locate : Nat → Nat × SubRecord) : Prop :=
  ∀ r < rows, ∃ p, d.payload (locate r).1 (locate r).2 = .ok p ∧ p.length = packedWidth columns

section Rows

variable {d : DataBlock} {columns : Nat} {locate : Nat → Nat × SubRecord}

theorem readRow_eq_ok (hc : columns % 4 = 0) {r : Nat} {p : List UInt8}
    (hp : d.payload (locate r).1 (locate r).2 = .ok p) (hlen : p.length = packedWidth columns) :
    d.readRow columns locate r = .ok (Sample.unpackGroups p) := by
  have hlen' : p.length = columns / 4 * 5 := by rw [hlen, LineLayout.packedWidth_of_mod hc]
  rcases hloc : locate r with ⟨line, sub⟩
  rw [hloc] at hp
  simp only [readRow, hloc, hp, Outcome.ok_bind, Sample.unpackInto_eq_unpack hc hlen']
  exact Sample.unpack_of_mod (by omega)

theorem unpack_payload_eq_ok {r : Nat} {p : List UInt8}
    (hp : d.payload (locate r).1 (locate r).2 = .ok p) (hlen : p.length % 5 = 0) :
    d.payload (locate r).1 (locate r).2 >>= Sample.unpack = .ok (Sample.unpackGroups p) := by
  rw [hp, Outcome.ok_bind, Sample.unpack_of_mod hlen]

/-- どの行の記録もあれば、塊ごとの読み取りは行ごとの画像に等しい。 -/
theorem readRows_eq_rowImage (hc : columns % 4 = 0) {rows chunkRows : Nat}
    (hrows : d.RowsPresent rows columns locate) :
    d.readRows rows columns chunkRows locate = d.rowImage rows locate := by
  have hrow : ∀ r ∈ List.range rows, ∃ p, d.payload (locate r).1 (locate r).2 = .ok p ∧
      p.length = columns / 4 * 5 := by
    intro r hr
    obtain ⟨p, hp, hlen⟩ := hrows r (List.mem_range.mp hr)
    exact ⟨p, hp, by rw [hlen, LineLayout.packedWidth_of_mod hc]⟩
  rw [readRows_eq, if_neg (not_not.mpr hc)]
  split_ifs with he
  · -- 空の画像：行がなければ何も読まず、列がなければどの本体も空
    rcases he with rfl | rfl
    · rfl
    · have hnil : ∀ r ∈ List.range rows,
          d.payload (locate r).1 (locate r).2 >>= Sample.unpack = .ok ([] : List UInt16) := by
        intro r hr
        obtain ⟨p, hp, hlen⟩ := hrow r hr
        rw [List.length_eq_zero_iff.mp hlen] at hp
        rw [hp]
        rfl
      rw [rowImage, Outcome.mapM_eq_ok_map hnil, List.map_const', List.length_range]
  · apply Outcome.mapM_congr
    intro r hr
    obtain ⟨p, hp, hlen⟩ := hrow r hr
    rw [readRow_eq_ok hc hp (by rw [hlen, LineLayout.packedWidth_of_mod hc]),
      unpack_payload_eq_ok hp (by omega)]

/-- どの行の記録もあれば、行ごとの画像は `rows` 行 `columns` 列で得られる。 -/
theorem rowImage_shape (hc : columns % 4 = 0) {rows : Nat} (hrows : d.RowsPresent rows columns locate) :
    ∃ img, d.rowImage rows locate = .ok img ∧ img.length = rows ∧ ∀ row ∈ img, row.length = columns := by
  have hrow : ∀ r ∈ List.range rows, ∃ row,
      d.payload (locate r).1 (locate r).2 >>= Sample.unpack = .ok row ∧ row.length = columns := by
    intro r hr
    obtain ⟨p, hp, hlen⟩ := hrows r (List.mem_range.mp hr)
    rw [LineLayout.packedWidth_of_mod hc] at hlen
    refine ⟨Sample.unpackGroups p, unpack_payload_eq_ok hp (by omega), ?_⟩
    rw [Sample.length_unpackGroups, hlen]
    omega
  obtain ⟨img, himg, hlen, hall⟩ := Outcome.mapM_eq_ok_of_forall hrow
  exact ⟨img, himg, by rw [hlen, List.length_range], hall⟩

end Rows

/-! ## VIS/IR と HRV の画像 -/

section Channels

variable {d : DataBlock}

/-- 行の中にある VIS/IR のチャンネルの記録は、データ部のどの行にもある。 -/
theorem rowsPresent_visir (hs : d.Spans) {slot : Nat} (hslot : slot < d.layout.visirChannels) :
    d.RowsPresent d.layout.numberOfLines d.layout.visirColumns fun r => (r, .visir slot) := by
  intro r hr
  have hspan : subRecordSpan d.layout (.visir slot) =
      some (d.layout.visirSubrecordOffset slot, d.layout.visirSubrecordSize) := by
    simp [subRecordSpan, hslot]
  obtain ⟨p, hp, hlen⟩ := payload_length hs hr hspan
  exact ⟨p, hp, by rw [hlen, LineLayout.visirSubrecordSize_sub]; rfl⟩

/-- HRV があれば、画像の行 `r` の記録は行の記録 `r / 3` の `r % 3` 本目にある。 -/
theorem rowsPresent_hrv (hs : d.Spans) (hh : d.layout.hasHrv = true) :
    d.RowsPresent (d.layout.numberOfLines * hrvSublines) d.layout.hrvColumns
      fun r => (r / hrvSublines, .hrv (r % hrvSublines)) := by
  intro r hr
  have hl : r / hrvSublines < d.layout.numberOfLines := by
    simp only [hrvSublines] at hr ⊢
    omega
  have hspan : subRecordSpan d.layout (.hrv (r % hrvSublines)) =
      some (d.layout.hrvSubrecordOffset (r % hrvSublines), d.layout.hrvSubrecordSize) := by
    have hk : r % hrvSublines < hrvSublines := Nat.mod_lt r (by decide)
    simp [subRecordSpan, hh, hk]
  obtain ⟨p, hp, hlen⟩ := payload_length hs hl hspan
  exact ⟨p, hp, by rw [hlen, LineLayout.hrvSubrecordSize_sub]; rfl⟩

/-- VIS/IR の画像の読み取り。列数の確かめが先で、行の中にあるチャンネルなら行ごとの画像を返す。
行の中にないチャンネルは、行か列が 0 なら空の画像、そうでなければ処理の誤り。結果は塊の大きさ
`chunkLines` によらない。 -/
theorem readVisir_eq (hs : d.Spans) (slot chunkLines : Nat) :
    d.readVisir slot chunkLines =
      if d.layout.visirColumns % 4 ≠ 0 then .error (.partialGroups d.layout.visirColumns)
      else if slot < d.layout.visirChannels then
        d.rowImage d.layout.numberOfLines fun r => (r, .visir slot)
      else if d.layout.numberOfLines = 0 ∨ d.layout.visirColumns = 0 then
        .ok (List.replicate d.layout.numberOfLines [])
      else .error (.subRecordAbsent (.visir slot)) := by
  unfold readVisir
  by_cases hc : d.layout.visirColumns % 4 = 0
  · by_cases hslot : slot < d.layout.visirChannels
    · rw [readRows_eq_rowImage hc (rowsPresent_visir hs hslot)]
      simp [hc, hslot]
    · rw [readRows_eq]
      simp only [hc, hslot, ne_eq, not_true_eq_false, if_false]
      split_ifs with he
      · rfl
      · -- 最初の行で、行の中にない記録を読もうとして失敗する
        obtain ⟨n, hn⟩ : ∃ n, d.layout.numberOfLines = n + 1 := ⟨d.layout.numberOfLines - 1, by omega⟩
        have hp : d.payload 0 (.visir slot) = .error (.subRecordAbsent (.visir slot)) :=
          payload_eq_error (by omega) (by simp [subRecordSpan, hslot])
        rw [hn, List.range_succ_eq_map]
        exact Outcome.mapM_cons_eq_error (by simp [readRow, hp])
  · rw [readRows_eq]
    simp [hc]

/-- 行がなければ、行の中にない VIS/IR のチャンネルを読んでも空の画像が返る。 -/
example : (DataBlock.mk ⟨3, 12, 0, true, 32, 0, false⟩ ⟨Array.replicate 2912 0⟩).readVisir 9 512 =
    .ok [] := rfl

/-- HRV の画像の読み取り。HRV の有無、行数、列数の順に確かめ、通れば行ごとの画像を返す。
結果は塊の大きさ `chunkLines` によらない。 -/
theorem readHrv_eq (hs : d.Spans) (chunkLines : Nat) :
    d.readHrv chunkLines =
      if !d.layout.hasHrv then .error .hrvAbsent
      else if d.layout.numberOfLines * hrvSublines ≠ d.layout.hrvNumberOfLines then
        .error (.hrvLineMismatch d.layout.hrvNumberOfLines d.layout.numberOfLines
          (d.layout.numberOfLines * hrvSublines))
      else if d.layout.hrvColumns % 4 ≠ 0 then .error (.partialGroups d.layout.hrvColumns)
      else d.rowImage (d.layout.numberOfLines * hrvSublines)
        fun r => (r / hrvSublines, .hrv (r % hrvSublines)) := by
  unfold readHrv
  cases hh : d.layout.hasHrv
  · simp
  · by_cases hn : d.layout.numberOfLines * hrvSublines = d.layout.hrvNumberOfLines
    · by_cases hc : d.layout.hrvColumns % 4 = 0
      · simp only [hn, hc, Bool.not_true, Bool.false_eq_true, if_false, ne_eq, not_true_eq_false]
        simp only [← hn]
        exact readRows_eq_rowImage hc (rowsPresent_hrv hs hh)
      · simp [hn, hc, readRows_eq]
    · simp [hn]

end Channels

/-! ## 読み取りの仕様 -/

/-- データ部の画像の読み取りの仕様。VIS/IR と HRV の画像はどちらも、確かめの順に誤りを返すか、
行ごとに記録の本体を開いた画像を返し、その画像は配置の決める行数と列数を持つ。 -/
structure ImageReads (d : DataBlock) : Prop where
  visir : ∀ slot chunkLines, d.readVisir slot chunkLines =
    if d.layout.visirColumns % 4 ≠ 0 then .error (.partialGroups d.layout.visirColumns)
    else if slot < d.layout.visirChannels then
      d.rowImage d.layout.numberOfLines fun r => (r, .visir slot)
    else if d.layout.numberOfLines = 0 ∨ d.layout.visirColumns = 0 then
      .ok (List.replicate d.layout.numberOfLines [])
    else .error (.subRecordAbsent (.visir slot))
  hrv : ∀ chunkLines, d.readHrv chunkLines =
    if !d.layout.hasHrv then .error .hrvAbsent
    else if d.layout.numberOfLines * hrvSublines ≠ d.layout.hrvNumberOfLines then
      .error (.hrvLineMismatch d.layout.hrvNumberOfLines d.layout.numberOfLines
        (d.layout.numberOfLines * hrvSublines))
    else if d.layout.hrvColumns % 4 ≠ 0 then .error (.partialGroups d.layout.hrvColumns)
    else d.rowImage (d.layout.numberOfLines * hrvSublines)
      fun r => (r / hrvSublines, .hrv (r % hrvSublines))
  visirShape : ∀ slot, slot < d.layout.visirChannels → d.layout.visirColumns % 4 = 0 →
    ∃ img, d.rowImage d.layout.numberOfLines (fun r => (r, .visir slot)) = .ok img ∧
      img.length = d.layout.numberOfLines ∧ ∀ row ∈ img, row.length = d.layout.visirColumns
  hrvShape : d.layout.hasHrv = true → d.layout.hrvColumns % 4 = 0 →
    ∃ img, d.rowImage (d.layout.numberOfLines * hrvSublines)
        (fun r => (r / hrvSublines, .hrv (r % hrvSublines))) = .ok img ∧
      img.length = d.layout.numberOfLines * hrvSublines ∧
      ∀ row ∈ img, row.length = d.layout.hrvColumns

/-- ファイルを開いて得たデータ部は、ファイルの中身によらず読み取りの仕様を満たす。 -/
theorem imageReads_of_ofFile {path : String} {file : ByteArray} {l : LineLayout} {d : DataBlock}
    (hd : ofFile path file l = .ok d) : d.ImageReads := by
  obtain ⟨-, hsize, rfl⟩ := ofFile_eq_ok.mp hd
  have hs : Spans ⟨l, file⟩ := hsize
  exact ⟨readVisir_eq hs, readHrv_eq hs,
    fun _ hslot hc => rowImage_shape hc (rowsPresent_visir hs hslot),
    fun hh hc => rowImage_shape hc (rowsPresent_hrv hs hh)⟩

/-- 行のない配置（3 つの VIS/IR のチャンネルと HRV）を、ヘッダーの長さのファイルで開いた場合。 -/
theorem imageReads_of_ofFile_noLines :
    ofFile "scene.nat" ⟨Array.replicate 2912 0⟩ ⟨3, 12, 0, true, 32, 0, false⟩ =
        .ok ⟨⟨3, 12, 0, true, 32, 0, false⟩, ⟨Array.replicate 2912 0⟩⟩ ∧
      ImageReads ⟨⟨3, 12, 0, true, 32, 0, false⟩, ⟨Array.replicate 2912 0⟩⟩ := by
  have hd : ofFile "scene.nat" ⟨Array.replicate 2912 0⟩ ⟨3, 12, 0, true, 32, 0, false⟩ =
      .ok ⟨⟨3, 12, 0, true, 32, 0, false⟩, ⟨Array.replicate 2912 0⟩⟩ :=
    ofFile_eq_ok.mpr ⟨rfl, by simp [LineLayout.trailerOffset, LineLayout.dataSize, headerSize,
      ByteArray.size], rfl⟩
  exact ⟨hd, imageReads_of_ofFile hd⟩

end SeviriScene.DataBlock

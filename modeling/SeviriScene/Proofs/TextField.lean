import SeviriScene.Text.Record
import SeviriScene.Proofs.ByteFields

/-!
# 文字の欄の読み戻し

文字の欄は UTF-8 のバイト列を欄の長さで切り、空白で埋めて書く。読むときは寛容に UTF-8 として
読み、両端の NUL と空白を取り除く。ここでは、欄に書いて読んだ値が、UTF-8 の先頭の欄の長さの
バイトを読んだ値 `fieldValue` に等しいこと（`readField_writeField`）を示す。埋めた空白は ASCII なので
読み取りを乱さず（`decodeLossyAux_append`）、最後に取り除かれる（`trimBy_append`）。

ASCII だけからなり、両端が NUL でも空白でもない文字列（`PlainText`）は、欄に収まればそのまま
読み戻される（`readField_writeField_of_plainText`）。記録の名前と整数の十進表記がそれにあたる。
-/

namespace SeviriScene.Text

/-! ## UTF-8 のバイト列 -/

theorem encodeUtf8_eq (s : String) : encodeUtf8 s = s.toList.flatMap String.utf8EncodeChar := by
  rw [encodeUtf8, String.toUTF8_eq_toByteArray, ← String.utf8Encode_toList, List.utf8Encode]
  simp

theorem utf8EncodeChar_of_lt {c : Char} (h : c.toNat < 128) :
    String.utf8EncodeChar c = [c.toNat.toUInt8] := by
  have hv : c.val ≤ 127 := by
    rw [UInt32.le_iff_toNat_le]
    exact Nat.le_of_lt_succ h
  rw [String.utf8EncodeChar_eq_singleton (Char.utf8Size_eq_one_iff.mpr hv)]
  rfl

theorem encodeUtf8_of_ascii {s : String} (h : ∀ c ∈ s.toList, c.toNat < 128) :
    encodeUtf8 s = s.toList.map fun c => c.toNat.toUInt8 := by
  rw [encodeUtf8_eq]
  generalize s.toList = cs at h
  induction cs with
  | nil => rfl
  | cons c cs ih =>
    rw [List.flatMap_cons, utf8EncodeChar_of_lt (h c List.mem_cons_self),
      ih fun x hx => h x (List.mem_cons_of_mem c hx)]
    rfl

/-! ## 寛容な読み取り -/

theorem decodeStep_of_lt {b : UInt8} (h : b.toNat < 128) (rest : List UInt8) :
    decodeStep b rest = (Char.ofNat b.toNat, 1) := by
  simp [decodeStep, h]

theorem leadRange_lo {b lo hi len : Nat} (h : leadRange b = some (lo, hi, len)) : 128 ≤ lo := by
  unfold leadRange at h
  split_ifs at h <;> cases h <;> decide

theorem isContinuation_of_lt {y : UInt8} (h : y.toNat < 128) : isContinuation y = false := by
  simp [isContinuation]
  omega

/-- 読み終えたところに ASCII のバイトが続いても、一文字の読み取りは変わらない。 -/
theorem decodeStep_append (b : UInt8) (rest : List UInt8) {ys : List UInt8}
    (hys : ∀ y ∈ ys.head?, y.toNat < 128) : decodeStep b (rest ++ ys) = decodeStep b rest := by
  unfold decodeStep
  dsimp only
  by_cases hb : b.toNat < 128
  · simp only [hb, if_true]
  · simp only [hb, if_false]
    rcases hl : leadRange b.toNat with _ | ⟨lo, hi, len⟩
    · rfl
    · have hlo := leadRange_lo hl
      rcases rest with _ | ⟨b1, _ | ⟨b2, _ | ⟨b3, rest3⟩⟩⟩ <;> rcases ys with _ | ⟨y, ys⟩ <;>
        simp_all [isContinuation_of_lt]
      -- 残るのは ASCII のバイトが 2 バイト目に来た場合で、それは 2 バイト目の範囲（128 以上）に入らない
      intro h
      omega

/-- 一文字の読み取りは 1 バイト以上、読めるバイトの数以下を消費する。 -/
theorem decodeStep_snd (b : UInt8) (rest : List UInt8) :
    1 ≤ (decodeStep b rest).2 ∧ (decodeStep b rest).2 ≤ rest.length + 1 := by
  unfold decodeStep
  dsimp only
  by_cases hb : b.toNat < 128
  · simp [hb]
  · simp only [hb, if_false]
    rcases hl : leadRange b.toNat with _ | ⟨lo, hi, len⟩
    · simp
    · rcases rest with _ | ⟨b1, _ | ⟨b2, _ | ⟨b3, rest3⟩⟩⟩ <;> simp <;> split_ifs <;> simp

theorem decodeLossyAux_ascii {bs : List UInt8} (h : ∀ b ∈ bs, b.toNat < 128) {n : Nat}
    (hn : bs.length ≤ n) : decodeLossyAux n bs = bs.map fun b => Char.ofNat b.toNat := by
  induction bs generalizing n with
  | nil => cases n <;> rfl
  | cons b bs ih =>
    obtain ⟨n, rfl⟩ : ∃ m, n = m + 1 := ⟨n - 1, by simp at hn; omega⟩
    simp only [decodeLossyAux, decodeStep_of_lt (h b List.mem_cons_self), List.drop_one,
      List.tail_cons, List.map_cons]
    rw [ih (fun x hx => h x (List.mem_cons_of_mem b hx)) (by simp at hn; omega)]

/-- 燃料は列の長さあれば足り、それより多くても結果は変わらない。 -/
theorem decodeLossyAux_fuel {bs : List UInt8} {n m : Nat} (hn : bs.length ≤ n) (hm : bs.length ≤ m) :
    decodeLossyAux n bs = decodeLossyAux m bs := by
  induction n generalizing bs m with
  | zero =>
    have hb : bs = [] := List.eq_nil_of_length_eq_zero (by omega)
    subst hb
    cases m <;> rfl
  | succ n ih =>
    rcases bs with _ | ⟨b, rest⟩
    · cases m <;> rfl
    · obtain ⟨m, rfl⟩ : ∃ k, m = k + 1 := ⟨m - 1, by simp at hm; omega⟩
      -- 一文字で 1 バイト以上を消費するので、残りは燃料を 1 減らしても足りる
      have hs := decodeStep_snd b rest
      have hd : ((b :: rest).drop (decodeStep b rest).2).length ≤ rest.length := by
        simp only [List.length_drop, List.length_cons]
        omega
      simp only [List.length_cons] at hn hm
      simp only [decodeLossyAux]
      congr 1
      exact ih (by omega) (by omega)

/-- ASCII のバイトが続いても、その前の読み取りは変わらず、続きはそのまま文字になる。 -/
theorem decodeLossyAux_append {ys : List UInt8} (hys : ∀ y ∈ ys, y.toNat < 128) {n : Nat}
    {bs : List UInt8} (hn : bs.length + ys.length ≤ n) :
    decodeLossyAux n (bs ++ ys) = decodeLossyAux n bs ++ ys.map fun y => Char.ofNat y.toNat := by
  induction n generalizing bs with
  | zero =>
    have hb : bs = [] := List.eq_nil_of_length_eq_zero (by omega)
    have hy : ys = [] := List.eq_nil_of_length_eq_zero (by omega)
    subst hb hy
    rfl
  | succ n ih =>
    rcases bs with _ | ⟨b, rest⟩
    · rw [List.nil_append, decodeLossyAux_ascii hys (by omega)]
      rfl
    · have hhead : ∀ y ∈ ys.head?, y.toNat < 128 := fun y hy => hys y (List.mem_of_mem_head? hy)
      have hs := decodeStep_snd b rest
      simp only [List.cons_append, decodeLossyAux, decodeStep_append b rest hhead, List.cons_append]
      rw [← List.cons_append, List.drop_append_of_le_length (by simp; omega),
        ih (by simp at hn ⊢; omega)]

/-! ## 両端の取り除き -/

theorem trimBy_append {p : Char → Bool} {cs ds : List Char} (hds : ∀ d ∈ ds, p d = true) :
    trimBy p (String.ofList (cs ++ ds)) = trimBy p (String.ofList cs) := by
  simp only [trimBy, String.toList_ofList]
  congr 1
  rw [List.dropWhile_append]
  split
  · rename_i he
    have hds' : ds.dropWhile p = [] := by
      simpa using @List.dropWhile_append_of_pos _ p ds [] hds
    rw [hds', List.isEmpty_iff.mp he]
  · rw [List.reverse_append, List.dropWhile_append_of_pos (fun a ha => hds a (List.mem_reverse.mp ha))]

theorem trimBy_of_ends {p : Char → Bool} {cs : List Char} (h1 : ∀ c ∈ cs.head?, p c = false)
    (h2 : ∀ c ∈ cs.getLast?, p c = false) : trimBy p (String.ofList cs) = String.ofList cs := by
  have hd : ∀ {l : List Char}, (∀ c ∈ l.head?, p c = false) → l.dropWhile p = l := by
    intro l hl
    cases l with
    | nil => rfl
    | cons c l => exact List.dropWhile_cons_of_neg (by simpa using hl c rfl)
  simp only [trimBy, String.toList_ofList]
  rw [hd h1, hd (by simpa [List.head?_reverse] using h2), List.reverse_reverse]

/-! ## 欄の値 -/

/-- 値の欄に書いて読んだ値：UTF-8 の先頭 50 バイトを寛容に読み、両端の NUL と空白を除いたもの。 -/
def fieldValue (v : String) : String :=
  readField ((encodeUtf8 v).take valueLength)

/-- 欄に書いて読んだ値は、UTF-8 の先頭 `len` バイトを読んだものに等しい。埋めた空白は読むときに
取り除かれる。 -/
theorem readField_writeField (s : String) (len : Nat) :
    readField (writeField s len) = readField ((encodeUtf8 s).take len) := by
  have hsp : ∀ y ∈ List.replicate (len - ((encodeUtf8 s).take len).length) (0x20 : UInt8),
      y.toNat < 128 := by
    intro y hy
    rw [List.eq_of_mem_replicate hy]
    decide
  simp only [readField, writeField, decodeLossy]
  rw [decodeLossyAux_append hsp (by simp), trimBy_append,
    decodeLossyAux_fuel (by simp) (Nat.le_refl _)]
  intro d hd
  simp only [List.map_replicate, List.mem_replicate] at hd
  rw [hd.2]
  decide

/-- 欄の両端から取り除かれる文字：NUL と空白。 -/
def isPad (c : Char) : Bool :=
  c == '\x00' || isBlank c

/-- 欄に書いて読むとそのまま戻る文字列：ASCII だけからなり、両端が NUL でも空白でもない。 -/
def PlainText (s : String) : Prop :=
  (∀ c ∈ s.toList, c.toNat < 128) ∧ (∀ c ∈ s.toList.head?, isPad c = false) ∧
    ∀ c ∈ s.toList.getLast?, isPad c = false

-- 文字についての `∀` は、全文字を数え上げる判定ではなく、リストと `Option` の要素をたどる判定で決める
instance : DecidablePred PlainText := fun s =>
  @instDecidableAnd _ _ (List.decidableBAll _ s.toList)
    (@instDecidableAnd _ _ (Option.decidableForallMem s.toList.head?) (Option.decidableForallMem s.toList.getLast?))

theorem readField_writeField_of_plainText {s : String} {len : Nat} (hs : PlainText s)
    (hlen : s.toList.length ≤ len) : readField (writeField s len) = s := by
  obtain ⟨hascii, h1, h2⟩ := hs
  have hb : ∀ b ∈ s.toList.map (fun c => c.toNat.toUInt8), b.toNat < 128 := by
    simp only [List.mem_map]
    rintro b ⟨c, hc, rfl⟩
    have := hascii c hc
    simp
    omega
  have hc : (s.toList.map fun c => c.toNat.toUInt8).map (fun b => Char.ofNat b.toNat) = s.toList := by
    rw [List.map_map]
    conv => rhs; rw [← List.map_id s.toList]
    apply List.map_congr_left
    intro c hc
    have := hascii c hc
    simp [Nat.mod_eq_of_lt (Nat.lt_trans this (by decide : 128 < 256)), Char.ofNat_toNat]
  rw [readField_writeField, encodeUtf8_of_ascii hascii, List.take_of_length_le (by simp; omega),
    readField, decodeLossy, decodeLossyAux_ascii hb (Nat.le_refl _), hc]
  rw [show (fun c => c == '\x00' || isBlank c) = isPad from rfl, trimBy_of_ends h1 h2,
    String.ofList_toList]

example : PlainText "SelectedBandIDs" := by decide

/-- 両端が空白でない文字列は、空白を取り除いても変わらない。 -/
theorem trimBlank_of_plainText {s : String} (hs : PlainText s) : trimBlank s = s := by
  obtain ⟨-, h1, h2⟩ := hs
  have hb : ∀ {c : Char}, isPad c = false → isBlank c = false := by
    intro c hc
    simp only [isPad, Bool.or_eq_false_iff] at hc
    exact hc.2
  have key := trimBy_of_ends (fun c hc => hb (h1 c hc)) (fun c hc => hb (h2 c hc))
  rwa [String.ofList_toList] at key

/-- 値の欄に書いて読むと `fieldValue` になる。 -/
theorem readField_writeField_value (v : String) :
    readField (writeField v valueLength) = fieldValue v :=
  readField_writeField v valueLength

theorem fieldValue_of_plainText {s : String} (hs : PlainText s) (hlen : s.toList.length ≤ valueLength) :
    fieldValue s = s := by
  rw [← readField_writeField_value, readField_writeField_of_plainText hs hlen]

end SeviriScene.Text

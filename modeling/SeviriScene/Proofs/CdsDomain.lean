import SeviriScene.Proofs.CdsCodec
import SeviriScene.Proofs.Outcome

/-!
# CDS の時刻が書ける範囲

CDS の時刻を書く関数は、紀元からの経過 `d` を 0 の方へ切り捨てて日に分け、日数が 0〜65535 でなければ
失敗する。切り捨てのため、書けるのは `-1 日 < d < 65536 日` の時刻である（`cdsEncode_exists_iff`）。

* 紀元以後の時刻（`Instant.InCdsRange`）は、欄が名目の範囲にある 10 バイト（`CdsCanonical`）で書かれ、
  読むともとの時刻に戻る（`cdsEncode_canonical`）。
* 紀元前 1 日未満の時刻も書けてしまうが、負の欄は 2 の補数で書かれ、読んだ時刻は紀元以後になる。
  どの 10 バイトを読んでも紀元より前の時刻にはならない（`cdsEpoch_le_cdsDecode`）。
* 逆に、欄が名目の範囲にある 10 バイトは、読んで書き直すともとのバイトに戻る（`cdsEncode_cdsDecode`）。
-/

namespace SeviriScene

namespace Bytes

/-! ## 読み出しから書き出しへ -/

theorem foldl_toNat (bs : List UInt8) (a : Nat) :
    bs.foldl (fun acc b => acc * 256 + b.toNat) a = a * Nat.pow 256 bs.length + toNat bs := by
  induction bs generalizing a with
  | nil =>
    show a = a * 1 + 0
    rw [Nat.mul_one, Nat.add_zero]
  | cons b bs ih =>
    have hp : Nat.pow 256 (b :: bs).length = Nat.pow 256 bs.length * 256 := rfl
    simp only [toNat, List.foldl_cons] at ih ⊢
    rw [ih, ih (0 * 256 + b.toNat), hp]
    ring

theorem toNat_cons (b : UInt8) (bs : List UInt8) :
    toNat (b :: bs) = b.toNat * Nat.pow 256 bs.length + toNat bs := by
  rw [toNat, List.foldl_cons, foldl_toNat, Nat.zero_mul, Nat.zero_add]

theorem toNat_lt (bs : List UInt8) : toNat bs < Nat.pow 256 bs.length := by
  induction bs with
  | nil => exact Nat.one_pos
  | cons b bs ih =>
    rw [toNat_cons, List.length_cons]
    have hp : Nat.pow 256 (bs.length + 1) = Nat.pow 256 bs.length * 256 := rfl
    have hb : b.toNat < 256 := b.toNat_lt
    rw [hp]
    nlinarith

theorem ofNat_add_mul (w n k : Nat) : ofNat w (n + k * Nat.pow 256 w) = ofNat w n := by
  induction w generalizing k with
  | zero => rfl
  | succ w ih =>
    have hp : Nat.pow 256 (w + 1) = Nat.pow 256 w * 256 := rfl
    have hpos : 0 < Nat.pow 256 w := Nat.pow_pos (by decide)
    simp only [ofNat]
    rw [hp, show n + k * (Nat.pow 256 w * 256) = n + (k * 256) * Nat.pow 256 w by ring, ih,
      Nat.add_mul_div_right _ _ hpos, Nat.add_mul_mod_self_right]

/-- 書き出しは読み出しの逆でもある：どの列も、その値を同じ長さで書き直したものに等しい。 -/
theorem ofNat_toNat (bs : List UInt8) : ofNat bs.length (toNat bs) = bs := by
  induction bs with
  | nil => rfl
  | cons b bs ih =>
    have hpos : 0 < Nat.pow 256 bs.length := Nat.pow_pos (by decide)
    have hlt := toNat_lt bs
    rw [List.length_cons, ofNat, toNat_cons, Nat.add_comm, ofNat_add_mul, ih,
      Nat.add_mul_div_right _ _ hpos, Nat.div_eq_of_lt hlt, Nat.zero_add, Nat.mod_eq_of_lt b.toNat_lt]
    simp

theorem length_window {bs : List UInt8} {off w : Nat} (h : off + w ≤ bs.length) :
    (window bs off w).length = w := by
  simp only [window, List.length_take, List.length_drop]
  omega

theorem ofNat_natAt {bs : List UInt8} {off w : Nat} (h : off + w ≤ bs.length) :
    ofNat w (natAt bs off w) = window bs off w := by
  have := ofNat_toNat (window bs off w)
  rwa [length_window h] at this

theorem pow_two_bytes : Nat.pow 256 2 = 65536 := rfl

theorem pow_four_bytes : Nat.pow 256 4 = 4294967296 := rfl

theorem window_append_window (bs : List UInt8) (a m n : Nat) :
    window bs a m ++ window bs (a + m) n = window bs a (m + n) := by
  simp only [window, List.take_add, List.drop_drop, Nat.add_comm a m]

end Bytes

namespace Time

open Bytes

namespace Instant

theorem sinceUnixEpoch_ofNanos (n : Int) : (ofNanos n).sinceUnixEpoch = n := by
  simp only [ofNanos, sinceUnixEpoch, nanosPerSecond]
  omega

theorem sinceUnixEpoch_addNanos (t : Instant) (d : Int) :
    (t.addNanos d).sinceUnixEpoch = t.sinceUnixEpoch + d :=
  sinceUnixEpoch_ofNanos _

end Instant

/-! ## 欄の範囲 -/

theorem nanosPerDay_int_eq : (nanosPerDay : Int) = 86400000000000 := rfl

/-- 欄が名目の範囲にある 10 バイトの CDS の時刻：日数は 65535 以下、ミリ秒は 1 日に満たず、
マイクロ秒とナノ秒は 1000 未満。 -/
structure CdsCanonical (bs : List UInt8) : Prop where
  length : bs.length = cdsLength
  days : natAt bs 0 2 ≤ 65535
  millis : natAt bs 2 4 < 86400000
  micros : natAt bs 6 2 < 1000
  nanos : natAt bs 8 2 < 1000

/-- 欄はどれも符号なしで足されるので、読んだ時刻は紀元より前にならない。 -/
theorem cdsEpoch_le_cdsDecode (bs : List UInt8) :
    cdsEpoch.sinceUnixEpoch ≤ (cdsDecode bs).sinceUnixEpoch := by
  have hday : (0 : Int) ≤ ↑(natAt bs 0 2) * ↑nanosPerDay := by positivity
  simp only [cdsDecode, Instant.sinceUnixEpoch_addNanos]
  omega

theorem cdsEncode_eq (t : Instant) :
    cdsEncode t =
      if 0 ≤ (cdsFields t).1 ∧ (cdsFields t).1 ≤ 65535 then
        .ok (ofInt 2 (cdsFields t).1 ++ ofInt 4 (cdsFields t).2.1 ++ ofInt 2 (cdsFields t).2.2.1 ++
          ofInt 2 (cdsFields t).2.2.2)
      else .error (.notCdsDay t) := rfl

/-- 0 の方へ切り捨てた日数が 0〜65535 になるのは、経過が -1 日より大きく 65536 日より小さいとき。 -/
theorem tdiv_nanosPerDay_mem {d : Int} :
    (0 ≤ d.tdiv nanosPerDay ∧ d.tdiv nanosPerDay ≤ 65535) ↔
      -(nanosPerDay : Int) < d ∧ d < 65536 * nanosPerDay := by
  rw [nanosPerDay_int_eq]
  by_cases h : 0 ≤ d
  · rw [Int.tdiv_eq_ediv_of_nonneg h]
    omega
  · -- 負の経過は 0 の方へ切り捨てるので、1 日に満たなければ日数は 0
    have hneg : d.tdiv 86400000000000 = -((-d) / 86400000000000) := by
      rw [← Int.tdiv_eq_ediv_of_nonneg (by omega), ← Int.neg_tdiv, Int.neg_neg]
    rw [hneg]
    omega

/-- 四つの欄を大きい方から並べた 10 バイト。 -/
def cdsWords (days millis micros nanos : Nat) : List UInt8 :=
  ofNat 2 days ++ ofNat 4 millis ++ ofNat 2 micros ++ ofNat 2 nanos

theorem length_cdsWords (days millis micros nanos : Nat) :
    (cdsWords days millis micros nanos).length = cdsLength := by
  simp [cdsWords, length_ofNat, cdsLength]

theorem natAt_cdsWords (days millis micros nanos : Nat) :
    natAt (cdsWords days millis micros nanos) 0 2 = days % 65536 ∧
      natAt (cdsWords days millis micros nanos) 2 4 = millis % 4294967296 ∧
      natAt (cdsWords days millis micros nanos) 6 2 = micros % 65536 ∧
      natAt (cdsWords days millis micros nanos) 8 2 = nanos % 65536 := by
  have hlast : natAt (ofNat 2 nanos) 0 2 = nanos % 65536 := by
    simpa [pow_two_bytes] using natAt_ofNat_append [] 2 nanos
  simp (disch := simp [length_ofNat]) only [cdsWords, List.append_assoc, natAt_append_of_le,
    length_ofNat, natAt_ofNat_append, Nat.reduceSub, pow_two_bytes, pow_four_bytes, hlast, and_self]

/-- 長さ 10 の列は、その四つの欄の値を書き直したものに等しい。 -/
theorem cdsWords_natAt {bs : List UInt8} (h : bs.length = cdsLength) :
    cdsWords (natAt bs 0 2) (natAt bs 2 4) (natAt bs 6 2) (natAt bs 8 2) = bs := by
  have h' : bs.length = 10 := h
  rw [cdsWords, ofNat_natAt (by omega), ofNat_natAt (by omega), ofNat_natAt (by omega),
    ofNat_natAt (by omega), window_append_window, window_append_window, window_append_window]
  simp [window, List.take_of_length_le (le_of_eq h')]

/-! ## 書き込み -/

theorem cdsEncode_exists_iff (t : Instant) :
    (∃ bs, cdsEncode t = .ok bs) ↔
      -(nanosPerDay : Int) < t.diff cdsEpoch ∧ t.diff cdsEpoch < 65536 * nanosPerDay := by
  have hd : (cdsFields t).1 = (t.diff cdsEpoch).tdiv nanosPerDay := rfl
  rw [cdsEncode_eq, hd, ← tdiv_nanosPerDay_mem]
  split_ifs with h
  · exact ⟨fun _ => h, fun _ => ⟨_, rfl⟩⟩
  · simp [h]

theorem cdsEncode_failsWith (t : Instant) : Outcome.FailsWith .invalidFormat (cdsEncode t) := by
  rw [cdsEncode_eq]
  split <;> simp [Fault.kind]

theorem cdsEncode_of_inCdsRange {t : Instant} (h : t.InCdsRange) :
    cdsEncode t = .ok (cdsWords (t.diff cdsEpoch / nanosPerDay).toNat
      (t.diff cdsEpoch % nanosPerDay / 1000000).toNat (t.diff cdsEpoch % 1000000 / 1000).toNat
      (t.diff cdsEpoch % 1000).toNat) := by
  obtain ⟨h0, h1⟩ := h
  rw [cdsEncode_eq, cdsFields_of_nonneg h0]
  dsimp only
  rw [nanosPerDay_int_eq] at h1 ⊢
  rw [if_pos (by omega), ofInt_of_nonneg (by omega) (by rw [pow_two_bytes]; omega),
    ofInt_of_nonneg (by omega) (by rw [pow_four_bytes]; omega),
    ofInt_of_nonneg (by omega) (by rw [pow_two_bytes]; omega),
    ofInt_of_nonneg (by omega) (by rw [pow_two_bytes]; omega)]
  rfl

/-- 範囲の中の閏秒でない時刻は、名目の範囲の欄で書かれ、読むともとの時刻に戻る。 -/
theorem cdsEncode_canonical {t : Instant} (hl : t.isLeap = false) (h : t.InCdsRange) :
    ∃ bs, cdsEncode t = .ok bs ∧ CdsCanonical bs ∧ cdsDecode bs = t := by
  obtain ⟨bs, henc, -, hdec⟩ := cdsDecode_cdsEncode h
  refine ⟨bs, henc, ?_, by simpa [Instant.normalize_of_not_isLeap hl] using hdec []⟩
  rw [cdsEncode_of_inCdsRange h] at henc
  obtain rfl := Except.ok.inj henc
  obtain ⟨h0, h1⟩ := h
  rw [nanosPerDay_int_eq] at h1 ⊢
  generalize t.diff cdsEpoch = d at h0 h1 ⊢
  obtain ⟨ha, hb, hc, he⟩ := natAt_cdsWords (d / 86400000000000).toNat
    (d % 86400000000000 / 1000000).toNat (d % 1000000 / 1000).toNat (d % 1000).toNat
  exact ⟨length_cdsWords _ _ _ _, by omega, by omega, by omega, by omega⟩

theorem cdsDecode_ne_of_diff_neg {t : Instant} (h : t.diff cdsEpoch < 0) (bs : List UInt8) :
    cdsDecode bs ≠ t := by
  intro heq
  have hle := cdsEpoch_le_cdsDecode bs
  rw [heq] at hle
  rw [diff_cdsEpoch] at h
  omega

/-- 欄が名目の範囲にある 10 バイトは、読んで書き直すともとのバイトに戻る。 -/
theorem cdsEncode_cdsDecode {bs : List UInt8} (h : CdsCanonical bs) : cdsEncode (cdsDecode bs) = .ok bs := by
  have hdiff : (cdsDecode bs).diff cdsEpoch =
      natAt bs 0 2 * 86400000000000 + natAt bs 2 4 * 1000000 + natAt bs 6 2 * 1000 + natAt bs 8 2 := by
    rw [diff_cdsEpoch, cdsDecode, Instant.sinceUnixEpoch_addNanos, nanosPerDay_int_eq]
    ring
  have hd := h.days
  have hm := h.millis
  have hu := h.micros
  have hns := h.nanos
  have hrange : (cdsDecode bs).InCdsRange := by
    rw [Instant.InCdsRange, hdiff, nanosPerDay_int_eq]
    omega
  rw [cdsEncode_of_inCdsRange hrange, hdiff, nanosPerDay_int_eq]
  -- 欄が名目の範囲にあるので、経過を日、ミリ秒、マイクロ秒で割り直すともとの欄に戻る
  conv_rhs => rw [← cdsWords_natAt h.length]
  congr 2 <;> omega

theorem cdsRead_of_length {bs : List UInt8} (h : bs.length = cdsLength) : cdsRead bs = .ok (cdsDecode bs) := by
  simp [cdsRead, h]

/-- CDS の時刻を書けるのは、紀元の 1 日前より後から紀元の 65536 日後より前までの時刻で、それ以外は
形式の誤りで何も書かない。紀元以後の閏秒でない時刻は名目の範囲の欄で書かれ、読むともとの時刻に戻る。
紀元前 1 日未満の時刻を書いた欄は、読んでももとの時刻にならない。逆に、欄が名目の範囲にある
10 バイトは、読んで書き直すともとのバイトに戻る。 -/
theorem cdsEncode_domain_inverse (t : Instant) (bs : List UInt8) :
    ((∃ w, cdsEncode t = .ok w) ↔
      -(nanosPerDay : Int) < t.diff cdsEpoch ∧ t.diff cdsEpoch < 65536 * nanosPerDay) ∧
    (t.isLeap = false → t.InCdsRange → ∃ w, cdsEncode t = .ok w ∧ CdsCanonical w ∧ cdsRead w = .ok t) ∧
    (t.diff cdsEpoch < 0 → cdsEncode t = .ok bs → cdsRead bs ≠ .ok t) ∧
    Outcome.FailsWith .invalidFormat (cdsEncode t) ∧
    (CdsCanonical bs → ∃ t', cdsRead bs = .ok t' ∧ cdsEncode t' = .ok bs) := by
  refine ⟨cdsEncode_exists_iff t, fun hl h => ?_, fun h hbs => ?_, cdsEncode_failsWith t,
    fun h => ⟨_, cdsRead_of_length h.length, cdsEncode_cdsDecode h⟩⟩
  · obtain ⟨w, henc, hc, hdec⟩ := cdsEncode_canonical hl h
    exact ⟨w, henc, hc, by rw [cdsRead_of_length hc.length, hdec]⟩
  · -- 書けた 10 バイトを読んだ時刻は紀元以後で、紀元前の `t` ではない
    rw [cdsRead_of_length (length_of_cdsEncode_eq_ok hbs)]
    intro heq
    exact cdsDecode_ne_of_diff_neg h bs (Except.ok.inj heq)

/-- 紀元の 1 秒前は日数 0 として書け、-1000 ミリ秒が 2 の補数で書かれる。その 10 バイトを読むと
1958 年 2 月 19 日 17:02:46.296 になる。 -/
theorem cdsEncode_secondBeforeEpoch :
    cdsEncode ⟨-378691201, 0⟩ = .ok [0, 0, 255, 255, 252, 24, 0, 0, 0, 0] ∧
      cdsRead [0, 0, 255, 255, 252, 24, 0, 0, 0, 0] = .ok ⟨-374396234, 296000000⟩ :=
  ⟨rfl, rfl⟩

end Time

end SeviriScene

import SeviriScene.Time.Cds
import SeviriScene.Proofs.ByteFields

/-!
# CDS の時刻の読み書き

CDS の時刻は紀元 1958-01-01T00:00:00Z からの経過を日、ミリ秒、マイクロ秒、ナノ秒の欄に分けて書く。
経過が 0 以上 65536 日未満の時刻（`Instant.InCdsRange`）は書くことができ、書いた 10 バイトを
読むと同じ時間軸の位置の時刻に戻る（`cdsDecode_cdsEncode`）。

読み戻した時刻は閏秒の表し方をしない。閏秒の中の時刻は、時間軸の上で同じ位置にある次の分の
始まりの時刻として読まれる（`Instant.normalize`）。閏秒でない時刻はそのまま戻る
（`Instant.normalize_of_not_isLeap`）。
-/

namespace SeviriScene.Time

open Bytes

namespace Instant

/-- 時間軸の上で同じ位置にある、閏秒でない時刻。 -/
def normalize (t : Instant) : Instant :=
  ofNanos t.sinceUnixEpoch

theorem normalize_of_not_isLeap {t : Instant} (h : t.isLeap = false) : t.normalize = t := by
  simp only [isLeap, decide_eq_false_iff_not, Nat.not_le] at h
  simp only [normalize, ofNanos, sinceUnixEpoch, nanosPerSecond] at *
  congr 1
  · omega
  · omega

/-- CDS で表せる時刻：紀元からの経過が 0 以上 65536 日未満。 -/
def InCdsRange (t : Instant) : Prop :=
  0 ≤ t.diff cdsEpoch ∧ t.diff cdsEpoch < 65536 * (nanosPerDay : Int)

end Instant

/-- 紀元は閏秒でも日の途中でもないので、紀元からの経過は時間軸の上の位置の差に等しい。 -/
theorem diff_cdsEpoch (t : Instant) :
    t.diff cdsEpoch = t.sinceUnixEpoch - cdsEpoch.sinceUnixEpoch := by
  have he : cdsEpoch = ⟨-378691200, 0⟩ := by decide
  simp only [Instant.diff, he, Instant.secondOfDay, Instant.days, Instant.isLeap,
    Instant.sinceUnixEpoch, nanosPerDay, secondsPerDay, nanosPerSecond]
  simp
  omega

theorem cdsEpoch_inCdsRange : cdsEpoch.InCdsRange := by
  rw [Instant.InCdsRange, diff_cdsEpoch]
  decide

/-- 経過が 0 以上なら、欄は経過を 1 日、1 ミリ秒、1 マイクロ秒で割った商と余りである。 -/
theorem cdsFields_of_nonneg {t : Instant} (h : 0 ≤ t.diff cdsEpoch) :
    cdsFields t = (t.diff cdsEpoch / nanosPerDay, t.diff cdsEpoch % nanosPerDay / 1000000,
      t.diff cdsEpoch % 1000000 / 1000, t.diff cdsEpoch % 1000) := by
  simp only [cdsFields]
  generalize t.diff cdsEpoch = d at h ⊢
  have hn : (nanosPerDay : Int) = 86400000000000 := rfl
  -- 1 日はミリ秒で割り切れるので、日の余りのミリ秒の余りは経過そのものの余りに等しい
  have hr : d - d / 86400000000000 * 86400000000000 = d % 86400000000000 := by omega
  have hm : d % 86400000000000 % 1000000 = d % 1000000 := Int.emod_emod_of_dvd d (by decide)
  have hr0 : 0 ≤ d % 86400000000000 := Int.emod_nonneg d (by decide)
  rw [hn, Int.tdiv_eq_ediv_of_nonneg h, hr, Int.tdiv_eq_ediv_of_nonneg hr0]
  generalize d % 86400000000000 = r at hm hr0 ⊢
  have hq : 0 ≤ r - r / 1000000 * 1000000 := by omega
  rw [Int.tdiv_eq_ediv_of_nonneg hq, Prod.mk.injEq, Prod.mk.injEq, Prod.mk.injEq]
  omega

/-- 四つの欄を読むと、紀元にその和のナノ秒を足した時刻になる。 -/
theorem cdsDecode_ofNat (days ms us ns : Nat) (rest : List UInt8) :
    cdsDecode (ofNat 2 days ++ ofNat 4 ms ++ ofNat 2 us ++ ofNat 2 ns ++ rest) =
      cdsEpoch.addNanos (↑(days % 65536) * ↑nanosPerDay + ↑(ms % 4294967296) * 1000000 +
        ↑(us % 65536) * 1000 + ↑(ns % 65536)) := by
  have p2 : Nat.pow 256 2 = 65536 := rfl
  have p4 : Nat.pow 256 4 = 4294967296 := rfl
  simp (disch := simp [length_ofNat]) only [cdsDecode, List.append_assoc, natAt_append_of_le,
    length_ofNat, natAt_ofNat_append, Nat.reduceSub, p2, p4]

/-- 範囲の中の時刻は CDS で書け、書いた 10 バイトを読むと同じ時間軸の位置の時刻に戻る。 -/
theorem cdsDecode_cdsEncode {t : Instant} (h : t.InCdsRange) :
    ∃ bs, cdsEncode t = .ok bs ∧ bs.length = cdsLength ∧
      ∀ rest, cdsDecode (bs ++ rest) = t.normalize := by
  obtain ⟨h0, h1⟩ := h
  have hf := cdsFields_of_nonneg h0
  have hpos : t.sinceUnixEpoch = cdsEpoch.sinceUnixEpoch + t.diff cdsEpoch := by
    rw [diff_cdsEpoch]; omega
  generalize t.diff cdsEpoch = d at h0 h1 hf hpos
  have hn : (nanosPerDay : Int) = 86400000000000 := rfl
  have p2 : Nat.pow 256 2 = 65536 := rfl
  have p4 : Nat.pow 256 4 = 4294967296 := rfl
  rw [hn] at h1 hf
  refine ⟨ofInt 2 (d / 86400000000000) ++ ofInt 4 (d % 86400000000000 / 1000000) ++
    ofInt 2 (d % 1000000 / 1000) ++ ofInt 2 (d % 1000), ?_, by simp [cdsLength], ?_⟩
  · simp only [cdsEncode, hf]
    exact if_pos (by omega)
  · intro rest
    -- 欄はどれも 0 以上で幅に収まるので、符号なしの表記として読める
    rw [ofInt_of_nonneg (by omega) (by rw [p2]; omega), ofInt_of_nonneg (by omega) (by rw [p4]; omega),
      ofInt_of_nonneg (by omega) (by rw [p2]; omega), ofInt_of_nonneg (by omega) (by rw [p2]; omega),
      cdsDecode_ofNat]
    simp only [Instant.addNanos, Instant.normalize, hpos, hn]
    congr 1
    omega

/-- CDS の時刻は先頭 10 バイトだけを読む。 -/
theorem cdsDecode_take {bs : List UInt8} {n : Nat} (h : cdsLength ≤ n) : cdsDecode (bs.take n) = cdsDecode bs := by
  have h' : 10 ≤ n := h
  simp (disch := omega) only [cdsDecode, natAt_take]

/-- 書けた時刻はどれも 10 バイト。 -/
theorem length_of_cdsEncode_eq_ok {t : Instant} {bs : List UInt8} (h : cdsEncode t = .ok bs) :
    bs.length = cdsLength := by
  unfold cdsEncode at h
  split at h
  split at h
  · injection h with h
    rw [← h]
    simp [cdsLength]
  · cases h

end SeviriScene.Time

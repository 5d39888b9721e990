import SeviriScene.Fault

/-!
# 失敗しうる計算の補題

`Outcome` は `Except Fault` である。ここでは、束縛の簡約と逆転、リストに沿った `mapM` の
成功と失敗、塊ごとの `mapM` を平らにしたものが全体の `mapM` に等しいことを示す。
読み取りの証明はどれも、関数を開かずにこれらの補題で計算を一段ずつ進める。
-/

namespace SeviriScene.Outcome

variable {α β γ : Type}

@[simp] theorem throw_eq (e : Fault) : (throw e : Outcome α) = .error e := rfl

@[simp] theorem pure_eq (a : α) : (pure a : Outcome α) = .ok a := rfl

@[simp] theorem ok_bind (a : α) (f : α → Outcome β) : (Except.ok a >>= f) = f a := rfl

@[simp] theorem error_bind (e : Fault) (f : α → Outcome β) : (Except.error e >>= f) = .error e := rfl

/-- 束縛が成功するのは、前の計算が成功し、その値で後の計算も成功するときに限る。 -/
theorem bind_eq_ok {x : Outcome α} {f : α → Outcome β} {b : β} :
    x >>= f = .ok b ↔ ∃ a, x = .ok a ∧ f a = .ok b := by
  cases x <;> simp

/-! ## 誤りの種類 -/

/-- 失敗するなら、その誤りはどれも種類 `k` である。 -/
def FailsWith (k : FaultKind) (x : Outcome α) : Prop :=
  ∀ e, x = .error e → e.kind = k

@[simp] theorem failsWith_ok (k : FaultKind) (a : α) : FailsWith k (.ok a : Outcome α) := by
  intro e h
  cases h

@[simp] theorem failsWith_error {k : FaultKind} {e : Fault} :
    FailsWith k (.error e : Outcome α) ↔ e.kind = k := by
  constructor
  · intro h
    exact h e rfl
  · rintro h e' he
    cases he
    exact h

/-- 束縛の誤りは、前の計算の誤りか、成功した値での後の計算の誤りである。 -/
@[simp] theorem failsWith_bind {k : FaultKind} {x : Outcome α} {f : α → Outcome β} :
    FailsWith k (x >>= f) ↔ FailsWith k x ∧ ∀ a, x = .ok a → FailsWith k (f a) := by
  cases x <;> simp

@[simp] theorem failsWith_ite {k : FaultKind} {c : Prop} [Decidable c] {x y : Outcome α} :
    FailsWith k (if c then x else y) ↔ (c → FailsWith k x) ∧ (¬c → FailsWith k y) := by
  by_cases h : c <;> simp [h]

/-! ## リストに沿った計算 -/

/-- どの要素でも成功する計算を並べると、値を並べたものが返る。 -/
theorem mapM_eq_ok_map {l : List α} {f : α → Outcome β} {g : α → β}
    (h : ∀ a ∈ l, f a = .ok (g a)) : l.mapM f = .ok (l.map g) := by
  induction l with
  | nil => rfl
  | cons a l ih =>
    rw [List.mapM_cons, h a List.mem_cons_self, ok_bind,
      ih fun b hb => h b (List.mem_cons_of_mem a hb)]
    rfl

/-- どの要素でも成功し、値が `P` を満たす計算を並べると、同じ長さの、`P` を満たす値の列が返る。 -/
theorem mapM_eq_ok_of_forall {l : List α} {f : α → Outcome β} {P : β → Prop}
    (h : ∀ a ∈ l, ∃ b, f a = .ok b ∧ P b) :
    ∃ bs, l.mapM f = .ok bs ∧ bs.length = l.length ∧ ∀ b ∈ bs, P b := by
  induction l with
  | nil => exact ⟨[], rfl, rfl, by simp⟩
  | cons a l ih =>
    obtain ⟨b, hb, hP⟩ := h a List.mem_cons_self
    obtain ⟨bs, hbs, hlen, hall⟩ := ih fun x hx => h x (List.mem_cons_of_mem a hx)
    refine ⟨b :: bs, ?_, by simp [hlen], ?_⟩
    · rw [List.mapM_cons, hb, ok_bind, hbs]
      rfl
    · simp only [List.mem_cons, forall_eq_or_imp]
      exact ⟨hP, hall⟩

/-- リストの要素の上で一致する計算は、並べても同じ結果を返す。 -/
theorem mapM_congr {l : List α} {f g : α → Outcome β} (h : ∀ a ∈ l, f a = g a) :
    l.mapM f = l.mapM g := by
  induction l with
  | nil => rfl
  | cons a l ih =>
    rw [List.mapM_cons, List.mapM_cons, h a List.mem_cons_self,
      ih fun b hb => h b (List.mem_cons_of_mem a hb)]

/-- 先頭の要素で失敗すれば、その誤りが返る。 -/
theorem mapM_cons_eq_error {a : α} {l : List α} {f : α → Outcome β} {e : Fault}
    (h : f a = .error e) : (a :: l).mapM f = .error e := by
  rw [List.mapM_cons, h, error_bind]

/-- 塊ごとに計算して平らにしたものは、塊をつないだ列の上の計算に等しい。誤りは最初のものが返る。 -/
theorem flatten_mapM_mapM (L : List γ) (g : γ → List α) (f : α → Outcome β) :
    List.flatten <$> L.mapM (fun x => (g x).mapM f) = (L.flatMap g).mapM f := by
  induction L with
  | nil => rfl
  | cons x L ih =>
    rw [List.flatMap_cons, List.mapM_append, ← ih, List.mapM_cons]
    -- 先頭の塊の結果、残りの塊の結果の順に場合を分ける
    cases (g x).mapM f with
    | error e => rfl
    | ok a =>
      cases L.mapM (fun x => (g x).mapM f) with
      | error e => rfl
      | ok as => rfl

end SeviriScene.Outcome

import Debugger.Text.Case

/-!
# Lower-casing a text

Lower-casing is done once and for all: no character that it yields is changed by it (`lower_lower`). It does not see the
case of the ASCII letters, not even where they decide the form of a sigma (`lower_map_toLower`).
-/

namespace Debugger.Text

/-! ### Characters that stay -/

/-- The last code point that a run is mapped to. -/
def CaseRun.image (r : CaseRun) : Nat := r.target + (r.last - r.first)

/-- A run is mapped to code points of which none belongs to the other run: the other one lies elsewhere, or both go in
steps of two and do not meet. -/
def CaseRun.avoids (r r' : CaseRun) : Bool :=
  Nat.blt r.image r'.first || Nat.blt r'.last r.target ||
    r'.stride == 2 && (r.target + r'.first) % 2 == 1 && (r.stride == 2 || r.first == r.last)

private theorem CaseRun.not_has_of_avoids {r r' : CaseRun} (h : r.avoids r' = true) {n : Nat} (hn : r.has n = true) :
    r'.has (r.target + (n - r.first)) = false := by
  simp only [has, Bool.and_eq_true, decide_eq_true_eq] at hn
  simp only [avoids, image, Bool.or_eq_true, Bool.and_eq_true, Nat.blt_eq, beq_iff_eq] at h
  rw [Bool.eq_false_iff]
  intro hhas
  simp only [has, Bool.and_eq_true, decide_eq_true_eq] at hhas
  rcases h with (h | h) | ⟨⟨htwo, hodd⟩, hstep⟩
  · omega
  · omega
  · rw [htwo] at hhas
    rcases hstep with hstep | hstep
    · rw [hstep] at hn
      omega
    · omega

/-- A run is mapped to characters: to letters, not to `İ`, and not across the code points that are no characters. -/
def CaseRun.lands (r : CaseRun) : Bool :=
  0x61 ≤ r.target && (r.image < 0x130 || 0x130 < r.target) &&
    (r.image < 0xD800 || 0xE000 ≤ r.target && r.image < 0x110000)

private theorem all_avoid : (lowerRuns.all fun r => lowerRuns.all r.avoids) = true := by
  decide +kernel

private theorem lowerRuns_land : ∀ r ∈ lowerRuns, r.lands = true := by
  decide +kernel

private theorem toNat_ofNat_image {r : CaseRun} (h : r.lands = true) {n : Nat} (hn : r.has n = true) :
    (Char.ofNat (r.target + (n - r.first))).toNat = r.target + (n - r.first) := by
  simp only [CaseRun.has, Bool.and_eq_true, decide_eq_true_eq] at hn
  simp only [CaseRun.lands, Bool.and_eq_true, Bool.or_eq_true, decide_eq_true_eq] at h
  unfold CaseRun.image at h
  have hvalid : (r.target + (n - r.first)).isValidChar := by
    unfold Nat.isValidChar
    omega
  rw [Char.ofNat, dif_pos hvalid]
  rfl

/-- A character that belongs to no run stays as it is. -/
private theorem lowerChar_of_not_has {c : Char} (h : c ≠ 'İ') (hruns : ∀ r ∈ lowerRuns, r.has c.toNat = false) :
    lowerChar c = [c] := by
  have hnone : lowerRuns.find? (fun r => r.has c.toNat) = none := by
    rw [List.find?_eq_none]
    intro r hr
    rw [hruns r hr]
    exact Bool.false_ne_true
  rw [lowerChar, if_neg h, hnone]

/-- What a character is mapped to on its own: itself, the two characters of `İ`, or one that is shifted by a run. -/
private theorem lowerChar_cases (c : Char) :
    lowerChar c = [c] ∨ lowerChar c = ['i', '\u0307'] ∨
      ∃ r ∈ lowerRuns, r.has c.toNat = true ∧ lowerChar c = [Char.ofNat (r.target + (c.toNat - r.first))] := by
  by_cases h : c = 'İ'
  · exact .inr (.inl (by rw [lowerChar, if_pos h]))
  · cases hfind : lowerRuns.find? fun r => r.has c.toNat with
    | none => exact .inl (by rw [lowerChar, if_neg h, hfind])
    | some r =>
      have hhas : r.has c.toNat = true := by simpa using List.find?_some hfind
      exact .inr (.inr ⟨r, List.mem_of_find?_eq_some hfind, hhas, by rw [lowerChar, if_neg h, hfind]⟩)

private theorem lowerChar_ne_nil (c : Char) : lowerChar c ≠ [] := by
  rcases lowerChar_cases c with hc | hc | ⟨r, -, -, hc⟩
  · simp [hc]
  · simp [hc]
  · simp [hc]

/-- A character that another one is mapped to stays as it is. -/
private theorem lowerChar_of_mem_lowerChar {c d : Char} (h : d ∈ lowerChar c) : lowerChar d = [d] := by
  rcases lowerChar_cases c with hc | hc | ⟨r, hr, hhas, hc⟩
  · rw [hc, List.mem_singleton] at h
    rw [h, hc]
  · rw [hc] at h
    rcases (by simpa using h : d = _ ∨ d = _) with rfl | rfl
    · decide
    · decide
  · rw [hc, List.mem_singleton] at h
    have hlands := lowerRuns_land r hr
    have hd : d.toNat = r.target + (c.toNat - r.first) := by rw [h, toNat_ofNat_image hlands hhas]
    refine lowerChar_of_not_has ?_ fun r' hr' => ?_
    · rintro rfl
      have hdot : 'İ'.toNat = 0x130 := rfl
      rw [hdot] at hd
      simp only [CaseRun.lands, Bool.and_eq_true, Bool.or_eq_true, decide_eq_true_eq] at hlands
      unfold CaseRun.image at hlands
      simp only [CaseRun.has, Bool.and_eq_true, decide_eq_true_eq] at hhas
      omega
    · rw [hd]
      have havoid := all_avoid
      simp only [List.all_eq_true] at havoid
      exact CaseRun.not_has_of_avoids (havoid r hr r' hr') hhas

/-! ### Texts that stay -/

private theorem lowerChar_of_mem_lowerAfter {before s : List Char} {d : Char} (h : d ∈ lowerAfter before s) :
    lowerChar d = [d] := by
  induction s generalizing before with
  | nil => cases h
  | cons c s ih =>
    rw [lowerAfter, List.mem_append] at h
    rcases h with h | h
    · split at h
      · rw [List.mem_singleton] at h
        split at h
        · rw [h]
          decide
        · rw [h]
          decide
      · exact lowerChar_of_mem_lowerChar h
    · exact ih h

private theorem lowerAfter_eq_self {s : List Char} (h : ∀ c ∈ s, lowerChar c = [c]) (before : List Char) :
    lowerAfter before s = s := by
  induction s generalizing before with
  | nil => rfl
  | cons c s ih =>
    rw [List.forall_mem_cons] at h
    have hsigma : c ≠ 'Σ' := by
      rintro rfl
      exact absurd h.1 (by decide)
    rw [lowerAfter, if_neg hsigma, h.1, ih h.2, List.singleton_append]

/-- Lower-casing a text again changes nothing. -/
theorem lower_lower (s : List Char) : lower (lower s) = lower s :=
  lowerAfter_eq_self (fun _ h => lowerChar_of_mem_lowerAfter h) []

/-! ### The case of ASCII letters -/

/-- Two characters that lower-casing does not tell apart, neither by themselves nor next to a sigma. -/
structure Alike (c d : Char) : Prop where
  sigma : c = 'Σ' ↔ d = 'Σ'
  lower : lowerChar c = lowerChar d
  cased : isCased c = isCased d
  ignorable : isCaseIgnorable c = isCaseIgnorable d

/-- Only the letters from `A` to `Z` have another ASCII case. -/
private theorem toLower_cases (c : Char) : c.toLower = c ∨ ∃ n ∈ List.range' 65 26, c = Char.ofNat n := by
  unfold Char.toLower
  split
  · rename_i h
    refine .inr ⟨c.toNat, ?_, (Char.ofNat_toNat c).symm⟩
    have hge : 65 ≤ c.toNat := h.1
    have hle : c.toNat ≤ 90 := h.2
    rw [List.mem_range'_1]
    omega
  · exact .inl rfl

private theorem alike_ascii : ∀ n ∈ List.range' 65 26, (Char.ofNat n).toLower ≠ 'Σ' ∧ Char.ofNat n ≠ 'Σ' ∧
    lowerChar (Char.ofNat n).toLower = lowerChar (Char.ofNat n) ∧
    isCased (Char.ofNat n).toLower = isCased (Char.ofNat n) ∧
    isCaseIgnorable (Char.ofNat n).toLower = isCaseIgnorable (Char.ofNat n) := by
  decide +kernel

private theorem alike_toLower (c : Char) : Alike c.toLower c := by
  rcases toLower_cases c with h | ⟨n, hn, rfl⟩
  · rw [h]
    exact ⟨Iff.rfl, rfl, rfl, rfl⟩
  · obtain ⟨hsigma, hsigma', hlower, hcased, hignorable⟩ := alike_ascii n hn
    exact ⟨iff_of_false hsigma hsigma', hlower, hcased, hignorable⟩

private theorem meetsCased_map_toLower (s : List Char) : meetsCased (s.map Char.toLower) = meetsCased s := by
  induction s with
  | nil => rfl
  | cons c s ih =>
    unfold meetsCased at ih ⊢
    rw [List.map_cons]
    cases h : isCaseIgnorable c with
    | true =>
      have h' : isCaseIgnorable c.toLower = true := (alike_toLower c).ignorable.trans h
      rw [List.dropWhile_cons_of_pos h, List.dropWhile_cons_of_pos h']
      exact ih
    | false =>
      have h' : isCaseIgnorable c.toLower = false := (alike_toLower c).ignorable.trans h
      rw [List.dropWhile_cons_of_neg (by rw [h']; exact Bool.false_ne_true),
        List.dropWhile_cons_of_neg (by rw [h]; exact Bool.false_ne_true)]
      exact (alike_toLower c).cased

/-- The case of ASCII letters makes no difference, before the text either. -/
private theorem lowerAfter_map_toLower (before s : List Char) :
    lowerAfter (before.map Char.toLower) (s.map Char.toLower) = lowerAfter before s := by
  induction s generalizing before with
  | nil => rfl
  | cons c s ih =>
    have hlater := ih (c :: before)
    rw [List.map_cons] at hlater
    rw [List.map_cons, lowerAfter, lowerAfter, hlater, meetsCased_map_toLower, meetsCased_map_toLower,
      (alike_toLower c).lower]
    by_cases h : c = 'Σ'
    · rw [if_pos h, if_pos ((alike_toLower c).sigma.2 h)]
    · rw [if_neg h, if_neg (mt (alike_toLower c).sigma.1 h)]

theorem lower_map_toLower (s : List Char) : lower (s.map Char.toLower) = lower s :=
  lowerAfter_map_toLower [] s

/-! ### Marks -/

/-- A character that is no letter: it stays, and it stands before the letters. -/
structure IsMark (m : Char) : Prop where
  self : lowerChar m = [m]
  low : m.toNat < 0x61

theorem isMark_dot : IsMark '.' := by
  constructor <;> decide +kernel

section Marks

variable {m : Char} (hm : IsMark m)
include hm

/-- A mark comes only from itself. -/
private theorem IsMark.mem_lowerChar_iff {c : Char} : m ∈ lowerChar c ↔ c = m := by
  constructor
  · intro h
    rcases lowerChar_cases c with hc | hc | ⟨r, hr, hhas, hc⟩
    · rw [hc, List.mem_singleton] at h
      exact h.symm
    · rw [hc] at h
      rcases (by simpa using h : m = _ ∨ m = _) with rfl | rfl
      · exact absurd hm.low (by decide)
      · exact absurd hm.low (by decide)
    · rw [hc, List.mem_singleton] at h
      have hlands := lowerRuns_land r hr
      have hlow := hm.low
      rw [h, toNat_ofNat_image hlands hhas] at hlow
      simp only [CaseRun.lands, Bool.and_eq_true, decide_eq_true_eq] at hlands
      omega
  · rintro rfl
    rw [hm.self]
    exact List.mem_singleton_self c

theorem IsMark.toLower_eq_iff {c : Char} : c.toLower = m ↔ c = m :=
  calc c.toLower = m
    _ ↔ m ∈ lowerChar c.toLower := hm.mem_lowerChar_iff.symm
    _ ↔ m ∈ lowerChar c := by rw [(alike_toLower c).lower]
    _ ↔ c = m := hm.mem_lowerChar_iff

/-- A mark in the lower-case form of a text stands in the text. -/
theorem IsMark.mem_of_mem_lowerAfter {before s : List Char} (h : m ∈ lowerAfter before s) : m ∈ s := by
  induction s generalizing before with
  | nil => cases h
  | cons c s ih =>
    rw [lowerAfter, List.mem_append] at h
    rcases h with h | h
    · have hlow := hm.low
      split at h
      · rw [List.mem_singleton] at h
        split at h
        · exact absurd hlow (by rw [h]; decide)
        · exact absurd hlow (by rw [h]; decide)
      · rw [hm.mem_lowerChar_iff.1 h]
        exact List.mem_cons_self
    · exact List.mem_cons_of_mem c (ih h)

/-- A text whose lower-case form repeats one mark repeats the mark itself. -/
private theorem IsMark.eq_of_forall_mem_lowerAfter {before s : List Char} (h : ∀ d ∈ lowerAfter before s, d = m) :
    ∀ c ∈ s, c = m := by
  induction s generalizing before with
  | nil => exact fun c hc => absurd hc List.not_mem_nil
  | cons c s ih =>
    rw [lowerAfter] at h
    simp only [List.mem_append] at h
    have hfirst : c = m := by
      by_cases hsigma : c = 'Σ'
      · have hform := h _ (.inl (by rw [if_pos hsigma]; exact List.mem_singleton_self _))
        have hlow := hm.low
        rw [← hform] at hlow
        split at hlow
        · exact absurd hlow (by decide)
        · exact absurd hlow (by decide)
      · obtain ⟨d, ds, hd⟩ := List.exists_cons_of_ne_nil (lowerChar_ne_nil c)
        have hmem : d ∈ lowerChar c := by rw [hd]; exact List.mem_cons_self
        have hform : d = m := h d (.inl (by rw [if_neg hsigma]; exact hmem))
        rw [hform] at hmem
        exact hm.mem_lowerChar_iff.1 hmem
    intro c' hc'
    rcases List.mem_cons.1 hc' with rfl | hc'
    · exact hfirst
    · exact ih (fun d hd => h d (.inr hd)) c' hc'

theorem IsMark.lower_eq_self {s : List Char} (h : ∀ d ∈ lower s, d = m) : lower s = s := by
  refine lowerAfter_eq_self (fun c hc => ?_) []
  rw [hm.eq_of_forall_mem_lowerAfter h c hc, hm.self]

/-- A text that repeats one mark is no text in another case. -/
theorem IsMark.map_toLower_eq_iff {s t : List Char} (ht : ∀ c ∈ t, c = m) : s.map Char.toLower = t ↔ s = t := by
  induction t generalizing s with
  | nil => exact List.map_eq_nil_iff
  | cons d t ih =>
    rw [List.forall_mem_cons] at ht
    cases s with
    | nil => exact iff_of_false (List.cons_ne_nil d t).symm (List.cons_ne_nil d t).symm
    | cons c s => rw [List.map_cons, List.cons.injEq, List.cons.injEq, ht.1, hm.toLower_eq_iff, ih ht.2]

end Marks

/-! ### Texts in parts -/

/-- A character that keeps the texts on its two sides apart: it is a mark, and no sigma sees beyond it. -/
structure Parts (m : Char) : Prop extends IsMark m where
  cased : isCased m = false
  ignorable : isCaseIgnorable m = false

theorem isMark_slash : IsMark '/' := by
  constructor <;> decide +kernel

theorem parts_slash : Parts '/' := ⟨isMark_slash, by decide +kernel, by decide +kernel⟩

section Parts

variable {m : Char} (hm : Parts m)
include hm

private theorem Parts.ne_sigma : m ≠ 'Σ' := by
  rintro rfl
  exact absurd hm.low (by decide)

private theorem Parts.meetsCased_append (s t : List Char) : meetsCased (s ++ m :: t) = meetsCased s := by
  induction s with
  | nil =>
    unfold meetsCased
    rw [List.nil_append, List.dropWhile_cons_of_neg (by rw [hm.ignorable]; exact Bool.false_ne_true)]
    exact hm.cased
  | cons c s ih =>
    unfold meetsCased at ih ⊢
    rw [List.cons_append]
    cases h : isCaseIgnorable c with
    | true =>
      rw [List.dropWhile_cons_of_pos h, List.dropWhile_cons_of_pos h]
      exact ih
    | false =>
      rw [List.dropWhile_cons_of_neg (by rw [h]; exact Bool.false_ne_true),
        List.dropWhile_cons_of_neg (by rw [h]; exact Bool.false_ne_true)]

/-- What stands before such a character does not matter after it. -/
private theorem Parts.lowerAfter_append (before earlier s : List Char) :
    lowerAfter (before ++ m :: earlier) s = lowerAfter before s := by
  induction s generalizing before with
  | nil => rfl
  | cons c s ih =>
    have hlater := ih (c :: before)
    rw [List.cons_append] at hlater
    rw [lowerAfter, lowerAfter, hlater, hm.meetsCased_append]

private theorem Parts.lowerAfter_append_cons (before s t : List Char) :
    lowerAfter before (s ++ m :: t) = lowerAfter before s ++ m :: lower t := by
  induction s generalizing before with
  | nil =>
    have hlater : lowerAfter (m :: before) t = lower t := hm.lowerAfter_append [] before t
    rw [List.nil_append, lowerAfter, lowerAfter, if_neg hm.ne_sigma, hm.self, hlater]
    rfl
  | cons c s ih =>
    rw [List.cons_append, lowerAfter, lowerAfter, ih, hm.meetsCased_append, List.append_assoc]

theorem Parts.lower_append_cons (s t : List Char) : lower (s ++ m :: t) = lower s ++ m :: lower t :=
  hm.lowerAfter_append_cons [] s t

/-- A text is lower-cased part by part. -/
theorem Parts.lower_intercalate (ps : List (List Char)) :
    lower ([m].intercalate ps) = [m].intercalate (ps.map lower) := by
  induction ps with
  | nil => rfl
  | cons p ps ih =>
    cases ps with
    | nil => simp
    | cons q ps =>
      rw [List.map_cons] at ih
      rw [List.map_cons, List.map_cons, List.intercalate_cons_cons, List.intercalate_cons_cons, ← ih,
        List.append_assoc, List.append_assoc]
      exact hm.lower_append_cons p _

end Parts

end Debugger.Text

import Debugger.Value
import Mathlib.Data.List.Induction

/-!
# Texts of values

If there is no float in a value, its text tells which value it is (`Value.render_inj`). The text cannot be read from the
left, for backslashes are not escaped: `'\', '` may be one string, or a string that ends with a backslash and the first
quote of the next one. It can be read from the right. A quote that begins a string stands at the beginning of a text or
after a bracket or a space, and a quote inside a string stands after a backslash. So the text of a value splits off from
the end of a longer text in just one way (`Value.splitsOff_renderChars`).
-/

namespace Debugger

namespace Value

/-- No float is in a value, at any depth. -/
inductive FloatFree : Value → Prop where
  | undef : FloatFree undef
  | boolean (b : Bool) : FloatFree (boolean b)
  | integer (n : Int) : FloatFree (integer n)
  | string (s : String) : FloatFree (string s)
  | array {items : List Value} (h : ∀ v ∈ items, FloatFree v) : FloatFree (array items)
  | hash {entries : List (String × Value)} (h : ∀ e ∈ entries, FloatFree e.2) : FloatFree (hash entries)

/-! ### Reading from the right -/

/-- The characters after which the text of a value begins, inside that of another. -/
def openers : List Char := ['[', '\x7b', ' ']

/-- A value can begin after a text: nothing is written yet, or an opener comes last. -/
def Opens (p : List Char) : Prop := ∀ c ∈ p.getLast?, c ∈ openers

/-- There is something in a text, and no opener comes last. -/
def Closed (s : List Char) : Prop := ∃ t c, s = t ++ [c] ∧ c ∉ openers

/-- A text that ends with that of `x` ends with that of `y` only if `x` is `y`, and then the same comes before. -/
def SplitsOff {α : Type} (f : α → List Char) (x y : α) : Prop :=
  ∀ ⦃p q : List Char⦄, Opens p → Opens q → p ++ f x = q ++ f y → p = q ∧ x = y

private theorem opens_nil : Opens [] := by
  intro c h
  contradiction

private theorem opens_concat {p : List Char} {c : Char} : Opens (p ++ [c]) ↔ c ∈ openers := by
  simp [Opens]

private theorem Closed.append {s : List Char} (h : Closed s) (p : List Char) : Closed (p ++ s) := by
  obtain ⟨t, c, rfl, hc⟩ := h
  exact ⟨p ++ t, c, (List.append_assoc p t [c]).symm, hc⟩

private theorem not_closed_of_opener {p : List Char} {c : Char} (h : c ∈ openers) : ¬ Closed (p ++ [c]) := by
  rintro ⟨t, d, heq, hd⟩
  obtain ⟨-, rfl⟩ := List.append_singleton_inj.1 heq
  exact hd h

/-- Texts without openers split off. -/
private theorem splitsOff_of_notMem {α : Type} {f : α → List Char} {x y : α} (hx : ∀ c ∈ f x, c ∉ openers)
    (hy : ∀ c ∈ f y, c ∉ openers) (hinj : f x = f y → x = y) : SplitsOff f x y := by
  intro p q hp hq h
  -- what one of the two texts before has more than the other is nothing, for it would end with an opener
  have hnothing : ∀ {p more t : List Char}, Opens (p ++ more) → (∀ c ∈ more ++ t, c ∉ openers) → more = [] := by
    intro p more t hopens hnot
    rcases more.eq_nil_or_concat with rfl | ⟨more, c, rfl⟩
    · rfl
    · rw [List.concat_eq_append] at hopens hnot
      rw [← List.append_assoc, opens_concat] at hopens
      exact absurd hopens (hnot c (by simp))
  rcases List.append_eq_append_iff.1 h with ⟨more, rfl, hfx⟩ | ⟨more, rfl, hfy⟩
  · rw [hfx] at hx
    obtain rfl := hnothing hq hx
    exact ⟨(List.append_nil p).symm, hinj hfx⟩
  · rw [hfy] at hy
    obtain rfl := hnothing hp hy
    exact ⟨List.append_nil q, hinj hfy.symm⟩

/-- Two lists are taken apart from the right, until one of them is empty. -/
@[elab_as_elim]
private theorem concat_induction {α : Type} {motive : List α → List α → Prop} (nil : motive [] [])
    (left : ∀ xs x, motive (xs ++ [x]) []) (right : ∀ ys y, motive [] (ys ++ [y]))
    (both : ∀ xs x ys y, motive xs ys → motive (xs ++ [x]) (ys ++ [y])) (xs ys : List α) : motive xs ys := by
  induction xs using List.reverseRecOn generalizing ys with
  | nil =>
    cases ys using List.reverseRecOn with
    | nil => exact nil
    | append_singleton ys y => exact right ys y
  | append_singleton xs x ih =>
    cases ys using List.reverseRecOn with
    | nil => exact left xs x
    | append_singleton ys y => exact both xs x ys y (ih ys)

/-! ### Strings -/

/-- What stands between the quotes of a string. -/
def escaped (s : List Char) : List Char := s.flatMap fun c => if c = '\'' then ['\\', '\''] else [c]

/-- A text and a string after it, without its last quote. -/
def begun (p s : List Char) : List Char := p ++ '\'' :: escaped s

private theorem append_quote (p : List Char) (s : String) : p ++ quote s = begun p s.toList ++ ['\''] := by
  simp [quote, begun, escaped]

private theorem begun_nil (p : List Char) : begun p [] = p ++ ['\''] := rfl

private theorem begun_concat_quote (p s : List Char) : begun p (s ++ ['\'']) = begun p s ++ ['\\'] ++ ['\''] := by
  simp [begun, escaped]

private theorem begun_concat (p s : List Char) {c : Char} (h : c ≠ '\'') : begun p (s ++ [c]) = begun p s ++ [c] := by
  simp [begun, escaped, h]

/-- The quote that begins a string is not one inside a string. -/
private theorem begun_nil_ne {p q s : List Char} {c : Char} (hp : Opens p) : begun p [] ≠ begun q (s ++ [c]) := by
  intro h
  rw [begun_nil] at h
  by_cases hc : c = '\''
  · rw [hc, begun_concat_quote, List.append_singleton_inj] at h
    obtain ⟨rfl, -⟩ := h
    exact absurd (opens_concat.1 hp) (by decide)
  · rw [begun_concat q s hc, List.append_singleton_inj] at h
    exact hc h.2.symm

private theorem begun_concat_inj {p q s t : List Char} {c d : Char} (h : begun p (s ++ [c]) = begun q (t ++ [d])) :
    begun p s = begun q t ∧ c = d := by
  -- only a quote that is a character of the string brings a backslash with it
  by_cases hc : c = '\'' <;> by_cases hd : d = '\''
  · rw [hc, hd, begun_concat_quote, begun_concat_quote] at h
    exact ⟨List.append_cancel_right (List.append_cancel_right h), hc.trans hd.symm⟩
  · rw [hc, begun_concat_quote, begun_concat q t hd, List.append_singleton_inj] at h
    exact absurd h.2.symm hd
  · rw [hd, begun_concat_quote, begun_concat p s hc, List.append_singleton_inj] at h
    exact absurd h.2 hc
  · rwa [begun_concat p s hc, begun_concat q t hd, List.append_singleton_inj] at h

/-- Read from the right, a string tells its characters and where it begins. -/
private theorem begun_inj {p q s t : List Char} (hp : Opens p) (hq : Opens q) (h : begun p s = begun q t) :
    p = q ∧ s = t := by
  induction s, t using concat_induction with
  | nil => exact ⟨List.append_cancel_right h, rfl⟩
  | left s c => exact absurd h.symm (begun_nil_ne hq)
  | right t d => exact absurd h (begun_nil_ne hp)
  | both s c t d ih =>
    obtain ⟨hbegun, rfl⟩ := begun_concat_inj h
    obtain ⟨hpq, rfl⟩ := ih hbegun
    exact ⟨hpq, rfl⟩

private theorem splitsOff_quote (s t : String) : SplitsOff quote s t := by
  intro p q hp hq h
  rw [append_quote, append_quote] at h
  obtain ⟨hpq, hst⟩ := begun_inj hp hq (List.append_cancel_right h)
  exact ⟨hpq, String.toList_inj.1 hst⟩

/-! ### Lists -/

section Lists

variable {α : Type} {f : α → List Char} {xs ys : List α} {x y : α} {p q : List Char} {opener closer : Char}

/-- The texts of the parts of a list, with commas between them, in brackets. -/
def bracketed (opener closer : Char) (f : α → List Char) (xs : List α) : List Char :=
  opener :: [',', ' '].intercalate (xs.map f) ++ [closer]

/-- A text and, after it, the first parts of a list, which others follow. -/
def listed (f : α → List Char) (p : List Char) (xs : List α) : List Char := p ++ xs.flatMap fun x => f x ++ [',', ' ']

private theorem listed_nil (p : List Char) : listed f p [] = p := by
  simp [listed]

private theorem listed_concat (p : List Char) (xs : List α) (x : α) :
    listed f p (xs ++ [x]) = listed f p xs ++ f x ++ [','] ++ [' '] := by
  simp [listed]

/-- Parts that are written one by one, with a comma after each but the last, are joined by commas. -/
private theorem eq_intercalate {g : List α → List Char} (hnil : g [] = []) (hone : ∀ x, g [x] = f x)
    (hmore : ∀ x y ys, g (x :: y :: ys) = f x ++ ',' :: ' ' :: g (y :: ys)) (xs : List α) :
    g xs = [',', ' '].intercalate (xs.map f) := by
  induction xs with
  | nil => exact hnil
  | cons x xs ih =>
    cases xs with
    | nil => simp [hone]
    | cons y xs =>
      have hrest : (y :: xs).map f ≠ [] := List.cons_ne_nil _ _
      rw [List.map_cons, List.intercalate_cons_of_ne_nil hrest, ← ih, hmore]
      simp

private theorem intercalate_concat (xs : List α) (x : α) :
    [',', ' '].intercalate ((xs ++ [x]).map f) = listed f [] xs ++ f x := by
  induction xs with
  | nil => simp [listed]
  | cons y xs ih =>
    rw [List.cons_append, List.map_cons, List.intercalate_cons_of_ne_nil (by simp), ih]
    simp [listed]

private theorem append_bracketed_nil (p : List Char) :
    p ++ bracketed opener closer f [] = p ++ [opener] ++ [closer] := by
  simp [bracketed]

private theorem append_bracketed_concat (p : List Char) (xs : List α) (x : α) :
    p ++ bracketed opener closer f (xs ++ [x]) = listed f (p ++ [opener]) xs ++ f x ++ [closer] := by
  rw [bracketed, intercalate_concat]
  simp [listed]

private theorem opens_listed (ho : opener ∈ openers) (p : List Char) (xs : List α) :
    Opens (listed f (p ++ [opener]) xs) := by
  cases xs using List.reverseRecOn with
  | nil => rwa [listed_nil, opens_concat]
  | append_singleton xs x =>
    rw [listed_concat, opens_concat]
    decide

/-- There is a space before a part, except for the first. -/
private theorem listed_nil_ne (hne : opener ≠ ' ') : listed f (p ++ [opener]) [] ≠ listed f q (ys ++ [y]) := by
  intro h
  rw [listed_nil, listed_concat, List.append_singleton_inj] at h
  exact hne h.2

private theorem listed_inj (hparts : ∀ x ∈ xs, ∀ y ∈ ys, SplitsOff f x y) (ho : opener ∈ openers) (hne : opener ≠ ' ')
    (h : listed f (p ++ [opener]) xs = listed f (q ++ [opener]) ys) : p = q ∧ xs = ys := by
  induction xs, ys using concat_induction with
  | nil =>
    rw [listed_nil, listed_nil] at h
    exact ⟨List.append_cancel_right h, rfl⟩
  | left xs x => exact absurd h.symm (listed_nil_ne hne)
  | right ys y => exact absurd h (listed_nil_ne hne)
  | both xs x ys y ih =>
    rw [listed_concat, listed_concat] at h
    have hpart := List.append_cancel_right (List.append_cancel_right h)
    obtain ⟨hbefore, rfl⟩ := hparts x (by simp) y (by simp) (opens_listed ho p xs) (opens_listed ho q ys) hpart
    obtain ⟨hpq, rfl⟩ := ih (fun a ha b hb => hparts a (by simp [ha]) b (by simp [hb])) hbefore
    exact ⟨hpq, rfl⟩

private theorem append_bracketed_nil_ne (ho : opener ∈ openers) (hy : Closed (f y)) :
    p ++ bracketed opener closer f [] ≠ q ++ bracketed opener closer f (ys ++ [y]) := by
  intro h
  rw [append_bracketed_nil, append_bracketed_concat] at h
  have hclosed := hy.append (listed f (q ++ [opener]) ys)
  rw [← List.append_cancel_right h] at hclosed
  exact not_closed_of_opener ho hclosed

/-- The text of a list splits off if those of its parts do. -/
private theorem splitsOff_bracketed (hparts : ∀ x ∈ xs, ∀ y ∈ ys, SplitsOff f x y) (hxs : ∀ x ∈ xs, Closed (f x))
    (hys : ∀ y ∈ ys, Closed (f y)) (ho : opener ∈ openers) (hne : opener ≠ ' ') :
    SplitsOff (bracketed opener closer f) xs ys := by
  intro p q _ _ h
  cases xs, ys using concat_induction with
  | nil => exact ⟨List.append_cancel_right h, rfl⟩
  | left xs x => exact absurd h.symm (append_bracketed_nil_ne ho (hxs x (by simp)))
  | right ys y => exact absurd h (append_bracketed_nil_ne ho (hys y (by simp)))
  | both xs x ys y =>
    rw [append_bracketed_concat, append_bracketed_concat] at h
    have hpart := List.append_cancel_right h
    obtain ⟨hbefore, rfl⟩ := hparts x (by simp) y (by simp) (opens_listed ho p xs) (opens_listed ho q ys) hpart
    obtain ⟨hpq, rfl⟩ := listed_inj (fun a ha b hb => hparts a (by simp [ha]) b (by simp [hb])) ho hne hbefore
    exact ⟨hpq, rfl⟩

end Lists

/-! ### Words -/

/-- A value is written as one word, between quotes, in brackets or in braces. -/
inductive Form where
  | word
  | quoted
  | inBrackets
  | inBraces

/-- How a value is written. -/
def form : Value → Form
  | string _ => .quoted
  | array _ => .inBrackets
  | hash _ => .inBraces
  | _ => .word

/-- How a value is written whose text ends with a character. -/
def Form.ofLast (c : Char) : Form :=
  if c = '\'' then .quoted else if c = ']' then .inBrackets else if c = '\x7d' then .inBraces else .word

/-- The characters that words do not have. -/
def marks : List Char := ['\'', ']', '\x7d'] ++ openers

private theorem notMem_openers {c : Char} (h : c ∉ marks) : c ∉ openers := fun hc => h (List.mem_append_right _ hc)

private theorem Form.ofLast_eq_word {c : Char} (h : c ∉ marks) : Form.ofLast c = .word := by
  simp only [marks, List.cons_append, List.mem_cons, not_or] at h
  unfold Form.ofLast
  rw [if_neg h.1, if_neg h.2.1, if_neg h.2.2.1]

private theorem isDigit_of_mem_repr {n : Nat} {c : Char} (h : c ∈ n.repr.toList) : c.isDigit = true := by
  rw [Nat.repr_eq_ofList_toDigits, String.toList_ofList] at h
  exact Nat.isDigit_of_mem_toDigits (by decide) (by decide) h

private theorem notMem_integer {c : Char} (hsign : c ≠ '-') (hdigit : c.isDigit = false) (n : Int) :
    c ∉ (integer n).renderChars := by
  have hrepr : ∀ {m : Nat}, c ∉ m.repr.toList := fun h => by
    rw [isDigit_of_mem_repr h] at hdigit
    contradiction
  cases n with
  | ofNat m => exact hrepr
  | negSucc m => simpa [renderChars, Int.toString_eq_repr, Int.repr, hsign] using hrepr

private theorem renderChars_integer_ne_nil (n : Int) : (integer n).renderChars ≠ [] := by
  cases n <;> simp [renderChars, Int.toString_eq_repr, Int.repr]

private theorem eq_of_renderChars_integer {n m : Int} (h : (integer n).renderChars = (integer m).renderChars) :
    n = m := by
  have hsign : ∀ k : Nat, '-' ∉ k.repr.toList := fun k hc => absurd (isDigit_of_mem_repr hc) (by decide)
  have htexts : n.repr = m.repr := String.toList_inj.1 h
  cases n with
  | ofNat k =>
    cases m with
    | ofNat l => exact congrArg Int.ofNat (eq_of_toString_eq htexts)
    | negSucc l =>
      have hk : k.repr = "-" ++ l.succ.repr := htexts
      exact absurd (by simp [hk]) (hsign k)
  | negSucc k =>
    cases m with
    | ofNat l =>
      have hl : "-" ++ k.succ.repr = l.repr := htexts
      exact absurd (by simp [← hl]) (hsign l)
    | negSucc l =>
      have hdigits : "-" ++ k.succ.repr = "-" ++ l.succ.repr := htexts
      exact congrArg Int.negSucc (Nat.succ.inj (eq_of_toString_eq ((String.append_right_inj "-").1 hdigits)))

variable {v w : Value}

private theorem renderChars_of_word (hv : v.FloatFree) (hform : v.form = .word) :
    v.renderChars ≠ [] ∧ ∀ c ∈ v.renderChars, c ∉ marks := by
  cases hv with
  | undef => simp [renderChars, marks, openers]
  | boolean b => cases b <;> simp [renderChars, marks, openers]
  | integer n =>
    have hmarks : ∀ c ∈ marks, c ≠ '-' ∧ c.isDigit = false := by simp [marks, openers]
    refine ⟨renderChars_integer_ne_nil n, fun c hc hmark => ?_⟩
    exact notMem_integer (hmarks c hmark).1 (hmarks c hmark).2 n hc
  | string | array | hash => contradiction

private theorem word_cases (hv : v.FloatFree) (hform : v.form = .word) :
    (∃ n, v = integer n) ∨ v = undef ∨ v = boolean true ∨ v = boolean false := by
  cases hv with
  | undef => exact .inr (.inl rfl)
  | boolean b => cases b <;> simp
  | integer n => exact .inl ⟨n, rfl⟩
  | string | array | hash => contradiction

private theorem eq_of_word (hv : v.FloatFree) (hw : w.FloatFree) (hfv : v.form = .word) (hfw : w.form = .word)
    (h : v.renderChars = w.renderChars) : v = w := by
  -- no integer has a letter, and all the other words have an e
  have hinteger : ∀ n : Int, 'e' ∉ (integer n).renderChars := notMem_integer (by decide) (by decide)
  have hother : ∀ {u : Value}, u = undef ∨ u = boolean true ∨ u = boolean false → 'e' ∈ u.renderChars := by
    rintro u (rfl | rfl | rfl) <;> decide
  rcases word_cases hv hfv with ⟨n, rfl⟩ | hv <;> rcases word_cases hw hfw with ⟨m, rfl⟩ | hw
  · rw [eq_of_renderChars_integer h]
  · exact absurd (h ▸ hother hw) (hinteger n)
  · exact absurd (h ▸ hother hv) (hinteger m)
  · rcases hv with rfl | rfl | rfl <;> rcases hw with rfl | rfl | rfl <;> first | rfl | exact absurd h (by decide)

/-! ### Values -/

/-- The text of an entry of a hash. -/
def renderEntry (e : String × Value) : List Char := quote e.1 ++ [' ', '=', '>', ' '] ++ e.2.renderChars

private theorem renderItems_eq (items : List Value) :
    renderItems items = [',', ' '].intercalate (items.map renderChars) :=
  eq_intercalate rfl (fun _ => rfl) (fun _ _ _ => rfl) items

private theorem renderEntries_eq (entries : List (String × Value)) :
    renderEntries entries = [',', ' '].intercalate (entries.map renderEntry) := by
  refine eq_intercalate rfl (fun e => ?_) (fun e e' rest => ?_) entries <;> simp [renderEntries, renderEntry]

private theorem renderChars_array (items : List Value) :
    (array items).renderChars = bracketed '[' ']' renderChars items := by
  rw [renderChars, renderItems_eq]
  rfl

private theorem renderChars_hash (entries : List (String × Value)) :
    (hash entries).renderChars = bracketed '\x7b' '\x7d' renderEntry entries := by
  rw [renderChars, renderEntries_eq]
  rfl

/-- The last character of a value tells how it is written. -/
private theorem exists_last (hv : v.FloatFree) :
    ∃ s c, v.renderChars = s ++ [c] ∧ c ∉ openers ∧ Form.ofLast c = v.form := by
  have hword : v.form = .word → ∃ s c, v.renderChars = s ++ [c] ∧ c ∉ openers ∧ Form.ofLast c = v.form := by
    intro hform
    obtain ⟨hne, hplain⟩ := renderChars_of_word hv hform
    obtain ⟨s, c, hlast⟩ := (List.eq_nil_or_concat v.renderChars).resolve_left hne
    rw [List.concat_eq_append] at hlast
    have hc : c ∉ marks := hplain c (by simp [hlast])
    exact ⟨s, c, hlast, notMem_openers hc, (Form.ofLast_eq_word hc).trans hform.symm⟩
  cases hv with
  | undef | boolean | integer => exact hword rfl
  | string s => exact ⟨'\'' :: escaped s.toList, '\'', rfl, by decide, rfl⟩
  | @array items h => exact ⟨'[' :: renderItems items, ']', rfl, by decide, rfl⟩
  | @hash entries h => exact ⟨'\x7b' :: renderEntries entries, '\x7d', rfl, by decide, rfl⟩

private theorem closed_renderChars (hv : v.FloatFree) : Closed v.renderChars := by
  obtain ⟨s, c, hlast, hc, -⟩ := exists_last hv
  exact ⟨s, c, hlast, hc⟩

private theorem form_eq {p q : List Char} (hv : v.FloatFree) (hw : w.FloatFree)
    (h : p ++ v.renderChars = q ++ w.renderChars) : v.form = w.form := by
  obtain ⟨s, c, hlast, -, hform⟩ := exists_last hv
  obtain ⟨t, d, hlast', -, hform'⟩ := exists_last hw
  rw [hlast, hlast', ← List.append_assoc, ← List.append_assoc, List.append_singleton_inj] at h
  rw [← hform, ← hform', h.2]

private theorem splitsOff_word (hv : v.FloatFree) (hw : w.FloatFree) (hform : v.form = .word) :
    SplitsOff renderChars v w := by
  intro p q hp hq h
  have hform' : w.form = .word := (form_eq hv hw h).symm.trans hform
  have hplain : ∀ c ∈ v.renderChars, c ∉ openers := fun c hc =>
    notMem_openers ((renderChars_of_word hv hform).2 c hc)
  have hplain' : ∀ c ∈ w.renderChars, c ∉ openers := fun c hc =>
    notMem_openers ((renderChars_of_word hw hform').2 c hc)
  exact splitsOff_of_notMem hplain hplain' (eq_of_word hv hw hform hform') hp hq h

private theorem SplitsOff.entry {k l : String} (h : SplitsOff renderChars v w) :
    SplitsOff renderEntry (k, v) (l, w) := by
  intro p q hp hq hentry
  have hvalue : p ++ quote k ++ [' ', '=', '>', ' '] ++ v.renderChars =
      q ++ quote l ++ [' ', '=', '>', ' '] ++ w.renderChars := by
    simpa [renderEntry] using hentry
  have hopens : ∀ p : List Char, Opens (p ++ [' ', '=', '>', ' ']) := by
    simp [Opens, openers]
  obtain ⟨hkey, rfl⟩ := h (hopens _) (hopens _) hvalue
  obtain ⟨hpq, rfl⟩ := splitsOff_quote k l hp hq (List.append_cancel_right hkey)
  exact ⟨hpq, rfl⟩

/-- The text of a value splits off from the end of a longer one. -/
theorem splitsOff_renderChars (hv : v.FloatFree) (hw : w.FloatFree) : SplitsOff renderChars v w := by
  induction hv generalizing w with
  | undef => exact splitsOff_word .undef hw rfl
  | boolean b => exact splitsOff_word (.boolean b) hw rfl
  | integer n => exact splitsOff_word (.integer n) hw rfl
  | string s =>
    intro p q hp hq h
    have hform := form_eq (.string s) hw h
    cases hw with
    | string t =>
      obtain ⟨hpq, rfl⟩ := splitsOff_quote s t hp hq h
      exact ⟨hpq, rfl⟩
    | undef | boolean | integer | array | hash => contradiction
  | @array items hitems ih =>
    intro p q hp hq h
    have hform := form_eq (.array hitems) hw h
    cases hw with
    | @array items' hitems' =>
      rw [renderChars_array, renderChars_array] at h
      have hparts : ∀ x ∈ items, ∀ y ∈ items', SplitsOff renderChars x y := fun x hx y hy => ih x hx (hitems' y hy)
      obtain ⟨hpq, rfl⟩ := splitsOff_bracketed hparts (fun x hx => closed_renderChars (hitems x hx))
        (fun y hy => closed_renderChars (hitems' y hy)) (by decide) (by decide) hp hq h
      exact ⟨hpq, rfl⟩
    | undef | boolean | integer | string | hash => contradiction
  | @hash entries hentries ih =>
    intro p q hp hq h
    have hform := form_eq (.hash hentries) hw h
    cases hw with
    | @hash entries' hentries' =>
      rw [renderChars_hash, renderChars_hash] at h
      have hparts : ∀ x ∈ entries, ∀ y ∈ entries', SplitsOff renderEntry x y := fun x hx y hy =>
        (ih x hx (hentries' y hy)).entry
      obtain ⟨hpq, rfl⟩ := splitsOff_bracketed hparts (fun x hx => (closed_renderChars (hentries x hx)).append _)
        (fun y hy => (closed_renderChars (hentries' y hy)).append _) (by decide) (by decide) hp hq h
      exact ⟨hpq, rfl⟩
    | undef | boolean | integer | string | array => contradiction

/-- Values without floats have the same text just if they are equal. -/
theorem render_inj (hv : v.FloatFree) (hw : w.FloatFree) : v.render = w.render ↔ v = w := by
  constructor
  · intro h
    have hchars : [] ++ v.renderChars = [] ++ w.renderChars := String.ofList_injective h
    exact (splitsOff_renderChars hv hw opens_nil opens_nil hchars).2
  · rintro rfl
    rfl

/-- Arrays of different strings. From the left, their texts are the same up to the last quote. -/
theorem render_ne_of_last_quote :
    let v := array [string "\\", string ", ", string ""]
    let w := array [string "', ", string ", "]
    (v.FloatFree ∧ w.FloatFree) ∧ v.render = "['\\', ', ', '']" ∧ w.render = "['\\', ', ', ']" ∧
      v.render ≠ w.render := by
  intro v w
  have hv : v.FloatFree := .array (by simp [FloatFree.string])
  have hw : w.FloatFree := .array (by simp [FloatFree.string])
  have hne : v ≠ w := by simp [v, w]
  exact ⟨⟨hv, hw⟩, rfl, rfl, fun h => hne ((render_inj hv hw).1 h)⟩

end Value

end Debugger

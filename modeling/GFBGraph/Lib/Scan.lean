import Mathlib.Data.List.Basic
import Mathlib.Order.Lattice

/-!
# Scanning for a maximum

A scan walks a list once, keeping the best element so far and the key it has
to beat.  It replaces the element it keeps only on a strictly greater key, so
that of several elements with the greatest key the first one wins.

`scan_eq_some_iff` says which element that is without running the scan:
`IsFirstMax` places it in the list, above the initial bound, strictly above
everything before it and not below anything after it.  The element that is kept
depends on the order of the list, its key does not (`map_key_scan_of_perm`).
-/

namespace Lib

namespace Scan

variable {α β : Type*} [LinearOrder β] (key : α → β)

/-- The element kept at the end, given the bound and the element at the start. -/
def scan : List α → β → Option α → Option α
  | [], _, best => best
  | a :: as, bound, best => if bound < key a then scan as (key a) (some a) else scan as bound best

/-- `a` is the first element of the list with the greatest key, and that key
is above the bound. -/
def IsFirstMax (bound : β) (as : List α) (a : α) : Prop :=
  ∃ pre post, as = pre ++ a :: post ∧ bound < key a ∧
    (∀ b ∈ pre, key b < key a) ∧ ∀ b ∈ post, key b ≤ key a

variable {key}

theorem not_isFirstMax_nil (bound : β) (a : α) : ¬ IsFirstMax key bound [] a := by
  intro h
  obtain ⟨pre, post, hsplit, -⟩ := h
  simp at hsplit

/-- The first maximum is the head, or it beats the head and is the first
maximum of the tail. -/
theorem isFirstMax_cons_iff {bound : β} {b : α} {as : List α} {a : α} :
    IsFirstMax key bound (b :: as) a ↔
      (b = a ∧ bound < key a ∧ ∀ c ∈ as, key c ≤ key a) ∨
        (key b < key a ∧ IsFirstMax key bound as a) := by
  constructor
  · intro h
    obtain ⟨pre, post, hsplit, hbound, hpre, hpost⟩ := h
    cases pre with
    | nil =>
        obtain ⟨hhead, htail⟩ := List.cons.inj hsplit
        rw [← htail] at hpost
        exact Or.inl ⟨hhead, hbound, hpost⟩
    | cons b' pre =>
        obtain ⟨hhead, htail⟩ := List.cons.inj hsplit
        rw [List.forall_mem_cons, ← hhead] at hpre
        exact Or.inr ⟨hpre.1, pre, post, htail, hbound, hpre.2, hpost⟩
  · intro h
    cases h with
    | inl hhead =>
        obtain ⟨heq, hbound, htail⟩ := hhead
        exact ⟨[], as, by rw [heq, List.nil_append], hbound, by simp, htail⟩
    | inr hlater =>
        obtain ⟨hbeats, pre, post, hsplit, hbound, hpre, hpost⟩ := hlater
        refine ⟨b :: pre, post, by rw [hsplit, List.cons_append], hbound, ?_, hpost⟩
        exact List.forall_mem_cons.2 ⟨hbeats, hpre⟩

/-- A higher bound leaves the maxima above it. -/
theorem isFirstMax_of_lt_iff {bound bound' : β} (h : bound < bound') {as : List α} {a : α} :
    IsFirstMax key bound' as a ↔ bound' < key a ∧ IsFirstMax key bound as a := by
  constructor
  · intro hmax
    obtain ⟨pre, post, hsplit, hbound, hrest⟩ := hmax
    exact ⟨hbound, pre, post, hsplit, h.trans hbound, hrest⟩
  · intro hmax
    obtain ⟨hbound, pre, post, hsplit, -, hrest⟩ := hmax
    exact ⟨pre, post, hsplit, hbound, hrest⟩

/-- **Law of the scan**: it keeps the first maximum above the bound, or what it
started with if nothing is above the bound. -/
theorem scan_eq_some_iff {as : List α} {bound : β} {best : Option α} {a : α} :
    scan key as bound best = some a ↔
      IsFirstMax key bound as a ∨ (best = some a ∧ ∀ b ∈ as, key b ≤ bound) := by
  induction as generalizing bound best with
  | nil => simp [scan, not_isFirstMax_nil]
  | cons b as ih =>
      rw [scan, isFirstMax_cons_iff, List.forall_mem_cons]
      by_cases hb : bound < key b
      · have hnot : ¬ key b ≤ bound := not_le.2 hb
        rw [if_pos hb, ih, isFirstMax_of_lt_iff hb, Option.some.injEq]
        constructor
        · intro h
          cases h with
          | inl hlater => exact Or.inl (Or.inr hlater)
          | inr hhead =>
              obtain ⟨heq, htail⟩ := hhead
              exact Or.inl (Or.inl ⟨heq, heq ▸ hb, heq ▸ htail⟩)
        · intro h
          cases h with
          | inr hnone => exact absurd hnone.2.1 hnot
          | inl hmax =>
              cases hmax with
              | inl hhead => exact Or.inr ⟨hhead.1, hhead.1 ▸ hhead.2.2⟩
              | inr hlater => exact Or.inl hlater
      · have hle : key b ≤ bound := not_lt.1 hb
        rw [if_neg hb, ih]
        constructor
        · intro h
          cases h with
          | inl hmax =>
              have hmax' := hmax
              obtain ⟨-, -, -, hbound, -⟩ := hmax'
              exact Or.inl (Or.inr ⟨hle.trans_lt hbound, hmax⟩)
          | inr hnone => exact Or.inr ⟨hnone.1, hle, hnone.2⟩
        · intro h
          cases h with
          | inr hnone => exact Or.inr ⟨hnone.1, hnone.2.2⟩
          | inl hmax =>
              cases hmax with
              | inl hhead => exact absurd (hhead.1 ▸ hhead.2.1) hb
              | inr hlater => exact Or.inl hlater.2

/-- Started with nothing, it keeps the first maximum above the bound. -/
theorem scan_none_eq_some_iff {as : List α} {bound : β} {a : α} :
    scan key as bound none = some a ↔ IsFirstMax key bound as a := by
  rw [scan_eq_some_iff]
  simp

/-- It keeps nothing exactly when it starts with nothing and nothing is above
the bound. -/
theorem scan_eq_none_iff {as : List α} {bound : β} {best : Option α} :
    scan key as bound best = none ↔ best = none ∧ ∀ b ∈ as, key b ≤ bound := by
  induction as generalizing bound best with
  | nil => simp [scan]
  | cons b as ih =>
      rw [scan, List.forall_mem_cons]
      by_cases hb : bound < key b
      · rw [if_pos hb, ih]
        constructor
        · exact fun h => absurd h.1 (Option.some_ne_none b)
        · exact fun h => absurd h.2.1 (not_le.2 hb)
      · rw [if_neg hb, ih]
        simp [not_lt.1 hb]

/-- The first maximum is an element of the list with the greatest key. -/
theorem IsFirstMax.mem_and_le {bound : β} {as : List α} {a : α}
    (h : IsFirstMax key bound as a) : a ∈ as ∧ ∀ b ∈ as, key b ≤ key a := by
  obtain ⟨pre, post, hsplit, -, hpre, hpost⟩ := h
  rw [hsplit]
  refine ⟨List.mem_append_right _ List.mem_cons_self, fun b hb => ?_⟩
  cases List.mem_append.1 hb with
  | inl hb => exact (hpre b hb).le
  | inr hb =>
      cases List.mem_cons.1 hb with
      | inl heq => exact heq ▸ le_refl _
      | inr hb => exact hpost b hb

/-! ## the key that is kept -/

/-- The key of the kept element is the greatest key of the list, if that is
above the bound. -/
theorem map_key_scan_eq_some_iff {as : List α} {bound k : β} :
    (scan key as bound none).map key = some k ↔
      k ∈ as.map key ∧ bound < k ∧ ∀ l ∈ as.map key, l ≤ k := by
  rw [List.forall_mem_map, Option.map_eq_some_iff]
  constructor
  · intro h
    obtain ⟨a, hscan, hk⟩ := h
    have hmax := scan_none_eq_some_iff.1 hscan
    obtain ⟨hmem, hle⟩ := hmax.mem_and_le
    obtain ⟨-, -, -, hbound, -⟩ := hmax
    rw [← hk]
    exact ⟨List.mem_map_of_mem hmem, hbound, hle⟩
  · intro h
    obtain ⟨hmem, hbound, hle⟩ := h
    obtain ⟨b, hb, hk⟩ := List.mem_map.1 hmem
    cases hscan : scan key as bound none with
    | none =>
        have hlow := (scan_eq_none_iff.1 hscan).2 b hb
        rw [hk] at hlow
        exact absurd hbound (not_lt.2 hlow)
    | some a =>
        obtain ⟨hmem', hle'⟩ := (scan_none_eq_some_iff.1 hscan).mem_and_le
        have hbelow := hle' b hb
        rw [hk] at hbelow
        exact ⟨a, rfl, le_antisymm (hle a hmem') hbelow⟩

/-- It does not depend on the order of the list. -/
theorem map_key_scan_of_perm {as as' : List α} (h : (as.map key).Perm (as'.map key)) (bound : β) :
    (scan key as bound none).map key = (scan key as' bound none).map key := by
  apply Option.ext
  intro k
  rw [map_key_scan_eq_some_iff, map_key_scan_eq_some_iff, h.mem_iff]
  simp only [h.mem_iff]

/-! ## what is kept on the way -/

variable (key) in
/-- The elements that are kept for some time, in the order in which they are. -/
def records : List α → β → List α
  | [], _ => []
  | a :: as, bound => if bound < key a then a :: records as (key a) else records as bound

/-- The last of them is the one that is kept at the end. -/
theorem scan_eq_records {as : List α} {bound : β} {best : Option α} :
    scan key as bound best = (records key as bound).getLast?.or best := by
  induction as generalizing bound best with
  | nil => rfl
  | cons a as ih =>
      rw [scan, records]
      by_cases ha : bound < key a
      · rw [if_pos ha, if_pos ha, ih, List.getLast?_cons]
        cases (records key as (key a)).getLast? <;> rfl
      · rw [if_neg ha, if_neg ha, ih]

/-- They are the elements above the bound that beat everything before them. -/
theorem mem_records_iff {as : List α} {bound : β} {a : α} :
    a ∈ records key as bound ↔
      ∃ pre post, as = pre ++ a :: post ∧ bound < key a ∧ ∀ b ∈ pre, key b < key a := by
  induction as generalizing bound with
  | nil => simp [records]
  | cons c as ih =>
      rw [records]
      constructor
      · intro h
        by_cases hc : bound < key c
        · rw [if_pos hc, List.mem_cons, ih] at h
          cases h with
          | inl hhead => exact ⟨[], as, by rw [hhead, List.nil_append], hhead ▸ hc, by simp⟩
          | inr hlater =>
              obtain ⟨pre, post, hsplit, hbeats, hpre⟩ := hlater
              exact ⟨c :: pre, post, by rw [hsplit, List.cons_append], hc.trans hbeats,
                List.forall_mem_cons.2 ⟨hbeats, hpre⟩⟩
        · rw [if_neg hc, ih] at h
          obtain ⟨pre, post, hsplit, hbound, hpre⟩ := h
          exact ⟨c :: pre, post, by rw [hsplit, List.cons_append], hbound,
            List.forall_mem_cons.2 ⟨(not_lt.1 hc).trans_lt hbound, hpre⟩⟩
      · intro h
        obtain ⟨pre, post, hsplit, hbound, hpre⟩ := h
        cases pre with
        | nil =>
            obtain ⟨rfl, -⟩ := List.cons.inj hsplit
            rw [if_pos hbound]
            exact List.mem_cons_self
        | cons d pre =>
            obtain ⟨rfl, htail⟩ := List.cons.inj hsplit
            rw [List.forall_mem_cons] at hpre
            by_cases hc : bound < key c
            · rw [if_pos hc]
              exact List.mem_cons_of_mem _ (ih.2 ⟨pre, post, htail, hpre.1, hpre.2⟩)
            · rw [if_neg hc]
              exact ih.2 ⟨pre, post, htail, hbound, hpre.2⟩

theorem records_eq_nil_iff {as : List α} {bound : β} :
    records key as bound = [] ↔ ∀ a ∈ as, key a ≤ bound := by
  rw [← List.getLast?_eq_none_iff, ← Option.or_none (o := (records key as bound).getLast?),
    ← scan_eq_records, scan_eq_none_iff]
  simp

/-- Nothing but the element at the end is ever kept exactly if the first element
above the bound has the greatest key. -/
theorem forall_mem_records_iff {as : List α} {bound : β} :
    (∀ a ∈ records key as bound, (records key as bound).getLast? = some a) ↔
      ∀ a, as.find? (fun b => decide (bound < key b)) = some a → ∀ b ∈ as, key b ≤ key a := by
  induction as with
  | nil => simp [records]
  | cons c as ih =>
      rw [records, List.find?_cons]
      by_cases hc : bound < key c
      · simp only [hc, if_true, decide_true, Option.some.injEq, forall_eq', List.forall_mem_cons,
          le_refl, true_and]
        rw [← records_eq_nil_iff]
        constructor
        · intro h
          by_contra hne
          -- the last record would be the first one, and beat itself
          have hlast : (c :: records key as (key c)).getLast? =
              (records key as (key c)).getLast? := by
            rw [List.getLast?_cons]
            cases hrecords : (records key as (key c)).getLast? with
            | none => exact absurd (List.getLast?_eq_none_iff.1 hrecords) hne
            | some a => rfl
          have hmem : c ∈ records key as (key c) :=
            List.mem_of_getLast? (hlast.symm.trans h.1)
          obtain ⟨-, -, -, hbeats, -⟩ := mem_records_iff.1 hmem
          exact lt_irrefl _ hbeats
        · intro hnil
          simp [hnil]
      · simp only [hc, if_false, decide_false, ih]
        refine forall_congr' fun a => forall_congr' fun hfind => ?_
        have ha : bound < key a := by simpa using List.find?_some hfind
        rw [List.forall_mem_cons]
        exact (and_iff_right ((not_lt.1 hc).trans ha.le)).symm

end Scan

end Lib

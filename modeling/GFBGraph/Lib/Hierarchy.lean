import Mathlib.Data.List.Basic

/-!
# Single-inheritance class hierarchies

A hierarchy is the list of its class registrations, newest first: each class
names its parent, which is the root or was registered before it, and may bring
an interface table of its own.  Both questions a run-time type system answers
are walks down that list:

* `isA` — does a class equal or derive from another, at any depth;
* `iface` — the interface table of a class: its own, or the one it inherits
  from the nearest ancestor that has one.

Both recurse on the list itself, so they evaluate by reduction; that a
registered list makes `isA` transitive is `isA_trans`, and that a class has the
table of an ancestor unless one on the way brings another is `iface_eq_of_isA`.
-/

namespace Lib

/-- One registration: a class, its parent, and the interface table it brings. -/
structure ClassInfo (ι : Type*) where
  name : String
  parent : String
  iface : Option ι

namespace Hierarchy

variable {ι : Type*}

/-- The names registered so far. -/
def names (cs : List (ClassInfo ι)) : List String := cs.map ClassInfo.name

/-- Every class has a new name and a parent that is there already. -/
def Registered (root : String) : List (ClassInfo ι) → Prop
  | [] => True
  | c :: cs =>
      (c.name ≠ root ∧ c.name ∉ names cs) ∧ (c.parent = root ∨ c.parent ∈ names cs) ∧
        Registered root cs

/-- `t` is `u` or derives from it. -/
def isA : List (ClassInfo ι) → String → String → Bool
  | [], t, u => t == u
  | c :: cs, t, u => if c.name = t then t == u || isA cs c.parent u else isA cs t u

/-- The interface table of `t`. -/
def iface : List (ClassInfo ι) → String → Option ι
  | [], _ => none
  | c :: cs, t => if c.name = t then c.iface <|> iface cs c.parent else iface cs t

@[simp] theorem isA_nil (t u : String) : isA ([] : List (ClassInfo ι)) t u = (t == u) := rfl

theorem isA_cons_self (c : ClassInfo ι) (cs : List (ClassInfo ι)) (u : String) :
    isA (c :: cs) c.name u = (c.name == u || isA cs c.parent u) := by simp [isA]

theorem isA_cons_of_ne {c : ClassInfo ι} {t : String} (h : c.name ≠ t) (cs : List (ClassInfo ι))
    (u : String) : isA (c :: cs) t u = isA cs t u := by simp [isA, h]

variable {root : String}

/-- An ancestor is the class itself, the root, or a registered class. -/
theorem eq_or_mem_of_isA {cs : List (ClassInfo ι)} (hcs : Registered root cs) {t u : String}
    (h : isA cs t u = true) : u = t ∨ u = root ∨ u ∈ names cs := by
  induction cs generalizing t with
  | nil =>
      rw [isA_nil, beq_iff_eq] at h
      exact Or.inl h.symm
  | cons c cs ih =>
      obtain ⟨-, hparent, hcs⟩ := hcs
      by_cases ht : c.name = t
      · subst ht
        rw [isA_cons_self, Bool.or_eq_true, beq_iff_eq] at h
        cases h with
        | inl hself => exact Or.inl hself.symm
        | inr hup =>
            -- an ancestor of the parent, which is the root or an older class
            have holder : u = root ∨ u ∈ names cs := by
              cases ih hcs hup with
              | inl hparentEq => rwa [hparentEq]
              | inr holder => exact holder
            exact Or.inr (holder.imp id (List.mem_cons_of_mem _))
      · rw [isA_cons_of_ne ht] at h
        exact (ih hcs h).imp id (Or.imp id (List.mem_cons_of_mem _))

/-- Among the older classes the newest one is an ancestor of nothing. -/
theorem eq_newest_of_isA {c : ClassInfo ι} {cs : List (ClassInfo ι)}
    (hcs : Registered root (c :: cs)) {t : String} (h : isA cs t c.name = true) : c.name = t := by
  cases eq_or_mem_of_isA hcs.2.2 h with
  | inl heq => exact heq
  | inr holder =>
      cases holder with
      | inl hroot => exact absurd hroot hcs.1.1
      | inr hmem => exact absurd hmem hcs.1.2

/-- **Derivation is transitive.** -/
theorem isA_trans {cs : List (ClassInfo ι)} (hcs : Registered root cs) {t u v : String}
    (htu : isA cs t u = true) (huv : isA cs u v = true) : isA cs t v = true := by
  induction cs generalizing t u with
  | nil =>
      rw [isA_nil, beq_iff_eq] at htu
      rwa [htu]
  | cons c cs ih =>
      have htail : Registered root cs := hcs.2.2
      by_cases ht : c.name = t
      · subst ht
        rw [isA_cons_self, Bool.or_eq_true, beq_iff_eq] at htu
        cases htu with
        | inl heq => rwa [heq]
        | inr htu =>
            by_cases hu : c.name = u
            · rwa [hu]
            · rw [isA_cons_of_ne hu] at huv
              rw [isA_cons_self, ih htail htu huv, Bool.or_true]
      · rw [isA_cons_of_ne ht] at htu
        by_cases hu : c.name = u
        · -- the only way to the newest class is from itself
          rw [← hu] at htu
          exact absurd (eq_newest_of_isA hcs htu) ht
        · rw [isA_cons_of_ne hu] at huv
          rw [isA_cons_of_ne ht, ih htail htu huv]

/-! ## inheriting a table -/

/-- The interface table that `t` brings itself. -/
def own : List (ClassInfo ι) → String → Option ι
  | [], _ => none
  | c :: cs, t => if c.name = t then c.iface else own cs t

@[simp] theorem isA_self (cs : List (ClassInfo ι)) (t : String) : isA cs t t = true := by
  cases cs with
  | nil => simp
  | cons c cs =>
      by_cases h : c.name = t
      · simp [isA, h]
      · rw [isA_cons_of_ne h]
        exact isA_self cs t

theorem own_eq_none_of_notMem {cs : List (ClassInfo ι)} {t : String} (h : t ∉ names cs) :
    own cs t = none := by
  induction cs with
  | nil => rfl
  | cons c cs ih =>
      simp only [names, List.map_cons, List.mem_cons, not_or] at h
      rw [own, if_neg (Ne.symm h.1)]
      exact ih h.2

/-- The newest class brings nothing to the older ones. -/
theorem own_of_cons {c : ClassInfo ι} {cs : List (ClassInfo ι)}
    (hcs : Registered root (c :: cs)) {t : String} (h : c.name ≠ t → own (c :: cs) t = none) :
    own cs t = none := by
  by_cases hnew : c.name = t
  · rw [← hnew]
    exact own_eq_none_of_notMem hcs.1.2
  · have hnone := h hnew
    rwa [own, if_neg hnew] at hnone

/-- **Law of inheritance**: where no class from `t` up to its ancestor `u`
brings a table of its own, `t` has the table of `u`. -/
theorem iface_eq_of_isA {cs : List (ClassInfo ι)} (hcs : Registered root cs) {t u : String}
    (htu : isA cs t u = true)
    (hown : ∀ w, isA cs t w = true → isA cs w u = true → w ≠ u → own cs w = none) :
    iface cs t = iface cs u := by
  induction cs generalizing t with
  | nil =>
      rw [isA_nil, beq_iff_eq] at htu
      rw [htu]
  | cons c cs ih =>
      have htail : Registered root cs := hcs.2.2
      by_cases heq : t = u
      · rw [heq]
      · -- the newest class is not `u`, which is above `t`
        have hu : c.name ≠ u := by
          intro hu
          rw [← hu] at htu heq
          rw [isA_cons_of_ne (Ne.symm heq)] at htu
          exact heq (eq_newest_of_isA hcs htu).symm
        have hupper : iface (c :: cs) u = iface cs u := by rw [iface, if_neg hu]
        by_cases ht : c.name = t
        · subst ht
          have hnone : c.iface = none := by
            have hfirst := hown c.name (isA_self _ _) htu heq
            rwa [own, if_pos rfl] at hfirst
          have hparent : isA cs c.parent u = true := by
            rw [isA_cons_self] at htu
            simpa [heq] using htu
          have hstep : iface (c :: cs) c.name = iface cs c.parent := by simp [iface, hnone]
          rw [hstep, hupper]
          apply ih htail hparent
          intro w hw hwu hne
          apply own_of_cons hcs
          intro hnew
          have hbelow : isA (c :: cs) c.name w = true := by rw [isA_cons_self, hw, Bool.or_true]
          have habove : isA (c :: cs) w u = true := by rw [isA_cons_of_ne hnew, hwu]
          exact hown w hbelow habove hne
        · have hstep : iface (c :: cs) t = iface cs t := by rw [iface, if_neg ht]
          rw [isA_cons_of_ne ht] at htu
          rw [hstep, hupper]
          apply ih htail htu
          intro w hw hwu hne
          apply own_of_cons hcs
          intro hnew
          have hbelow : isA (c :: cs) t w = true := by rw [isA_cons_of_ne ht, hw]
          have habove : isA (c :: cs) w u = true := by rw [isA_cons_of_ne hnew, hwu]
          exact hown w hbelow habove hne

/-! ## extending a hierarchy

Registering further classes changes nothing for the ones already there. -/

/-- A class keeps its name to itself. -/
theorem notMem_of_registered_append {cs ds : List (ClassInfo ι)}
    (h : Registered root (cs ++ ds)) {t : String} (ht : t ∈ names ds) : t ∉ names cs := by
  induction cs with
  | nil => simp [names]
  | cons c cs ih =>
      rw [List.cons_append, Registered] at h
      obtain ⟨⟨-, hnew⟩, -, h⟩ := h
      have hne : t ≠ c.name := by
        intro heq
        rw [names, List.map_append, ← heq] at hnew
        exact hnew (List.mem_append_right _ ht)
      simp only [names, List.map_cons, List.mem_cons, not_or]
      exact ⟨hne, ih h⟩

theorem isA_append_of_notMem {cs : List (ClassInfo ι)} {t : String} (h : t ∉ names cs)
    (ds : List (ClassInfo ι)) (u : String) : isA (cs ++ ds) t u = isA ds t u := by
  induction cs with
  | nil => rfl
  | cons c cs ih =>
      simp only [names, List.map_cons, List.mem_cons, not_or] at h
      rw [List.cons_append, isA_cons_of_ne (Ne.symm h.1), ih h.2]

theorem iface_append_of_notMem {cs : List (ClassInfo ι)} {t : String} (h : t ∉ names cs)
    (ds : List (ClassInfo ι)) : iface (cs ++ ds) t = iface ds t := by
  induction cs with
  | nil => rfl
  | cons c cs ih =>
      simp only [names, List.map_cons, List.mem_cons, not_or] at h
      rw [List.cons_append, iface, if_neg (Ne.symm h.1), ih h.2]

end Hierarchy

end Lib

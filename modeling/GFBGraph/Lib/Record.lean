import Mathlib.Data.List.Nodup
import Mathlib.Data.List.Pairwise

/-!
# Records written out property by property

A record is read and written through properties.  A *format* gives each
property a name, says whether it may be read and written, and how its values
are put into documents and taken out of them; a value may have no document,
and a document no value.  A record is then encoded as the members its readable
properties have, and members are decoded into a record by setting, one after
the other, the writable properties they name.

`get_decode_encode` is the law of these two walks: what a round trip leaves in
a property depends on that property alone.  It comes back where the format is
`Faithful` to it, and is lost where nothing is written for it.

For members that name different properties, the walk of decoding ends in the
same record in every order (`decode_of_perm`), where each property a member
sets holds what was read from it (`get_decode_of_sets`).  This needs setters
that commute, which records that inherit properties have if both parts do.
With both, the law of the round trip holds for every *document* of a record,
its members in any order and with others among them (`get_decode_document`).
-/

namespace Lib

/-- A record type with its properties, `ν p` being the values of `p`. -/
structure Record (σ π : Type*) (ν : π → Type*) where
  get : σ → (p : π) → ν p
  set : σ → (p : π) → ν p → σ
  get_set : ∀ s p v, get (set s p v) p = v
  get_set_ne : ∀ s p v q, q ≠ p → get (set s p v) q = get s q

namespace Record

/-- Different properties can be set in either order. -/
def SetsCommute {σ π : Type*} {ν : π → Type*} (record : Record σ π ν) : Prop :=
  ∀ s p v q w, q ≠ p → record.set (record.set s p v) q w = record.set (record.set s q w) p v

section

variable {σ π π' : Type*} {ν : π ⊕ π' → Type*}

variable (ν) in
/-- Setting a property of one of these records is not seen through the other
one, and the two can set in either order. -/
structure Apart (parent : Record σ π fun p => ν (.inl p))
    (own : Record σ π' fun q => ν (.inr q)) : Prop where
  get_own : ∀ s p v q, own.get (parent.set s p v) q = own.get s q
  get_parent : ∀ s q w p, parent.get (own.set s q w) p = parent.get s p
  set_comm : ∀ s p v q w, own.set (parent.set s p v) q w = parent.set (own.set s q w) p v

variable {parent : Record σ π fun p => ν (.inl p)} {own : Record σ π' fun q => ν (.inr q)}

/-- The properties of both records, those of `parent` by inheritance. -/
def inherit (h : Apart ν parent own) : Record σ (π ⊕ π') ν where
  get s
    | .inl p => parent.get s p
    | .inr q => own.get s q
  set s
    | .inl p, v => parent.set s p v
    | .inr q, w => own.set s q w
  get_set s p v := by
    cases p with
    | inl p => exact parent.get_set s p v
    | inr q => exact own.get_set s q v
  get_set_ne s p v q hne := by
    cases p with
    | inl p =>
        cases q with
        | inl q => exact parent.get_set_ne s p v q (fun heq => hne (congrArg _ heq))
        | inr q => exact h.get_own s p v q
    | inr p =>
        cases q with
        | inl q => exact h.get_parent s p v q
        | inr q => exact own.get_set_ne s p v q (fun heq => hne (congrArg _ heq))

/-- Inheriting keeps the order of setting free. -/
theorem setsCommute_inherit (h : Apart ν parent own) (hparent : parent.SetsCommute)
    (hown : own.SetsCommute) : (inherit h).SetsCommute := by
  intro s p v q w hne
  cases p with
  | inl p =>
      cases q with
      | inl q => exact hparent s p v q w (fun heq => hne (congrArg _ heq))
      | inr q => exact h.set_comm s p v q w
  | inr p =>
      cases q with
      | inl q => exact (h.set_comm s q w p v).symm
      | inr q => exact hown s p v q w (fun heq => hne (congrArg _ heq))

end

end Record

/-- How the properties are named and their values written. -/
structure Format (π : Type*) (ν : π → Type*) (κ δ : Type*) where
  name : π → κ
  find : κ → Option π
  find_name : ∀ p, find (name p) = some p
  readable : π → Bool
  writable : π → Bool
  write : (p : π) → ν p → Option δ
  read : (p : π) → δ → Option (ν p)

namespace Format

variable {σ π κ δ : Type*} {ν : π → Type*} (format : Format π ν κ δ) (record : Record σ π ν)

/-- The document of a property, if it has one. -/
def written (s : σ) (p : π) : Option δ :=
  if format.readable p then format.write p (record.get s p) else none

/-- The members of the properties that have a document. -/
def encode (listed : List π) (s : σ) : List (κ × δ) :=
  listed.filterMap fun p => (format.written record s p).map fun d => (format.name p, d)

/-- Set the property that a member names. -/
def readMember (s : σ) (member : κ × δ) : σ :=
  match format.find member.1 with
  | none => s
  | some p =>
      if format.writable p then
        match format.read p member.2 with
        | none => s
        | some v => record.set s p v
      else s

/-- Set the properties that the members name, in order. -/
def decode (init : σ) (members : List (κ × δ)) : σ :=
  members.foldl (format.readMember record) init

/-- What a document leaves in a property that held `old`. -/
def taken (p : π) (old : ν p) : Option δ → ν p
  | none => old
  | some d => if format.writable p then (format.read p d).getD old else old

variable {format record}

/-! ## one member -/

/-- A member that names a writable property sets what is read from it. -/
theorem readMember_of_writable {k : κ} {p : π} (hfind : format.find k = some p)
    (hwritable : format.writable p = true) (s : σ) (d : δ) :
    format.readMember record s (k, d) = (format.read p d).elim s (record.set s p) := by
  simp only [readMember, hfind]
  rw [if_pos hwritable]
  cases format.read p d <;> rfl

theorem readMember_of_not_writable {k : κ} {p : π} (hfind : format.find k = some p)
    (hwritable : ¬ format.writable p = true) (s : σ) (d : δ) :
    format.readMember record s (k, d) = s := by
  simp only [readMember, hfind]
  rw [if_neg hwritable]

theorem get_readMember (s : σ) (p : π) (d : δ) :
    record.get (format.readMember record s (format.name p, d)) p =
      format.taken p (record.get s p) (some d) := by
  have hfind := format.find_name p
  by_cases hwritable : format.writable p = true
  · rw [readMember_of_writable hfind hwritable, taken, if_pos hwritable]
    cases format.read p d with
    | none => rfl
    | some v => exact record.get_set s p v
  · rw [readMember_of_not_writable hfind hwritable, taken, if_neg hwritable]

/-- A member leaves the properties it does not name alone. -/
theorem get_readMember_ne (s : σ) {p q : π} (d : δ) (h : q ≠ p) :
    record.get (format.readMember record s (format.name p, d)) q = record.get s q := by
  have hfind := format.find_name p
  by_cases hwritable : format.writable p = true
  · rw [readMember_of_writable hfind hwritable]
    cases format.read p d with
    | none => rfl
    | some v => exact record.get_set_ne s p v q h
  · rw [readMember_of_not_writable hfind hwritable]

/-! ## the round trip -/

/-- Encoding visits the properties in order. -/
theorem encode_cons (p : π) (listed : List π) (s : σ) :
    format.encode record (p :: listed) s =
      match format.written record s p with
      | none => format.encode record listed s
      | some d => (format.name p, d) :: format.encode record listed s := by
  unfold encode
  cases h : format.written record s p with
  | none => simp [h]
  | some d => simp [h]

/-- Properties that are not listed are left as they were. -/
theorem get_decode_encode_of_notMem {listed : List π} {p : π} (h : p ∉ listed) (init s : σ) :
    record.get (format.decode record init (format.encode record listed s)) p =
      record.get init p := by
  induction listed generalizing init with
  | nil => rfl
  | cons q listed ih =>
      rw [List.mem_cons, not_or] at h
      rw [encode_cons]
      cases format.written record s q with
      | none => exact ih h.2 init
      | some d => exact (ih h.2 _).trans (get_readMember_ne init d h.1)

/-- **Law of the round trip**: each property ends up with what its own document
leaves there. -/
theorem get_decode_encode {listed : List π} (hnodup : listed.Nodup) {p : π} (h : p ∈ listed)
    (init s : σ) :
    record.get (format.decode record init (format.encode record listed s)) p =
      format.taken p (record.get init p) (format.written record s p) := by
  induction listed generalizing init with
  | nil => contradiction
  | cons q listed ih =>
      obtain ⟨hnotMem, hnodup⟩ := List.nodup_cons.1 hnodup
      rw [encode_cons]
      by_cases heq : p = q
      · subst heq
        cases format.written record s p with
        | none => exact get_decode_encode_of_notMem hnotMem init s
        | some d =>
            exact (get_decode_encode_of_notMem hnotMem _ s).trans (get_readMember init p d)
      · have hmem : p ∈ listed := List.mem_of_ne_of_mem heq h
        cases format.written record s q with
        | none => exact ih hnodup hmem init
        | some d =>
            have hinit : record.get (format.readMember record init (format.name q, d)) p =
                record.get init p := get_readMember_ne init d heq
            rw [← hinit]
            exact ih hnodup hmem _

variable (format) in
/-- A property takes part on both sides, its documents are read back, and it is
left out of a document only with the value `init`. -/
structure Faithful (p : π) (init : ν p) : Prop where
  readable : format.readable p = true
  writable : format.writable p = true
  read_write : ∀ v d, format.write p v = some d → format.read p d = some v
  eq_of_omitted : ∀ v, format.write p v = none → v = init

/-- Faithfully written properties come back. -/
theorem get_roundTrip_of_faithful {listed : List π} (hnodup : listed.Nodup) {p : π}
    (hmem : p ∈ listed) {init : σ} (h : format.Faithful p (record.get init p)) (s : σ) :
    record.get (format.decode record init (format.encode record listed s)) p =
      record.get s p := by
  rw [get_decode_encode hnodup hmem, written, if_pos h.readable]
  cases hwrite : format.write p (record.get s p) with
  | none => exact (h.eq_of_omitted _ hwrite).symm
  | some d => rw [taken, if_pos h.writable, h.read_write _ _ hwrite, Option.getD_some]

/-- Properties without a document are lost. -/
theorem get_roundTrip_of_unwritten {listed : List π} (hnodup : listed.Nodup) {p : π}
    (hmem : p ∈ listed) (init : σ) {s : σ} (h : format.written record s p = none) :
    record.get (format.decode record init (format.encode record listed s)) p =
      record.get init p := by
  rw [get_decode_encode hnodup hmem, h, taken]

/-! ## the order of members -/

/-- A member sets a property: it names it, and its document is read as `v`. -/
structure Sets (format : Format π ν κ δ) (member : κ × δ) (p : π) (v : ν p) : Prop where
  find_eq : format.find member.1 = some p
  writable : format.writable p = true
  read_eq : format.read p member.2 = some v

variable (format) in
/-- No two of these members name the same property. -/
def NamedApart (members : List (κ × δ)) : Prop :=
  members.Pairwise fun member member' =>
    ∀ p, format.find member.1 = some p → format.find member'.1 ≠ some p

theorem readMember_of_sets {member : κ × δ} {p : π} {v : ν p} (h : format.Sets member p v) (s : σ) :
    format.readMember record s member = record.set s p v := by
  have hread : format.readMember record s member =
      (format.read p member.2).elim s (record.set s p) :=
    readMember_of_writable h.find_eq h.writable s member.2
  rwa [h.read_eq] at hread

/-- A member that sets nothing leaves the record alone. -/
theorem readMember_of_not_sets {member : κ × δ} (h : ∀ p v, ¬ format.Sets member p v) (s : σ) :
    format.readMember record s member = s := by
  unfold readMember
  cases hfind : format.find member.1 with
  | none => rfl
  | some p =>
      by_cases hwritable : format.writable p = true
      · cases hread : format.read p member.2 with
        | none => simp [hread]
        | some v => exact absurd ⟨hfind, hwritable, hread⟩ (h p v)
      · simp [hwritable]

variable (format record) in
/-- What a member can do: set one property, or nothing. -/
theorem readMember_cases (member : κ × δ) :
    (∃ p v, format.Sets member p v ∧ ∀ s, format.readMember record s member = record.set s p v) ∨
      ∀ s, format.readMember record s member = s := by
  by_cases h : ∃ p v, format.Sets member p v
  · obtain ⟨p, v, hsets⟩ := h
    exact .inl ⟨p, v, hsets, readMember_of_sets hsets⟩
  · exact .inr (readMember_of_not_sets fun p v hsets => h ⟨p, v, hsets⟩)

/-- Members that name different properties can be read in either order. -/
theorem readMember_comm (hcomm : record.SetsCommute) {member member' : κ × δ}
    (h : ∀ p, format.find member.1 = some p → format.find member'.1 ≠ some p) (s : σ) :
    format.readMember record (format.readMember record s member) member' =
      format.readMember record (format.readMember record s member') member := by
  cases readMember_cases format record member with
  | inl hset =>
      obtain ⟨p, v, hsets, hread⟩ := hset
      cases readMember_cases format record member' with
      | inl hset' =>
          obtain ⟨q, w, hsets', hread'⟩ := hset'
          have hne : q ≠ p := by
            intro heq
            exact h p hsets.find_eq (heq ▸ hsets'.find_eq)
          rw [hread, hread', hread', hread, hcomm s p v q w hne]
      | inr hkeep' => rw [hkeep', hkeep']
  | inr hkeep => rw [hkeep, hkeep]

/-- **Law of the order**: members that name different properties decode to the
same record in every order. -/
theorem decode_of_perm (hcomm : record.SetsCommute) {members members' : List (κ × δ)}
    (h : format.NamedApart members) (hperm : members'.Perm members) (init : σ) :
    format.decode record init members' = format.decode record init members := by
  have hswap : members.Pairwise fun member member' => ∀ s : σ,
      format.readMember record (format.readMember record s member) member' =
        format.readMember record (format.readMember record s member') member :=
    h.imp fun hapart s => readMember_comm hcomm hapart s
  have hsymm : Std.Symm fun member member' : κ × δ => ∀ s : σ,
      format.readMember record (format.readMember record s member) member' =
        format.readMember record (format.readMember record s member') member :=
    ⟨fun _ _ hs s => (hs s).symm⟩
  have hall := hswap.forall_of_forall fun _ _ _ => rfl
  exact (hperm.symm.foldl_eq' (fun member hmem member' hmem' => hall hmem hmem') init).symm

/-- A property that no member sets is left as it was. -/
theorem get_decode_of_not_sets {members : List (κ × δ)} {p : π}
    (h : ∀ member ∈ members, ∀ v, ¬ format.Sets member p v) (init : σ) :
    record.get (format.decode record init members) p = record.get init p := by
  induction members generalizing init with
  | nil => rfl
  | cons member members ih =>
      rw [List.forall_mem_cons] at h
      have hfirst : record.get (format.readMember record init member) p = record.get init p := by
        cases readMember_cases format record member with
        | inl hset =>
            obtain ⟨q, w, hsets, hread⟩ := hset
            have hne : p ≠ q := by
              intro heq
              subst heq
              exact h.1 w hsets
            rw [hread, record.get_set_ne init q w p hne]
        | inr hkeep => rw [hkeep]
      exact (ih h.2 _).trans hfirst

/-- A property that a member sets ends up with what was read from it. -/
theorem get_decode_of_sets {members : List (κ × δ)} (h : format.NamedApart members)
    {member : κ × δ} (hmem : member ∈ members) {p : π} {v : ν p} (hsets : format.Sets member p v)
    (init : σ) : record.get (format.decode record init members) p = v := by
  obtain ⟨pre, post, hsplit⟩ := List.append_of_mem hmem
  have hpost : ∀ member' ∈ post, ∀ w, ¬ format.Sets member' p w := by
    intro member' hmem' w hsets'
    rw [NamedApart, hsplit, List.pairwise_append, List.pairwise_cons] at h
    exact h.2.1.1 member' hmem' p hsets.find_eq hsets'.find_eq
  have hrun : format.decode record init members = format.decode record
      (format.readMember record (format.decode record init pre) member) post := by
    rw [hsplit, decode, List.foldl_append, List.foldl_cons]
    rfl
  rw [hrun, get_decode_of_not_sets hpost, readMember_of_sets hsets, record.get_set]

/-- What setting a property keeps, decoding keeps. -/
theorem decode_of_set {P : σ → Prop} (hkept : ∀ s p v, P s → P (record.set s p v)) {init : σ}
    (hinit : P init) (members : List (κ × δ)) : P (format.decode record init members) := by
  induction members generalizing init with
  | nil => exact hinit
  | cons member members ih =>
      apply ih
      cases readMember_cases format record member with
      | inl hset =>
          obtain ⟨p, v, -, hread⟩ := hset
          rw [hread]
          exact hkept init p v hinit
      | inr hkeep =>
          rw [hkeep]
          exact hinit

/-! ## documents -/

variable (format record) in
/-- A document of a record: the members that encoding writes, in any order, and
among them members that name no property. -/
def IsDocument (listed : List π) (s : σ) (members : List (κ × δ)) : Prop :=
  (members.filter fun member => (format.find member.1).isSome).Perm
    (format.encode record listed s)

/-- Members that name no property change nothing. -/
theorem decode_filter_named (members : List (κ × δ)) (init : σ) :
    format.decode record init (members.filter fun member => (format.find member.1).isSome) =
      format.decode record init members := by
  induction members generalizing init with
  | nil => rfl
  | cons member members ih =>
      cases hfind : format.find member.1 with
      | none =>
          have hkeep : format.readMember record init member = init := by simp [readMember, hfind]
          have hskip : format.decode record init (member :: members) =
              format.decode record (format.readMember record init member) members := rfl
          rw [List.filter_cons_of_neg (by simp [hfind]), ih, hskip, hkeep]
      | some p =>
          rw [List.filter_cons_of_pos (by simp [hfind])]
          exact ih _

/-- What encoding writes names each property once. -/
theorem namedApart_encode {listed : List π} (hnodup : listed.Nodup) (s : σ) :
    format.NamedApart (format.encode record listed s) := by
  rw [NamedApart, encode, List.pairwise_filterMap]
  refine hnodup.imp ?_
  intro p q hne member hmember member' hmember' r hr hr'
  obtain ⟨d, -, hd⟩ := Option.map_eq_some_iff.1 hmember
  obtain ⟨d', -, hd'⟩ := Option.map_eq_some_iff.1 hmember'
  rw [← hd, format.find_name] at hr
  rw [← hd', format.find_name] at hr'
  exact hne (Option.some.inj (hr.trans hr'.symm))

/-- What encoding writes is a document. -/
theorem isDocument_encode (listed : List π) (s : σ) :
    format.IsDocument record listed s (format.encode record listed s) := by
  have hnamed : ∀ member ∈ format.encode record listed s,
      (format.find member.1).isSome = true := by
    intro member hmember
    obtain ⟨p, -, hp⟩ := List.mem_filterMap.1 hmember
    obtain ⟨d, -, hd⟩ := Option.map_eq_some_iff.1 hp
    rw [← hd, format.find_name, Option.isSome_some]
  rw [IsDocument, List.filter_eq_self.2 hnamed]

/-- **Law of documents**: whatever the order of its members and whatever is
among them, a document leaves in each property what the property's own one
does. -/
theorem get_decode_document (hcomm : record.SetsCommute) {listed : List π}
    (hnodup : listed.Nodup) {p : π} (hmem : p ∈ listed) {s : σ} {members : List (κ × δ)}
    (h : format.IsDocument record listed s members) (init : σ) :
    record.get (format.decode record init members) p =
      format.taken p (record.get init p) (format.written record s p) := by
  rw [← decode_filter_named members init,
    decode_of_perm hcomm (namedApart_encode hnodup s) h init,
    get_decode_encode hnodup hmem]

end Format

end Lib

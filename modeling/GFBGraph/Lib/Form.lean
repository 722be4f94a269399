import GFBGraph.Lib.Query
import Mathlib.Data.List.AList
import Mathlib.Data.UInt

/-!
# Form decoding

Decoding of `application/x-www-form-urlencoded` texts over bytes: fields are
separated by `&`, the first `=` of a field ends its name, `+` stands for a
space and `%XX` for a byte.  A field without `=`, or with a `%` that two hex
digits do not follow, is dropped; an escaped NUL ends the component it is in;
a later field replaces an earlier one of the same name.

`lookup_decode_field_iff` says what decoding does to a value that was written
into a text without encoding it: it comes back as it was exactly when it is
`Verbatim` — free of `&`, `+` and `%`.
-/

namespace Lib

namespace Form

/-- A text, byte by byte. -/
abbrev Bytes := List UInt8

/-- The byte of an ASCII character. -/
abbrev ampersand : UInt8 := '&'.toUInt8

abbrev equalsSign : UInt8 := '='.toUInt8

abbrev plus : UInt8 := '+'.toUInt8

abbrev percent : UInt8 := '%'.toUInt8

abbrev space : UInt8 := ' '.toUInt8

/-! ## components -/

/-- The value of a hex digit. -/
def hexDigit (b : UInt8) : Option UInt8 :=
  if '0'.toUInt8 ≤ b ∧ b ≤ '9'.toUInt8 then some (b - '0'.toUInt8)
  else if 'A'.toUInt8 ≤ b ∧ b ≤ 'F'.toUInt8 then some (b - 'A'.toUInt8 + 10)
  else if 'a'.toUInt8 ≤ b ∧ b ≤ 'f'.toUInt8 then some (b - 'a'.toUInt8 + 10)
  else none

/-- The byte that two hex digits spell. -/
def hexByte (hi lo : UInt8) : Option UInt8 :=
  match hexDigit hi, hexDigit lo with
  | some hi, some lo => some (hi * 16 + lo)
  | _, _ => none

/-- An escaped byte in front of a decoded rest; a NUL ends the component. -/
def putEscaped (b : UInt8) (rest : Bytes) : Bytes := if b = 0 then [] else b :: rest

/-- Decode a name or a value. -/
def unescape : Bytes → Option Bytes
  | [] => some []
  | b :: bs =>
      if b = percent then
        match bs with
        | hi :: lo :: rest =>
            match hexByte hi lo, unescape rest with
            | some b, some rest => some (putEscaped b rest)
            | _, _ => none
        | _ => none
      else (unescape bs).map fun rest => (if b = plus then space else b) :: rest

/-- Free of the bytes that decoding does not leave alone. -/
def Verbatim (bs : Bytes) : Prop := ampersand ∉ bs ∧ plus ∉ bs ∧ percent ∉ bs

instance (bs : Bytes) : Decidable (Verbatim bs) := inferInstanceAs (Decidable (_ ∧ _))

theorem unescape_percent_cons (bs : Bytes) :
    unescape (percent :: bs) = match bs with
      | hi :: lo :: rest =>
          match hexByte hi lo, unescape rest with
          | some b, some rest => some (putEscaped b rest)
          | _, _ => none
      | _ => none := by
  rw [unescape.eq_def]
  rfl

theorem unescape_cons_of_ne {b : UInt8} (bs : Bytes) (h : b ≠ percent) :
    unescape (b :: bs) =
      (unescape bs).map fun rest => (if b = plus then space else b) :: rest := by
  rw [unescape.eq_def]
  simp [h]

theorem length_putEscaped_le (b : UInt8) (rest : Bytes) :
    (putEscaped b rest).length ≤ rest.length + 1 := by
  unfold putEscaped
  split <;> simp

/-- What an escape decodes to is shorter by two at least. -/
theorem exists_of_unescape_percent {bs ds : Bytes} (h : unescape (percent :: bs) = some ds) :
    ∃ hi lo rest ds', bs = hi :: lo :: rest ∧ unescape rest = some ds' ∧
      ds.length ≤ ds'.length + 1 := by
  rw [unescape_percent_cons] at h
  match bs, h with
  | hi :: lo :: rest, h =>
      cases hbyte : hexByte hi lo with
      | none => simp [hbyte] at h
      | some b =>
          cases hrest : unescape rest with
          | none => simp [hbyte, hrest] at h
          | some ds' =>
              simp only [hbyte, hrest, Option.some.injEq] at h
              refine ⟨hi, lo, rest, ds', rfl, hrest, ?_⟩
              rw [← h]
              exact length_putEscaped_le b ds'

/-- Decoding never lengthens. -/
theorem length_unescape_le : ∀ {bs ds : Bytes}, unescape bs = some ds → ds.length ≤ bs.length
  | [], ds, h => by
      cases h
      rfl
  | b :: bs, ds, h => by
      by_cases hb : b = percent
      · rw [hb] at h
        obtain ⟨hi, lo, rest, ds', hbs, hrest, hlength⟩ := exists_of_unescape_percent h
        have ih := length_unescape_le hrest
        rw [hbs]
        simp only [List.length_cons]
        omega
      · rw [unescape_cons_of_ne bs hb] at h
        obtain ⟨ds', hds', hcons⟩ := Option.map_eq_some_iff.1 h
        have ih := length_unescape_le hds'
        rw [← hcons]
        simp only [List.length_cons]
        omega
  termination_by bs => bs.length
  decreasing_by
    · rw [hbs]
      simp only [List.length_cons]
      omega
    · exact Nat.lt_succ_self _

/-- Decoding leaves exactly the components without `+` and `%` alone. -/
theorem unescape_eq_self_iff (bs : Bytes) :
    unescape bs = some bs ↔ plus ∉ bs ∧ percent ∉ bs := by
  induction bs with
  | nil => simp [unescape]
  | cons b bs ih =>
      by_cases hb : b = percent
      · constructor
        · intro h
          rw [hb] at h
          obtain ⟨hi, lo, rest, ds', hbs, hrest, hlength⟩ := exists_of_unescape_percent h
          have hle := length_unescape_le hrest
          rw [hbs] at hlength
          simp only [List.length_cons] at hlength
          omega
        · intro h
          exact absurd (hb ▸ List.mem_cons_self) h.2
      · rw [unescape_cons_of_ne bs hb]
        by_cases hplus : b = plus
        · have hspace : space ≠ plus := by decide
          simp [hplus, hspace]
        · have hcons : ((unescape bs).map fun rest => (if b = plus then space else b) :: rest) =
              some (b :: bs) ↔ unescape bs = some bs := by
            simp [hplus]
          rw [hcons, ih, List.mem_cons, List.mem_cons]
          simp [Ne.symm hb, Ne.symm hplus]

/-! ## texts -/

/-- The decoded name and value of a field. -/
def decodeField (field : Bytes) : Option (Bytes × Bytes) :=
  match field.dropWhile (· ≠ equalsSign) with
  | [] => none
  | _ :: value =>
      match unescape (field.takeWhile (· ≠ equalsSign)), unescape value with
      | some name, some value => some (name, value)
      | _, _ => none

/-- Enter a field into the table of those before it. -/
def insertField (table : AList fun _ : Bytes => Bytes) (field : Bytes) :
    AList fun _ : Bytes => Bytes :=
  match decodeField field with
  | none => table
  | some (name, value) => table.insert name value

/-- Decode a whole text. -/
def decode (text : Bytes) : AList fun _ : Bytes => Bytes :=
  (text.splitOn ampersand).foldl insertField ∅

/-- A field as it is written without any encoding. -/
def field (name value : Bytes) : Bytes := name ++ equalsSign :: value

/-- Names that need no encoding. -/
def PlainName (name : Bytes) : Prop := Verbatim name ∧ equalsSign ∉ name

instance (name : Bytes) : Decidable (PlainName name) := inferInstanceAs (Decidable (_ ∧ _))

theorem takeWhile_field {name : Bytes} (h : equalsSign ∉ name) (value : Bytes) :
    (field name value).takeWhile (· ≠ equalsSign) = name := by
  rw [field]
  exact Query.takeWhile_ne_append_cons h value

theorem dropWhile_field {name : Bytes} (h : equalsSign ∉ name) (value : Bytes) :
    (field name value).dropWhile (· ≠ equalsSign) = equalsSign :: value := by
  rw [field]
  exact Query.dropWhile_ne_append_cons h value

/-- A field under a plain name decodes to that name, if its value decodes. -/
theorem decodeField_field {name : Bytes} (hname : PlainName name) (value : Bytes) :
    decodeField (field name value) = (unescape value).map fun value => (name, value) := by
  have hunescape : unescape name = some name := (unescape_eq_self_iff name).2 hname.1.2
  rw [decodeField, dropWhile_field hname.2, takeWhile_field hname.2, hunescape]
  cases hvalue : unescape value with
  | none => simp [hvalue]
  | some decoded => simp [hvalue]

/-- The decoded value of a field is shorter than the field. -/
theorem length_decodeField_lt {part name value : Bytes}
    (h : decodeField part = some (name, value)) : value.length < part.length := by
  unfold decodeField at h
  have hdrop : (part.dropWhile (· ≠ equalsSign)).length ≤ part.length :=
    (List.dropWhile_suffix _).length_le
  split at h
  · contradiction
  · next b raw hraw =>
      rw [hraw, List.length_cons] at hdrop
      split at h
      · next name' value' hname' hvalue' =>
          cases h
          have hle := length_unescape_le hvalue'
          omega
      · contradiction

/-- Whatever a table holds after entering fields was there or is in one of
them. -/
theorem lookup_foldl_insertField {parts : List Bytes} {table : AList fun _ : Bytes => Bytes}
    {name value : Bytes} (h : (parts.foldl insertField table).lookup name = some value) :
    table.lookup name = some value ∨ ∃ part ∈ parts, decodeField part = some (name, value) := by
  induction parts generalizing table with
  | nil => exact Or.inl h
  | cons part parts ih =>
      cases ih h with
      | inr hlater =>
          obtain ⟨part', hmem, hdecode⟩ := hlater
          exact Or.inr ⟨part', List.mem_cons_of_mem _ hmem, hdecode⟩
      | inl hhere =>
          unfold insertField at hhere
          split at hhere
          · exact Or.inl hhere
          · next name' value' hdecode =>
              by_cases hname : name = name'
              · subst hname
                rw [AList.lookup_insert] at hhere
                cases hhere
                exact Or.inr ⟨part, List.mem_cons_self, hdecode⟩
              · rw [AList.lookup_insert_ne hname] at hhere
                exact Or.inl hhere

/-- No part of a split text is longer than the text. -/
theorem length_le_of_mem_splitOn (separator : UInt8) :
    ∀ {text part : Bytes}, part ∈ text.splitOn separator → part.length ≤ text.length
  | text, part, h => by
      by_cases hmem : separator ∈ text
      · obtain ⟨before, after, htext, hbefore⟩ := List.eq_append_cons_of_mem hmem
        rw [htext, List.splitOn_append_cons_self_of_not_mem hbefore, List.mem_cons] at h
        rw [htext, List.length_append, List.length_cons]
        cases h with
        | inl heq =>
            rw [heq]
            omega
        | inr hafter =>
            have ih := length_le_of_mem_splitOn separator hafter
            omega
      · rw [List.splitOn_eq_singleton hmem, List.mem_singleton] at h
        rw [h]
  termination_by text => text.length
  decreasing_by
    rw [htext, List.length_append, List.length_cons]
    omega

/-! ## values written without encoding -/

/-- In a text of one field without `&` the value is what it decodes to. -/
theorem lookup_decode_field {name value : Bytes} (hname : PlainName name)
    (hvalue : ampersand ∉ value) : (decode (field name value)).lookup name = unescape value := by
  have hsep : ampersand ≠ equalsSign := by decide
  have hfield : ampersand ∉ field name value := by
    rw [field, List.mem_append, List.mem_cons]
    simp [hname.1.1, hvalue, hsep]
  rw [decode, List.splitOn_eq_singleton hfield, List.foldl_cons, List.foldl_nil, insertField,
    decodeField_field hname]
  cases unescape value with
  | none => exact AList.lookup_empty name
  | some value => exact AList.lookup_insert ∅

/-- A value with an `&` is cut there, so that only shorter ones come back. -/
theorem length_lt_of_lookup_decode_field {name value decoded : Bytes} (hname : PlainName name)
    (hvalue : ampersand ∈ value) (h : (decode (field name value)).lookup name = some decoded) :
    decoded.length < value.length := by
  obtain ⟨before, after, heq, hbefore⟩ := List.eq_append_cons_of_mem hvalue
  have hsep : ampersand ≠ equalsSign := by decide
  have hfirst : ampersand ∉ field name before := by
    rw [field, List.mem_append, List.mem_cons]
    simp [hname.1.1, hbefore, hsep]
  have htext : field name value = field name before ++ ampersand :: after := by
    rw [heq, field, field, List.append_assoc, List.cons_append]
  rw [decode, htext, List.splitOn_append_cons_self_of_not_mem hfirst] at h
  rw [heq, List.length_append, List.length_cons]
  cases lookup_foldl_insertField h with
  | inl hempty =>
      rw [AList.lookup_empty] at hempty
      contradiction
  | inr hpart =>
      obtain ⟨part, hmem, hdecode⟩ := hpart
      cases List.mem_cons.1 hmem with
      | inl hpart =>
          rw [hpart, decodeField_field hname] at hdecode
          obtain ⟨value', hvalue', hpair⟩ := Option.map_eq_some_iff.1 hdecode
          cases hpair
          have hle := length_unescape_le hvalue'
          omega
      | inr hpart =>
          have hlt := length_decodeField_lt hdecode
          have hle := length_le_of_mem_splitOn ampersand hpart
          omega

/-- **Law of unencoded values**: a value written as it is under a plain name
comes back from decoding exactly when it is free of `&`, `+` and `%`. -/
theorem lookup_decode_field_iff {name : Bytes} (hname : PlainName name) (value : Bytes) :
    (decode (field name value)).lookup name = some value ↔ Verbatim value := by
  by_cases hvalue : ampersand ∈ value
  · constructor
    · intro h
      have hlt := length_lt_of_lookup_decode_field hname hvalue h
      omega
    · intro h
      exact absurd hvalue h.1
  · rw [lookup_decode_field hname hvalue, unescape_eq_self_iff]
    simp [Verbatim, hvalue]

end Form

end Lib

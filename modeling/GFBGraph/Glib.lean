import Mathlib.Data.List.AList

/-!
# GFBGraph.Glib

What the library uses of GLib and GObject: string helpers, string-keyed hash
tables, type identifiers and errors.

A `const gchar *` that may be `NULL` is an `Option String`; a `GHashTable` over
`g_str_hash`/`g_str_equal` is Mathlib's association list without duplicate
keys, so that inserting replaces and the entries come in no particular order.
-/

namespace GFBGraph

/-! ## strings -/

/-- `g_strconcat (s₁, s₂, …, NULL)`: the strings up to the first `NULL`. -/
def gStrconcat : List (Option String) → String
  | [] => ""
  | none :: _ => ""
  | some s :: ss => s ++ gStrconcat ss

/-- What a `%s` directive prints: a `NULL` argument prints as `(null)`. -/
def printfString (s : Option String) : String := s.getD "(null)"

/-- `g_strdup_printf ("%s/%s", a, b)`. -/
def gStrdupPrintfPath (a b : Option String) : String :=
  printfString a ++ "/" ++ printfString b

/-! ## hash tables -/

/-- A `GHashTable` with string keys. -/
abbrev GHashTable (α : Type) := AList fun _ : String => α

section

variable {α : Type}

/-- `g_hash_table_new (g_str_hash, g_str_equal)`. -/
def gHashTableNew : GHashTable α := ∅

/-- `g_hash_table_insert`: an entry of the same key is replaced. -/
def gHashTableInsert (table : GHashTable α) (key : String) (value : α) : GHashTable α :=
  table.insert key value

/-- `g_hash_table_contains`. -/
def gHashTableContains (table : GHashTable α) (key : String) : Bool := decide (key ∈ table)

/-- `g_hash_table_lookup`; `none` is `NULL`. -/
def gHashTableLookup (table : GHashTable α) (key : String) : Option α := table.lookup key

/-- `g_hash_table_size`, which answers 0 (and logs a critical) on `NULL`. -/
def gHashTableSize : Option (GHashTable α) → Nat
  | none => 0
  | some table => table.entries.length

/-- The entries of a table as key/value pairs. -/
def GHashTable.pairs (table : GHashTable α) : List (String × α) :=
  table.entries.map fun e => (e.1, e.2)

@[simp] theorem gHashTableLookup_new (key : String) :
    gHashTableLookup (gHashTableNew : GHashTable α) key = none := AList.lookup_empty key

@[simp] theorem gHashTableLookup_insert (table : GHashTable α) (key : String) (value : α) :
    gHashTableLookup (gHashTableInsert table key value) key = some value :=
  AList.lookup_insert table

theorem gHashTableLookup_insert_ne (table : GHashTable α) {key key' : String} (value : α)
    (h : key ≠ key') :
    gHashTableLookup (gHashTableInsert table key' value) key = gHashTableLookup table key :=
  AList.lookup_insert_ne h

theorem gHashTableContains_iff (table : GHashTable α) (key : String) :
    gHashTableContains table key = true ↔ ∃ value, gHashTableLookup table key = some value := by
  rw [gHashTableContains, decide_eq_true_iff, ← AList.lookup_isSome, Option.isSome_iff_exists]
  rfl

theorem gHashTableContains_eq_isSome (table : GHashTable α) (key : String) :
    gHashTableContains table key = (gHashTableLookup table key).isSome := by
  rw [Bool.eq_iff_iff, gHashTableContains_iff, Option.isSome_iff_exists]

/-- The entries are what lookups find. -/
theorem GHashTable.mem_pairs_iff (table : GHashTable α) (key : String) (value : α) :
    (key, value) ∈ table.pairs ↔ gHashTableLookup table key = some value := by
  rw [GHashTable.pairs, List.mem_map, gHashTableLookup, ← Option.mem_def, AList.mem_lookup_iff]
  constructor
  · intro h
    obtain ⟨entry, hentry, heq⟩ := h
    cases heq
    exact hentry
  · exact fun h => ⟨⟨key, value⟩, h, rfl⟩

/-- No two entries have the same key. -/
theorem GHashTable.nodup_keys_pairs (table : GHashTable α) :
    (table.pairs.map Prod.fst).Nodup := by
  have hnodup : (table.entries.map Sigma.fst).Nodup := table.nodupKeys
  rwa [GHashTable.pairs, List.map_map]

end

/-! ## types and errors -/

/-- A registered `GType`.  Type names are unique, so a type is its name. -/
structure GType where
  name : String
  deriving DecidableEq, Repr

/-- `g_type_name`. -/
def gTypeName (type : GType) : String := type.name

/-- Code and text of an error that a library below reports. -/
structure LibError where
  code : Int
  message : String
  deriving DecidableEq, Repr

/-- `GFBGraphNodeError`. -/
inductive NodeError where
  | noConnectionable
  | noConnectable
  deriving DecidableEq, Repr

/-- A `GError`, one constructor for each error domain that can reach a caller. -/
inductive GError where
  /-- `GFBGRAPH_NODE_ERROR`, raised by this library itself. -/
  | node (code : NodeError) (message : String)
  /-- Raised by librest: transport failures and HTTP error statuses. -/
  | rest (e : LibError)
  /-- Raised by the JSON parser. -/
  | json (e : LibError)
  /-- Raised by GNOME Online Accounts. -/
  | goa (e : LibError)
  /-- `G_IO_ERROR_CANCELLED`. -/
  | cancelled
  deriving DecidableEq, Repr

end GFBGraph

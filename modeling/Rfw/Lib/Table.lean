/-
# Finite keyed tables

A `Table κ ν` is a list of key-value pairs in which no key occurs twice.  The uniqueness of the
keys is a field of the structure, so that a table with two values under one key cannot be
written down.  Everything below is stated through `get?`, which determines what a table stores.
-/
import Mathlib.Data.List.Basic
import Mathlib.Data.List.Nodup

namespace Lib

/-- A finite table with at most one value under each key. -/
structure Table (κ ν : Type*) where
  /-- The stored pairs, in no meaningful order. -/
  entries : List (κ × ν)
  /-- No key occurs twice. -/
  nodup : (entries.map Prod.fst).Nodup

namespace Table

variable {κ ν : Type*}

/-- The empty table. -/
def empty : Table κ ν := ⟨[], List.nodup_nil⟩

/-- The keys of a table. -/
def keys (t : Table κ ν) : List κ := t.entries.map Prod.fst

/-- Keep the pairs that satisfy `p`. -/
def filter (p : κ → ν → Bool) (t : Table κ ν) : Table κ ν :=
  ⟨t.entries.filter fun e => p e.1 e.2,
    t.nodup.sublist (List.filter_sublist.map Prod.fst)⟩

variable [DecidableEq κ]

/-- The value stored under a key. -/
def get? (t : Table κ ν) (k : κ) : Option ν :=
  (t.entries.find? fun e => e.1 = k).map Prod.snd

/-- Remove the value stored under a key. -/
def erase (t : Table κ ν) (k : κ) : Table κ ν := t.filter fun k' _ => k' ≠ k

/-- Store a value under a key, replacing the one that is there. -/
def insert (t : Table κ ν) (k : κ) (v : ν) : Table κ ν where
  entries := (k, v) :: (t.erase k).entries
  nodup := by
    rw [List.map_cons, List.nodup_cons]
    refine ⟨?_, (t.erase k).nodup⟩
    intro hmem
    obtain ⟨e, he, hk⟩ := List.mem_map.mp hmem
    have := (List.mem_filter.mp he).2
    simp [hk] at this

lemma get?_eq_some_iff {t : Table κ ν} {k : κ} {v : ν} :
    t.get? k = some v ↔ (k, v) ∈ t.entries := by
  constructor
  · intro h
    obtain ⟨e, he, rfl⟩ := Option.map_eq_some_iff.mp h
    have hk : e.1 = k := by simpa using List.find?_some he
    exact hk ▸ List.mem_of_find?_eq_some he
  · intro h
    obtain ⟨e, he⟩ : ∃ e, t.entries.find? (fun e => e.1 = k) = some e := by
      rw [← Option.isSome_iff_exists, List.find?_isSome]
      exact ⟨(k, v), h, by simp⟩
    have hk : e.1 = k := by simpa using List.find?_some he
    have heq : e = (k, v) :=
      List.inj_on_of_nodup_map t.nodup (List.mem_of_find?_eq_some he) h hk
    simp [get?, he, heq]

lemma mem_keys_iff {t : Table κ ν} {k : κ} : k ∈ t.keys ↔ ∃ v, t.get? k = some v := by
  simp only [keys, List.mem_map, get?_eq_some_iff]
  constructor
  · rintro ⟨e, he, rfl⟩
    exact ⟨e.2, he⟩
  · rintro ⟨v, hv⟩
    exact ⟨(k, v), hv, rfl⟩

lemma get?_eq_none_iff {t : Table κ ν} {k : κ} : t.get? k = none ↔ k ∉ t.keys := by
  rw [mem_keys_iff, Option.eq_none_iff_forall_ne_some]
  simp

@[simp] lemma get?_empty (k : κ) : (empty : Table κ ν).get? k = none := rfl

@[simp] lemma get?_filter (p : κ → ν → Bool) (t : Table κ ν) (k : κ) :
    (t.filter p).get? k = (t.get? k).filter (p k) := by
  refine Option.ext fun v => ?_
  rw [get?_eq_some_iff, Option.filter_eq_some_iff, get?_eq_some_iff]
  exact List.mem_filter

@[simp] lemma get?_erase_self (t : Table κ ν) (k : κ) : (t.erase k).get? k = none := by
  simp [erase]

lemma get?_erase_of_ne (t : Table κ ν) {k k' : κ} (h : k' ≠ k) :
    (t.erase k).get? k' = t.get? k' := by
  rw [erase, get?_filter]
  cases t.get? k' with
  | none => rfl
  | some v => simp [h]

lemma get?_erase (t : Table κ ν) (k k' : κ) :
    (t.erase k).get? k' = if k' = k then none else t.get? k' := by
  by_cases h : k' = k
  · simp [h]
  · rw [get?_erase_of_ne t h, if_neg h]

/-- Erasing a key that is not there changes nothing. -/
lemma erase_of_get?_eq_none {t : Table κ ν} {k : κ} (h : t.get? k = none) : t.erase k = t := by
  have hentries : (t.erase k).entries = t.entries := by
    refine List.filter_eq_self.mpr fun e he => ?_
    have hk : e.1 ≠ k := by
      rintro rfl
      rw [get?_eq_some_iff.mpr he] at h
      cases h
    simpa using hk
  cases t
  simpa [erase, filter] using hentries

@[simp] lemma get?_insert_self (t : Table κ ν) (k : κ) (v : ν) :
    (t.insert k v).get? k = some v :=
  get?_eq_some_iff.mpr List.mem_cons_self

lemma get?_insert_of_ne (t : Table κ ν) {k k' : κ} (v : ν) (h : k' ≠ k) :
    (t.insert k v).get? k' = t.get? k' := by
  rw [← get?_erase_of_ne t h]
  refine Option.ext fun w => ?_
  rw [get?_eq_some_iff, get?_eq_some_iff]
  simp [insert, h]

lemma get?_insert (t : Table κ ν) (k k' : κ) (v : ν) :
    (t.insert k v).get? k' = if k' = k then some v else t.get? k' := by
  by_cases h : k' = k
  · simp [h]
  · rw [get?_insert_of_ne t v h, if_neg h]

/-- The last value stored under a key is the one that counts. -/
lemma insert_insert (t : Table κ ν) (k : κ) (v w : ν) :
    (t.insert k v).insert k w = t.insert k w := by
  have hentries : ((t.insert k v).erase k).entries = (t.erase k).entries := by
    simp [insert, erase, filter]
  simp only [insert] at hentries ⊢
  simp [hentries]

lemma mem_keys_insert {t : Table κ ν} {k k' : κ} {v : ν} :
    k' ∈ (t.insert k v).keys ↔ k' = k ∨ k' ∈ t.keys := by
  rw [mem_keys_iff, mem_keys_iff, get?_insert]
  by_cases h : k' = k
  · simp [h]
  · simp [h]

lemma mem_keys_erase {t : Table κ ν} {k k' : κ} :
    k' ∈ (t.erase k).keys ↔ k' ≠ k ∧ k' ∈ t.keys := by
  rw [mem_keys_iff, mem_keys_iff, get?_erase]
  by_cases h : k' = k
  · simp [h]
  · simp [h]

end Table

end Lib

import Mathlib.Data.List.Basic
import Mathlib.Data.List.Perm.Basic

/-!
Maps that are kept in order by a comparison of the keys.

Two keys are the same to such a map when neither is less than the other, which need not mean
that they are equal. `find_put` and `find_erase` say what is found after an update;
`put_perm` and `erase_perm` what is in the map.
-/

namespace OrderedMap

variable {κ α : Type}

/-- A comparison that orders keys up to being the same. -/
structure StrictWeak (less : κ → κ → Bool) : Prop where
  irrefl : ∀ a, less a a = false
  trans : ∀ a b c, less a b → less b c → less a c
  between : ∀ a b c, less a c → less a b ∨ less b c

/-- The comparison does not tell the keys apart. -/
def Same (less : κ → κ → Bool) (a b : κ) : Prop := less a b = false ∧ less b a = false

instance (less : κ → κ → Bool) (a b : κ) : Decidable (Same less a b) :=
  inferInstanceAs (Decidable (_ ∧ _))

variable (less : κ → κ → Bool)

def find (key : κ) : List (κ × α) → Option α
  | [] => none
  | entry :: entries =>
      if less entry.1 key then find key entries
      else if less key entry.1 then none
      else some entry.2

/-- A value is put under a key. An entry that is there keeps its own key. -/
def put (key : κ) (value : α) : List (κ × α) → List (κ × α)
  | [] => [(key, value)]
  | entry :: entries =>
      if less entry.1 key then entry :: put key value entries
      else if less key entry.1 then (key, value) :: entry :: entries
      else (entry.1, value) :: entries

/-- The entry under a key is taken out. -/
def erase (key : κ) (entries : List (κ × α)) : List (κ × α) :=
  entries.filter fun entry => less entry.1 key || less key entry.1

def Sorted (entries : List (κ × α)) : Prop :=
  entries.Pairwise fun a b => less a.1 b.1

variable {less}

namespace StrictWeak

variable (weak : StrictWeak less)
include weak

theorem asymm {a b : κ} (lt : less a b) : less b a = false := by
  by_contra back
  have loop := weak.trans a b a lt (by simpa using back)
  rw [weak.irrefl] at loop
  cases loop

/-- Keys that are the same compare alike with every key. -/
theorem same_left {a b : κ} (same : Same less a b) (c : κ) : less a c = less b c := by
  rw [Bool.eq_iff_iff]
  constructor
  · intro lt
    exact (weak.between a b c lt).resolve_left (by rw [same.1]; exact Bool.false_ne_true)
  · intro lt
    exact (weak.between b a c lt).resolve_left (by rw [same.2]; exact Bool.false_ne_true)

theorem same_right {a b : κ} (same : Same less a b) (c : κ) : less c a = less c b := by
  rw [Bool.eq_iff_iff]
  constructor
  · intro lt
    exact (weak.between c b a lt).resolve_right (by rw [same.2]; exact Bool.false_ne_true)
  · intro lt
    exact (weak.between c a b lt).resolve_right (by rw [same.1]; exact Bool.false_ne_true)

theorem same_refl (a : κ) : Same less a a := ⟨weak.irrefl a, weak.irrefl a⟩

theorem same_trans {a b c : κ} (first : Same less a b) (second : Same less b c) :
    Same less a c :=
  ⟨(weak.same_left first c).trans second.1, (weak.same_right first c).trans second.2⟩

end StrictWeak

theorem Same.symm {a b : κ} (same : Same less a b) : Same less b a := ⟨same.2, same.1⟩

/-! ### What is found -/

/-- What is found is in the map. -/
theorem mem_of_find {key : κ} {value : α} {entries : List (κ × α)}
    (found : find less key entries = some value) :
    ∃ own, (own, value) ∈ entries ∧ Same less own key := by
  induction entries with
  | nil => cases found
  | cons entry entries ih =>
      rw [find] at found
      split at found
      · obtain ⟨own, mem, same⟩ := ih found
        exact ⟨own, List.mem_cons_of_mem entry mem, same⟩
      · split at found
        · cases found
        · next above below =>
            cases found
            exact ⟨entry.1, List.mem_cons_self, by simpa using above, by simpa using below⟩

/-- What is in the map is found. -/
theorem find_of_mem (weak : StrictWeak less) {entries : List (κ × α)}
    (sorted : Sorted less entries) {key own : κ} {value : α} (mem : (own, value) ∈ entries)
    (same : Same less own key) : find less key entries = some value := by
  induction entries with
  | nil => cases mem
  | cons entry entries ih =>
      obtain ⟨first, sorted⟩ := List.pairwise_cons.mp sorted
      rw [find]
      rcases List.mem_cons.mp mem with rfl | mem
      · rw [if_neg (by rw [same.1]; exact Bool.false_ne_true),
          if_neg (by rw [same.2]; exact Bool.false_ne_true)]
      · have below : less entry.1 key = true :=
          weak.same_right same entry.1 ▸ first _ mem
        rw [if_pos below, ih sorted mem]

theorem find_same (weak : StrictWeak less) {key key' : κ} (same : Same less key key')
    (entries : List (κ × α)) : find less key entries = find less key' entries := by
  induction entries with
  | nil => rfl
  | cons entry entries ih =>
      rw [find, find, weak.same_right same entry.1, weak.same_left same entry.1, ih]

/-- What is found once a value is put under a key. -/
theorem find_put (weak : StrictWeak less) (key key' : κ) (value : α) (entries : List (κ × α)) :
    find less key' (put less key value entries) =
      if Same less key key' then some value else find less key' entries := by
  induction entries with
  | nil =>
      rw [put, find]
      by_cases lt : less key key' <;> by_cases gt : less key' key <;> simp [Same, find, lt, gt]
  | cons entry entries ih =>
      rw [put]
      by_cases below : less entry.1 key
      · rw [if_pos below, find, find, ih]
        by_cases same : Same less key key'
        · rw [if_pos same, if_pos (weak.same_right same entry.1 ▸ below), if_pos same]
        · rw [if_neg same, if_neg same]
      · rw [if_neg below]
        by_cases above : less key entry.1
        · rw [if_pos above, find]
          by_cases lt : less key key'
          · rw [if_pos lt, if_neg (by simp [Same, lt])]
          · by_cases gt : less key' key
            · have beyond : less key' entry.1 := weak.trans key' key entry.1 gt above
              rw [if_neg lt, if_pos gt, if_neg (by simp [Same, gt]), find, if_pos beyond,
                if_neg (by rw [weak.asymm beyond]; exact Bool.false_ne_true)]
            · rw [if_neg lt, if_neg gt, if_pos ⟨by simpa using lt, by simpa using gt⟩]
        · have own : Same less entry.1 key := ⟨by simpa using below, by simpa using above⟩
          rw [if_neg above, find, find, weak.same_left own key', weak.same_right own key']
          by_cases lt : less key key' <;> by_cases gt : less key' key <;> simp [Same, lt, gt]

/-- What is found once a key is taken out. -/
theorem find_erase (weak : StrictWeak less) (key key' : κ) {entries : List (κ × α)}
    (sorted : Sorted less entries) :
    find less key' (erase less key entries) =
      if Same less key key' then none else find less key' entries := by
  have kept : ∀ own value, (own, value) ∈ erase less key entries ↔
      (own, value) ∈ entries ∧ ¬ Same less own key := by
    intro own value
    rw [erase, List.mem_filter, Same]
    cases less own key <;> cases less key own <;> simp
  have still : Sorted less (erase less key entries) := sorted.filter _
  split
  · next same =>
      cases found : find less key' (erase less key entries) with
      | none => rfl
      | some value =>
          obtain ⟨own, mem, there⟩ := mem_of_find found
          exact absurd (weak.same_trans there same.symm) ((kept own value).mp mem).2
  · next other =>
      cases found : find less key' entries with
      | none =>
          cases found' : find less key' (erase less key entries) with
          | none => rfl
          | some value =>
              obtain ⟨own, mem, there⟩ := mem_of_find found'
              rw [find_of_mem weak sorted ((kept own value).mp mem).1 there] at found
              cases found
      | some value =>
          obtain ⟨own, mem, there⟩ := mem_of_find found
          refine find_of_mem weak still ((kept own value).mpr ⟨mem, fun same => ?_⟩) there
          exact other (weak.same_trans same.symm there)

/-! ### What is in the map -/

/-- A new key is added to the map. -/
theorem put_perm {key : κ} {entries : List (κ × α)} (new : find less key entries = none)
    (value : α) : (put less key value entries).Perm ((key, value) :: entries) := by
  induction entries with
  | nil => exact .refl _
  | cons entry entries ih =>
      rw [find] at new
      rw [put]
      split at new
      · next below =>
          rw [if_pos below]
          exact ((ih new).cons entry).trans (.swap (key, value) entry entries)
      · next below =>
          split at new
          · next above =>
              rw [if_neg below, if_pos above]
          · cases new

/-- A key that is there is written over. -/
theorem length_put {key : κ} {old : α} {entries : List (κ × α)}
    (found : find less key entries = some old) (value : α) :
    (put less key value entries).length = entries.length := by
  induction entries with
  | nil => cases found
  | cons entry entries ih =>
      rw [find] at found
      rw [put]
      split at found
      · next below => rw [if_pos below, List.length_cons, ih found, List.length_cons]
      · next below =>
          split at found
          · cases found
          · next above => rw [if_neg below, if_neg above, List.length_cons, List.length_cons]

/-- A key that is taken out leaves the other entries. -/
theorem erase_perm (weak : StrictWeak less) {key : κ} {value : α} {entries : List (κ × α)}
    (sorted : Sorted less entries) (found : find less key entries = some value) :
    ∃ own, entries.Perm ((own, value) :: erase less key entries) := by
  induction entries with
  | nil => cases found
  | cons entry entries ih =>
      obtain ⟨first, sorted⟩ := List.pairwise_cons.mp sorted
      rw [find] at found
      split at found
      · next below =>
          obtain ⟨own, perm⟩ := ih sorted found
          have keeps : erase less key (entry :: entries) = entry :: erase less key entries :=
            List.filter_cons_of_pos (by rw [below, Bool.true_or])
          rw [keeps]
          exact ⟨own, (perm.cons entry).trans (.swap (own, value) entry _)⟩
      · next below =>
          split at found
          · cases found
          · next above =>
              cases found
              have own : Same less entry.1 key := ⟨by simpa using below, by simpa using above⟩
              have drops : erase less key (entry :: entries) = erase less key entries :=
                List.filter_cons_of_neg (by rw [own.1, own.2]; exact Bool.false_ne_true)
              have all : erase less key entries = entries := by
                refine List.filter_eq_self.mpr fun there mem => ?_
                rw [← weak.same_left own there.1, first there mem, Bool.or_true]
              rw [drops, all]
              exact ⟨entry.1, .refl _⟩

/-- What is in the map once a value is put under a key. -/
theorem mem_put {key : κ} {value : α} {entries : List (κ × α)} {entry : κ × α}
    (mem : entry ∈ put less key value entries) :
    entry ∈ entries ∨ (entry.2 = value ∧
      (entry.1 = key ∨ Same less entry.1 key ∧ ∃ old, (entry.1, old) ∈ entries)) := by
  induction entries with
  | nil =>
      cases List.mem_singleton.mp mem
      exact .inr ⟨rfl, .inl rfl⟩
  | cons first entries ih =>
      rw [put] at mem
      split at mem
      · rcases List.mem_cons.mp mem with rfl | mem
        · exact .inl List.mem_cons_self
        · rcases ih mem with old | ⟨is, new | ⟨same, old, was⟩⟩
          · exact .inl (List.mem_cons_of_mem first old)
          · exact .inr ⟨is, .inl new⟩
          · exact .inr ⟨is, .inr ⟨same, old, List.mem_cons_of_mem first was⟩⟩
      · next below =>
          split at mem
          · rcases List.mem_cons.mp mem with rfl | mem
            · exact .inr ⟨rfl, .inl rfl⟩
            · exact .inl mem
          · next above =>
              rcases List.mem_cons.mp mem with rfl | mem
              · exact .inr ⟨rfl, .inr ⟨⟨by simpa using below, by simpa using above⟩, first.2,
                  List.mem_cons_self⟩⟩
              · exact .inl (List.mem_cons_of_mem first mem)

/-- Values that are distinct stay distinct when a new one is put. -/
theorem nodup_values_put {key : κ} {value : α} {entries : List (κ × α)}
    (distinct : (entries.map Prod.snd).Nodup) (new : value ∉ entries.map Prod.snd) :
    ((put less key value entries).map Prod.snd).Nodup := by
  induction entries with
  | nil => exact List.pairwise_singleton _ value
  | cons entry entries ih =>
      obtain ⟨first, others⟩ := List.nodup_cons.mp distinct
      obtain ⟨other, out⟩ := not_or.mp (fun mem => new (List.mem_cons.mpr mem))
      rw [put]
      split
      · refine List.nodup_cons.mpr ⟨fun mem => ?_, ih others out⟩
        obtain ⟨there, mem, is⟩ := List.mem_map.mp mem
        rcases mem_put mem with old | ⟨value_is, -⟩
        · exact first (List.mem_map.mpr ⟨there, old, is⟩)
        · exact other (value_is.symm.trans is)
      · split
        · exact List.nodup_cons.mpr ⟨new, distinct⟩
        · exact List.nodup_cons.mpr ⟨out, others⟩

/-- A value that is put is there once more at most, and no other one is new. -/
theorem values_put_subperm (key : κ) (value : α) (entries : List (κ × α)) :
    List.Subperm ((put less key value entries).map Prod.snd) (value :: entries.map Prod.snd) := by
  induction entries with
  | nil => exact .refl _
  | cons entry entries ih =>
      rw [put]
      split
      · exact ((List.subperm_cons entry.2).mpr ih).trans (List.Perm.swap ..).subperm
      · split
        · exact .refl _
        · exact (List.Sublist.cons_cons value (List.sublist_cons_self entry.2 _)).subperm

/-- A value that is put into a map leaves it sorted, whether its key was there or not. -/
theorem Sorted.put (weak : StrictWeak less) {entries : List (κ × α)}
    (sorted : Sorted less entries) (key : κ) (value : α) :
    Sorted less (put less key value entries) := by
  induction entries with
  | nil => exact List.pairwise_singleton _ _
  | cons entry entries ih =>
      obtain ⟨first, rest⟩ := List.pairwise_cons.mp sorted
      rw [OrderedMap.put]
      split
      · next below =>
          refine List.pairwise_cons.mpr ⟨fun there mem => ?_, ih rest⟩
          rcases mem_put mem with old | ⟨-, new | ⟨same, -, -⟩⟩
          · exact first there old
          · exact new ▸ below
          · exact weak.same_right same entry.1 ▸ below
      · next below =>
          split
          · next above =>
              refine List.pairwise_cons.mpr ⟨fun there mem => ?_, sorted⟩
              rcases List.mem_cons.mp mem with rfl | mem
              · exact above
              · exact weak.trans key entry.1 there.1 above (first there mem)
          · exact List.pairwise_cons.mpr ⟨first, rest⟩

theorem Sorted.erase {entries : List (κ × α)} (sorted : Sorted less entries) (key : κ) :
    Sorted less (erase less key entries) :=
  List.Pairwise.filter _ sorted

/-- The first key is taken out. -/
theorem erase_cons_self (weak : StrictWeak less) {entry : κ × α} {entries : List (κ × α)}
    (sorted : Sorted less (entry :: entries)) :
    erase less entry.1 (entry :: entries) = entries := by
  have drops : erase less entry.1 (entry :: entries) = erase less entry.1 entries :=
    List.filter_cons_of_neg (by rw [weak.irrefl]; exact Bool.false_ne_true)
  rw [drops]
  refine List.filter_eq_self.mpr fun there mem => ?_
  rw [(List.pairwise_cons.mp sorted).1 there mem, Bool.or_true]

/-! ### Keys -/

/-- No key is there twice. -/
theorem Sorted.nodup_keys (weak : StrictWeak less) {entries : List (κ × α)}
    (sorted : Sorted less entries) : (entries.map Prod.fst).Nodup := by
  refine List.pairwise_map.mpr (sorted.imp ?_)
  intro a b lt same
  rw [same, weak.irrefl] at lt
  cases lt

/-- Where only equal keys are the same, what is in the map is what is found in it. -/
theorem mem_iff_find (weak : StrictWeak less) (total : ∀ {a b}, Same less a b → a = b)
    {entries : List (κ × α)} (sorted : Sorted less entries) {key : κ} {value : α} :
    (key, value) ∈ entries ↔ find less key entries = some value := by
  constructor
  · intro mem
    exact find_of_mem weak sorted mem (weak.same_refl key)
  · intro found
    obtain ⟨own, mem, same⟩ := mem_of_find found
    rw [← total same]
    exact mem

end OrderedMap
